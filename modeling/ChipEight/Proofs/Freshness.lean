/-
Module: ChipEight.Proofs.Freshness
Purpose: The window shows the screen of the machine after every frame, although it is only painted
  in some of them.
Main exports: Machine.runCycles_screen, Machine.runFrame_screen, Painter.Fills,
  Painter.render_render, Session.Fresh, Session.frame_fresh, Session.play_fresh,
  Emulator.firstSession, Emulator.window_never_stale
-/
import ChipEight.Proofs.Crash
import ChipEight.Proofs.Reachability
import ChipEight.Proofs.ScaledPicture

namespace ChipEight

open Result

namespace Machine

variable {machine : Machine} {tracing goOn : Bool}

/-!
### No change without a request

A frame takes down the drawing flag after every step and answers whether it was ever up.  A step
that changes the screen leaves the flag up, so a frame that answers no has left the screen as it
was.
-/

theorem screen_of_done {instruction : Instruction} {after : Machine}
    (done : (machine.execute instruction).after = .ok after) (still : instruction.draws = false) :
    after.screen = machine.screen := by
  cases instruction
  case clearScreen | draw => cases still
  case returnFromCall | call | storeDecimal | storeRegisters | loadRegisters =>
    simp only [after_returnFromCall, after_call, after_storeDecimal, after_storeRegisters,
      after_loadRegisters] at done
    obtain ⟨_, _, rfl⟩ := map_eq_ok_iff.mp done
    rfl
  all_goals
    rw [execute, Outcome.after_done] at done
    cases done
  case skipIfByte | skipUnlessByte | skipIfSame | skipUnlessSame | skipIfPressed |
      skipUnlessPressed =>
    rw [skipWhen_eq]
  case awaitKey x =>
    unfold takeKey
    split
    · rfl
    · rfl
  all_goals rfl

theorem step_screen (done : (machine.step tracing).result = .ok goOn) :
    (machine.step tracing).machine.screen = machine.screen ∨
      (machine.step tracing).machine.draw = true := by
  obtain ⟨word, instruction, _, _, executed, _⟩ := step_ok_iff.mp ⟨done, rfl⟩
  have flag : (machine.step tracing).machine.draw = (instruction.draws || machine.draw) :=
    congrArg Sidelines.draw (sidelines_of_done executed)
  cases draws : instruction.draws with
  | false =>
      have kept : _ = machine.advanced.screen := screen_of_done executed draws
      exact .inl kept
  | true =>
      rw [draws, Bool.true_or] at flag
      exact .inr flag

/-- Cycles that ask for no picture were not asked for one before, and leave the screen as it was. -/
theorem runCycles_screen {cycles : Nat} {redraw : Bool} {printed : String}
    (done : (runCycles tracing cycles redraw printed machine).result = .ok false) :
    redraw = false ∧
      (runCycles tracing cycles redraw printed machine).machine.screen = machine.screen := by
  induction cycles generalizing machine redraw printed with
  | zero => exact ⟨Except.ok.inj done, rfl⟩
  | succ cycles ih =>
      rw [runCycles] at done ⊢
      cases stepped : (machine.step tracing).result with
      | error fault =>
          simp only [stepped] at done
          cases done
      | ok goOn =>
          simp only [stepped] at done ⊢
          obtain ⟨noRequest, same⟩ := ih done
          obtain ⟨noRedraw, noDraw⟩ := Bool.or_eq_false_iff.mp noRequest
          refine ⟨noRedraw, same.trans ?_⟩
          rcases step_screen stepped with kept | raised
          · exact kept
          · rw [raised] at noDraw
            cases noDraw

theorem runFrame_screen {cycles : Int}
    (done : (machine.runFrame tracing cycles).result = .ok false) :
    (machine.runFrame tracing cycles).machine.screen = machine.screen := by
  rw [runFrame] at done ⊢
  cases ran : (runCycles tracing cycles.toNat false "" machine).result with
  | error fault =>
      simp only [ran] at done
      cases done
  | ok redraw =>
      simp only [ran] at done ⊢
      rw [done] at ran
      exact (runCycles_screen ran).2

/-- Events reach nothing but the keypad. -/
theorem handleAll_eq (machine : Machine) (events : List Event) :
    ∃ keypad, (machine.handleAll events).1 = { machine with keypad } := by
  unfold handleAll
  generalize true = goOn
  induction events generalizing machine goOn with
  | nil => exact ⟨machine.keypad, rfl⟩
  | cons event rest ih =>
      obtain ⟨press, wish, same⟩ := Machine.handle_eq event
      obtain ⟨keypad, later⟩ := ih (machine.handle event).1 (goOn && (machine.handle event).2)
      refine ⟨keypad, later.trans ?_⟩
      rw [same]

end Machine

/-!
### Painting again

A surface that is filled as a whole keeps nothing of what it showed.  So nothing depends on which
pictures a window has shown before, nor on the squares of these pictures.
-/

namespace Painter

variable {columns lines columns' lines' : Int} {painter : Painter}

/-- Surfaces of every size are filled as a whole. -/
def Fills (painter : Painter) : Prop :=
  ∀ width height, (painter.brush width height).Fills

theorem system_fills : system.Fills :=
  fun _ _ => Brush.system_fills

theorem render_render (fills : painter.Fills) (window : Window)
    (earlier : Framebuffer columns' lines') (screen : Framebuffer columns lines) :
    painter.render (painter.render window earlier) screen = painter.render window screen :=
  congrArg (fun surface => { window with surface })
    (Window.cover_congr (fills window.width window.height) _ window.surface)

end Painter

/-!
### Frames
-/

namespace Session

variable {session after : Session} {window : Window} {painter : Painter} {goOn : Bool}

/-- The session paints its window with a given painter, and the window shows the screen of the
machine. -/
structure Fresh (painter : Painter) (window : Window) (session : Session) : Prop where
  paintedBy : session.painter = painter
  /-- Painting the screen into the window now would change nothing. -/
  settled : painter.render session.window session.machine.screen = session.window
  /-- What the window holds is what the screen makes of the window that was opened. -/
  rendered : session.window = painter.render window session.machine.screen
  /-- The last picture that was shown is this one. -/
  shown : session.shown.back?.map Prod.snd = some session.window.surface.picture

theorem display_fresh (paintedBy : session.painter = painter) (fills : painter.Fills)
    (alike : painter.render session.window session.machine.screen =
      painter.render window session.machine.screen) : session.display.Fresh painter window := by
  subst paintedBy
  constructor
  case paintedBy => rfl
  case settled => exact Painter.render_render fills _ _ _
  case rendered => exact alike
  case shown =>
    change (session.shown.push _).back?.map Prod.snd = _
    rw [Array.back?_push]
    rfl

/-- A session in which nothing that matters has changed is still fresh. -/
theorem Fresh.congr (fresh : session.Fresh painter window)
    (samePainter : after.painter = session.painter) (sameWindow : after.window = session.window)
    (sameScreen : after.machine.screen = session.machine.screen)
    (sameShown : after.shown = session.shown) : after.Fresh painter window where
  paintedBy := samePainter.trans fresh.paintedBy
  settled := by
    rw [sameWindow, sameScreen]
    exact fresh.settled
  rendered := by
    rw [sameWindow, sameScreen]
    exact fresh.rendered
  shown := by
    rw [sameShown, sameWindow]
    exact fresh.shown

/-- A frame that is completed leaves the window fresh: it was painted after the last change of the
screen. -/
theorem frame_fresh {batch : List Event} (fills : painter.Fills)
    (fresh : session.Fresh painter window) (done : session.frame batch = (after, .ok goOn)) :
    after.Fresh painter window := by
  obtain ⟨keypad, noted⟩ := session.machine.handleAll_eq batch
  unfold frame at done
  generalize session.machine.handleAll batch = events at done noted
  obtain ⟨machine, wish⟩ := events
  dsimp only at done noted
  split at done
  · cases done
  · next redraw ran =>
    cases redraw with
    | true =>
        cases done
        apply display_fresh _ fills
        · dsimp only
          rw [fresh.rendered, Painter.render_render fills]
        · exact fresh.paintedBy
    | false =>
        cases done
        have same := (Machine.runFrame_screen ran).trans (congrArg Machine.screen noted)
        exact fresh.congr rfl rfl same rfl

theorem play_fresh {batches : List (List Event)} (fills : painter.Fills)
    (fresh : session.Fresh painter window) (done : session.play batches = (after, .ok goOn)) :
    after.Fresh painter window := by
  induction batches generalizing session with
  | nil =>
      cases done
      exact fresh
  | cons batch rest ih =>
      rw [play] at done
      split at done
      · cases done
      · next reached completed =>
        cases done
        exact frame_fresh fills fresh completed
      · next reached completed => exact ih (frame_fresh fills fresh completed) done

/-- Where the squares of the screen are painted exactly, a fresh window is a scaled picture of
it. -/
theorem Fresh.showsScaled (fresh : session.Fresh painter window) (visible : 1 ≤ window.scale)
    (exact : (painter.brush window.width window.height).ExactFor window.scale
      session.machine.screen) : session.window.ShowsScaled session.machine.screen := by
  rw [fresh.rendered]
  exact Window.showsScaled_renderBy visible exact

end Session

/-!
### Whole runs

The window opens for every scale that is large enough to see and small enough for the screen to fit
into the longest side that a window can have.
-/

theorem Window.create_of_moderate {scale : Int} (background foreground : Color)
    (visible : 1 ≤ scale) (moderate : scale ≤ 256) :
    ∃ window, Window.create 64 32 scale background foreground = .ok window ∧
      window.scale = scale := by
  have short : 64 * scale ≤ longestSide ∧ 32 * scale ≤ longestSide := by
    unfold longestSide
    omega
  rw [create, sizeFor_of_small (by omega) (by omega) (by omega) (by omega), if_pos short]
  exact ⟨_, rfl, rfl⟩

namespace Emulator

/-- The session of a run right after the window was opened and the screen shown for the first
time. -/
def firstSession (settings : Settings) (loading : Outcome LoadError Nat) (window : Window)
    (painter : Painter := .system) : Session :=
  Session.display
    { settings, machine := loading.machine, window, painter, printed := loading.printed }

variable {settings : Settings} {arguments : List String}
  {read : String → Except ReadError (List UInt8)} {random : RandomSource} {path : String}
  {program : List UInt8} {window : Window} {painter : Painter}

theorem firstSession_fresh (settings : Settings) (loading : Outcome LoadError Nat)
    (window : Window) (fills : painter.Fills) :
    (firstSession settings loading window painter).Fresh painter window :=
  Session.display_fresh rfl fills rfl

theorem loadFile_result (machine : Machine) (tracing : Bool) (found : read path = .ok program)
    (fits : program.length ≤ Memory.programLimit) :
    (machine.loadFile tracing read path).result = .ok program.length := by
  have put : machine.memory.load program = .ok _ :=
    Memory.load_eq_ok_iff.mpr ⟨Memory.le_programLimit_iff.mp fits, rfl⟩
  simp only [Machine.loadFile, found, Machine.load, put, Except.map]

/-- What is observed of a run comes from playing the script in its first session. -/
theorem run_eq_playScript (named : CommandLine.parse arguments = .ok path)
    (found : read path = .ok program) (fits : program.length ≤ Memory.programLimit)
    (created : Window.create 64 32 settings.scale Color.indigo Color.lavender = .ok window)
    (script : Script) (painter : Painter) :
    let loading := (Machine.powerOn random).loadFile settings.tracing read path
    let played := playScript (firstSession settings loading window painter) script
    let report := run settings arguments read random script painter
    report.ending = played.2 ∧ report.frames = played.1.frames ∧ report.shown = played.1.shown ∧
      report.machine = some played.1.machine := by
  have loaded := loadFile_result (Machine.powerOn random) settings.tracing found fits
  simp only [run, named, loaded, runLoaded, created, firstSession, and_self]

/-- A run of a program that can be loaded shows its screen in a window, which opens at least for
every scale from 1 to 256.  Before the first iteration of its loop, and every time that an iteration
is over, the window shows what painting the current screen of the machine would show.  The sessions
at these times are those in which any number of batches of the script were played.

It is assumed of the window system that it fills the whole surface, whatever it makes of the squares
of a picture.  Where it paints these exactly too, the window is a scaled picture of the screen. -/
theorem window_never_stale (settings : Settings) (random : RandomSource) (script : Script)
    (named : CommandLine.parse arguments = .ok path) (found : read path = .ok program)
    (fits : program.length ≤ Memory.programLimit) :
    (∀ (painter : Painter) (window : Window), painter.Fills →
      let loading := (Machine.powerOn random).loadFile settings.tracing read path
      let first := firstSession settings loading window painter
      let report := run settings arguments read random script painter
      (Window.create 64 32 settings.scale Color.indigo Color.lavender = .ok window →
        report.ending = (playScript first script).2 ∧
          report.frames = (playScript first script).1.frames ∧
          report.shown = (playScript first script).1.shown ∧
          report.machine = some (playScript first script).1.machine) ∧
      first.Fresh painter window ∧
      ∀ (played : List (List Event)) (after : Session) (goOn : Bool),
        played <+: batchesOf script → first.play played = (after, .ok goOn) →
          after.Fresh painter window ∧
            (1 ≤ window.scale →
              (painter.brush window.width window.height).ExactFor window.scale
                after.machine.screen → after.window.ShowsScaled after.machine.screen)) ∧
    Painter.system.Fills ∧
    (1 ≤ settings.scale → settings.scale ≤ 256 →
      ∃ window, Window.create 64 32 settings.scale Color.indigo Color.lavender = .ok window ∧
        1 ≤ window.scale ∧ ∀ screen : Framebuffer 64 32,
          (Painter.system.brush window.width window.height).ExactFor window.scale screen) := by
  refine ⟨?_, Painter.system_fills, ?_⟩
  · intro painter window fills loading first report
    have fresh : first.Fresh painter window := firstSession_fresh settings loading window fills
    refine ⟨fun created => run_eq_playScript named found fits created script painter, fresh, ?_⟩
    intro played after goOn _ done
    have fresh := Session.play_fresh fills fresh done
    exact ⟨fresh, fresh.showsScaled⟩
  · intro visible moderate
    obtain ⟨window, created, scale⟩ :=
      Window.create_of_moderate Color.indigo Color.lavender visible moderate
    rw [← scale] at visible moderate
    refine ⟨window, created, visible, fun screen => ?_⟩
    exact Window.system_exactFor visible
      (Framebuffer.measurable_of_small visible (by omega) (by omega))

/-- The sprite of a digit is drawn in the second of three frames of one instruction each: `A050`,
`D005` and `1204`.  Only this frame shows a new picture, and after the third one the last picture is
still that of the screen. -/
theorem window_never_stale_glyph :
    let settings : Settings := { scale := 1, instructionsPerSecond := 60 }
    let read (_ : String) : Except ReadError (List UInt8) :=
      .ok [0xA0, 0x50, 0xD0, 0x05, 0x12, 0x04]
    let loading := (Machine.powerOn default).loadFile settings.tracing read "game"
    ∃ window, Window.create 64 32 1 Color.indigo Color.lavender = .ok window ∧
      let after := ((firstSession settings loading window).play [[], [], []]).1
      after.frames = 3 ∧ after.shown.size = 2 ∧ after.machine.screen.pixelAt 0 0 = true ∧
        after.Fresh .system window ∧ after.window.ShowsScaled after.machine.screen := by
  intro settings read loading
  let opened : Window :=
    { scale := 1, width := 64, height := 32, background := Color.indigo
      foreground := Color.lavender, surface := .filled Color.indigo }
  have stale := window_never_stale settings default { batches := [[], [], []] }
    (show CommandLine.parse ["game"] = .ok "game" from rfl) (show read "game" = .ok _ from rfl)
    (by decide)
  obtain ⟨always, fills, opens⟩ := stale
  obtain ⟨window, created, visible, exact⟩ := opens (by decide) (by decide)
  obtain rfl : window = opened := Except.ok.inj (created.symm.trans rfl)
  let first := firstSession settings loading opened
  obtain ⟨frames, shown, drawn, played⟩ :
      (first.play [[], [], []]).1.frames = 3 ∧ (first.play [[], [], []]).1.shown.size = 2 ∧
        (first.play [[], [], []]).1.machine.screen.pixelAt 0 0 = true ∧
        (first.play [[], [], []]).2 = .ok true := by decide +kernel
  have reached : first.play [[], [], []] = ((first.play [[], [], []]).1, .ok true) :=
    (Prod.eta _).symm.trans (congrArg (Prod.mk _) played)
  obtain ⟨_, _, fresh⟩ := always .system opened fills
  have inside : [[], [], []] <+: batchesOf { batches := [[], [], []] } := ⟨[[.quit]], rfl⟩
  obtain ⟨fresh, scaled⟩ := fresh _ _ true inside reached
  exact ⟨opened, created, frames, shown, drawn, fresh, scaled visible (exact _)⟩

end Emulator

end ChipEight
