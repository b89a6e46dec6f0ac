/-
**The keyboard of a window is flipped whole, or stops behind its request.**

* `Desktop.inputCalls`: what a journal says of the calls of the window's input method;
* `Desktop.Asked`: what an operation of a host leaves of its loop and its window, with a lemma for each hook of a
  flip;
* `Desktop.Application.uncoveredHeight_of_within`, `Desktop.Application.uncoveredHeight_of_beyond`: the share of the
  keyboard is six times the root at first, which overflows for tall roots only;
* `Desktop.WindowMove`, `Desktop.WindowRun.play`: an application whose window is resized and whose keyboard is
  flipped, with `Desktop.WindowRun.Kept.step` for one move;
* `Desktop.WindowRun.flips_in_any_window`: what the next flip of a run does.

The share is computed behind the request and in front of the report, so that a flip that overflows leaves the
application and its host apart, and the next flip, which hides the keyboard, brings them together again. A flip uses
the queue at most once, and looks at nothing else of the loop, so that one flip is one move.
-/

import EngineHost.Desktop.Application
import EngineHost.Proofs.DisplaySize
import EngineHost.Proofs.HookDelivery
import EngineHost.Proofs.KeyboardCycle

namespace EngineHost.Desktop

variable {ε τ : Type}

/-! ### Calls of the input method -/

/-- What the window says of a call of its input method: true shows the keyboard, and false hides it. -/
def callNotice (visible : Bool) : Notice :=
  .said .info (if visible then "soft keyboard requested" else "soft keyboard dismissed")

/-- The call of the input method that an event stands for, if it stands for one. -/
def inputCall? (event : Event) : Option Bool :=
  if event = .notice (callNotice true) then some true
  else if event = .notice (callNotice false) then some false
  else none

/-- The calls of the input method that a journal holds, in order. -/
def inputCalls (journal : List Event) : List Bool := journal.filterMap inputCall?

/-- An operation of a host: it offered tasks to the queue, called the input method, and left the window alone. -/
structure Asked (before : Host ε Window τ) (tasks : List (Task τ)) (calls : List Bool)
    (after : Host ε Window τ) : Prop where
  offered : before.loop.Offered tasks after.loop
  calls : inputCalls after.loop.journal = inputCalls before.loop.journal ++ calls
  device : after.device = before.device

namespace Asked

theorem trans {first second third : Host ε Window τ} {tasks later : List (Task τ)} {calls more : List Bool}
    (one : Asked first tasks calls second) (two : Asked second later more third) :
    Asked first (tasks ++ later) (calls ++ more) third where
  offered := one.offered.trans two.offered
  calls := by rw [two.calls, one.calls, List.append_assoc]
  device := two.device.trans one.device

/-- Notices are calls of the input method where the window says so. -/
theorem report (notices : List Notice) (host : Host ε Window τ) :
    Asked host [] (inputCalls (notices.map Event.notice)) (host.report notices) where
  offered := host.offered_report notices
  calls := List.filterMap_append
  device := rfl

/-- Shows or hides the keyboard on request: one call. -/
theorem request (visible : Bool) (host : Host ε Window τ) :
    Asked host [] [visible] (host.requestKeyboard services visible) where
  offered := (Hook.requestKeyboard visible).offered_run services host
  calls := by cases visible <;> exact List.filterMap_append
  device := by cases visible <;> rfl

/-- A result of the input method: two calls if it uses up the armed remedy, and none otherwise. -/
theorem result {code : Int32} {report : Keyboard.Report} (known : Keyboard.Report.ofCode code = some report)
    (host : Host ε Window τ) :
    Asked host [] (if report.visible && host.memory.keyboard.armed then [false, true] else [])
      (host.keyboardResult services code).2 where
  offered := (Hook.keyboardResult code).offered_run services host
  calls := by
    unfold Host.keyboardResult
    simp only [known, settle_eq]
    cases report.visible && host.memory.keyboard.armed with
    | true => exact List.filterMap_append
    | false => exact (List.append_nil _).symm
  device := by
    unfold Host.keyboardResult
    simp only [known, settle_eq]
    cases report.visible && host.memory.keyboard.armed <;> rfl

/-- A layout pass offers its task. -/
theorem layout (visibleHeight rootHeight : Int32) (host : Host ε Window τ) :
    Asked host ((Hook.keyboardLayout visibleHeight rootHeight).task? host).toList []
      (host.keyboardLayout visibleHeight rootHeight).2 where
  offered := (Hook.keyboardLayout visibleHeight rootHeight).offered_run services host
  calls := by
    unfold Host.keyboardLayout
    split
    · exact (List.append_nil _).symm
    · refine (congrArg inputCalls (EngineRoom.journal_submit _ _)).trans ?_
      refine List.filterMap_append.trans (congrArg (_ ++ ·) ?_)
      split <;> rfl
  device := by
    unfold Host.keyboardLayout
    split <;> rfl

end Asked

/-! ### Numbers -/

theorem toInt_clampedLength (pixels : UInt32) :
    (clampedLength pixels).toInt = min (pixels.toNat : Int) 2147483647 := by
  have largest : longest.toNatClampNeg = 2147483647 := by decide
  unfold clampedLength
  rw [largest]
  split
  · rw [Int32.toInt_ofNat_of_lt (by omega)]
    omega
  · have its : longest.toInt = 2147483647 := by decide
    omega

/-- The height of the root by the size of the window: its shorter side, corrected on the one model. -/
def rootHeight (identity : Device.Identity) (size : UInt32 × UInt32) : Int :=
  min (min size.1.toNat size.2.toNat : Nat) 2147483647 +
    (if identity.IsModel "amazon" "kindle fire" then -20 else 0)

/-- The correction lowers a root without height by twenty at most. -/
theorem low_rootHeight (identity : Device.Identity) (size : UInt32 × UInt32) :
    -20 ≤ rootHeight identity size := by
  unfold rootHeight
  split <;> omega

namespace Application

/-- Six times the root fits, and so does a tenth of it. -/
theorem uncoveredHeight_of_within {root : Int32} (low : -357913941 ≤ root.toInt)
    (high : root.toInt ≤ 357913941) : ∃ left, uncoveredHeight root = .ok left := by
  have sixfold : (6 : Int32).toInt = 6 := by decide
  have lowest : Int32.minValue.toInt = -2147483648 := by decide
  have highest : Int32.maxValue.toInt = 2147483647 := by decide
  have fits : Checked.Fits (root.toInt * (6 : Int32).toInt) := by
    rw [Checked.Fits, sixfold]
    omega
  obtain ⟨product, made, -⟩ := Checked.ofInt_of_fits .multiplication fits
  refine ⟨product / 10, ?_⟩
  rw [uncoveredHeight, Checked.mul, made]
  rfl

/-- Six times a taller root does not fit. -/
theorem uncoveredHeight_of_beyond {root : Int32} (tall : 357913941 < root.toInt) :
    uncoveredHeight root = .error (.overflow .multiplication) := by
  have sixfold : (6 : Int32).toInt = 6 := by decide
  have highest : Int32.maxValue.toInt = 2147483647 := by decide
  have beyond : ¬ Checked.Fits (root.toInt * (6 : Int32).toInt) := by
    rw [Checked.Fits, sixfold]
    omega
  rw [uncoveredHeight, Checked.mul, Checked.ofInt_of_beyond .multiplication beyond]
  rfl

/-! ### One flip -/

variable (app : Application ε τ)

/-- The geometry of the display, as the host gives it. -/
def measured : Except Panic Display.Geometry := (app.onHost (Host.geometry services)).1

/-- The application behind its request for the keyboard. -/
def asked (shown : Bool) : Application ε τ :=
  { app with
    showsKeyboard := shown
    host := { app.host with toHost := app.host.toHost.requestKeyboard services shown } }

/-- The geometry is asked for without a trace. -/
theorem onHost_geometry : app.onHost (Host.geometry services) = (app.measured, app) := by
  refine Prod.ext rfl ?_
  have same : (app.host.toHost.geometry services).2 = app.host.toHost :=
    congrArg (fun loop => { app.host.toHost with loop }) (FrameLoop.report_nil app.host.loop)
  exact congrArg (fun toHost => { app with host := { app.host with toHost } }) same

/-- The geometry is made of the size of the window. -/
theorem measured_eq : app.measured = Display.Geometry.ofSize app.host.memory.profile app.host.device.metrics
    app.host.device.metrics.width app.host.device.metrics.height :=
  geometry_answer services app.host.memory.profile app.host.device

variable {app} {geometry : Display.Geometry}

/-- A flip that overflows ends behind its request. -/
theorem flipKeyboard_of_overflow {panic : Panic} (made : app.measured = .ok geometry)
    (hidden : app.showsKeyboard = false) (beyond : uncoveredHeight geometry.height = .error panic) :
    app.flipKeyboard = (.error panic, app.asked true) := by
  unfold flipKeyboard
  rw [onHost_geometry, made]
  simp only [hidden, Bool.not_false, if_true, beyond]
  rfl

/-- The height that a flip reports: the root without the share of the keyboard, or all of it. -/
def reportedHeight (shown : Bool) (root : Int32) : Except Panic Int32 :=
  if shown then uncoveredHeight root else .ok root

/-- The result that a flip reports. -/
def reportedCode (shown : Bool) : Int32 := if shown then 2 else 3

/-- Every other flip reports a result and a layout pass. -/
theorem flipKeyboard_of_reported {height : Int32} (made : app.measured = .ok geometry)
    (reported : reportedHeight (!app.showsKeyboard) geometry.height = .ok height) :
    app.flipKeyboard = (.ok (), (app.asked (!app.showsKeyboard)).reportKeyboard
      (reportedCode (!app.showsKeyboard)) height geometry.height) := by
  unfold flipKeyboard
  rw [onHost_geometry, made]
  cases shows : app.showsKeyboard with
  | true =>
    rw [shows] at reported
    cases reported
    simp only [shows]
    rfl
  | false =>
    have uncovered : uncoveredHeight geometry.height = .ok height := by
      rw [shows] at reported
      exact reported
    simp only [shows, uncovered]
    rfl

/-! ### What a flip reports -/

/-- A layout pass says something exactly if the root has a height. -/
theorem measure_eq_none_iff (threshold : Float32) (height root : Int32) :
    Keyboard.Layout.measure threshold height root = none ↔ ¬ 0 < root := by
  unfold Keyboard.Layout.measure
  rw [Int32.not_lt]
  split <;> simp [*]

section Layout

variable {host after : Host ε Window τ} {height root : Int32} {calls : List Bool}

/-- An open queue gets the layout of a root that has a height. -/
theorem told_of_asked (asks : Asked host ((Hook.keyboardLayout height root).task? host).toList calls after)
    (tall : 0 < root) (isOpen : host.loop.queue.closed = false) :
    ∃ layout, Keyboard.Layout.measure host.memory.keyboardThreshold height root = some layout ∧
      after.loop.queue.tasks = host.loop.queue.tasks ++ [Task.notify (.keyboard layout)] := by
  cases measured : Keyboard.Layout.measure host.memory.keyboardThreshold height root with
  | none => exact absurd tall ((measure_eq_none_iff _ _ _).mp measured)
  | some layout =>
    refine ⟨layout, rfl, ?_⟩
    rw [asks.offered.tasks, isOpen, Hook.task?, measured]
    rfl

/-- A closed queue gets nothing, and a root without height says nothing. -/
theorem untold_of_asked (asks : Asked host ((Hook.keyboardLayout height root).task? host).toList calls after)
    (untold : ¬ (0 < root ∧ host.loop.queue.closed = false)) :
    after.loop.queue.tasks = host.loop.queue.tasks := by
  rw [asks.offered.tasks]
  cases closed : host.loop.queue.closed with
  | true => rfl
  | false =>
    have flat : ¬ 0 < root := fun tall => untold ⟨tall, closed⟩
    rw [Hook.task?, (measure_eq_none_iff _ _ _).mpr flat]
    exact List.append_nil _

end Layout

/-- A refusal is only reported. -/
theorem reportRefusal_frame (result : Except HostFailure Unit) (app : Application ε τ) :
    let after := app.reportRefusal "keyboard layout" result
    Asked app.host.toHost [] [] after.host.toHost ∧ after.showsKeyboard = app.showsKeyboard ∧
      after.host.memory = app.host.memory := by
  cases result with
  | ok => exact ⟨⟨.refl _, (List.append_nil _).symm, rfl⟩, rfl, rfl⟩
  | error error =>
    let notice : Notice := .said .debug ("keyboard layout" ++ " not delivered: " ++ error.message)
    have silent : inputCalls ([notice].map Event.notice) = [] := rfl
    exact ⟨silent ▸ Asked.report [notice] app.host.toHost, rfl, rfl⟩

/-- A result and a layout pass: the armed remedy is used up by a visible result, the visibility is that of the
result, and the layout is offered to the queue. -/
theorem reportKeyboard_frame {code : Int32} {report : Keyboard.Report}
    (known : Keyboard.Report.ofCode code = some report) (visibleHeight root : Int32) (app : Application ε τ) :
    let armed := app.host.memory.keyboard.armed
    let after := app.reportKeyboard code visibleHeight root
    Asked app.host.toHost ((Hook.keyboardLayout visibleHeight root).task? app.host.toHost).toList
        (if report.visible && armed then [false, true] else []) after.host.toHost ∧
      after.showsKeyboard = app.showsKeyboard ∧
      after.host.memory =
        { app.host.memory with keyboard := ⟨armed && !report.visible, report.visible⟩ } := by
  intro armed after
  let settled := (app.host.toHost.keyboardResult services code).2
  let handled := settled.report [.said .debug "keyboard result handled"]
  let laidOut := handled.keyboardLayout visibleHeight root
  have memory : handled.memory =
      { app.host.memory with keyboard := ⟨armed && !report.visible, report.visible⟩ } :=
    (keyboardResult_of_known services app.host.toHost known).2.1
  have layout : Asked handled ((Hook.keyboardLayout visibleHeight root).task? app.host.toHost).toList []
      laidOut.2 := by
    -- Of what the host remembers, a layout reads the threshold alone.
    have offers := Asked.layout visibleHeight root handled
    rw [Hook.task?, memory] at offers
    exact offers
  have kept : laidOut.2.memory = handled.memory := by
    unfold laidOut Host.keyboardLayout
    split <;> rfl
  obtain ⟨refused, shows, still⟩ := reportRefusal_frame laidOut.1
    { app with host := { app.host with toHost := laidOut.2 } }
  have asks := (((Asked.result known app.host.toHost).trans (Asked.report _ settled)).trans layout).trans
    refused
  have silent : inputCalls ([Notice.said .debug "keyboard result handled"].map Event.notice) = [] := rfl
  simp only [silent, List.nil_append, List.append_nil] at asks
  exact ⟨asks, shows, still.trans (kept.trans memory)⟩

/-! ### The two ways a flip goes -/

/-- A flip that overflows: the keyboard counts as shown and is asked for, and then neither a result nor a layout is
reported. -/
structure StopsMidway (app : Application ε τ) : Prop where
  panics : app.flipKeyboard.1 = .error (.overflow .multiplication)
  shows : app.flipKeyboard.2.showsKeyboard = true
  visible : app.flipKeyboard.2.host.memory.keyboard.visible = app.host.memory.keyboard.visible
  journal : app.flipKeyboard.2.host.loop.journal = app.host.loop.journal ++ [.notice (callNotice true)]
  queue : app.flipKeyboard.2.host.loop.queue = app.host.loop.queue

/-- A flip to its end: the host knows what the application shows, the input method was called once, and twice more
to hide and show the keyboard on a device that needs that, and an open queue got the layout of a root that has a
height. -/
structure FlipsOver (cycles : Bool) (root : Int32) (app : Application ε τ) : Prop where
  answers : app.flipKeyboard.1 = .ok ()
  shows : app.flipKeyboard.2.showsKeyboard = !app.showsKeyboard
  agrees : app.flipKeyboard.2.host.memory.keyboard.visible = app.flipKeyboard.2.showsKeyboard
  calls : inputCalls app.flipKeyboard.2.host.loop.journal = inputCalls app.host.loop.journal ++
    (!app.showsKeyboard) :: (if !app.showsKeyboard && cycles then [false, true] else [])
  told : 0 < root → app.host.loop.queue.closed = false →
    ∃ height layout, reportedHeight (!app.showsKeyboard) root = .ok height ∧
      Keyboard.Layout.measure app.host.memory.keyboardThreshold height root = some layout ∧
      app.flipKeyboard.2.host.loop.queue.tasks =
        app.host.loop.queue.tasks ++ [Task.notify (.keyboard layout)]
  untold : ¬ (0 < root ∧ app.host.loop.queue.closed = false) →
    app.flipKeyboard.2.host.loop.queue.tasks = app.host.loop.queue.tasks

/-- What any flip leaves as it was, and that the host never takes a keyboard for visible that is not shown. -/
structure Flipped (before after : Application ε τ) : Prop where
  profile : after.host.memory.profile = before.host.memory.profile
  device : after.host.device = before.host.device
  shows : after.showsKeyboard = !before.showsKeyboard
  visible : after.host.memory.keyboard.visible = true → after.showsKeyboard = true

section Ways

variable {app : Application ε τ} {geometry : Display.Geometry}

theorem stopsMidway_of_tall (made : app.measured = .ok geometry) (hidden : app.showsKeyboard = false)
    (tall : 357913941 < geometry.height.toInt) : app.StopsMidway ∧ Flipped app app.flipKeyboard.2 := by
  have whole := flipKeyboard_of_overflow made hidden (uncoveredHeight_of_beyond tall)
  refine ⟨?_, ?_⟩
  · constructor <;> rw [whole] <;> rfl
  · rw [whole]
    exact ⟨rfl, (Asked.request true app.host.toHost).device, by rw [hidden]; rfl, fun _ => rfl⟩

/-- The result that a flip reports is visible exactly if the keyboard is shown. -/
theorem report_of_reportedCode (shown : Bool) :
    ∃ report, Keyboard.Report.ofCode (reportedCode shown) = some report ∧ report.visible = shown := by
  cases shown with
  | true => exact ⟨.shown, rfl, rfl⟩
  | false => exact ⟨.hidden, rfl, rfl⟩

theorem flipsOver_of_reported {height : Int32} (made : app.measured = .ok geometry)
    (reported : reportedHeight (!app.showsKeyboard) geometry.height = .ok height) :
    app.FlipsOver app.host.memory.profile.cyclesKeyboard geometry.height ∧
      Flipped app app.flipKeyboard.2 := by
  obtain ⟨report, known, visible⟩ := report_of_reportedCode (!app.showsKeyboard)
  have whole := flipKeyboard_of_reported made reported
  obtain ⟨reports, shows, memory⟩ := reportKeyboard_frame known height geometry.height
    (app.asked (!app.showsKeyboard))
  have asks : Asked app.host.toHost ((Hook.keyboardLayout height geometry.height).task? app.host.toHost).toList
      ((!app.showsKeyboard) ::
        (if !app.showsKeyboard && app.host.memory.profile.cyclesKeyboard then [false, true] else []))
      app.flipKeyboard.2.host.toHost := by
    rw [visible] at reports
    rw [whole]
    exact (Asked.request (!app.showsKeyboard) app.host.toHost).trans reports
  have remembers : app.flipKeyboard.2.host.memory.keyboard.visible = !app.showsKeyboard := by
    rw [whole, memory, visible]
  have flips : app.flipKeyboard.2.showsKeyboard = !app.showsKeyboard := by rw [whole, shows]; rfl
  refine ⟨⟨?_, flips, remembers.trans flips.symm, asks.calls, fun tall isOpen => ?_, untold_of_asked asks⟩,
    ?_, asks.device, flips, ?_⟩
  · rw [whole]
  · obtain ⟨layout, measured, tasks⟩ := told_of_asked asks tall isOpen
    exact ⟨height, layout, reported, measured, tasks⟩
  · rw [whole, memory]
    rfl
  · rw [remembers, flips]
    exact id

end Ways

end Application

/-! ### Runs -/

/-- What happens to an application: its window gets a size, its keyboard is flipped, or the render thread has left
its loop in some other state in the meantime. -/
inductive WindowMove (ε τ : Type)
  | resize (width height : UInt32) (scale : Float)
  | flip
  | meanwhile (loop : FrameLoop ε τ)

namespace WindowMove

/-- The size that a move gives the window, if it gives one. -/
def size? : WindowMove ε τ → Option (UInt32 × UInt32)
  | .resize width height _ => some (width, height)
  | .flip | .meanwhile _ => none

/-- Whether a move flips the keyboard. -/
def isFlip : WindowMove ε τ → Bool
  | .flip => true
  | .resize .. | .meanwhile _ => false

end WindowMove

namespace WindowRun

/-- The size that the window got last; at first it has none. -/
def lastSize (moves : List (WindowMove ε τ)) : UInt32 × UInt32 :=
  (moves.filterMap WindowMove.size?).getLast?.getD (0, 0)

/-- How often the keyboard was flipped. -/
def flips (moves : List (WindowMove ε τ)) : Nat := moves.countP WindowMove.isFlip

theorem lastSize_concat (moves : List (WindowMove ε τ)) (last : WindowMove ε τ) :
    lastSize (moves ++ [last]) = last.size?.getD (lastSize moves) := by
  unfold lastSize
  rw [List.filterMap_append, List.getLast?_append]
  cases last <;> rfl

/-- One move. -/
def step (app : Application ε τ) : WindowMove ε τ → Application ε τ
  | .resize width height scale => app.resize width height scale
  | .flip => app.flipKeyboard.2
  | .meanwhile loop => { app with host := { app.host with loop := loop } }

/-- The moves of a run, in order. -/
def play (moves : List (WindowMove ε τ)) (app : Application ε τ) : Application ε τ := moves.foldl step app

/-- What the application and its host know is what the moves so far say. -/
structure Kept (identity : Device.Identity) (moves : List (WindowMove ε τ)) (app : Application ε τ) :
    Prop where
  profile : app.host.memory.profile = identity.profile
  width : app.host.device.metrics.width = clampedLength (lastSize moves).1
  height : app.host.device.metrics.height = clampedLength (lastSize moves).2
  /-- The keyboard is shown after an odd number of flips, those that overflowed included. -/
  shows : app.showsKeyboard = decide (flips moves % 2 = 1)
  visible : app.host.memory.keyboard.visible = true → app.showsKeyboard = true

namespace Kept

variable {identity : Device.Identity} {moves : List (WindowMove ε τ)} {app : Application ε τ}

/-- The geometry never overflows: no side of a window is negative. -/
theorem measured (kept : Kept identity moves app) : ∃ geometry, app.measured = .ok geometry ∧
    geometry.height.toInt = rootHeight identity (lastSize moves) := by
  have width := toInt_clampedLength (lastSize moves).1
  have height := toInt_clampedLength (lastSize moves).2
  have lowest : Int32.minValue.toInt = -2147483648 := by decide
  have within : ¬ (identity.IsModel "amazon" "kindle fire" ∧
      min (clampedLength (lastSize moves).1).toInt (clampedLength (lastSize moves).2).toInt <
        Int32.minValue.toInt + 20) := by
    rintro ⟨-, low⟩
    omega
  obtain ⟨geometry, made, -, its, -⟩ := Display.Geometry.ofSize_of_within app.host.device.metrics within
  rw [app.measured_eq, kept.profile, kept.width, kept.height]
  refine ⟨geometry, made, its.trans ?_⟩
  rw [rootHeight]
  omega

/-- The next flip stops midway exactly if it shows the keyboard over a root whose sixfold height does not fit. -/
theorem ways (kept : Kept identity moves app) :
    ∃ geometry, app.measured = .ok geometry ∧
      geometry.height.toInt = rootHeight identity (lastSize moves) ∧
      (app.showsKeyboard = false ∧ 357913941 < rootHeight identity (lastSize moves) → app.StopsMidway) ∧
      (¬ (app.showsKeyboard = false ∧ 357913941 < rootHeight identity (lastSize moves)) →
        app.FlipsOver identity.profile.cyclesKeyboard geometry.height) ∧
      app.Flipped app.flipKeyboard.2 := by
  obtain ⟨geometry, made, its⟩ := kept.measured
  refine ⟨geometry, made, its, ?_⟩
  rw [← its, ← kept.profile]
  by_cases overflows : app.showsKeyboard = false ∧ 357913941 < geometry.height.toInt
  · obtain ⟨stops, flipped⟩ := Application.stopsMidway_of_tall made overflows.1 overflows.2
    exact ⟨fun _ => stops, fun fits => absurd overflows fits, flipped⟩
  · obtain ⟨height, reported⟩ : ∃ height,
        Application.reportedHeight (!app.showsKeyboard) geometry.height = .ok height := by
      cases hidden : app.showsKeyboard with
      | true => exact ⟨geometry.height, rfl⟩
      | false =>
        have low := low_rootHeight identity (lastSize moves)
        have high := not_and.mp overflows hidden
        exact Application.uncoveredHeight_of_within (by omega) (by omega)
    obtain ⟨completes, flipped⟩ := Application.flipsOver_of_reported made reported
    exact ⟨fun tall => absurd tall overflows, fun _ => completes, flipped⟩

/-- One move. -/
theorem step (kept : Kept identity moves app) (move : WindowMove ε τ) :
    Kept identity (moves ++ [move]) (WindowRun.step app move) := by
  obtain ⟨profile, width, height, shows, visible⟩ := kept
  have size := lastSize_concat moves move
  have counted : flips (moves ++ [move]) = flips moves + move.isFlip.toNat := countP_concat _ moves move
  cases move with
  | resize newWidth newHeight scale =>
    exact ⟨profile, by rw [size]; rfl, by rw [size]; rfl, by rw [counted]; exact shows, visible⟩
  | meanwhile loop =>
    exact ⟨profile, by rw [size]; exact width, by rw [size]; exact height, by rw [counted]; exact shows,
      visible⟩
  | flip =>
    -- Whichever way it goes, what the application shows is flipped, and the parity goes on.
    obtain ⟨-, -, -, -, -, flipped⟩ := ways ⟨profile, width, height, shows, visible⟩
    refine ⟨flipped.profile.trans profile, ?_, ?_, ?_, flipped.visible⟩
    · rw [size]
      exact (congrArg (fun window : Window => window.metrics.width) flipped.device).trans width
    · rw [size]
      exact (congrArg (fun window : Window => window.metrics.height) flipped.device).trans height
    · refine flipped.shows.trans ?_
      have one : (WindowMove.flip : WindowMove ε τ).isFlip.toNat = 1 := rfl
      rw [shows, counted, one, ← decide_not, decide_eq_decide]
      omega

/-- A whole run. -/
theorem play (kept : Kept identity moves app) (more : List (WindowMove ε τ)) :
    Kept identity (moves ++ more) (WindowRun.play more app) := by
  induction more generalizing moves app with
  | nil => rwa [List.append_nil]
  | cons move more ih =>
    have next := ih (kept.step move)
    rwa [List.append_assoc] at next

end Kept

theorem kept_start {engine : ε} {config : Config} {identity : Device.Identity} {thread : ThreadId}
    {host : ThreadedHost ε Window τ}
    (spawned : ThreadedHost.spawn thread (Host.create engine config identity {}) = .ok host) :
    Kept identity [] ({ host } : Application ε τ) := by
  obtain ⟨base, other, ending⟩ := host
  obtain rfl : base = Host.create engine config identity {} := ThreadedHost.toHost_of_spawn spawned
  refine ⟨?_, rfl, rfl, rfl, nofun⟩
  -- By `rfl` the profile itself would be computed.
  simp only [Host.create]

/-- **The keyboard of a window is flipped whole, or stops behind its request.** On any device, after any sizes of the
window and any flips of the keyboard, and whatever the render thread has made of its loop:

* the application shows the keyboard after an odd number of flips, and the geometry never overflows: its height is
  the shorter side of the window as it was set last, corrected on one model;
* the next flip overflows exactly if it shows the keyboard and the height is more than 357913941. It has then
  asked for the keyboard, and the application shows it, but the host has heard neither of a result nor of a layout
  and does not take it for visible;
* every other flip leaves the application and its host agreed, also one behind an overflow. It asks once, once more
  to hide and to show the keyboard if it shows it on a device that needs that, and the engine is told of one layout
  exactly if the height is above zero and the queue is open. -/
theorem flips_in_any_window (engine : ε) (config : Config) (identity : Device.Identity) {thread : ThreadId}
    {host : ThreadedHost ε Window τ}
    (spawned : ThreadedHost.spawn thread (Host.create engine config identity {}) = .ok host)
    (moves : List (WindowMove ε τ)) :
    let app := play moves ({ host } : Application ε τ)
    let root := rootHeight identity (lastSize moves)
    app.showsKeyboard = decide (flips moves % 2 = 1) ∧
    ∃ geometry, app.measured = .ok geometry ∧ geometry.height.toInt = root ∧
      (app.showsKeyboard = false ∧ 357913941 < root →
        app.StopsMidway ∧ app.flipKeyboard.2.host.memory.keyboard.visible = false) ∧
      (¬ (app.showsKeyboard = false ∧ 357913941 < root) →
        app.FlipsOver identity.profile.cyclesKeyboard geometry.height) := by
  intro app root
  have kept : Kept identity moves app := (kept_start spawned).play moves
  obtain ⟨geometry, made, its, stops, completes, -⟩ := kept.ways
  refine ⟨kept.shows, geometry, made, its, fun tall => ⟨stops tall, ?_⟩, completes⟩
  rw [(stops tall).visible, ← Bool.not_eq_true]
  intro visible
  exact Bool.eq_false_iff.mp tall.1 (kept.visible visible)

/-- A device that needs the remedy for its keyboard. -/
def cyclingDevice : Device.Identity := { board := " Mecha" }

/-- An application on that device. -/
def cyclingHost : ThreadedHost Unit Window Unit :=
  { Host.create () {} cyclingDevice {} with thread := 1 }

/-- A loop that has closed its queue. -/
def closedLoop : FrameLoop Unit Unit :=
  { (FrameLoop.create () {} : FrameLoop Unit Unit) with queue := ⟨[], true⟩ }

/-- A window too tall for its keyboard. -/
def tallMoves : List (WindowMove Unit Unit) := [.resize 4294967295 400000000 1.0]

/-- The keyboard of the tall window is flipped, and once more after the window was made smaller and its loop has
closed its queue. -/
def smallerMoves : List (WindowMove Unit Unit) :=
  tallMoves ++ [.flip, .resize 800 480 1.0, .flip, .meanwhile closedLoop]

theorem tallWindow_stops_then_flips :
    ThreadedHost.spawn 1 (Host.create () {} cyclingDevice {}) = .ok cyclingHost ∧
      (play tallMoves { host := cyclingHost }).StopsMidway ∧
      let app := play smallerMoves { host := cyclingHost }
      app.flipKeyboard.2.host.memory.keyboard.visible = true ∧
        inputCalls app.flipKeyboard.2.host.loop.journal = [true, false, true] ∧
        app.flipKeyboard.2.host.loop.queue.tasks = [] := by
  have spawned : ThreadedHost.spawn 1 (Host.create () {} cyclingDevice {}) = .ok cyclingHost := by
    rfl
  have cycles : cyclingDevice.profile.cyclesKeyboard = true := by decide +kernel
  obtain ⟨shows, -, -, -, stops, -⟩ := flips_in_any_window () {} cyclingDevice spawned tallMoves
  have tall : 357913941 < rootHeight cyclingDevice (lastSize tallMoves) := by decide +kernel
  obtain ⟨again, geometry, -, -, -, completes⟩ := flips_in_any_window () {} cyclingDevice spawned smallerMoves
  have small : ¬ 357913941 < rootHeight cyclingDevice (lastSize smallerMoves) := by decide +kernel
  have flipped := completes fun both => small both.2
  refine ⟨spawned, (stops ⟨shows, tall⟩).1, ?_, ?_, ?_⟩
  · rw [flipped.agrees, flipped.shows, again]
    rfl
  · rw [flipped.calls, again, cycles]
    rfl
  · have closed : (play smallerMoves { host := cyclingHost }).host.loop.queue.closed = true := rfl
    exact flipped.untold fun both => Bool.eq_false_iff.mp both.2 closed

end WindowRun

end EngineHost.Desktop
