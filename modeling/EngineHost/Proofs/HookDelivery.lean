/-
**What the system tells the hooks reaches the engine.**

* `Hook`, `HookCall.image`: the hooks of the system, and the calls that each call of a hook stands for;
* `HostRun`: a host whose hooks are called while its loop runs; nobody else submits;
* `HostRun.Faithful`: the calls passed on, in hand and waiting are the images of the calls of hooks,
  with `HostRun.Faithful.step` for one move.

A hook uses the queue at most once, so that one call of a hook is one step.
-/

import EngineHost.Desktop.Engine
import EngineHost.Desktop.Services
import EngineHost.Host.Hooks
import EngineHost.Proofs.Relay

namespace EngineHost

variable {ε δ τ α : Type}

/-! ### What the operations of a host do to its loop -/

namespace Host

theorem offered_report (notices : List Notice) (host : Host ε δ τ) :
    host.loop.Offered [] (host.report notices).loop :=
  FrameLoop.Offered.report notices host.loop

theorem offered_submit (task : Task τ) (host : Host ε δ τ) :
    host.loop.Offered [task] (host.submit task).2.loop := by
  constructor <;> simp [submit]

theorem offered_ask (question : Ask δ α) (host : Host ε δ τ) :
    host.loop.Offered [] (host.ask question).2.loop :=
  FrameLoop.Offered.report _ host.loop

/-- A dialog passes its outcome on; a refusal is reported. -/
theorem offered_deliverOutcome (outcome : Dialog.Outcome) (host : Host ε δ τ) :
    host.loop.Offered [Task.notify (.dialog outcome)] (host.deliverOutcome outcome).loop := by
  have submitted := host.offered_submit (Task.notify (.dialog outcome))
  unfold deliverOutcome notify
  split
  · rename_i after answered
    rw [answered] at submitted
    exact submitted
  · rename_i failure after answered
    rw [answered] at submitted
    exact submitted.trans (after.offered_report _)

end Host

/-! ### Hooks -/

/-- The hooks through which the system reaches a host. -/
inductive Hook
  | lifecycle (state : Lifecycle)
  | input (event : UserInput)
  | windowFocus (focused : Bool)
  | lowMemory
  | keyboardLayout (visibleHeight rootHeight : Int32)
  | requestKeyboard (visible : Bool)
  | keyboardResult (code : Int32)
  | settingsChanged
  | geometry
  | openDialog (request : Dialog.Request)
  | answerDialog (handle : Dialog.Handle) (action : Dialog.Action)
deriving DecidableEq, Repr

namespace Hook

/-- A host after a hook. -/
def run (services : Services δ) (host : Host ε δ τ) : Hook → Host ε δ τ
  | .lifecycle state => (host.lifecycle state).2
  | .input event => (host.input event).2
  | .windowFocus focused => (host.windowFocus focused).2
  | .lowMemory => host.lowMemory.2
  | .keyboardLayout visibleHeight rootHeight => (host.keyboardLayout visibleHeight rootHeight).2
  | .requestKeyboard visible => host.requestKeyboard services visible
  | .keyboardResult code => (host.keyboardResult services code).2
  | .settingsChanged => (host.settingsChanged services).2
  | .geometry => (host.geometry services).2
  | .openDialog request => (host.openDialog services request).2
  | .answerDialog handle action => (host.answerDialog handle action).2

/-- The task that a hook submits. -/
def task? (host : Host ε δ τ) : Hook → Option (Task τ)
  | .lifecycle state => some (Host.lifecycleTask state)
  | .input event => some (Task.notify (.input event))
  | .windowFocus focused => some (Task.notify (.windowFocus focused))
  | .lowMemory => some (Task.notify .lowMemory)
  | .keyboardLayout visibleHeight rootHeight =>
    (Keyboard.Layout.measure host.memory.keyboardThreshold visibleHeight rootHeight).map fun layout =>
      Task.notify (.keyboard layout)
  | .answerDialog handle action =>
    (host.answerDialog handle action).1.map fun outcome => Task.notify (.dialog outcome)
  | .requestKeyboard _ | .keyboardResult _ | .settingsChanged | .geometry | .openDialog _ => none

/-- The state that the activity enters by a hook. -/
def lifecycle? : Hook → Option Lifecycle
  | .lifecycle state => some state
  | _ => none

variable (services : Services δ) (host : Host ε δ τ)

/-- A hook offers its task to the queue and does nothing else to the loop. -/
theorem offered_run (hook : Hook) :
    host.loop.Offered (hook.task? host).toList (hook.run services host).loop := by
  cases hook with
  | lifecycle state =>
    exact (Host.offered_report _ { host with memory := _ }).trans
      (Host.offered_submit (Host.lifecycleTask state) _)
  | input event => exact Host.offered_submit _ host
  | windowFocus focused => exact (host.offered_report _).trans (Host.offered_submit _ _)
  | lowMemory => exact (host.offered_report _).trans (Host.offered_submit _ _)
  | keyboardLayout visibleHeight rootHeight =>
    simp only [run, task?, Host.keyboardLayout]
    cases Keyboard.Layout.measure host.memory.keyboardThreshold visibleHeight rootHeight with
    | none => exact .refl host.loop
    | some layout => exact Host.offered_submit _ host
  | requestKeyboard visible => exact Host.offered_ask _ { host with memory := _ }
  | keyboardResult code =>
    simp only [run, task?, Host.keyboardResult]
    cases Keyboard.Report.ofCode code with
    | none => exact host.offered_report _
    | some result =>
      simp only
      split
      · exact .refl host.loop
      · exact Host.offered_ask _ { host with memory := _ }
  | settingsChanged => exact Host.offered_ask _ host
  | geometry => exact Host.offered_ask _ host
  | openDialog request => exact Host.offered_ask _ host
  | answerDialog handle action =>
    simp only [run, task?, Host.answerDialog]
    split
    · simp only
      split
      · exact host.offered_report _
      · exact .refl host.loop
    · rename_i outcome _
      let dialogs := (host.memory.dialogs.resolve handle action).2
      exact Host.offered_deliverOutcome outcome { host with memory := { host.memory with dialogs } }

/-- Only the activity itself changes what the host remembers of its state. -/
theorem memory_run (hook : Hook) : (hook.run services host).memory.lifecycle =
    hook.lifecycle?.or host.memory.lifecycle := by
  cases hook with
  | lifecycle state => rfl
  | input event => rfl
  | windowFocus focused => rfl
  | lowMemory => rfl
  | keyboardLayout visibleHeight rootHeight =>
    simp only [run, Host.keyboardLayout]
    split <;> rfl
  | requestKeyboard visible => rfl
  | keyboardResult code =>
    simp only [run, Host.keyboardResult]
    split
    · rfl
    · split <;> rfl
  | settingsChanged => rfl
  | geometry => rfl
  | openDialog request => rfl
  | answerDialog handle action =>
    simp only [run, Host.answerDialog]
    split
    · simp only
      split <;> rfl
    · simp only [Host.deliverOutcome]
      split
      · rename_i after answered
        exact congrArg (fun reply => reply.2.memory.lifecycle) answered.symm
      · rename_i failure after answered
        exact congrArg (fun reply => reply.2.memory.lifecycle) answered.symm

/-- The tasks of hooks pass calls on. -/
theorem relays_task? {hook : Hook} {task : Task τ} (submits : hook.task? host = some task) :
    task.Relays := by
  cases hook with
  | lifecycle state =>
    cases submits
    cases state <;> first
      | exact Task.relays_endActivity
      | exact Task.relays_notify (by simp)
  | input event =>
    cases submits
    exact Task.relays_notify (by simp)
  | windowFocus focused =>
    cases submits
    exact Task.relays_notify (by simp)
  | lowMemory =>
    cases submits
    exact Task.relays_notify (by simp)
  | keyboardLayout visibleHeight rootHeight =>
    obtain ⟨layout, -, rfl⟩ := Option.map_eq_some_iff.mp submits
    exact Task.relays_notify (by simp)
  | answerDialog handle action =>
    obtain ⟨outcome, -, rfl⟩ := Option.map_eq_some_iff.mp submits
    exact Task.relays_notify (by simp)
  | _ => cases submits

/-- A lifecycle hook reports a state that must not follow the last one, and only that. -/
theorem warning_iff (entered : Lifecycle) :
    ∃ added, ((Hook.lifecycle entered).run services host).loop.journal = host.loop.journal ++ added ∧
      ∀ previous state, Event.notice (.unexpectedLifecycle previous state) ∈ added ↔
        previous = host.memory.lifecycle ∧ state = entered ∧
          entered.mayFollow host.memory.lifecycle = false := by
  let warning : List Notice := if entered.mayFollow host.memory.lifecycle then []
    else [.unexpectedLifecycle host.memory.lifecycle entered]
  let refusal : List Event := if host.loop.queue.closed then [.notice .submissionRefused] else []
  refine ⟨(warning ++ [Notice.lifecycle entered]).map Event.notice ++ refusal, ?_,
    fun previous state => ?_⟩
  · exact (EngineRoom.journal_submit _ _).trans (List.append_assoc _ _ _)
  · have unrelated : Event.notice (.unexpectedLifecycle previous state) ∉ refusal := by
      simp only [refusal]
      split <;> simp
    simp only [List.mem_append, List.mem_map, unrelated, or_false]
    cases follows : entered.mayFollow host.memory.lifecycle <;> simp [warning, follows, eq_comm]

end Hook

/-- A call of a hook, and the host that it found. -/
structure HookCall (ε δ τ : Type) where
  hook : Hook
  host : Host ε δ τ

/-- The calls into the engine that a call of a hook stands for. -/
def HookCall.image (made : HookCall ε δ τ) : List EngineCall :=
  match made.hook with
  | .lifecycle .destroyed => [.notify (.lifecycle .destroyed), .shutdown]
  | .lifecycle state => [.notify (.lifecycle state)]
  | .input event => [.notify (.input event)]
  | .windowFocus focused => [.notify (.windowFocus focused)]
  | .lowMemory => [.notify .lowMemory]
  | .keyboardLayout visibleHeight rootHeight =>
    if 0 < rootHeight then
      let coveredShare := 1.0 - visibleHeight.toFloat32 / rootHeight.toFloat32
      let visible := decide (made.host.memory.keyboardThreshold < coveredShare)
      [.notify (.keyboard ⟨visible, coveredShare⟩)]
    else []
  | .answerDialog handle action =>
    match (made.host.answerDialog handle action).1 with
    | none => []
    | some outcome => [.notify (.dialog outcome)]
  | .requestKeyboard _ | .keyboardResult _ | .settingsChanged | .geometry | .openDialog _ => []

/-- The image of a call of a hook is what its task stands for. -/
theorem HookCall.image_eq (made : HookCall ε δ τ) :
    made.image = (made.hook.task? made.host).toList.flatMap Task.calls := by
  obtain ⟨hook, host⟩ := made
  cases hook with
  | lifecycle state => cases state <;> rfl
  | keyboardLayout visibleHeight rootHeight =>
    simp only [image, Hook.task?, Keyboard.Layout.measure]
    by_cases flat : rootHeight ≤ 0
    · rw [if_neg (Int32.not_lt.mpr flat), if_pos flat]
      rfl
    · rw [if_pos (Int32.not_le.mp flat), if_neg flat]
      rfl
  | answerDialog handle action =>
    simp only [image, Hook.task?]
    cases (host.answerDialog handle action).1 <;> rfl
  | _ => rfl

/-- The state that the activity entered last. -/
def lastLifecycle (calls : List (HookCall ε δ τ)) : Option Lifecycle :=
  (calls.filterMap fun made => made.hook.lifecycle?).getLast?

theorem lastLifecycle_concat (calls : List (HookCall ε δ τ)) (made : HookCall ε δ τ) :
    lastLifecycle (calls ++ [made]) = made.hook.lifecycle?.or (lastLifecycle calls) := by
  rw [lastLifecycle, List.filterMap_append, List.getLast?_append]
  obtain ⟨hook, host⟩ := made
  cases hook <;> rfl

/-! ### Hooks while the loop runs -/

/-- A host in the middle of a hook of its loop, and the calls of the hooks of the system so far. -/
structure HostRun (ε δ τ : Type) where
  run : LoopRun ε τ
  memory : Memory
  device : δ
  calls : List (HookCall ε δ τ) := []

/-- A move of a schedule in which nobody but the hooks submits. -/
inductive HostMove
  | hook (hook : Hook)
  | enter (entry : Entry)
  | proceed
deriving DecidableEq, Repr

namespace HostRun

/-- A host around an engine that was not started. -/
def start (engine : ε) (config : Config) (identity : Device.Identity) (device : δ) : HostRun ε δ τ :=
  let host := Host.create engine config identity device
  { run := { loop := host.loop }, memory := host.memory, device := host.device }

/-- The host as a hook finds it. -/
def host (state : HostRun ε δ τ) : Host ε δ τ := ⟨state.run.loop, state.memory, state.device⟩

/-- The system calls a hook. -/
def callHook (services : Services δ) (hook : Hook) (state : HostRun ε δ τ) : HostRun ε δ τ :=
  let after := hook.run services state.host
  { run := state.run.offer (hook.task? state.host).toList after.loop
    memory := after.memory
    device := after.device
    calls := state.calls ++ [⟨hook, state.host⟩] }

/-- One move. -/
def step (services : Services δ) (program : Program ε τ) (state : HostRun ε δ τ) :
    HostMove → HostRun ε δ τ
  | .hook hook => state.callHook services hook
  | .enter entry => { state with run := state.run.step program (.enter entry) }
  | .proceed => { state with run := state.run.step program .proceed }

/-- The moves of a schedule, in order. -/
def play (services : Services δ) (program : Program ε τ) (moves : List HostMove)
    (state : HostRun ε δ τ) : HostRun ε δ τ :=
  moves.foldl (step services program) state

/-- What was passed on, is in hand and waits are the images of the calls of hooks, until the queue is
closed. -/
structure Faithful (state : HostRun ε δ τ) : Prop where
  consistent : state.run.Consistent
  relaying : state.run.Relaying
  passed : state.run.loop.queue.closed = false → state.run.passed = state.calls.flatMap HookCall.image
  lifecycle : state.memory.lifecycle = lastLifecycle state.calls

theorem faithful_start (engine : ε) (config : Config) (identity : Device.Identity) (device : δ) :
    Faithful (HostRun.start engine config identity device : HostRun ε δ τ) where
  consistent := (LoopRun.consistent_start engine config).offer (.report _ _)
  relaying := ⟨⟨List.forall_mem_nil _, List.forall_mem_nil _⟩, List.forall_mem_nil _⟩
  passed _ := by
    simp [LoopRun.passed, HostRun.start, Host.create, FrameLoop.create]
  lifecycle := rfl

namespace Faithful

variable {services : Services δ} {program : Program ε τ} {state : HostRun ε δ τ}

theorem callHook (holds : state.Faithful) (hook : Hook) : (state.callHook services hook).Faithful := by
  have outside : state.run.loop.Offered (hook.task? state.host).toList
      (hook.run services state.host).loop := hook.offered_run services state.host
  refine ⟨holds.consistent.offer outside, holds.relaying.offer outside ?_, fun isOpen => ?_, ?_⟩
  · exact fun task member => Hook.relays_task? state.host (Option.mem_toList.mp member)
  · have wasOpen : state.run.loop.queue.closed = false := outside.closed.symm.trans isOpen
    rw [HostRun.callHook, LoopRun.passed_offer outside wasOpen, holds.passed wasOpen,
      List.flatMap_append, List.flatMap_singleton, HookCall.image_eq]
  · rw [HostRun.callHook, lastLifecycle_concat, ← holds.lifecycle]
    exact hook.memory_run services state.host

/-- A move of the loop's thread. -/
theorem ownStep (silent : program.Silent) (holds : state.Faithful) {move : Move τ}
    (own : ∀ task, move ≠ .submit task) :
    Faithful { state with run := state.run.step program move } := by
  obtain ⟨consistent, relaying, passed, lifecycle⟩ := holds
  obtain ⟨still, same⟩ := LoopRun.relaying_step silent consistent relaying own
  refine ⟨consistent.step (fun task member => (relaying.tasks task member).calm) move, still,
    fun isOpen => ?_, lifecycle⟩
  obtain ⟨wasOpen, equal⟩ := same isOpen
  exact equal.trans (passed wasOpen)

/-- One move keeps faith. -/
theorem step (silent : program.Silent) (holds : state.Faithful) (move : HostMove) :
    (state.step services program move).Faithful := by
  cases move with
  | hook hook => exact holds.callHook hook
  | enter entry => exact holds.ownStep silent fun task same => nomatch same
  | proceed => exact holds.ownStep silent fun task same => nomatch same

theorem play (silent : program.Silent) (holds : state.Faithful) (moves : List HostMove) :
    (state.play services program moves).Faithful := by
  induction moves generalizing state with
  | nil => exact holds
  | cons move moves ih => exact ih (holds.step silent move)

end Faithful

/-- **What the system tells the hooks reaches the engine**, once, in order, and with the same values:
until the loop ends, the calls that were passed on, followed by those that wait, are the images of the
calls of hooks. A state of the activity is warned about exactly if it must not follow the last one. -/
theorem hooks_reach_the_engine (services : Services δ) {program : Program ε τ} (silent : program.Silent)
    (engine : ε) (config : Config) (identity : Device.Identity) (device : δ) (moves : List HostMove) :
    let state := (start engine config identity device).play services program moves
    (state.run.stage = .idle → state.run.loop.state ≠ .terminated →
      (callsOf state.run.loop.journal).filter EngineCall.isPassedOn ++
        state.run.loop.queue.tasks.flatMap Task.calls = state.calls.flatMap HookCall.image) ∧
    (state.run.loop.queue.closed = false →
      (callsOf state.run.loop.journal).filter EngineCall.isPassedOn ++ (state.run.stage.callsAhead ++
        state.run.loop.queue.tasks.flatMap Task.calls) = state.calls.flatMap HookCall.image) ∧
    ∀ entered, ∃ added, (state.callHook services (.lifecycle entered)).run.loop.journal =
        state.run.loop.journal ++ added ∧
      ∀ previous next, Event.notice (.unexpectedLifecycle previous next) ∈ added ↔
        previous = lastLifecycle state.calls ∧ next = entered ∧
          entered.mayFollow (lastLifecycle state.calls) = false := by
  intro state
  have holds : state.Faithful := (faithful_start engine config identity device).play silent moves
  refine ⟨fun idle goesOn => ?_, holds.passed, fun entered => ?_⟩
  · have fits := holds.consistent.fits
    rw [idle] at fits
    have isOpen : state.run.loop.queue.closed = false :=
      Bool.eq_false_iff.mpr fun closed => goesOn (fits.2.1.mp closed)
    have passed := holds.passed isOpen
    rw [LoopRun.passed, idle] at passed
    exact passed
  · rw [← holds.lifecycle]
    exact Hook.warning_iff services state.host entered

/-- An activity is destroyed while a frame is due, and the system goes on calling hooks. -/
def destroyingSchedule : List HostMove :=
  [.hook (.lifecycle .created), .hook (.input (.keyUp 4)), .enter (.surfaceCreated 0), .proceed,
    .proceed, .hook (.lifecycle .destroyed), .enter (.drawFrame 0), .proceed, .hook .lowMemory] ++
    List.replicate 11 .proceed

/-- The desktop's engine through that schedule. -/
def destroyingRun : HostRun Desktop.Engine Desktop.Window Unit :=
  (start {} {} {} {}).play Desktop.services (Desktop.program fun _ => Task.endActivity)
    destroyingSchedule

theorem destroyingRun_delivers :
    (Desktop.program fun _ : Unit => Task.endActivity).Silent ∧ destroyingRun.run.stage = .idle ∧
      destroyingRun.run.loop.state = .uninitialized ∧
      (callsOf destroyingRun.run.loop.journal).filter EngineCall.isPassedOn ++
        destroyingRun.run.loop.queue.tasks.flatMap Task.calls =
          [.notify (.lifecycle .created), .notify (.input (.keyUp 4)),
            .notify (.lifecycle .destroyed), .shutdown, .notify .lowMemory] := by
  have silent : (Desktop.program fun _ : Unit => Task.endActivity).Silent := by
    constructor <;> intros <;> exact List.forall_mem_nil _
  have idle : destroyingRun.run.stage = .idle := rfl
  have waits : destroyingRun.run.loop.state = .uninitialized := rfl
  obtain ⟨delivered, -, -⟩ :=
    hooks_reach_the_engine Desktop.services silent {} {} {} {} destroyingSchedule
  have goesOn : destroyingRun.run.loop.state ≠ .terminated := by
    rw [waits]
    exact LoopState.noConfusion
  exact ⟨silent, idle, waits, delivered idle goesOn⟩

end HostRun

end EngineHost
