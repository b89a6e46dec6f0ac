/-
**At most one dialog is open, and each is answered at most once.**

* `DialogEvent`, `DialogRun`: what happens to the dialogs of a host, among all other hooks and whatever
  else the loop and the system do;
* `OpenDialog`: the dialog that the past of a run leaves open;
* `DialogRun.Tracked`: what the host remembers is what the past says, with `DialogRun.Tracked.step` for
  one move;
* `DialogRun.dialogs_one_at_a_time`: numbers, outcomes and failures over a whole run.
-/

import EngineHost.Proofs.History
import EngineHost.Proofs.HookDelivery
import EngineHost.Scripted.Device
import Mathlib.Algebra.Group.Nat.Defs

namespace EngineHost

variable {ε δ τ α : Type}

/-! ### What happens to dialogs -/

/-- Whether a dialog is shown by either presenter. -/
def Services.shows (services : Services δ) (handle : Dialog.Handle) (view : Dialog.View) (device : δ) :
    Bool :=
  let modern := services.present handle view device
  modern.answer.isOk || (services.presentLegacy handle view modern.device).answer.isOk

/-- What happens to the dialogs of a host: one is opened, shown or not, or one is answered, with or without
an outcome. -/
inductive DialogEvent
  | opened (handle : Dialog.Handle) (view : Dialog.View) (shown : Bool)
  | answered (handle : Dialog.Handle) (action : Dialog.Action) (outcome? : Option Dialog.Outcome)
deriving DecidableEq, Repr

namespace DialogEvent

/-- Whether a dialog was opened. -/
@[simp] def isOpened : DialogEvent → Bool
  | .opened _ _ _ => true
  | .answered _ _ _ => false

/-- Whether what was open is not open any more: another dialog took its place, or it was decided. -/
@[simp] def replaces : DialogEvent → Bool
  | .opened _ _ _ => true
  | .answered _ _ outcome? => outcome?.isSome

/-- The number of a dialog that was opened. -/
@[simp] def opened? : DialogEvent → Option Dialog.Handle
  | .opened handle _ _ => some handle
  | .answered _ _ _ => none

/-- The number of a dialog that was decided. -/
@[simp] def decided? : DialogEvent → Option Dialog.Handle
  | .opened _ _ _ => none
  | .answered handle _ outcome? => outcome?.map fun _ => handle

end DialogEvent

/-- The numbers of the dialogs that were opened, in order. -/
def openedOf (events : List DialogEvent) : List Dialog.Handle := events.filterMap DialogEvent.opened?

/-- The numbers of the dialogs that were decided, in order. -/
def decidedOf (events : List DialogEvent) : List Dialog.Handle := events.filterMap DialogEvent.decided?

@[simp] theorem openedOf_concat (events : List DialogEvent) (last : DialogEvent) :
    openedOf (events ++ [last]) = openedOf events ++ last.opened?.toList := by
  rw [openedOf, List.filterMap_append]
  cases last <;> rfl

@[simp] theorem decidedOf_concat (events : List DialogEvent) (last : DialogEvent) :
    decidedOf (events ++ [last]) = decidedOf events ++ last.decided?.toList := by
  rw [decidedOf, List.filterMap_append]
  rcases last with _ | ⟨handle, action, _ | outcome⟩ <;> rfl

/-- What a hook does to the dialogs. -/
def Hook.dialogEvent? (services : Services δ) (host : Host ε δ τ) : Hook → Option DialogEvent
  | .openDialog request =>
    let handle := (host.openDialog services request).1
    let view := Dialog.View.ofRequest request
    some (.opened handle view (services.shows handle view host.device))
  | .answerDialog handle action => some (.answered handle action (host.answerDialog handle action).1)
  | .lifecycle _ | .input _ | .windowFocus _ | .lowMemory | .keyboardLayout _ _ | .requestKeyboard _
  | .keyboardResult _ | .settingsChanged | .geometry => none

/-- A host, and what happened to its dialogs. -/
structure DialogRun (ε δ τ : Type) where
  host : Host ε δ τ
  events : List DialogEvent := []

/-- A move of a run: a hook is called, or the loop and the system change in any way. -/
inductive DialogMove (ε δ τ : Type)
  | hook (hook : Hook)
  | meanwhile (loop : FrameLoop ε τ) (device : δ)

/-! ### The hooks and the dialogs -/

section Hooks

variable (services : Services δ) (host : Host ε δ τ)

/-- A dialog is shown by the first presenter that can. -/
theorem showDialog_answer (handle : Dialog.Handle) (view : Dialog.View) (device : δ) :
    (services.showDialog handle view device).answer.isOk = services.shows handle view device := by
  unfold Services.showDialog Services.shows
  rw [Ask.bind_apply]
  cases modern : (services.present handle view device).answer with
  | ok shown =>
    simp only [modern]
    rfl
  | error failure =>
    simp only [modern]
    rfl

/-- A dialog that gives way leaves the system as it is. -/
theorem giveWay_device (slot : Dialog.Slot) (device : δ) : (slot.giveWay device).device = device := by
  unfold Dialog.Slot.giveWay
  cases slot.current <;> rfl

/-- The next number is given away, and the dialog is open exactly if it is shown. -/
theorem dialogs_openDialog (request : Dialog.Request) :
    let handle : Dialog.Handle := ⟨host.memory.dialogs.next⟩
    let view := Dialog.View.ofRequest request
    let after := (host.openDialog services request).2.memory.dialogs
    (host.openDialog services request).1 = handle ∧ after.next = host.memory.dialogs.next + 1 ∧
      after.current = (if services.shows handle view host.device then some ⟨handle, view⟩ else none) ∧
      after.failure.isSome = !services.shows handle view host.device := by
  intro handle view after
  have shown := showDialog_answer services handle view host.device
  let asked := host.memory.dialogs.openDialog services request host.device
  have opens : (host.openDialog services request).1 = asked.answer.1 := rfl
  have remembers : after = asked.answer.2 := rfl
  rw [opens, remembers, ← shown]
  unfold asked Dialog.Slot.openDialog
  rw [Ask.bind_apply, giveWay_device, Ask.bind_apply]
  cases (services.showDialog handle view host.device).answer with
  | ok shown => exact ⟨rfl, rfl, rfl, rfl⟩
  | error failure => exact ⟨rfl, rfl, rfl, rfl⟩

/-- Without an outcome an answer leaves the dialogs as they are, and with one no dialog is open. -/
theorem resolve_dialogs (handle : Dialog.Handle) (action : Dialog.Action) (slot : Dialog.Slot) :
    (slot.resolve handle action).2 =
      if (slot.resolve handle action).1.isSome then { slot with current := none } else slot := by
  unfold Dialog.Slot.resolve
  cases slot.current with
  | none => rfl
  | some current =>
    by_cases its : current.handle = handle
    · simp only [if_pos its]
      cases current.view.outcome? action <;> rfl
    · simp only [if_neg its]
      rfl

/-- An answer decides the open dialog, by what it means there. -/
theorem resolve_eq_some_iff {handle : Dialog.Handle} {action : Dialog.Action} {slot : Dialog.Slot}
    {outcome : Dialog.Outcome} : (slot.resolve handle action).1 = some outcome ↔
      ∃ view, slot.current = some ⟨handle, view⟩ ∧ view.outcome? action = some outcome := by
  unfold Dialog.Slot.resolve
  cases slot.current with
  | none => simp
  | some current =>
    obtain ⟨number, view⟩ := current
    by_cases its : number = handle
    · subst its
      simp only [if_pos]
      cases means : view.outcome? action <;> simp [means]
    · simp [its]

/-- An answer to the open dialog has the meaning that it has there. -/
theorem resolve_open {slot : Dialog.Slot} {handle : Dialog.Handle} {view : Dialog.View}
    (current : slot.current = some ⟨handle, view⟩) (action : Dialog.Action) :
    (slot.resolve handle action).1 = view.outcome? action := by
  refine Option.ext fun outcome => resolve_eq_some_iff.trans ?_
  simp [current]

/-- The delivery of an outcome leaves the memory of the host as it is. -/
theorem memory_deliverOutcome (outcome : Dialog.Outcome) :
    (host.deliverOutcome outcome).memory = host.memory := by
  unfold Host.deliverOutcome
  split
  · rename_i after answered
    exact congrArg (fun reply => reply.2.memory) answered.symm
  · rename_i failure after answered
    exact congrArg (fun reply => reply.2.memory) answered.symm

/-- The host remembers what an answer decides, and nothing else of it. -/
theorem memory_answerDialog (handle : Dialog.Handle) (action : Dialog.Action) :
    (host.answerDialog handle action).2.memory = { host.memory with
      dialogs := (host.memory.dialogs.resolve handle action).2 } := by
  have dialogs := resolve_dialogs handle action host.memory.dialogs
  cases decided : (host.memory.dialogs.resolve handle action).1 with
  | none =>
    rw [decided] at dialogs
    rw [Host.answerDialog_of_none decided, dialogs]
    split <;> rfl
  | some outcome =>
    rw [Host.answerDialog_of_some decided]
    exact memory_deliverOutcome _ outcome

/-- No other hook changes the dialogs. -/
theorem dialogs_run (hook : Hook) (none : hook.dialogEvent? services host = none) :
    (hook.run services host).memory.dialogs = host.memory.dialogs := by
  cases hook with
  | openDialog | answerDialog => cases none
  | keyboardLayout visibleHeight rootHeight =>
    simp only [Hook.run, Host.keyboardLayout]
    split <;> rfl
  | keyboardResult code =>
    simp only [Hook.run, Host.keyboardResult]
    split
    · rfl
    · split <;> rfl
  | lifecycle | input | windowFocus | lowMemory | requestKeyboard | settingsChanged | geometry => rfl

end Hooks

/-- An answer without an outcome leaves the memory of the host and the queue as they are. -/
theorem ignored_answer {handle : Dialog.Handle} {action : Dialog.Action} {host : Host ε δ τ}
    (nothing : (host.answerDialog handle action).1 = none) :
    (host.answerDialog handle action).2.memory = host.memory ∧
      (host.answerDialog handle action).2.loop.queue = host.loop.queue := by
  rw [Host.answerDialog_fst] at nothing
  have dialogs := resolve_dialogs handle action host.memory.dialogs
  rw [nothing] at dialogs
  refine ⟨?_, ?_⟩
  · rw [memory_answerDialog, dialogs]
    rfl
  · rw [Host.answerDialog_of_none nothing]
    split <;> rfl

/-- An outcome leaves no dialog open, and reaches the queue unless it is closed. -/
theorem decided_answer {handle : Dialog.Handle} {action : Dialog.Action} {host : Host ε δ τ}
    {outcome : Dialog.Outcome} (decided : (host.answerDialog handle action).1 = some outcome) :
    (host.answerDialog handle action).2.memory.dialogs.handle? = none ∧
      (host.answerDialog handle action).2.loop.queue = if host.loop.queue.closed then host.loop.queue
        else { host.loop.queue with
          tasks := host.loop.queue.tasks ++ [Task.notify (.dialog outcome)] } := by
  rw [Host.answerDialog_fst] at decided
  have dialogs := resolve_dialogs handle action host.memory.dialogs
  rw [decided] at dialogs
  refine ⟨?_, ?_⟩
  · rw [memory_answerDialog, dialogs]
    rfl
  · rw [Host.answerDialog_of_some decided]
    exact (Host.offered_deliverOutcome outcome _).queue

/-! ### Runs -/

/-- The dialog that a history leaves open: the last one that was opened, if it was shown and not decided
since. -/
def OpenDialog (events : List DialogEvent) (handle : Dialog.Handle) (view : Dialog.View) : Prop :=
  Standing (· = .opened handle view true) DialogEvent.replaces events

/-- Every answer has the outcome that it has for the dialog which is open at that moment, and no outcome if
another one is open or none. -/
def DecidesTheOpen (events : List DialogEvent) : Prop :=
  ∀ earlier handle action outcome? later, events = earlier ++ .answered handle action outcome? :: later →
    ∀ outcome, outcome? = some outcome ↔
      ∃ view, OpenDialog earlier handle view ∧ view.outcome? action = some outcome

/-- The last dialog that was opened was not shown. -/
def LastUnshown (events : List DialogEvent) : Prop :=
  Standing (fun event => ∃ handle view, event = .opened handle view false) DialogEvent.isOpened events

namespace DialogRun

/-- A host whose loop has not started, and no dialog so far. -/
def start (engine : ε) (config : Config) (identity : Device.Identity) (device : δ) : DialogRun ε δ τ where
  host := Host.create engine config identity device

/-- One move. -/
def step (services : Services δ) (state : DialogRun ε δ τ) : DialogMove ε δ τ → DialogRun ε δ τ
  | .hook hook =>
    { host := hook.run services state.host
      events := state.events ++ (hook.dialogEvent? services state.host).toList }
  | .meanwhile loop device => { state with host := { state.host with loop, device } }

/-- The moves of a run, in order. -/
def play (services : Services δ) (moves : List (DialogMove ε δ τ)) (state : DialogRun ε δ τ) :
    DialogRun ε δ τ :=
  moves.foldl (step services) state

/-- What the host remembers of its dialogs is what the history says. -/
structure Tracked (slot : Dialog.Slot) (events : List DialogEvent) : Prop where
  next : slot.next = (openedOf events).length + 1
  numbers : ∀ handle ∈ openedOf events, handle.id < slot.next
  rising : (openedOf events).Pairwise fun earlier later => earlier.id < later.id
  current : ∀ handle view, slot.current = some ⟨handle, view⟩ ↔ OpenDialog events handle view
  once : (decidedOf events).Nodup
  decided : ∀ handle ∈ decidedOf events, handle ∈ openedOf events ∧ slot.handle? ≠ some handle
  answers : DecidesTheOpen events
  failure : slot.failure.isSome = true ↔ LastUnshown events
  alone : slot.failure.isSome = true → slot.current = none

theorem tracked_start : Tracked {} [] where
  next := rfl
  numbers := List.forall_mem_nil _
  rising := List.Pairwise.nil
  current handle view := ⟨nofun, fun stands => absurd stands (not_standing_nil _ _)⟩
  once := List.nodup_nil
  decided := List.forall_mem_nil _
  answers earlier handle action outcome? later split := by
    cases earlier <;> cases split
  failure := ⟨nofun, fun stands => absurd stands (not_standing_nil _ _)⟩
  alone := nofun

namespace Tracked

variable {slot after : Dialog.Slot} {events : List DialogEvent}

/-- The open dialog is one of those that were opened. -/
theorem mem_openedOf {handle : Dialog.Handle} {view : Dialog.View} (isOpen : OpenDialog events handle view) :
    handle ∈ openedOf events := by
  obtain ⟨earlier, event, later, rfl, rfl, -⟩ := isOpen
  exact List.mem_filterMap.mpr ⟨_, List.mem_append_right _ List.mem_cons_self, rfl⟩

/-- A dialog is open exactly if the history leaves it open. -/
theorem handle_iff (holds : Tracked slot events) (handle : Dialog.Handle) :
    slot.handle? = some handle ↔ ∃ view, OpenDialog events handle view := by
  constructor
  · intro isOpen
    obtain ⟨⟨number, view⟩, current, rfl⟩ := Option.map_eq_some_iff.mp isOpen
    exact ⟨view, (holds.current number view).mp current⟩
  · rintro ⟨view, isOpen⟩
    exact congrArg (Option.map Dialog.Pending.handle) ((holds.current handle view).mpr isOpen)

/-- An answer decides the dialog that the history leaves open. -/
theorem outcome_iff (holds : Tracked slot events) {handle : Dialog.Handle} {action : Dialog.Action}
    (outcome : Dialog.Outcome) : (slot.resolve handle action).1 = some outcome ↔
      ∃ view, OpenDialog events handle view ∧ view.outcome? action = some outcome := by
  rw [resolve_eq_some_iff]
  exact exists_congr fun view => and_congr_left' (holds.current handle view)

/-- A dialog is opened in place of the one before. -/
theorem opens (holds : Tracked slot events) (view : Dialog.View) (shown : Bool)
    (next : after.next = slot.next + 1)
    (current : after.current = if shown then some ⟨⟨slot.next⟩, view⟩ else none)
    (failure : after.failure.isSome = !shown) :
    Tracked after (events ++ [.opened ⟨slot.next⟩ view shown]) where
  next := by rw [next, holds.next, openedOf_concat, List.length_append]; rfl
  numbers handle member := by
    rw [next]
    rw [openedOf_concat] at member
    rcases List.mem_append.mp member with old | new
    · exact Nat.lt_succ_of_lt (holds.numbers handle old)
    · rw [List.mem_singleton.mp new]
      exact Nat.lt_succ_self slot.next
  rising := by
    rw [openedOf_concat]
    refine List.pairwise_append.mpr ⟨holds.rising, List.pairwise_singleton _ _, ?_⟩
    intro earlier member later last
    rw [List.mem_singleton.mp last]
    exact holds.numbers earlier member
  current handle view := by
    unfold OpenDialog
    rw [current, standing_concat]
    cases shown <;> simp
  once := by
    rw [decidedOf_concat]
    exact (List.append_nil _).symm ▸ holds.once
  decided handle member := by
    simp only [decidedOf_concat, DialogEvent.decided?, Option.toList, List.append_nil] at member
    obtain ⟨known, -⟩ := holds.decided handle member
    refine ⟨?_, fun isOpen => ?_⟩
    · rw [openedOf_concat]
      exact List.mem_append_left _ known
    · -- The new number is greater than all that were given away.
      unfold Dialog.Slot.handle? at isOpen
      rw [current] at isOpen
      cases shown with
      | false => cases isOpen
      | true =>
        cases isOpen
        exact Nat.lt_irrefl _ (holds.numbers _ known)
  answers earlier handle action outcome? later split := by
    rcases split_concat split with ⟨-, other⟩ | ⟨between, -, old⟩
    · cases other
    · exact holds.answers earlier handle action outcome? between old
  failure := by
    unfold LastUnshown
    rw [failure, standing_concat]
    cases shown <;> simp
  alone failed := by
    rw [failure] at failed
    cases shown with
    | true => cases failed
    | false => exact current

/-- An answer that decides nothing changes nothing. -/
theorem ignored (holds : Tracked slot events) (handle : Dialog.Handle) (action : Dialog.Action)
    (answers : DecidesTheOpen (events ++ [.answered handle action none])) :
    Tracked slot (events ++ [.answered handle action none]) := by
  have opened : openedOf (events ++ [.answered handle action none]) = openedOf events := by
    rw [openedOf_concat]
    exact List.append_nil _
  have decided : decidedOf (events ++ [.answered handle action none]) = decidedOf events := by
    rw [decidedOf_concat]
    exact List.append_nil _
  refine ⟨?_, ?_, ?_, fun number view => ?_, ?_, ?_, answers, ?_, holds.alone⟩
  · exact opened ▸ holds.next
  · exact opened ▸ holds.numbers
  · exact opened ▸ holds.rising
  · rw [holds.current number view]
    unfold OpenDialog
    rw [standing_concat]
    simp
  · exact decided ▸ holds.once
  · exact opened ▸ decided ▸ holds.decided
  · rw [holds.failure]
    unfold LastUnshown
    rw [standing_concat]
    simp

/-- An outcome decides the open dialog. -/
theorem decides (holds : Tracked slot events) {handle : Dialog.Handle} {view : Dialog.View}
    (isOpen : OpenDialog events handle view) (action : Dialog.Action) (outcome : Dialog.Outcome)
    (answers : DecidesTheOpen (events ++ [.answered handle action (some outcome)])) :
    Tracked { slot with current := none } (events ++ [.answered handle action (some outcome)]) := by
  have opened : openedOf (events ++ [.answered handle action (some outcome)]) = openedOf events := by
    rw [openedOf_concat]
    exact List.append_nil _
  have decided : decidedOf (events ++ [.answered handle action (some outcome)]) =
      decidedOf events ++ [handle] := decidedOf_concat events _
  have fresh : handle ∉ decidedOf events := by
    intro member
    exact (holds.decided handle member).2 ((holds.handle_iff handle).mpr ⟨view, isOpen⟩)
  refine ⟨?_, ?_, ?_, fun number view => ?_, ?_, fun number member => ?_, answers, ?_, fun _ => rfl⟩
  · exact opened ▸ holds.next
  · exact opened ▸ holds.numbers
  · exact opened ▸ holds.rising
  · unfold OpenDialog
    rw [standing_concat]
    simp
  · rw [decided]
    refine List.nodup_append.mpr ⟨holds.once, List.pairwise_singleton _ handle, ?_⟩
    intro old known new its same
    rw [← List.mem_singleton.mp its, ← same] at fresh
    exact fresh known
  · rw [decided] at member
    refine ⟨?_, nofun⟩
    rw [opened]
    rcases List.mem_append.mp member with old | new
    · exact (holds.decided number old).1
    · rw [List.mem_singleton.mp new]
      exact mem_openedOf isOpen
  · rw [holds.failure]
    unfold LastUnshown
    rw [standing_concat]
    simp

/-- A dialog is answered. -/
theorem answered (holds : Tracked slot events) (handle : Dialog.Handle) (action : Dialog.Action) :
    Tracked (slot.resolve handle action).2
      (events ++ [.answered handle action (slot.resolve handle action).1]) := by
  have answers : DecidesTheOpen (events ++ [.answered handle action (slot.resolve handle action).1]) := by
    intro earlier number act outcome? later split
    rcases split_concat split with ⟨rfl, same⟩ | ⟨between, -, old⟩
    · cases same
      exact holds.outcome_iff
    · exact holds.answers earlier number act outcome? between old
  rw [resolve_dialogs]
  cases decided : (slot.resolve handle action).1 with
  | none => exact holds.ignored handle action (decided ▸ answers)
  | some outcome =>
    obtain ⟨view, isOpen, -⟩ := (holds.outcome_iff outcome).mp decided
    exact holds.decides isOpen action outcome (decided ▸ answers)

/-- One move. -/
theorem step {services : Services δ} {state : DialogRun ε δ τ}
    (holds : Tracked state.host.memory.dialogs state.events) (move : DialogMove ε δ τ) :
    Tracked (state.step services move).host.memory.dialogs (state.step services move).events := by
  cases move with
  | meanwhile loop device => exact holds
  | hook hook =>
    simp only [DialogRun.step]
    cases hook with
    | openDialog request =>
      obtain ⟨handle, next, current, failure⟩ := dialogs_openDialog services state.host request
      simp only [Hook.dialogEvent?, Hook.run, handle]
      exact holds.opens _ _ next current failure
    | answerDialog handle action =>
      simp only [Hook.dialogEvent?, Hook.run, Host.answerDialog_fst, memory_answerDialog]
      exact holds.answered handle action
    | _ =>
      rw [dialogs_run services state.host _ rfl]
      exact (List.append_nil state.events).symm ▸ holds

theorem play {services : Services δ} {state : DialogRun ε δ τ}
    (holds : Tracked state.host.memory.dialogs state.events) (moves : List (DialogMove ε δ τ)) :
    Tracked (state.play services moves).host.memory.dialogs (state.play services moves).events := by
  induction moves generalizing state with
  | nil => exact holds
  | cons move moves ih => exact ih (holds.step move)

end Tracked

/-- **At most one dialog is open, and each is answered at most once.** Whatever hooks are called, however the
presenters answer, and whatever the loop does meanwhile:

* the numbers of the dialogs rise, and fit a `UInt64` as long as there are fewer than `2 ^ 64 - 1` of them;
* the open dialog is the last one that was opened, if it was shown and not decided since;
* every answer has the outcome that it has for the open dialog, none of them is decided twice, and the same is
  true of the next answer: without an outcome it changes neither the dialogs nor the queue, and with one no
  dialog is open any more, and an open queue gets one more task, which tells the engine the outcome;
* a failure is remembered exactly if the last dialog was not shown, and then no dialog is open. -/
theorem dialogs_one_at_a_time (services : Services δ) (engine : ε) (config : Config)
    (identity : Device.Identity) (device : δ) (moves : List (DialogMove ε δ τ)) :
    let state := (start engine config identity device).play services moves
    let dialogs := state.host.memory.dialogs
    let queue := state.host.loop.queue
    ((openedOf state.events).Pairwise (fun earlier later => earlier.id < later.id) ∧
      ((openedOf state.events).length < 2 ^ 64 - 1 → dialogs.next < 2 ^ 64 ∧
        ∀ handle ∈ openedOf state.events, handle.id < dialogs.next)) ∧
    (∀ handle, dialogs.handle? = some handle ↔ ∃ view, OpenDialog state.events handle view) ∧
    (DecidesTheOpen state.events ∧ (decidedOf state.events).Nodup) ∧
    (∀ handle action,
      let answer := (state.host.answerDialog handle action).1
      let after := (state.host.answerDialog handle action).2
      (∀ outcome, answer = some outcome ↔
        ∃ view, OpenDialog state.events handle view ∧ view.outcome? action = some outcome) ∧
      (answer = none → after.memory = state.host.memory ∧ after.loop.queue = queue) ∧
      ∀ outcome, answer = some outcome → after.memory.dialogs.handle? = none ∧
        after.loop.queue = if queue.closed then queue
          else { queue with tasks := queue.tasks ++ [Task.notify (.dialog outcome)] }) ∧
    (dialogs.failure.isSome = true ↔ LastUnshown state.events) ∧
    (dialogs.failure.isSome = true → dialogs.handle? = none) := by
  intro state dialogs queue
  have holds : Tracked dialogs state.events := (tracked_start : Tracked {} []).play moves
  refine ⟨⟨holds.rising, fun few => ⟨?_, holds.numbers⟩⟩, holds.handle_iff, ⟨holds.answers, holds.once⟩,
    fun handle action => ⟨fun outcome => ?_, ignored_answer, fun outcome => decided_answer⟩,
    holds.failure, fun failed => ?_⟩
  · have next := holds.next
    omega
  · rw [Host.answerDialog_fst]
    exact holds.outcome_iff outcome
  · exact congrArg (Option.map Dialog.Pending.handle) (holds.alone failed)

/-- A dialog gives way to one that only the legacy presenter shows. It is answered late, the other one with a
button that it does not have, by a dismissal, and once more; the last dialog cannot be shown at all. -/
def supersedingMoves : List (DialogMove Unit Scripted.Device Unit) :=
  let loop : FrameLoop Unit Unit := FrameLoop.create () {}
  let failure : PresenterFailure := .failed "no window"
  [.hook (.openDialog { ok := some "OK" }),
    .meanwhile loop { modern := some failure }, .hook (.openDialog { yes := some "Yes" }),
    .hook (.answerDialog ⟨1⟩ (.button .positive)), .hook (.answerDialog ⟨2⟩ (.button .negative)),
    .hook (.answerDialog ⟨2⟩ .dismissed), .hook (.answerDialog ⟨2⟩ .dismissed),
    .meanwhile loop { modern := some failure, legacy := some failure }, .hook (.openDialog {})]

/-- A scripted system through those moves. -/
def supersedingRun : DialogRun Unit Scripted.Device Unit :=
  (start () {} {} {}).play Scripted.services supersedingMoves

theorem supersedingRun_dialogs :
    openedOf supersedingRun.events = [⟨1⟩, ⟨2⟩, ⟨3⟩] ∧ decidedOf supersedingRun.events = [⟨2⟩] ∧
      supersedingRun.host.memory.dialogs.next < 2 ^ 64 ∧ LastUnshown supersedingRun.events ∧
      supersedingRun.host.memory.dialogs.handle? = none := by
  have opened : openedOf supersedingRun.events = [⟨1⟩, ⟨2⟩, ⟨3⟩] := rfl
  have failed : supersedingRun.host.memory.dialogs.failure.isSome = true := rfl
  obtain ⟨⟨-, fits⟩, -, -, -, unshown, alone⟩ :=
    dialogs_one_at_a_time Scripted.services () {} {} {} supersedingMoves
  have few : (openedOf supersedingRun.events).length < 2 ^ 64 - 1 := by
    rw [opened]
    decide
  exact ⟨opened, rfl, (fits few).1, unshown.mp failed, alone failed⟩

end DialogRun

end EngineHost
