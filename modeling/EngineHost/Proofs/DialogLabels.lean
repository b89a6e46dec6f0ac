/-
**An answer to a dialog means what its label says.**

* `Dialog.Request.label`, `Dialog.Request.meaning`: the label of an outcome, and what an action means by the labels
  of the request alone;
* `Dialog.roles_buttons`, `Dialog.label_of_mem`, `Dialog.button?_of_mem`: every button has a place of its own, and
  the label of its outcome;
* `DialogRun.current_play`: a dialog stays as it is until another one is opened or it is decided;
* `Dialog.Request.SameUnderOk`, `DialogMove.Alike`, `DialogRun.play_alike`: the labels that ok hides leave no trace
  in a run;
* `DialogRun.answers_by_labels`: answers and runs together.
-/

import Mathlib.Data.List.Forall2
import EngineHost.Proofs.SingleDialog

namespace EngineHost

variable {ε δ τ : Type}

namespace Dialog

/-! ### Labels -/

/-- The label of an outcome in a request. -/
def Request.label (request : Request) : Outcome → Option String
  | .ok => request.ok
  | .yes => request.yes
  | .no => request.no
  | .cancel => request.cancel

/-- What an action on a dialog means by the labels of its request. -/
def Request.meaning (request : Request) : Action → Option Outcome
  | .button .positive =>
    if request.ok.isSome then some .ok else if request.yes.isSome then some .yes else none
  | .button .negative => if request.ok.isNone ∧ request.no.isSome then some .no else none
  | .button .neutral => if request.cancel.isSome then some .cancel else none
  | .dismissed => some .cancel

/-- The button of a label has that label, if there is one. -/
theorem mem_ofLabel {button : Button} {role : Role} {outcome : Outcome} {label : Option String} :
    button ∈ Button.ofLabel role outcome label ↔
      label = some button.label ∧ button.role = role ∧ button.outcome = outcome := by
  obtain ⟨place, text, result⟩ := button
  unfold Button.ofLabel
  cases label with
  | none => simp
  | some label => simp [eq_comm, and_left_comm]

theorem roles_ofLabel (role : Role) (outcome : Outcome) (label : Option String) :
    ((Button.ofLabel role outcome label).map Button.role).Sublist [role] := by
  cases label with
  | none => exact List.nil_sublist _
  | some label => exact List.Sublist.refl _

/-- The buttons stand in the order of their places, at most one at each. -/
theorem roles_buttons (request : Request) :
    (request.buttons.map Button.role).Sublist [.positive, .negative, .neutral] := by
  unfold Request.buttons
  rw [List.map_append]
  -- Label by label: one that is left out leaves out its place.
  change List.Sublist _ (([Role.positive] ++ [Role.negative]) ++ [Role.neutral])
  refine List.Sublist.append ?_ (roles_ofLabel .neutral .cancel request.cancel)
  split
  · exact (roles_ofLabel .positive .ok request.ok).trans (List.sublist_append_left _ _)
  · rw [List.map_append]
    exact (roles_ofLabel .positive .yes request.yes).append (roles_ofLabel .negative .no request.no)

/-- No two buttons have the same place. -/
theorem nodup_roles (request : Request) : (request.buttons.map Button.role).Nodup :=
  (roles_buttons request).nodup (by decide)

/-- A button shows the label of its outcome. -/
theorem label_of_mem {request : Request} {button : Button} (member : button ∈ request.buttons) :
    request.label button.outcome = some button.label := by
  unfold Request.buttons at member
  have shows {role : Role} (outcome : Outcome)
      (its : button ∈ Button.ofLabel role outcome (request.label outcome)) :
      request.label button.outcome = some button.label := by
    obtain ⟨label, -, same⟩ := mem_ofLabel.mp its
    rw [same, label]
  rcases List.mem_append.mp member with first | cancel
  · split at first
    · exact shows .ok first
    · rcases List.mem_append.mp first with yes | no
      · exact shows .yes yes
      · exact shows .no no
  · exact shows .cancel cancel

/-- If the places differ, the button of a place is found there. -/
theorem button?_of_mem (view : View) (distinct : (view.buttons.map Button.role).Nodup) {button : Button}
    (member : button ∈ view.buttons) : view.button? button.role = some button := by
  obtain ⟨title, message, buttons, icon, cancelable, cancelOnTouchOutside⟩ := view
  unfold View.button?
  induction buttons with
  | nil => cases member
  | cons first rest ih =>
    obtain ⟨new, distinct⟩ := List.nodup_cons.mp distinct
    rcases List.mem_cons.mp member with rfl | later
    · exact List.find?_cons_of_pos (beq_self_eq_true _)
    · have other : first.role ≠ button.role := fun same =>
        new (same ▸ List.mem_map_of_mem later)
      rw [List.find?_cons_of_neg (by simpa using other)]
      exact ih distinct later

/-- An action on the dialog of a request means what the labels say. -/
theorem outcome?_ofRequest (request : Request) (action : Action) :
    (View.ofRequest request).outcome? action = request.meaning action := by
  obtain ⟨title, message, ok, yes, no, cancel, icon⟩ := request
  cases action with
  | dismissed => rfl
  | button role => cases role <;> cases ok <;> cases yes <;> cases no <;> cases cancel <;> rfl

/-- Two requests with an ok label that differ in no other labels than those for yes and no. -/
def Request.SameUnderOk (first second : Request) : Prop :=
  first.ok.isSome = true ∧ second = { first with yes := second.yes, no := second.no }

/-- The labels for yes and no do not show beside an ok label. -/
theorem ofRequest_of_same {first second : Request} (same : first.SameUnderOk second) :
    View.ofRequest second = View.ofRequest first := by
  obtain ⟨hasOk, its⟩ := same
  rw [its]
  simp only [View.ofRequest, Request.buttons, hasOk, if_true]

end Dialog

/-- Two moves that are the same, or that open dialogs whose requests differ in labels that ok hides. -/
inductive DialogMove.Alike : DialogMove ε δ τ → DialogMove ε δ τ → Prop
  | same (move : DialogMove ε δ τ) : Alike move move
  | requests {first second : Dialog.Request} (same : first.SameUnderOk second) :
    Alike (.hook (.openDialog first)) (.hook (.openDialog second))

namespace DialogRun

/-! ### Answers -/

variable {services : Services δ} {run : DialogRun ε δ τ}

/-- What happened to the dialogs is not forgotten. -/
theorem events_play (moves : List (DialogMove ε δ τ)) : run.events <+: (run.play services moves).events := by
  induction moves generalizing run with
  | nil => exact List.prefix_rfl
  | cons move moves ih =>
    refine List.IsPrefix.trans ?_ ih
    cases move with
    | hook hook => exact List.prefix_append _ _
    | meanwhile loop device => exact List.prefix_rfl

/-- A move that replaces no dialog leaves the open one as it is. -/
theorem current_step {move : DialogMove ε δ τ} {pending : Dialog.Pending}
    (current : run.host.memory.dialogs.current = some pending)
    (quiet : ∀ event ∈ (run.step services move).events, event.replaces = false) :
    (run.step services move).host.memory.dialogs.current = some pending := by
  cases move with
  | meanwhile loop device => exact current
  | hook hook =>
    cases hook with
    | openDialog request =>
      -- A dialog that is opened takes the place of the open one, shown or not.
      have replaced := quiet _ (List.mem_append_right _ List.mem_cons_self)
      cases replaced
    | answerDialog handle action =>
      have undecided := quiet _ (List.mem_append_right _ List.mem_cons_self)
      rw [DialogEvent.replaces, Host.answerDialog_fst] at undecided
      simp only [DialogRun.step, Hook.run, memory_answerDialog, resolve_dialogs, undecided,
        Bool.false_eq_true, if_false]
      exact current
    | _ =>
      simp only [DialogRun.step]
      rw [dialogs_run services run.host _ rfl]
      exact current

/-- Moves that replace no dialog leave the open one as it is. -/
theorem current_play (moves : List (DialogMove ε δ τ)) {pending : Dialog.Pending}
    (current : run.host.memory.dialogs.current = some pending)
    (quiet : ∀ event ∈ (run.play services moves).events, event.replaces = false) :
    (run.play services moves).host.memory.dialogs.current = some pending := by
  induction moves generalizing run with
  | nil => exact current
  | cons move moves ih =>
    exact ih (current_step current fun event member => quiet event ((events_play moves).subset member)) quiet

/-- Until it is replaced, a dialog that is shown is answered by the labels of its request. -/
theorem answer_of_shown (services : Services δ) (host : Host ε δ τ) (request : Dialog.Request)
    (moves : List (DialogMove ε δ τ)) (action : Dialog.Action) :
    let handle := (host.openDialog services request).1
    let waiting := play services moves ⟨(host.openDialog services request).2, []⟩
    services.shows handle (Dialog.View.ofRequest request) host.device = true →
    (∀ event ∈ waiting.events, event.replaces = false) →
    (waiting.host.answerDialog handle action).1 = request.meaning action := by
  intro handle waiting shown quiet
  obtain ⟨number, -, current, -⟩ := dialogs_openDialog services host request
  rw [← number, if_pos shown] at current
  rw [Host.answerDialog_fst, resolve_open (current_play moves current quiet), Dialog.outcome?_ofRequest]

/-! ### Runs that differ in hidden labels -/

/-- Requests that differ in hidden labels do the same to a host. -/
theorem openDialog_of_same {first second : Dialog.Request} (same : first.SameUnderOk second)
    (services : Services δ) (host : Host ε δ τ) :
    host.openDialog services second = host.openDialog services first := by
  unfold Host.openDialog Dialog.Slot.openDialog
  rw [Dialog.ofRequest_of_same same]

/-- Moves that differ in hidden labels lead to one state. -/
theorem step_alike {first second : DialogMove ε δ τ} (alike : first.Alike second) :
    run.step services second = run.step services first := by
  cases alike with
  | same => rfl
  | requests same =>
    simp only [DialogRun.step, Hook.run, Hook.dialogEvent?, openDialog_of_same same,
      Dialog.ofRequest_of_same same]

/-- Runs that differ in hidden labels are the same. -/
theorem play_alike {moves others : List (DialogMove ε δ τ)}
    (alike : List.Forall₂ DialogMove.Alike moves others) : run.play services others = run.play services moves := by
  induction alike generalizing run with
  | nil => rfl
  | @cons move other moves others first _ ih =>
    calc run.play services (other :: others)
        = (run.step services other).play services others := rfl
      _ = (run.step services move).play services others := by rw [step_alike first]
      _ = (run.step services move).play services moves := ih

/-- **An answer to a dialog means what its label says.** For every request, its labels empty or not:

* the buttons have different places, and stand in the order of their places;
* a press of a button means the outcome of that button, whose label in the request the button shows;
* from the time it is shown until another dialog takes its place or it is decided, whatever happens meanwhile, a
  dialog is answered by what the labels of its request say of the action.

Requests with an ok label that differ in those for yes and no are shown alike, and in any two runs that differ in
nothing else all is the same: answers, queue, and what the system was asked. -/
theorem answers_by_labels (services : Services δ) :
    (∀ request : Dialog.Request,
      let view := Dialog.View.ofRequest request
      (view.buttons.map Dialog.Button.role).Nodup ∧
      (view.buttons.map Dialog.Button.role).Sublist [.positive, .negative, .neutral] ∧
      (∀ button ∈ view.buttons, view.outcome? (.button button.role) = some button.outcome ∧
        request.label button.outcome = some button.label) ∧
      ∀ (host : Host ε δ τ) (moves : List (DialogMove ε δ τ)) (action : Dialog.Action),
        let handle := (host.openDialog services request).1
        let waiting := play services moves ⟨(host.openDialog services request).2, []⟩
        services.shows handle view host.device = true →
        (∀ event ∈ waiting.events, event.replaces = false) →
        (waiting.host.answerDialog handle action).1 = request.meaning action) ∧
    (∀ first second : Dialog.Request, first.SameUnderOk second →
      Dialog.View.ofRequest second = Dialog.View.ofRequest first) ∧
    ∀ (run : DialogRun ε δ τ) (moves others : List (DialogMove ε δ τ)),
      List.Forall₂ DialogMove.Alike moves others → run.play services others = run.play services moves := by
  refine ⟨fun request => ?_, fun first second => Dialog.ofRequest_of_same, fun run moves others => play_alike⟩
  have distinct := Dialog.nodup_roles request
  refine ⟨distinct, Dialog.roles_buttons request, fun button member => ?_,
    fun host moves action => answer_of_shown services host request moves action⟩
  have found := Dialog.button?_of_mem (Dialog.View.ofRequest request) distinct member
  exact ⟨congrArg (Option.map Dialog.Button.outcome) found, Dialog.label_of_mem member⟩

/-- A request that hides its labels for yes and no under one for ok, which is empty, and so is the one for cancel. -/
def hidingRequest : Dialog.Request := { ok := some "", yes := some "Yes", no := some "No", cancel := some "" }

/-- The same request without the labels that it hides. -/
def bareRequest : Dialog.Request := { ok := some "", cancel := some "" }

/-- The user presses a button that the first dialog does not have, and answers a dialog that is not there. -/
def strayMoves : List (DialogMove Unit Scripted.Device Unit) :=
  [.hook (.answerDialog ⟨1⟩ (.button .negative)), .hook (.answerDialog ⟨7⟩ .dismissed)]

theorem hidingRequest_answered :
    let fresh : DialogRun Unit Scripted.Device Unit := start () {} {} {}
    let waiting := (fresh.host.openDialog Scripted.services hidingRequest).2
    let later := (play Scripted.services strayMoves ⟨waiting, []⟩).host
    (∀ event ∈ (play Scripted.services strayMoves ⟨waiting, []⟩).events, event.replaces = false) ∧
      (later.answerDialog ⟨1⟩ (.button .positive)).1 = some .ok ∧
      (later.answerDialog ⟨1⟩ (.button .negative)).1 = none ∧
      (later.answerDialog ⟨1⟩ (.button .neutral)).1 = some .cancel ∧
      hidingRequest.SameUnderOk bareRequest ∧
      fresh.play Scripted.services (.hook (.openDialog bareRequest) :: strayMoves) =
        fresh.play Scripted.services (.hook (.openDialog hidingRequest) :: strayMoves) := by
  intro fresh waiting later
  have quiet : ∀ event ∈ (play Scripted.services strayMoves ⟨waiting, []⟩).events,
      event.replaces = false := by
    decide
  have hides : hidingRequest.SameUnderOk bareRequest := ⟨rfl, rfl⟩
  obtain ⟨meaning, -, alike⟩ := @answers_by_labels Unit _ Unit Scripted.services
  obtain ⟨-, -, -, means⟩ := meaning hidingRequest
  have answered (action : Dialog.Action) :
      (later.answerDialog ⟨1⟩ action).1 = hidingRequest.meaning action :=
    means fresh.host strayMoves action rfl quiet
  refine ⟨quiet, answered _, answered _, answered _, hides, alike fresh _ _ ?_⟩
  exact .cons (.requests hides) (List.forall₂_same.mpr fun move _ => .same move)

end DialogRun

end EngineHost
