/-
**Dialogs: what is asked for, what is shown, and what the user's answer means.**

* `Dialog.Request`: texts and labels, each of which may be left out;
* `Dialog.View.ofRequest`: the dialog that a request describes. A label for ok hides those for yes and no;
* `Dialog.View.button?`: the button of a role;
* `Dialog.View.outcome?`: what an action on the dialog means, if it has a meaning.
-/

namespace EngineHost.Dialog

/-- The icon of a dialog. -/
inductive Icon
  | none
  | info
  | alert
deriving DecidableEq, Repr, Inhabited

/-- The icon of a code; every code but two stands for no icon. -/
def Icon.ofCode (code : Int32) : Icon :=
  if code = 1 then .info else if code = 2 then .alert else .none

/-- The name of an icon. -/
def Icon.name : Icon → String
  | .none => "None"
  | .info => "Info"
  | .alert => "Alert"

/-- A request for a dialog. -/
structure Request where
  title : Option String := Option.none
  message : Option String := Option.none
  ok : Option String := Option.none
  yes : Option String := Option.none
  no : Option String := Option.none
  cancel : Option String := Option.none
  icon : Icon := .none
deriving DecidableEq, Repr, Inhabited

/-- What the user decided. -/
inductive Outcome
  | ok
  | yes
  | no
  | cancel
deriving DecidableEq, Repr

/-- The name of an outcome. -/
def Outcome.name : Outcome → String
  | .ok => "Ok"
  | .yes => "Yes"
  | .no => "No"
  | .cancel => "Cancel"

/-- The place of a button. -/
inductive Role
  | positive
  | negative
  | neutral
deriving DecidableEq, Repr

/-- The name of a role. -/
def Role.name : Role → String
  | .positive => "Positive"
  | .negative => "Negative"
  | .neutral => "Neutral"

/-- A button of a dialog. -/
structure Button where
  role : Role
  label : String
  outcome : Outcome
deriving DecidableEq, Repr

/-- A dialog as it is shown. -/
structure View where
  title : String
  message : String
  buttons : List Button
  icon : Icon
  cancelable : Bool := true
  cancelOnTouchOutside : Bool := true
deriving DecidableEq, Repr

/-- The button of a label, if there is a label. -/
def Button.ofLabel (role : Role) (outcome : Outcome) (label : Option String) : List Button :=
  (label.map fun label => (⟨role, label, outcome⟩ : Button)).toList

/-- The buttons of a request: ok alone, or yes and no; then cancel. -/
def Request.buttons (request : Request) : List Button :=
  (if request.ok.isSome then
    Button.ofLabel .positive .ok request.ok
  else
    Button.ofLabel .positive .yes request.yes ++ Button.ofLabel .negative .no request.no) ++
  Button.ofLabel .neutral .cancel request.cancel

/-- The dialog that a request describes. -/
def View.ofRequest (request : Request) : View where
  title := request.title.getD ""
  message := request.message.getD ""
  buttons := request.buttons
  icon := request.icon

/-- The button of a role. -/
def View.button? (view : View) (role : Role) : Option Button :=
  view.buttons.find? fun button => button.role == role

/-- What the user did with a dialog. -/
inductive Action
  | button (role : Role)
  | dismissed
deriving DecidableEq, Repr

/-- The action of a button code of the system; every other code dismisses the dialog. -/
def Action.ofCode (code : Int32) : Action :=
  if code = -1 then .button .positive
  else if code = -2 then .button .negative
  else if code = -3 then .button .neutral
  else .dismissed

/-- What an action on a dialog means: a dismissal cancels, and a button that is not there means nothing. -/
def View.outcome? (view : View) : Action → Option Outcome
  | .dismissed => some .cancel
  | .button role => (view.button? role).map Button.outcome

/-- The number of a dialog, by which answers name it. -/
structure Handle where
  id : Nat
deriving DecidableEq, Repr

end EngineHost.Dialog
