/-
**The soft keyboard as the input method reports it.**

* `Keyboard.Report`: what the input method reports after a request;
* `Keyboard.Watch`: whether the keyboard is visible, and whether the next visible report must be answered by
  hiding and showing the keyboard once more;
* `Keyboard.Watch.request`, `Keyboard.Watch.settle`: what a request and a report change.
-/

namespace EngineHost.Keyboard

/-- What the input method reports after a request. -/
inductive Report
  | stillShown
  | stillHidden
  | shown
  | hidden
deriving DecidableEq, Repr

/-- The report of a code; other codes have none. -/
def Report.ofCode (code : Int32) : Option Report :=
  if code = 0 then some .stillShown
  else if code = 1 then some .stillHidden
  else if code = 2 then some .shown
  else if code = 3 then some .hidden
  else none

/-- Whether the keyboard is visible after a report. -/
def Report.visible : Report → Bool
  | .stillShown | .shown => true
  | .stillHidden | .hidden => false

/-- The name of a report. -/
def Report.name : Report → String
  | .stillShown => "UnchangedShown"
  | .stillHidden => "UnchangedHidden"
  | .shown => "Shown"
  | .hidden => "Hidden"

/-- Whether a report made the host hide and show the keyboard. -/
inductive Remedy
  | none
  | cycled
deriving DecidableEq, Repr

/-- The name of a remedy. -/
def Remedy.name : Remedy → String
  | .none => "None"
  | .cycled => "Cycled"

/-- What the host knows of the keyboard. -/
structure Watch where
  armed : Bool := false
  visible : Bool := false
deriving DecidableEq, Repr

/-- An explicit request arms the remedy on a device that needs it. -/
def Watch.request (needsCycle : Bool) (watch : Watch) : Watch :=
  { watch with armed := needsCycle }

/-- A report sets the visibility; a visible one uses up the armed remedy. -/
def Watch.settle (report : Report) (watch : Watch) : Remedy × Watch :=
  if report.visible && watch.armed then (.cycled, ⟨false, true⟩)
  else (.none, { watch with visible := report.visible })

end EngineHost.Keyboard
