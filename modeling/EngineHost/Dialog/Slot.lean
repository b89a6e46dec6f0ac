/-
**One dialog at a time.**

* `Dialog.Slot.openDialog`: opens a dialog in place of the one before; each gets a number of its own;
* `Dialog.Slot.resolve`: an answer to the open dialog decides it, and any other changes nothing.
-/

import EngineHost.Services

namespace EngineHost.Dialog

/-- A dialog that waits for its answer. -/
structure Pending where
  handle : Handle
  view : View
deriving DecidableEq, Repr

/-- The open dialog, the number of the next one, and why the last one could not be presented. -/
structure Slot where
  current : Option Pending := none
  next : Nat := 1
  failure : Option HostFailure := none
deriving DecidableEq, Repr, Inhabited

namespace Slot

variable {δ : Type}

/-- The number of the open dialog. -/
def handle? (slot : Slot) : Option Handle := slot.current.map Pending.handle

/-- Reports that an open dialog gives way. -/
def giveWay (slot : Slot) : Ask δ Unit :=
  match slot.current with
  | none => pure ()
  | some previous => Ask.report (.dialogReplaced previous.handle)

/-- Opens the dialog of a request in place of the one before. -/
def openDialog (services : Services δ) (request : Request) (slot : Slot) :
    Ask δ (Handle × Slot) := do
  let handle : Handle := ⟨slot.next⟩
  let view := View.ofRequest request
  slot.giveWay
  match ← services.showDialog handle view with
  | .ok () =>
    pure (handle, { current := some ⟨handle, view⟩, next := slot.next + 1, failure := none })
  | .error failure =>
    let error := HostFailure.dialogNotShown failure.message
    Ask.report (.presentationFailed error)
    pure (handle, { current := none, next := slot.next + 1, failure := some error })

/-- What an answer to a dialog decides. -/
def resolve (handle : Handle) (action : Action) (slot : Slot) :
    Option Outcome × Slot :=
  match slot.current with
  | none => (none, slot)
  | some current =>
    if current.handle = handle then
      match current.view.outcome? action with
      | none => (none, slot)
      | some outcome => (some outcome, { slot with current := none })
    else (none, slot)

/-- Whether an answer to a dialog comes while another one is open. -/
def supersedes (handle : Handle) (slot : Slot) : Bool :=
  match slot.current with
  | none => false
  | some current => current.handle != handle

end Slot

end EngineHost.Dialog
