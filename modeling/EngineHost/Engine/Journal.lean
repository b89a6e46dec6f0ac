/-
**The journal of a host.**

* `Event`: what a journal holds: notices, calls into the engine, and what tasks learned on the way;
* `callsOf`, `finishesOf`: the calls in a journal, and how often it asks the host to finish.
-/

import EngineHost.Engine.Call
import EngineHost.Engine.Session
import EngineHost.Notice

namespace EngineHost

/-- What a journal of the host holds. -/
inductive Event
  | notice (notice : Notice)
  | call (call : EngineCall)
  | submitted (accepted : Bool)
  | sawQueue (pending : Nat) (closed : Bool)
  | sawSession (session : Session)
  /-- The host was asked to finish. -/
  | finish
deriving DecidableEq, Repr

/-- The call that an event records, if it records one. -/
@[simp] def Event.call? : Event → Option EngineCall
  | .call made => some made
  | _ => none

/-- Whether an event asks the host to finish. -/
@[simp] def Event.isFinish : Event → Bool
  | .finish => true
  | _ => false

/-- The calls into the engine that a journal holds, in order. -/
def callsOf (journal : List Event) : List EngineCall := journal.filterMap Event.call?

/-- How often a journal asks the host to finish. -/
def finishesOf (journal : List Event) : Nat := journal.countP Event.isFinish

@[simp] theorem callsOf_nil : callsOf [] = [] := rfl

@[simp] theorem callsOf_cons (event : Event) (rest : List Event) :
    callsOf (event :: rest) = event.call?.toList ++ callsOf rest := by
  cases event <;> rfl

@[simp] theorem callsOf_append (first second : List Event) :
    callsOf (first ++ second) = callsOf first ++ callsOf second :=
  List.filterMap_append

@[simp] theorem callsOf_notices (notices : List Notice) : callsOf (notices.map Event.notice) = [] := by
  rw [callsOf, List.filterMap_map]
  exact List.filterMap_eq_nil_iff.mpr fun _ _ => rfl

@[simp] theorem finishesOf_nil : finishesOf [] = 0 := rfl

@[simp] theorem finishesOf_cons (event : Event) (rest : List Event) :
    finishesOf (event :: rest) = (if event.isFinish then 1 else 0) + finishesOf rest := by
  rw [finishesOf, List.countP_cons, Nat.add_comm]
  rfl

@[simp] theorem finishesOf_append (first second : List Event) :
    finishesOf (first ++ second) = finishesOf first + finishesOf second :=
  List.countP_append

@[simp] theorem finishesOf_notices (notices : List Notice) :
    finishesOf (notices.map Event.notice) = 0 := by
  rw [finishesOf, List.countP_map]
  exact List.countP_eq_zero.mpr fun _ _ => Bool.false_ne_true

end EngineHost
