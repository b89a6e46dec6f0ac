/-
**Questions to the system.**

* `Ask`: a question to the system, which may change it and may report notices on the way;
* `Ask.known`, `Ask.andThen`: questions form a monad, in which the notices of later questions follow those of
  earlier ones.
-/

import EngineHost.Notice

namespace EngineHost

/-- The answer to a question: the answer itself, the system after it, and the notices on the way. -/
structure Reply (δ α : Type) where
  answer : α
  device : δ
  notices : List Notice := []

/-- A question to a system with states `δ`. -/
def Ask (δ α : Type) : Type := δ → Reply δ α

namespace Ask

variable {δ α β : Type}

/-- The question whose answer is known. -/
def known (answer : α) : Ask δ α := fun device => ⟨answer, device, []⟩

/-- A question, and another one that depends on its answer. -/
def andThen (first : Ask δ α) (next : α → Ask δ β) : Ask δ β := fun device =>
  let reply := first device
  let second := next reply.answer reply.device
  ⟨second.answer, second.device, reply.notices ++ second.notices⟩

instance : Monad (Ask δ) where
  pure := known
  bind := andThen

/-- Reports a notice. -/
def report (notice : Notice) : Ask δ Unit := fun device => ⟨(), device, [notice]⟩

/-- Looks at the state of the system. -/
def look (view : δ → α) : Ask δ α := fun device => ⟨view device, device, []⟩

/-- Changes the state of the system. -/
def change (step : δ → δ) : Ask δ Unit := fun device => ⟨(), step device, []⟩

@[simp] theorem pure_apply (answer : α) (device : δ) :
    (pure answer : Ask δ α) device = ⟨answer, device, []⟩ := rfl

@[simp] theorem bind_apply (first : Ask δ α) (next : α → Ask δ β) (device : δ) :
    (first >>= next) device =
      ⟨(next (first device).answer (first device).device).answer,
        (next (first device).answer (first device).device).device,
        (first device).notices ++ (next (first device).answer (first device).device).notices⟩ := rfl

@[simp] theorem report_apply (notice : Notice) (device : δ) :
    (report notice : Ask δ Unit) device = ⟨(), device, [notice]⟩ := rfl

@[simp] theorem look_apply (view : δ → α) (device : δ) :
    look view device = ⟨view device, device, []⟩ := rfl

@[simp] theorem change_apply (step : δ → δ) (device : δ) :
    change step device = ⟨(), step device, []⟩ := rfl

end Ask

end EngineHost
