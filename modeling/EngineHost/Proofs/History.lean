/-
**Histories: what happened, the latest last.**

* `Standing`: an event of a kind happened, and no later event has ended its effect;
* `split_concat`, `standing_concat`, `countP_concat`: what one more event makes of a history.
-/

import Mathlib.Data.List.Basic

namespace EngineHost

variable {α : Type}

/-! ### Events that stand -/

/-- An event of a kind happened, and nothing after it ended its effect. -/
def Standing (kind : α → Prop) (ends : α → Bool) (events : List α) : Prop :=
  ∃ earlier event later, events = earlier ++ event :: later ∧ kind event ∧
    ∀ other ∈ later, ends other = false

theorem not_standing_nil (kind : α → Prop) (ends : α → Bool) : ¬ Standing kind ends [] := by
  rintro ⟨earlier, event, later, split, -⟩
  cases earlier <;> cases split

/-- An event of a longer history is the last one, or one of those before it. -/
theorem split_concat {events earlier later : List α} {last event : α}
    (split : events ++ [last] = earlier ++ event :: later) :
    (events = earlier ∧ last = event) ∨
      ∃ between, later = between ++ [last] ∧ events = earlier ++ event :: between := by
  rcases List.eq_nil_or_concat later with rfl | ⟨between, final, rfl⟩
  · obtain ⟨same, its⟩ := List.append_inj' split rfl
    exact Or.inl ⟨same, List.singleton_inj.mp its⟩
  · rw [List.concat_eq_append, ← List.cons_append, ← List.append_assoc] at split
    obtain ⟨same, its⟩ := List.append_inj' split rfl
    rw [List.concat_eq_append, List.singleton_inj.mp its]
    exact Or.inr ⟨between, rfl, same⟩

/-- The last event is of that kind, or it leaves standing what stood. -/
theorem standing_concat {kind : α → Prop} {ends : α → Bool} {events : List α} {last : α} :
    Standing kind ends (events ++ [last]) ↔ kind last ∨ (ends last = false ∧ Standing kind ends events) := by
  constructor
  · rintro ⟨earlier, event, later, split, its, stands⟩
    rcases split_concat split with ⟨-, rfl⟩ | ⟨between, rfl, rfl⟩
    · exact Or.inl its
    · obtain ⟨old, new⟩ := List.forall_mem_append.mp stands
      exact Or.inr ⟨new last List.mem_cons_self, earlier, event, between, rfl, its, old⟩
  · rintro (its | ⟨harmless, earlier, event, later, rfl, its, stands⟩)
    · exact ⟨events, last, [], rfl, its, List.forall_mem_nil _⟩
    · refine ⟨earlier, event, later ++ [last], List.append_assoc _ _ _, its, ?_⟩
      exact List.forall_mem_append.mpr ⟨stands, List.forall_mem_singleton.mpr harmless⟩

/-- One more event counts if it is of the kind. -/
theorem countP_concat (kind : α → Bool) (events : List α) (last : α) :
    (events ++ [last]).countP kind = events.countP kind + (kind last).toNat := by
  rw [List.countP_append, List.countP_singleton]
  cases kind last <;> rfl

end EngineHost
