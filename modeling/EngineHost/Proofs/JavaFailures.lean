/-
**What a failure of a Java machine leaves behind.**

* `Java.StopsAtFailure`, `Java.Remedied`: behind a failing exchange nothing is asked for, and each exception is
  printed and taken back, once;
* `Java.Shape`: a talk is calm, or calm but for one failing exchange and what that calls for; all the rest follows
  from the shape;
* `Java.Contained`: the failures of a machine stay inside a question, and without one the answer is what its errand
  told (`Java.Yields`), with `Java.contained_onActivity` for actions on the activity.
-/

import EngineHost.Ask
import EngineHost.Proofs.JavaTalk

namespace EngineHost.Java

variable {σ α β : Type} {machine : Machine σ}

/-! ### Failures that stay inside -/

/-- Behind a failing exchange nothing is asked for; only the thread and the exception are tended to. -/
def StopsAtFailure (talk : List Exchange) : Prop :=
  ∀ earlier failing later, talk = earlier ++ failing :: later → failing.failure?.isSome = true →
    ∀ exchange ∈ later, exchange.request.isUpkeep = true

/-- Whether an errand threw. -/
def Exchange.throws (exchange : Exchange) : Bool := !exchange.request.isUpkeep && exchange.answer == .thrown

/-- Each exception is printed and taken back at once, and nothing else is. -/
structure Remedied (talk : List Exchange) : Prop where
  at_once : ∀ earlier throwing later, talk = earlier ++ throwing :: later → throwing.throws = true →
    ∃ described cleared rest, later = ⟨.describe, described⟩ :: ⟨.clear, cleared⟩ :: rest
  described : talk.countP (·.request = .describe) = talk.countP Exchange.throws
  cleared : talk.countP (·.request = .clear) = talk.countP Exchange.throws

/-- The attachment of a thread is no call of Java: a machine answers it with a code, and throws nothing. -/
def Machine.AttachesQuietly (machine : Machine σ) : Prop :=
  ∀ side, (machine.answer .attach side).1 ≠ .thrown ∧ (machine.answer .detach side).1 ≠ .thrown

/-- The first failure of a talk; a machine that is not there is a failure of its own. -/
def Machine.failure? (machine : Machine σ) (side : σ) (talk : List Exchange) : Option Error :=
  if machine.reachable side then talk.findSome? Exchange.failure?
  else some (.nullPointer "from_raw ptr argument")

/-- What comes of a talk: without a failure the answer is what its errand told, and otherwise the fallback. -/
def Yields (error? : Option Error) (talk : List Exchange) (told : List Exchange → α → Prop)
    (fallback : Error → α) (answer : α) : Prop :=
  match error? with
  | none => told (errand talk) answer
  | some error => answer = fallback error

/-- The failures of a machine stay inside a question: it leaves no exception pending, asks for nothing behind a
failure, and its answer is what its errand told, or the fallback for the first failure. -/
def Contained (machine : Machine σ) (ask : Ask (World σ) α) (told : List Exchange → α → Prop)
    (fallback : Error → α) : Prop :=
  ∀ before : World σ, before.pending = false → ∃ talk, Talked machine before talk (ask before).device ∧
    (ask before).device.pending = false ∧ StopsAtFailure talk ∧ Remedied talk ∧
    Yields (machine.failure? before.side talk) talk told fallback (ask before).answer

/-- An action succeeded, with a value that its errand told. -/
def Succeeds (told : List Exchange → α → Prop) (talk : List Exchange) (result : Except Error α) : Prop :=
  ∃ value, told talk value ∧ result = .ok value

/-- An action as a question, with its failure for an answer. -/
def Action.asked (action : Action σ α) : Ask (World σ) (Except Error α) := fun world =>
  ⟨(action world).1, (action world).2, []⟩

/-! ### The shape of a talk -/

/-- An exchange that leaves nothing to do: no failure, no exception, and none taken back. -/
structure Exchange.Calm (exchange : Exchange) : Prop where
  well : exchange.failure? = none
  quiet : exchange.answer ≠ .thrown
  undescribed : exchange.request ≠ .describe
  uncleared : exchange.request ≠ .clear

/-- The whole of a talk: calm throughout, or calm up to a failing exchange and what it calls for. -/
inductive Shape : List Exchange → Option Error → Prop
  | calm {talk : List Exchange} : (∀ exchange ∈ talk, exchange.Calm) → Shape talk none
  | failed (front : List Exchange) {failing : Exchange} {error : Error} {aftermath back : List Exchange} :
    (∀ exchange ∈ front, exchange.Calm) → failing.failure? = some error →
    (failing.answer = .thrown → error = .exception) → Aftermath error aftermath →
    (∀ exchange ∈ back, exchange.Calm ∧ exchange.request.isUpkeep = true) →
    Shape (front ++ failing :: (aftermath ++ back)) (some error)

theorem Exchange.Fine.calm {exchange : Exchange} (fine : exchange.Fine) : exchange.Calm := by
  refine ⟨fine.well, fun thrown => ?_, fun describes => ?_, fun clears => ?_⟩
  · exact nomatch (failure?_thrown fine.plain thrown).symm.trans fine.well
  · exact nomatch describes ▸ fine.plain
  · exact nomatch clears ▸ fine.plain

theorem refusal?_ne_exception (request : Request) : request.refusal? ≠ some .exception := by
  fun_cases Request.refusal? request <;> simp_all

theorem throws_eq_true_iff {exchange : Exchange} :
    exchange.throws = true ↔ exchange.failure? = some .exception := by
  obtain ⟨request, answer⟩ := exchange
  cases plain : request.isUpkeep with
  | true => cases request <;> simp [Exchange.throws, Exchange.failure?, Request.isUpkeep] at plain ⊢
  | false =>
    cases answer with
    | returned value =>
      rw [failure?_returned plain rfl]
      simp [Exchange.throws, plain, refusal?_ne_exception]
    | thrown => exact iff_of_true (by simp [Exchange.throws, plain]) (failure?_thrown plain rfl)

theorem aftermath_upkeep {error : Error} {aftermath : List Exchange} (after : Aftermath error aftermath) :
    ∀ exchange ∈ aftermath, exchange.failure? = none ∧ exchange.request.isUpkeep = true := by
  cases after with
  | exception described cleared => simp [Exchange.failure?, Request.isUpkeep]
  | other => exact List.forall_mem_nil _

namespace Shape

variable {talk : List Exchange} {error? : Option Error}

theorem findSome? (shape : Shape talk error?) : talk.findSome? Exchange.failure? = error? := by
  cases shape with
  | calm calm => exact List.findSome?_eq_none_iff.mpr fun exchange member => (calm exchange member).well
  | failed front calm fails =>
    have none := List.findSome?_eq_none_iff.mpr fun exchange member => (calm exchange member).well
    rw [List.findSome?_append, none, List.findSome?_cons, fails]
    rfl

/-- There is one failing exchange at most, and behind it follows what it calls for. -/
theorem behind {earlier later : List Exchange} {failing : Exchange} {error : Error}
    (shape : Shape (earlier ++ failing :: later) error?) (fails : failing.failure? = some error) :
    ∃ aftermath back, Aftermath error aftermath ∧ later = aftermath ++ back ∧
      ∀ exchange ∈ later, exchange.request.isUpkeep = true := by
  generalize whole : earlier ++ failing :: later = talk at shape
  cases shape with
  | calm calm =>
    have member : failing ∈ talk := whole ▸ List.mem_append_right _ List.mem_cons_self
    exact nomatch (calm failing member).well.symm.trans fails
  | failed front calm first _ after back =>
    have rest := List.forall_mem_append.mpr ⟨aftermath_upkeep after, fun exchange member =>
      ⟨(back exchange member).1.well, (back exchange member).2⟩⟩
    obtain ⟨-, rfl, rfl⟩ := (List.append_cons_inj_of_notMem
      (fun member => nomatch (calm failing member).well.symm.trans fails)
      (fun member => nomatch (rest failing member).1.symm.trans fails)).mp whole.symm
    cases first.symm.trans fails
    exact ⟨_, _, after, rfl, fun exchange member => (rest exchange member).2⟩

theorem stops (shape : Shape talk error?) : StopsAtFailure talk := by
  rintro earlier failing later rfl fails
  obtain ⟨error, fails⟩ := Option.isSome_iff_exists.mp fails
  obtain ⟨-, -, -, -, upkeep⟩ := shape.behind fails
  exact upkeep

theorem failing_request {exchange : Exchange} {error : Error} (fails : exchange.failure? = some error) :
    exchange.request ≠ .describe ∧ exchange.request ≠ .clear := by
  constructor <;> intro its <;> simp [Exchange.failure?, its] at fails

theorem calm_throws {exchange : Exchange} (calm : exchange.Calm) : exchange.throws = false := by
  rw [Bool.eq_false_iff, ne_eq, throws_eq_true_iff, calm.well]
  nofun

theorem counts_calm {talk : List Exchange} (calm : ∀ exchange ∈ talk, exchange.Calm) :
    talk.countP Exchange.throws = 0 ∧ talk.countP (·.request = .describe) = 0 ∧
      talk.countP (·.request = .clear) = 0 := by
  refine ⟨List.countP_eq_zero.mpr fun exchange member => ?_,
    List.countP_eq_zero.mpr fun exchange member => ?_, List.countP_eq_zero.mpr fun exchange member => ?_⟩
  · rw [calm_throws (calm exchange member)]
    nofun
  · simpa using (calm exchange member).undescribed
  · simpa using (calm exchange member).uncleared

theorem remedied (shape : Shape talk error?) : Remedied talk := by
  have at_once : ∀ earlier throwing later, talk = earlier ++ throwing :: later → throwing.throws = true →
      ∃ described cleared rest, later = ⟨.describe, described⟩ :: ⟨.clear, cleared⟩ :: rest := by
    rintro earlier throwing later rfl throws
    obtain ⟨aftermath, back, after, rfl, -⟩ := shape.behind (throws_eq_true_iff.mp throws)
    cases after with
    | exception described cleared => exact ⟨described, cleared, back, rfl⟩
    | other other => exact absurd rfl other
  cases shape with
  | calm calm =>
    obtain ⟨throws, describes, clears⟩ := counts_calm calm
    exact ⟨at_once, describes.trans throws.symm, clears.trans throws.symm⟩
  | failed front calm fails _ after back =>
    obtain ⟨throws, describes, clears⟩ := counts_calm calm
    obtain ⟨throws', describes', clears'⟩ := counts_calm fun exchange member => (back exchange member).1
    obtain ⟨undescribed, uncleared⟩ := failing_request fails
    refine ⟨at_once, ?_, ?_⟩
    all_goals
      simp only [List.countP_append, List.countP_cons, throws, throws', describes, describes', clears, clears',
        throws_eq_true_iff, fails]
      cases after with
      | exception => simp [undescribed, uncleared, Exchange.throws, Request.isUpkeep]
      | other other => simp [undescribed, uncleared, other]

theorem leaves_calm {talk : List Exchange} (calm : ∀ exchange ∈ talk, exchange.Calm) :
    talk.foldl Exchange.leaves false = false := by
  induction talk with
  | nil => rfl
  | cons exchange talk ih =>
    obtain ⟨here, rest⟩ := List.forall_mem_cons.mp calm
    rw [List.foldl_cons, Exchange.leaves, if_neg here.uncleared, Bool.false_or,
      beq_eq_false_iff_ne.mpr here.quiet]
    exact ih rest

/-- No exception is left pending. -/
theorem leaves (shape : Shape talk error?) : talk.foldl Exchange.leaves false = false := by
  cases shape with
  | calm calm => exact leaves_calm calm
  | failed front calm fails thrown after back =>
    rw [List.foldl_append, leaves_calm calm, List.foldl_cons, List.foldl_append]
    have rest := leaves_calm fun exchange member => (back exchange member).1
    cases after with
    | exception => simpa [Exchange.leaves] using rest
    | other other =>
      rw [Exchange.leaves, if_neg (failing_request fails).2, Bool.false_or,
        beq_eq_false_iff_ne.mpr fun thrower => other (thrown thrower)]
      exact rest

/-- The whole of a talk, from what was said in the middle of it. -/
theorem of_went {told : List Exchange → α → Prop} {may : List Exchange → Request → Prop} {result : Except Error α}
    (went : Went may [] (fun talk value => told (errand talk) value) talk result) (front back : List Exchange)
    (before : ∀ exchange ∈ front, exchange.Calm)
    (behind : ∀ exchange ∈ back, exchange.Calm ∧ exchange.request.isUpkeep = true) :
    ∃ error?, Shape (front ++ (talk ++ back)) error? ∧ Yields error? talk (Succeeds told) .error result := by
  cases went with
  | done fine _ holds =>
    refine ⟨none, .calm ?_, ⟨_, holds, rfl⟩⟩
    exact List.forall_mem_append.mpr ⟨before, List.forall_mem_append.mpr
      ⟨fun exchange member => (fine exchange member).calm, fun exchange member => (behind exchange member).1⟩⟩
  | failed middle fine plain fails _ after =>
    refine ⟨some _, ?_, rfl⟩
    rw [List.append_assoc, ← List.append_assoc, List.cons_append]
    refine .failed _ (List.forall_mem_append.mpr ⟨before, fun exchange member => (fine exchange member).calm⟩)
      fails (fun thrown => ?_) after behind
    exact Option.some.inj (fails.symm.trans (failure?_thrown plain thrown))

end Shape

/-- However an action on the activity went, its talk has a shape, and its result is what that shape calls for. -/
theorem Visited.shape (quiet : machine.AttachesQuietly) {told : List Exchange → α → Prop}
    {may : List Exchange → Request → Prop} {talk : List Exchange} {result : Except Error α}
    (visited : Visited machine may (fun talk value => told (errand talk) value) talk result) :
    ∃ error?, Shape talk error? ∧ Yields error? talk (Succeeds told) .error result := by
  have attach_well : Exchange.failure? ⟨.attach, .returned (.int 0)⟩ = none := by
    simp [Exchange.failure?]
  have detached (side : σ) : Exchange.Calm ⟨.detach, (machine.answer .detach side).1⟩ :=
    ⟨rfl, (quiet side).2, nofun, nofun⟩
  cases visited with
  | there went => simpa using Shape.of_went went [] [] (List.forall_mem_nil _) (List.forall_mem_nil _)
  | attached side went =>
    unfold Yields
    rw [errand_attachedFor]
    exact Shape.of_went went [_] [_]
      (List.forall_mem_singleton.mpr ⟨attach_well, nofun, nofun, nofun⟩)
      (List.forall_mem_singleton.mpr ⟨detached side, rfl⟩)
  | refused first last bad =>
    have fails : Exchange.failure? ⟨.attach, (machine.answer .attach first).1⟩ = some .callFailed := if_neg bad
    exact ⟨some .callFailed, .failed [] (List.forall_mem_nil _) fails
      (fun thrown => absurd thrown (quiet first).1) (.other nofun)
      (List.forall_mem_singleton.mpr ⟨detached last, rfl⟩), rfl⟩

/-! ### Questions -/

theorem contained_onActivity (quiet : machine.AttachesQuietly) {action : Value → Action σ α}
    (may : List Exchange → Request → Prop) {told : List Exchange → α → Prop}
    (goes : Goes machine may [] (action Action.activity) fun talk value => told (errand talk) value) :
    Contained machine (Action.onActivity machine action).asked (Succeeds told) .error := by
  intro before calm
  unfold Action.asked Machine.failure?
  cases reachable : machine.reachable before.side with
  | false =>
    rw [onActivity_unreachable reachable]
    have shape : Shape [] none := .calm (List.forall_mem_nil _)
    exact ⟨[], .nothing before, calm, shape.stops, shape.remedied, rfl⟩
  | true =>
    obtain ⟨talk, talked, visited⟩ := visited_onActivity goes reachable
    obtain ⟨error?, shape, yields⟩ := visited.shape quiet
    refine ⟨talk, talked, ?_, shape.stops, shape.remedied, ?_⟩
    · rw [talked.pending, calm, shape.leaves]
    · rw [if_pos rfl, shape.findSome?]
      exact yields

/-- A question whose answer is a view of another one's. -/
theorem Contained.map {ask : Ask (World σ) α} {told : List Exchange → α → Prop} {fallback : Error → α}
    (contained : Contained machine ask told fallback) (view : α → β) {other : Ask (World σ) β}
    {tells : List Exchange → β → Prop} (asks : ∀ world, (other world).device = (ask world).device)
    (views : ∀ world, (other world).answer = view (ask world).answer)
    (seen : ∀ talk value, told talk value → tells talk (view value)) :
    Contained machine other tells fun error => view (fallback error) := by
  intro before calm
  obtain ⟨talk, talked, after, stops, remedied, answer⟩ := contained before calm
  rw [← asks] at talked after
  refine ⟨talk, talked, after, stops, remedied, ?_⟩
  rw [views]
  cases failed : machine.failure? before.side talk with
  | none =>
    rw [failed] at answer
    exact seen _ _ answer
  | some error =>
    rw [failed] at answer
    exact congrArg view answer

end EngineHost.Java
