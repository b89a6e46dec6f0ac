/-
**What is said to a Java machine.**

* `Java.Exchange`: a request with its answer, and the failure that it amounts to, `Java.Exchange.failure?`;
* `Java.Talked`: all that was said to a machine between two moments;
* `Java.errand`: what was asked for in a talk, with `Java.calling` and the like for its parts;
* `Java.Goes`: how an action that stops at the first failure goes: what it may ask after what was said, and what
  its value has to do with the answers. Each small action has a rule; `Java.Goes.bind` puts them together;
* `Java.Visited`: how an action on the activity goes, the attachment of the thread included.

An action either is answered well throughout, or there is one failing exchange, behind which nothing follows but
the way out.
-/

import EngineHost.Java.Action
import Mathlib.Data.List.Basic

namespace EngineHost.Java

variable {σ α β : Type}

/-! ### Exchanges -/

/-- A request and its answer. -/
structure Exchange where
  request : Request
  answer : Answer
deriving DecidableEq, Repr

/-- Whether a request only tends to the thread or to a pending exception. -/
def Request.isUpkeep : Request → Bool
  | .attach | .detach | .describe | .clear => true
  | _ => false

/-- Whether a method gives objects, by its signature. -/
def givesObject (signature : String) : Bool := signature.toList.getLast? = some ';'

/-- The failure that null in answer to a request amounts to; none where null is as good as any answer. -/
def Request.refusal? : Request → Option Error
  | .call _ method signature _ => if givesObject signature then some (.nullFrom method) else none
  | .construct _ _ _ => some (.nullPointer "NewObjectA result")
  | .makeString _ => some (.nullPointer "NewStringUTF result")
  | .readString _ => some (.nullPointer "GetStringUTFChars result")
  | _ => none

/-- The failure that an answer to a request amounts to, if it is one. The way out cannot fail. -/
def Exchange.failure? (exchange : Exchange) : Option Error :=
  match exchange.request with
  | .attach => if exchange.answer = .returned (.int 0) then none else some .callFailed
  | .detach | .describe | .clear => none
  | request =>
    match exchange.answer with
    | .thrown => some .exception
    | .returned value => if value = .null then request.refusal? else none

/-- Whether an exception is pending after an exchange. -/
def Exchange.leaves (pending : Bool) (exchange : Exchange) : Bool :=
  if exchange.request = .clear then false else pending || exchange.answer == .thrown

theorem failure?_thrown {exchange : Exchange} (plain : exchange.request.isUpkeep = false)
    (thrown : exchange.answer = .thrown) : exchange.failure? = some .exception := by
  obtain ⟨request, answer⟩ := exchange
  cases thrown
  cases request <;> first | rfl | cases plain

theorem failure?_returned {exchange : Exchange} {value : Value} (plain : exchange.request.isUpkeep = false)
    (returned : exchange.answer = .returned value) :
    exchange.failure? = if value = .null then exchange.request.refusal? else none := by
  obtain ⟨request, answer⟩ := exchange
  cases returned
  cases request <;> first | rfl | cases plain

/-! ### Talks -/

/-- The machine gave these answers, one after the other. -/
def Machine.Answers (machine : Machine σ) : σ → List Exchange → σ → Prop
  | side, [], after => side = after
  | side, exchange :: talk, after =>
    (machine.answer exchange.request side).1 = exchange.answer ∧
      machine.Answers (machine.answer exchange.request side).2 talk after

/-- All that was said to a machine between two moments. -/
structure Talked (machine : Machine σ) (before : World σ) (talk : List Exchange) (after : World σ) : Prop where
  requests : after.requests = before.requests ++ talk.map Exchange.request
  answers : machine.Answers before.side talk after.side
  pending : after.pending = talk.foldl Exchange.leaves before.pending

variable {machine : Machine σ}

theorem answers_append {side middle after : σ} {first second : List Exchange}
    (earlier : machine.Answers side first middle) (later : machine.Answers middle second after) :
    machine.Answers side (first ++ second) after := by
  induction first generalizing side with
  | nil =>
    cases earlier
    exact later
  | cons exchange first ih => exact ⟨earlier.1, ih earlier.2⟩

namespace Talked

theorem nothing (world : World σ) : Talked machine world [] world :=
  ⟨(List.append_nil _).symm, rfl, rfl⟩

theorem append {before middle after : World σ} {first second : List Exchange}
    (earlier : Talked machine before first middle) (later : Talked machine middle second after) :
    Talked machine before (first ++ second) after where
  requests := by rw [later.requests, earlier.requests, List.map_append, List.append_assoc]
  answers := answers_append earlier.answers later.answers
  pending := by rw [later.pending, earlier.pending, List.foldl_append]

/-- A request that does not take an exception back. -/
theorem make (request : Request) (plain : request ≠ .clear) (world : World σ) :
    Talked machine world [⟨request, (world.make machine request).1⟩] (world.make machine request).2 where
  requests := rfl
  answers := ⟨rfl, rfl⟩
  pending := by simp [World.make, Exchange.leaves, plain]

/-- An exception is printed and taken back. -/
theorem recover (world : World σ) :
    ∃ described cleared, Talked machine world [⟨.describe, described⟩, ⟨.clear, cleared⟩]
      (world.recover machine) := by
  let described := world.make machine .describe
  refine ⟨described.1, (described.2.make machine .clear).1, ?_, ⟨rfl, rfl, rfl⟩, ?_⟩
  · simp [World.recover, World.make]
  · simp [World.recover, Exchange.leaves]

end Talked

/-! ### Errands -/

/-- Whether a request looks something up. -/
def Request.isLookup : Request → Bool
  | .findClass _ | .findMember _ => true
  | _ => false

/-- A request that looks something up, and finds it. -/
def sought (request : Request) : Exchange := ⟨request, .returned .null⟩

/-- An exchange, but for what a look-up found. -/
def Exchange.outcome (exchange : Exchange) : Exchange :=
  if exchange.request.isLookup then sought exchange.request else exchange

/-- The errand of a talk: all that was asked for in it, with the answers. What only tends to the thread or to an
exception is no part of it, and what a look-up found is of no account. -/
def errand (talk : List Exchange) : List Exchange :=
  (talk.filter fun exchange => !exchange.request.isUpkeep).map Exchange.outcome

/-- A talk on a thread that is attached for its time. -/
def attachedFor (talk : List Exchange) (detached : Answer) : List Exchange :=
  ⟨.attach, .returned (.int 0)⟩ :: (talk ++ [⟨.detach, detached⟩])

@[simp] theorem errand_append (first second : List Exchange) :
    errand (first ++ second) = errand first ++ errand second := by
  rw [errand, List.filter_append, List.map_append, errand, errand]

/-- The attachment of the thread is no part of an errand. -/
@[simp] theorem errand_attachedFor (talk : List Exchange) (detached : Answer) :
    errand (attachedFor talk detached) = errand talk := by
  change errand (talk ++ [⟨.detach, detached⟩]) = errand talk
  rw [errand_append]
  exact List.append_nil _

/-- A method is looked up and called. -/
def calling (object : Value) (method signature : String) (args : List Value) (value : Value) : List Exchange :=
  [sought (.findMember method), ⟨.call object method signature args, .returned value⟩]

/-- A method of a class is looked up and called. -/
def callingStatic (owner : Value) (method signature : String) (args : List Value) (value : Value) :
    List Exchange :=
  [sought (.findMember method), ⟨.callStatic owner method signature args, .returned value⟩]

/-- A field is looked up and read. -/
def reading (object : Value) (name type : String) (value : Value) : List Exchange :=
  [sought (.findMember name), ⟨.field object name type, .returned value⟩]

/-- A field of a class is looked up and read. -/
def readingStatic (className name type : String) (value : Value) : List Exchange :=
  [sought (.findClass className), sought (.findMember name),
    ⟨.staticField (.object className) name type, .returned value⟩]

/-- An object of a class is made. -/
def constructing (className signature : String) (args : List Value) (value : Value) : List Exchange :=
  [sought (.findClass className), sought (.findMember "<init>"),
    ⟨.construct (.object className) signature args, .returned value⟩]

/-- The text of a class is read. A string is read once it is there, and null is the empty text. -/
inductive ReadsText (className name : String) : List Exchange → String → Prop
  | null : ReadsText className name (readingStatic className name "Ljava/lang/String;" .null) ""
  | string {string : Value} (text : Value) : string ≠ .null →
    ReadsText className name (readingStatic className name "Ljava/lang/String;" string ++
      [sought (.findClass "java/lang/String"), ⟨.readString string, .returned text⟩]) text.toText

/-! ### How actions go -/

/-- What follows a failure: an exception is printed and taken back, and nothing follows any other failure. -/
inductive Aftermath : Error → List Exchange → Prop
  | exception (described cleared : Answer) :
    Aftermath .exception [⟨.describe, described⟩, ⟨.clear, cleared⟩]
  | other {error : Error} : error ≠ .exception → Aftermath error []

/-- An exchange of an errand that went well. -/
structure Exchange.Fine (exchange : Exchange) : Prop where
  plain : exchange.request.isUpkeep = false
  well : exchange.failure? = none

/-- Every request of a talk was one that may be made after what was said before it. -/
def Along (may : List Exchange → Request → Prop) : List Exchange → List Exchange → Prop
  | _, [] => True
  | sofar, exchange :: talk => may sofar exchange.request ∧ Along may (sofar ++ [exchange]) talk

theorem along_append {may : List Exchange → Request → Prop} {sofar first second : List Exchange} :
    Along may sofar (first ++ second) ↔ Along may sofar first ∧ Along may (sofar ++ first) second := by
  induction first generalizing sofar with
  | nil => simp [Along]
  | cons exchange first ih => simp [Along, ih, and_assoc]

theorem along_split {may : List Exchange → Request → Prop} {sofar earlier later : List Exchange}
    {exchange : Exchange} (along : Along may sofar (earlier ++ exchange :: later)) :
    may (sofar ++ earlier) exchange.request :=
  (along_append.mp along).2.1

theorem along_mono {may other : List Exchange → Request → Prop} {sofar talk : List Exchange}
    (front : List Exchange) (implies : ∀ talk request, may talk request → other (front ++ talk) request)
    (along : Along may sofar talk) : Along other (front ++ sofar) talk := by
  induction talk generalizing sofar with
  | nil => trivial
  | cons exchange talk ih =>
    refine ⟨implies _ _ along.1, ?_⟩
    rw [List.append_assoc]
    exact ih along.2

/-- How an action went after what was said so far: it was answered well throughout, and its value is what the
answers told; or it stopped at a failing exchange. -/
inductive Went (may : List Exchange → Request → Prop) (sofar : List Exchange)
    (told : List Exchange → α → Prop) : List Exchange → Except Error α → Prop
  | done {talk : List Exchange} {value : α} : (∀ exchange ∈ talk, exchange.Fine) → Along may sofar talk →
    told (sofar ++ talk) value → Went may sofar told talk (.ok value)
  | failed (fine : List Exchange) {failing : Exchange} {error : Error} {aftermath : List Exchange} :
    (∀ exchange ∈ fine, exchange.Fine) → failing.request.isUpkeep = false →
    failing.failure? = some error → Along may sofar (fine ++ [failing]) → Aftermath error aftermath →
    Went may sofar told (fine ++ failing :: aftermath) (.error error)

/-- A request that threw. -/
theorem Went.threw {may : List Exchange → Request → Prop} {sofar : List Exchange}
    {told : List Exchange → α → Prop} {request : Request} (plain : request.isUpkeep = false)
    (allowed : may sofar request) (described cleared : Answer) :
    Went may sofar told [⟨request, .thrown⟩, ⟨.describe, described⟩, ⟨.clear, cleared⟩] (.error .exception) :=
  .failed [] (List.forall_mem_nil _) plain (failure?_thrown plain rfl) ⟨allowed, trivial⟩
    (.exception described cleared)

/-- However a machine answers, an action goes like this. -/
def Goes (machine : Machine σ) (may : List Exchange → Request → Prop) (sofar : List Exchange)
    (action : Action σ α) (told : List Exchange → α → Prop) : Prop :=
  ∀ world : World σ, ∃ talk, Talked machine world talk (action world).2 ∧
    Went may sofar told talk (action world).1

theorem bind_bind {γ : Type} (first : Action σ α) (second : α → Action σ β) (third : β → Action σ γ) :
    (first >>= second) >>= third = first >>= fun value => second value >>= third := by
  funext world
  simp only [Action.bind_apply]
  rcases first world with ⟨_ | value, after⟩ <;> rfl

/-- A request is answered with a value, or it throws. -/
theorem request_cases {request : Request} (plain : request.isUpkeep = false) (world : World σ) :
    (∃ value after, Action.request machine request world = (.ok value, after) ∧
      Talked machine world [⟨request, .returned value⟩] after ∧
      (machine.answer request world.side).1 = .returned value) ∨
    ∃ described cleared after, Action.request machine request world = (.error .exception, after) ∧
      Talked machine world [⟨request, .thrown⟩, ⟨.describe, described⟩, ⟨.clear, cleared⟩] after := by
  have made : Talked machine world _ _ := .make request (by rintro rfl; cases plain) world
  have answered : (machine.answer request world.side).1 = (world.make machine request).1 := rfl
  unfold Action.request
  generalize world.make machine request = outcome at made answered
  obtain ⟨value | _, after⟩ := outcome
  · exact Or.inl ⟨value, after, rfl, made, answered⟩
  · obtain ⟨described, cleared, recovered⟩ := @Talked.recover σ machine after
    exact Or.inr ⟨described, cleared, _, rfl, made.append recovered⟩

namespace Goes

variable {may : List Exchange → Request → Prop} {sofar : List Exchange}

theorem pure {told : List Exchange → α → Prop} {value : α} (holds : told sofar value) :
    Goes machine may sofar (Pure.pure value : Action σ α) told := fun world =>
  ⟨[], .nothing world, .done (List.forall_mem_nil _) trivial (by rwa [List.append_nil])⟩

/-- An action goes on where the first part of it ended. -/
theorem bind {first : Action σ α} {next : α → Action σ β} {told : List Exchange → β → Prop}
    (goes : Goes machine may sofar first fun talk value => Goes machine may talk (next value) told) :
    Goes machine may sofar (first >>= next) told := by
  intro world
  obtain ⟨talk, talked, went⟩ := goes world
  rw [Action.bind_apply]
  generalize first world = outcome at talked went
  obtain ⟨result, middle⟩ := outcome
  cases went with
  | done fine along continues =>
    rename_i value
    obtain ⟨rest, later, went⟩ := continues middle
    refine ⟨talk ++ rest, talked.append later, ?_⟩
    dsimp only at went ⊢
    generalize (next value middle).1 = result at went
    cases went with
    | done others further told =>
      exact .done (List.forall_mem_append.mpr ⟨fine, others⟩) (along_append.mpr ⟨along, further⟩)
        (by rwa [← List.append_assoc])
    | failed _ others plain fails further after =>
      rw [← List.append_assoc]
      refine .failed _ (List.forall_mem_append.mpr ⟨fine, others⟩) plain fails ?_ after
      rw [List.append_assoc]
      exact along_append.mpr ⟨along, further⟩
  | failed front fine plain fails along after => exact ⟨_, talked, .failed front fine plain fails along after⟩

/-- A request that does not refuse null. -/
theorem ask {request : Request} {told : List Exchange → Value → Prop} (plain : request.isUpkeep = false)
    (any : request.refusal? = none) (allowed : may sofar request)
    (tells : ∀ value, told (sofar ++ [⟨request, .returned value⟩]) value) :
    Goes machine may sofar (Action.request machine request) told := by
  intro world
  rcases request_cases plain world with
    ⟨value, after, asked, made, -⟩ | ⟨described, cleared, after, asked, made⟩
  · rw [asked]
    refine ⟨_, made, .done (List.forall_mem_singleton.mpr ⟨plain, ?_⟩) ⟨allowed, trivial⟩ (tells value)⟩
    rw [failure?_returned plain rfl, any, ite_self]
  · rw [asked]
    exact ⟨_, made, .threw plain allowed described cleared⟩

/-- A request that refuses null. -/
theorem askNotNull {request : Request} {error : Error} {told : List Exchange → Value → Prop}
    (plain : request.isUpkeep = false) (refused : request.refusal? = some error) (other : error ≠ .exception)
    (allowed : may sofar request)
    (tells : ∀ value, value ≠ .null → (∃ side, (machine.answer request side).1 = .returned value) →
      told (sofar ++ [⟨request, .returned value⟩]) value) :
    Goes machine may sofar (Action.request machine request >>= Action.notNull error) told := by
  intro world
  rw [Action.bind_apply]
  rcases request_cases plain world with
    ⟨value, after, asked, made, answered⟩ | ⟨described, cleared, after, asked, made⟩
  · rw [asked]
    dsimp only
    have failure : Exchange.failure? ⟨request, .returned value⟩ = if value = .null then some error else none := by
      rw [failure?_returned plain rfl, refused]
    by_cases null : value = .null
    · rw [if_pos null] at failure
      rw [Action.notNull, if_pos null]
      exact ⟨_, made, .failed [] (List.forall_mem_nil _) plain failure ⟨allowed, trivial⟩ (.other other)⟩
    · rw [if_neg null] at failure
      rw [Action.notNull, if_neg null]
      exact ⟨_, made, .done (List.forall_mem_singleton.mpr ⟨plain, failure⟩) ⟨allowed, trivial⟩
        (tells value null ⟨_, answered⟩)⟩
  · rw [asked]
    exact ⟨_, made, .threw plain allowed described cleared⟩

/-- A request that refuses null, and what becomes of its value. -/
theorem askNotNull_bind {request : Request} {error : Error} {next : Value → Action σ α}
    {told : List Exchange → α → Prop} (plain : request.isUpkeep = false)
    (refused : request.refusal? = some error) (other : error ≠ .exception) (allowed : may sofar request)
    (continues : ∀ value, value ≠ .null → (∃ side, (machine.answer request side).1 = .returned value) →
      Goes machine may (sofar ++ [⟨request, .returned value⟩]) (next value) told) :
    Goes machine may sofar
      (Action.request machine request >>= fun value => Action.notNull error value >>= next) told := by
  rw [← bind_bind]
  exact bind (askNotNull plain refused other allowed continues)

/-- A member is looked up and asked for; null is as good as any answer. -/
theorem member {name : String} {request : Request} {next : Value → Action σ α}
    {told : List Exchange → α → Prop} (plain : request.isUpkeep = false) (any : request.refusal? = none)
    (allowed : ∀ found, may sofar (.findMember name) ∧ may (sofar ++ [⟨.findMember name, found⟩]) request)
    (continues : ∀ found value,
      Goes machine may (sofar ++ [⟨.findMember name, .returned found⟩, ⟨request, .returned value⟩])
        (next value) told) :
    Goes machine may sofar
      ((Action.request machine (.findMember name) >>= fun _ => Action.request machine request) >>= next)
      told := by
  rw [bind_bind]
  refine bind (ask rfl rfl (allowed .thrown).1 fun found => ?_)
  refine bind (ask plain any (allowed _).2 fun value => ?_)
  rw [List.append_assoc]
  exact continues found value

/-- A member is looked up and asked for, and null is refused. -/
theorem memberNotNull {name : String} {request : Request} {error : Error} {next : Value → Action σ α}
    {told : List Exchange → α → Prop} (plain : request.isUpkeep = false)
    (refused : request.refusal? = some error) (other : error ≠ .exception)
    (allowed : ∀ found, may sofar (.findMember name) ∧ may (sofar ++ [⟨.findMember name, found⟩]) request)
    (continues : ∀ found value, value ≠ .null →
      Goes machine may (sofar ++ [⟨.findMember name, .returned found⟩, ⟨request, .returned value⟩])
        (next value) told) :
    Goes machine may sofar
      (((Action.request machine (.findMember name) >>= fun _ => Action.request machine request) >>=
        Action.notNull error) >>= next) told := by
  rw [bind_bind, bind_bind]
  refine bind (ask rfl rfl (allowed .thrown).1 fun found => ?_)
  refine askNotNull_bind plain refused other (allowed _).2 fun value some _ => ?_
  rw [List.append_assoc]
  exact continues found value some

/-- A class is looked up by its name. -/
theorem classNamed {name : String} {next : Value → Action σ α} {told : List Exchange → α → Prop}
    (allowed : may sofar (.findClass name))
    (continues : ∀ found,
      Goes machine may (sofar ++ [⟨.findClass name, .returned found⟩]) (next (.object name)) told) :
    Goes machine may sofar (Action.classNamed machine name >>= next) told := by
  unfold Action.classNamed
  rw [bind_bind]
  exact bind (ask rfl rfl allowed continues)

theorem call {object : Value} {method signature : String} {args : List Value} {next : Value → Action σ α}
    {told : List Exchange → α → Prop} (any : givesObject signature = false)
    (allowed : ∀ found, may sofar (.findMember method) ∧
      may (sofar ++ [⟨.findMember method, found⟩]) (.call object method signature args))
    (continues : ∀ found value, Goes machine may (sofar ++ [⟨.findMember method, .returned found⟩,
      ⟨.call object method signature args, .returned value⟩]) (next value) told) :
    Goes machine may sofar (Action.call machine object method signature args >>= next) told :=
  member rfl (if_neg (Bool.eq_false_iff.mp any)) allowed continues

theorem callForObject {object : Value} {method signature : String} {args : List Value}
    {next : Value → Action σ α} {told : List Exchange → α → Prop} (gives : givesObject signature = true)
    (allowed : ∀ found, may sofar (.findMember method) ∧
      may (sofar ++ [⟨.findMember method, found⟩]) (.call object method signature args))
    (continues : ∀ found value, value ≠ .null →
      Goes machine may (sofar ++ [⟨.findMember method, .returned found⟩,
        ⟨.call object method signature args, .returned value⟩]) (next value) told) :
    Goes machine may sofar (Action.callForObject machine object method signature args >>= next) told :=
  memberNotNull rfl (if_pos gives) nofun allowed continues

theorem callStatic {owner : Value} {method signature : String} {args : List Value}
    {next : Value → Action σ α} {told : List Exchange → α → Prop}
    (allowed : ∀ found, may sofar (.findMember method) ∧
      may (sofar ++ [⟨.findMember method, found⟩]) (.callStatic owner method signature args))
    (continues : ∀ found value, Goes machine may (sofar ++ [⟨.findMember method, .returned found⟩,
      ⟨.callStatic owner method signature args, .returned value⟩]) (next value) told) :
    Goes machine may sofar (Action.callStatic machine owner method signature args >>= next) told :=
  member rfl rfl allowed continues

/-- A string that was made is not null, and is what the machine gives for its text. -/
theorem makeString {text : String} {next : Value → Action σ α} {told : List Exchange → α → Prop}
    (allowed : may sofar (.makeString text))
    (continues : ∀ value, value ≠ .null →
      (∃ side, (machine.answer (.makeString text) side).1 = .returned value) →
      Goes machine may (sofar ++ [⟨.makeString text, .returned value⟩]) (next value) told) :
    Goes machine may sofar (Action.makeString machine text >>= next) told := by
  unfold Action.makeString
  rw [bind_bind]
  exact askNotNull_bind rfl rfl nofun allowed continues

end Goes

/-! ### Small actions without a condition -/

/-- No condition on what may be asked. -/
def anything : List Exchange → Request → Prop := fun _ _ => True

theorem lookup_anything {sofar : List Exchange} {name : String} {request : Request} (found : Answer) :
    anything sofar (.findMember name) ∧ anything (sofar ++ [⟨.findMember name, found⟩]) request :=
  ⟨trivial, trivial⟩

namespace Goes

variable {sofar : List Exchange}

theorem field {object : Value} {name type : String} {next : Value → Action σ α}
    {told : List Exchange → α → Prop}
    (continues : ∀ found value, Goes machine anything (sofar ++ [⟨.findMember name, .returned found⟩,
      ⟨.field object name type, .returned value⟩]) (next value) told) :
    Goes machine anything sofar (Action.field machine object name type >>= next) told :=
  member rfl rfl lookup_anything continues

theorem staticField {className name type : String} {next : Value → Action σ α}
    {told : List Exchange → α → Prop}
    (continues : ∀ owner found value, Goes machine anything (sofar ++ [⟨.findClass className, .returned owner⟩,
      ⟨.findMember name, .returned found⟩, ⟨.staticField (.object className) name type, .returned value⟩])
      (next value) told) :
    Goes machine anything sofar (Action.staticField machine className name type >>= next) told := by
  unfold Action.staticField
  rw [bind_bind]
  refine classNamed trivial fun owner => member rfl rfl lookup_anything fun found value => ?_
  rw [List.append_assoc]
  exact continues owner found value

theorem construct {className signature : String} {args : List Value} {next : Value → Action σ α}
    {told : List Exchange → α → Prop}
    (continues : ∀ owner found value, Goes machine anything (sofar ++ [⟨.findClass className, .returned owner⟩,
      ⟨.findMember "<init>", .returned found⟩, ⟨.construct (.object className) signature args, .returned value⟩])
      (next value) told) :
    Goes machine anything sofar (Action.construct machine className signature args >>= next) told := by
  unfold Action.construct
  rw [bind_bind]
  refine classNamed trivial fun owner => ?_
  rw [← bind_bind]
  refine memberNotNull rfl rfl nofun lookup_anything fun found value some => ?_
  rw [List.append_assoc]
  exact continues owner found value

/-- A string of a class, read if it is not null. -/
theorem staticText {className name : String} {next : String → Action σ α} {told : List Exchange → α → Prop}
    (continues : ∀ part text, ReadsText className name (errand part) text →
      Goes machine anything (sofar ++ part) (next text) told) :
    Goes machine anything sofar (Action.staticText machine className name >>= next) told := by
  unfold Action.staticText
  rw [bind_bind]
  refine staticField fun owner found value => ?_
  by_cases null : value = .null
  · rw [if_pos null]
    subst null
    exact continues _ "" .null
  · rw [if_neg null]
    unfold Action.readString
    rw [bind_bind]
    refine classNamed trivial fun string => ?_
    simp only [bind_bind]
    refine askNotNull_bind rfl rfl nofun trivial fun text _ _ => ?_
    rw [List.append_assoc, List.append_assoc]
    exact continues _ text.toText (.string text null)

end Goes

/-! ### On the activity -/

/-- How an action on the activity went: on a thread that was attached, on one that was attached for its time, or
not at all because the thread could not be attached. -/
inductive Visited (machine : Machine σ) (may : List Exchange → Request → Prop)
    (told : List Exchange → α → Prop) : List Exchange → Except Error α → Prop
  | there {talk : List Exchange} {result : Except Error α} : Went may [] told talk result →
    Visited machine may told talk result
  | attached {talk : List Exchange} {result : Except Error α} (side : σ) : Went may [] told talk result →
    Visited machine may told (attachedFor talk (machine.answer .detach side).1) result
  | refused (first last : σ) : (machine.answer .attach first).1 ≠ .returned (.int 0) →
    Visited machine may told [⟨.attach, (machine.answer .attach first).1⟩,
      ⟨.detach, (machine.answer .detach last).1⟩] (.error .callFailed)

theorem onActivity_unreachable {action : Value → Action σ α} {world : World σ}
    (nobody : machine.reachable world.side = false) :
    Action.onActivity machine action world = (.error (.nullPointer "from_raw ptr argument"), world) := by
  unfold Action.onActivity
  rw [nobody]
  rfl

theorem visited_onActivity {may : List Exchange → Request → Prop} {told : List Exchange → α → Prop}
    {action : Value → Action σ α} (goes : Goes machine may [] (action Action.activity) told)
    {world : World σ} (reachable : machine.reachable world.side = true) :
    ∃ talk, Talked machine world talk (Action.onActivity machine action world).2 ∧
      Visited machine may told talk (Action.onActivity machine action world).1 := by
  unfold Action.onActivity
  rw [if_pos reachable]
  cases machine.attached world.side with
  | true =>
    obtain ⟨talk, talked, went⟩ := goes world
    exact ⟨talk, talked, .there went⟩
  | false =>
    rw [if_neg Bool.false_ne_true]
    unfold Action.attached
    have made : Talked machine world _ _ := .make .attach nofun world
    have answered : (world.make machine .attach).1 = (machine.answer .attach world.side).1 := rfl
    generalize world.make machine .attach = outcome at made answered
    obtain ⟨answer, middle⟩ := outcome
    subst answered
    split
    · rename_i here attachedWorld same
      obtain ⟨good, rfl⟩ := Prod.mk.inj same
      rw [good] at made
      obtain ⟨talk, talked, went⟩ := goes middle
      exact ⟨_, made.append (talked.append (.make .detach nofun _)), .attached _ went⟩
    · rename_i here attachedWorld bad same
      obtain ⟨first, rfl⟩ := Prod.mk.inj same
      refine ⟨_, made.append (.make .detach nofun _), .refused _ _ fun good => ?_⟩
      exact bad (first.symm.trans good)

end EngineHost.Java
