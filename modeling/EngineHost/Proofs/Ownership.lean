/-
**Which threads call the engine.**

The hooks of a loop may be called on any thread. The first thread that is asked for owns the loop, and a hook on
another one is turned away before anything happens. The delivery of the rest asks for no thread.

* `Visit`: a hook that is called on a thread;
* `SharedRun`: a loop that any number of threads visit, with the visits in which the engine was called;
* `FrameLoop.Served`: what a hook leaves alone of a loop, wherever it is called;
* `SharedRun.Attributed`: every call of the engine was made in the visit of a thread that was let in, with
  `SharedRun.Attributed.step` for one move;
* `SharedRun.exists_visits_of_thread`: a render thread visits its loop with the hooks of its signals;
* `SharedRun.strangers_call_in_the_rest`: strangers are turned away and change nothing, except that what waits is
  delivered on whichever thread asks for it.
-/

import EngineHost.Proofs.Signals

namespace EngineHost

variable {ε τ : Type}

/-! ### Visits -/

/-- The hook of a signal, called on a thread. -/
structure Visit where
  thread : ThreadId
  signal : Signal
deriving DecidableEq, Repr

namespace Visit

/-- The hook that a visit calls. -/
def entry (visit : Visit) : Entry := visit.signal.entry visit.thread

/-- Whether the hook asks for the thread it is called on. -/
def asks (visit : Visit) : Bool := visit.signal != .shutdown

theorem thread?_of_asks {visit : Visit} (asks : visit.asks = true) :
    visit.entry.thread? = some visit.thread := by
  obtain ⟨thread, signal⟩ := visit
  cases signal with
  | surfaceCreated | surfaceChanged | drawFrame => rfl
  | shutdown => cases asks

theorem entry_of_unasked {visit : Visit} (unasked : visit.asks = false) : visit.entry = .deliverRest := by
  obtain ⟨thread, signal⟩ := visit
  cases signal with
  | surfaceCreated | surfaceChanged | drawFrame => cases unasked
  | shutdown => rfl

end Visit

/-- A move of a schedule in which hooks are called on any thread. -/
inductive SharedMove (τ : Type)
  | submit (task : Task τ)
  | report (notices : List Notice)
  | visit (visit : Visit)
  | proceed

/-- The move of the loop, which does not know the thread that delivers the rest. -/
def SharedMove.move : SharedMove τ → Move τ
  | .submit task => .submit task
  | .report notices => .report notices
  | .visit called => .enter called.entry
  | .proceed => .proceed

/-- A loop that any number of threads visit. -/
structure SharedRun (ε τ : Type) where
  run : LoopRun ε τ
  /-- The visits, oldest first. -/
  visits : List Visit := []
  /-- The calls of the engine with the visits they were made in, oldest first. -/
  calls : List (Visit × EngineCall) := []

/-- Calls that are made in the last of these visits. -/
def credited (visits : List Visit) (made : List EngineCall) : List (Visit × EngineCall) :=
  match visits.getLast? with
  | some visit => made.map (visit, ·)
  | none => []

@[simp] theorem credited_nil (visits : List Visit) : credited visits [] = [] := by
  unfold credited
  split <;> rfl

theorem credited_append (visits : List Visit) (first second : List EngineCall) :
    credited visits (first ++ second) = credited visits first ++ credited visits second := by
  unfold credited
  split <;> simp

theorem credited_of_last {visits : List Visit} {visit : Visit} (last : visits.getLast? = some visit)
    (made : List EngineCall) : credited visits made = made.map (visit, ·) := by
  simp only [credited, last]

/-- The calls in a journal behind those that were known before. -/
def freshCalls (known journal : List Event) : List EngineCall := (callsOf journal).drop (callsOf known).length

theorem freshCalls_of_append {known journal : List Event} {made : List EngineCall}
    (grows : callsOf journal = callsOf known ++ made) : freshCalls known journal = made := by
  rw [freshCalls, grows, List.drop_left]

namespace SharedRun

/-- A run of a loop that nobody has visited. -/
def start (engine : ε) (config : Config) : SharedRun ε τ := { run := LoopRun.start engine config }

/-- The loop goes on in the last of these visits. -/
def advance (visits : List Visit) (run : LoopRun ε τ) (state : SharedRun ε τ) : SharedRun ε τ where
  run
  visits
  calls := state.calls ++ credited visits (freshCalls state.run.loop.journal run.loop.journal)

/-- One move. A hook is called between two hooks only. -/
def step (program : Program ε τ) (state : SharedRun ε τ) : SharedMove τ → SharedRun ε τ
  | .submit task => state.advance state.visits (state.run.step program (.submit task))
  | .report notices => state.advance state.visits (state.run.step program (.report notices))
  | .visit visit =>
    match state.run.stage with
    | .idle => state.advance (state.visits ++ [visit]) (state.run.enter program visit.entry)
    | _ => state
  | .proceed => state.advance state.visits (state.run.step program .proceed)

/-- The moves of a schedule, in order. -/
def play (program : Program ε τ) (moves : List (SharedMove τ)) (state : SharedRun ε τ) : SharedRun ε τ :=
  moves.foldl (step program) state

theorem play_append (program : Program ε τ) (earlier later : List (SharedMove τ)) (state : SharedRun ε τ) :
    state.play program (earlier ++ later) = (state.play program earlier).play program later :=
  List.foldl_append

/-- A visit of a loop that is between two hooks. -/
theorem step_visit (program : Program ε τ) {state : SharedRun ε τ} (idle : state.run.stage = .idle)
    (visit : Visit) : state.step program (.visit visit) =
      state.advance (state.visits ++ [visit]) (state.run.enter program visit.entry) := by
  simp only [step, idle]

/-- A schedule with visits is one of the loop. -/
theorem play_run (program : Program ε τ) (moves : List (SharedMove τ)) (state : SharedRun ε τ) :
    (state.play program moves).run = state.run.play program (moves.map SharedMove.move) := by
  induction moves generalizing state with
  | nil => rfl
  | cons move moves ih =>
    have stepped : (state.step program move).run = state.run.step program move.move := by
      cases move with
      | visit visit =>
        cases stage : state.run.stage <;> simp only [step, stage, SharedMove.move, LoopRun.step, advance]
      | submit | report | proceed => rfl
    show ((state.step program move).play program moves).run = _
    rw [ih, stepped]
    rfl

end SharedRun

/-! ### What a hook leaves alone of a loop -/

/-- The owner of a loop stays, and calls of the engine are added at most. -/
structure FrameLoop.Served (before after : FrameLoop ε τ) : Prop where
  owner : after.owner = before.owner
  calls : callsOf before.journal <+: callsOf after.journal

/-- Nobody called the engine. -/
theorem FrameLoop.Served.of_quiet {before after : FrameLoop ε τ} (owner : after.owner = before.owner)
    (calls : callsOf after.journal = callsOf before.journal) : before.Served after :=
  ⟨owner, calls ▸ List.prefix_refl _⟩

namespace LoopRun

section Steps

variable {program : Program ε τ} {run : LoopRun ε τ}

theorem served_beginClose (program : Program ε τ) (notices : List Notice) (answer : Entry.Answer)
    (run : LoopRun ε τ) : run.loop.Served (run.beginClose program notices answer).loop := by
  constructor
  · unfold beginClose
    dsimp only
    split <;> rfl
  · simp

theorem served_next (program : Program ε τ) (run : LoopRun ε τ) : run.loop.Served (run.next program).loop := by
  obtain ⟨loop, stage, owed, history⟩ := run
  cases stage with
  | idle | notified => exact .of_quiet rfl rfl
  | configured => exact ⟨rfl, by simp [next]⟩
  | started reply =>
    cases reply with
    | ready => exact .of_quiet rfl (by simp [next, answerStart])
    | failed failure => exact served_beginClose program _ _ _
    | panicked text => exact .of_quiet rfl rfl
  | choosing pass batch =>
    cases batch with
    | cons task rest => exact .of_quiet rfl rfl
    | nil =>
      simp only [next, finishPass]
      split
      · split
        · exact ⟨rfl, by simp⟩
        · exact .of_quiet rfl rfl
      · exact .of_quiet rfl (by simp)
  | running pass task acts rest =>
    cases acts with
    | cons act acts =>
      cases act with
      | notify | shutdown => exact ⟨rfl, by simp [next, perform]⟩
      | endSession | lookAtSession | queue =>
        exact .of_quiet rfl (by simp [next, perform, EngineRoom.perform])
    | nil =>
      simp only [next, judge]
      cases loop.verdict pass.inSession task <;> exact .of_quiet rfl (by simp [follow])
  | failing pass failure => exact served_beginClose program _ _ _
  | drawn outcome =>
    cases outcome with
    | proceed => exact .of_quiet rfl rfl
    | stop =>
      have closes := served_beginClose program [.stopRequested loop.countFrame.frames] (.ok (some .stop))
        ⟨loop.countFrame, .drawn .stop, owed, history⟩
      exact ⟨closes.owner, closes.calls⟩
  | closing answer => exact .of_quiet rfl (by simp [next])

/-- While nobody enters, the owner of a loop stays, and calls of the engine are added at most; between two hooks
nobody calls the engine, and nothing begins. -/
theorem served_step (program : Program ε τ) (run : LoopRun ε τ) {move : Move τ} (inner : move.isEnter = false) :
    run.loop.Served (run.step program move).loop ∧
      (run.stage = .idle → callsOf (run.step program move).loop.journal = callsOf run.loop.journal ∧
        (run.step program move).stage = .idle ∧ (run.step program move).loop.state = run.loop.state) := by
  cases move with
  | submit task =>
    have calls : callsOf (run.step program (.submit task)).loop.journal = callsOf run.loop.journal :=
      (FrameLoop.Offered.submit task run.loop).calls
    exact ⟨.of_quiet rfl calls, fun idle => ⟨calls, idle, rfl⟩⟩
  | report notices =>
    have calls : callsOf (run.step program (.report notices)).loop.journal = callsOf run.loop.journal :=
      (FrameLoop.Offered.report notices run.loop).calls
    exact ⟨.of_quiet rfl calls, fun idle => ⟨calls, idle, rfl⟩⟩
  | enter entry => cases inner
  | proceed =>
    obtain ⟨loop, stage, owed, history⟩ := run
    cases owed with
    | nil =>
      refine ⟨served_next program _, fun idle => ?_⟩
      cases idle
      exact ⟨rfl, rfl, rfl⟩
    | cons use owed =>
      have calls := (FrameLoop.Offered.use program use loop).calls
      exact ⟨.of_quiet rfl calls, fun idle => ⟨calls, idle, rfl⟩⟩

/-- The first step of a hook calls the engine at most, like any other. -/
theorem served_beginHook (program : Program ε τ) (run : LoopRun ε τ) (entry : Entry) :
    run.loop.Served (run.beginHook program entry).loop := by
  have prepared : run.loop.prepare.owner = run.loop.owner := by
    unfold FrameLoop.prepare FrameLoop.nameThread
    split <;> rfl
  cases entry with
  | surfaceCreated thread =>
    cases state : run.loop.state <;> simp only [beginHook, state]
    · exact ⟨by simp [prepared], by simp⟩
    · exact .of_quiet rfl (by simp)
    · exact ⟨rfl, by simp⟩
    · exact .of_quiet rfl (by simp)
  | surfaceChanged thread width height => exact .of_quiet rfl (by simp [beginHook])
  | drawFrame thread => cases state : run.loop.state <;> simp only [beginHook, state] <;> exact .of_quiet rfl rfl
  | deliverRest => cases state : run.loop.state <;> simp only [beginHook, state] <;> exact .of_quiet rfl rfl

/-- A visitor is let in if nobody else owns the loop, and owns it from then on. -/
theorem enter_of_free (program : Program ε τ) {visit : Visit} (asks : visit.asks = true)
    (free : ∀ owner, run.loop.owner = some owner → owner = visit.thread) :
    run.enter program visit.entry =
      { run with loop := { run.loop with owner := some visit.thread } }.beginHook program visit.entry := by
  unfold enter
  rcases run.loop.enter_cases visit.thread with ⟨-, entered⟩ | ⟨owner, owns, foreign, -⟩
  · simp only [Visit.thread?_of_asks asks, entered]
  · exact absurd (free owner owns) foreign

/-- A visitor is turned away if somebody else owns the loop. -/
theorem enter_of_foreign (program : Program ε τ) {visit : Visit} (asks : visit.asks = true) {owner : ThreadId}
    (owns : run.loop.owner = some owner) (foreign : owner ≠ visit.thread) :
    run.enter program visit.entry = run.leave (.error .foreignThread) := by
  unfold enter
  rcases run.loop.enter_cases visit.thread with ⟨free, -⟩ | ⟨-, -, -, refused⟩
  · exact absurd (free owner owns) foreign
  · simp only [Visit.thread?_of_asks asks, refused]

/-- Whoever delivers the rest is let in. -/
theorem enter_of_unasked (program : Program ε τ) (run : LoopRun ε τ) {visit : Visit}
    (unasked : visit.asks = false) : run.enter program visit.entry = run.beginHook program .deliverRest := by
  rw [Visit.entry_of_unasked unasked]
  rfl

/-- The delivery of the rest begins in a running loop only, and with no call. -/
theorem rest_begins (program : Program ε τ) (run : LoopRun ε τ) :
    (run.beginHook program .deliverRest).loop.state = run.loop.state ∧
      callsOf (run.beginHook program .deliverRest).loop.journal = callsOf run.loop.journal ∧
      ((run.beginHook program .deliverRest).stage ≠ .idle → run.loop.state = .running) := by
  cases state : run.loop.state <;> simp [beginHook, state, takeBatch]

end Steps

end LoopRun

/-! ### Whose calls they are -/

namespace SharedRun

variable {program : Program ε τ} {state : SharedRun ε τ}

/-- A visit that was let in: the loop has an owner, and a hook that asks for its thread was called on it. -/
def Admitted (state : SharedRun ε τ) (visit : Visit) : Prop :=
  visit ∈ state.visits ∧ ∃ owner, state.run.loop.owner = some owner ∧ (visit.asks = true → visit.thread = owner)

/-- Every call of the engine belongs to a visit that was let in, and so does a hook that is under way. -/
structure Attributed (state : SharedRun ε τ) : Prop where
  first : state.run.loop.owner = (state.visits.find? Visit.asks).map Visit.thread
  recorded : state.calls.map Prod.snd = callsOf state.run.loop.journal
  admitted : ∀ made ∈ state.calls, state.Admitted made.1
  busy : state.run.stage ≠ .idle → ∃ visit, state.visits.getLast? = some visit ∧ state.Admitted visit
  owned : state.run.loop.state ≠ .uninitialized → ∃ owner, state.run.loop.owner = some owner

/-- The first visitor that is asked for stays the first. -/
theorem find?_concat (visits : List Visit) (visit : Visit) : (visits ++ [visit]).find? Visit.asks =
    (visits.find? Visit.asks).or (if visit.asks then some visit else none) := by
  rw [List.find?_append, List.find?_singleton]

namespace Attributed

theorem start (engine : ε) (config : Config) : Attributed (SharedRun.start engine config : SharedRun ε τ) where
  first := rfl
  recorded := rfl
  admitted := List.forall_mem_nil _
  busy moving := absurd rfl moving
  owned begun := absurd rfl begun

/-- The loop goes on in a visit that was let in, or nobody calls the engine. -/
theorem advance (holds : state.Attributed) {visits : List Visit} {run : LoopRun ε τ}
    (more : state.visits ⊆ visits)
    (keeps : ∀ owner, state.run.loop.owner = some owner → run.loop.owner = some owner)
    (first : run.loop.owner = (visits.find? Visit.asks).map Visit.thread)
    (calls : callsOf state.run.loop.journal <+: callsOf run.loop.journal)
    (inside : run.stage ≠ .idle ∨ callsOf run.loop.journal ≠ callsOf state.run.loop.journal →
      ∃ visit, visits.getLast? = some visit ∧ visit ∈ visits ∧
        ∃ owner, run.loop.owner = some owner ∧ (visit.asks = true → visit.thread = owner))
    (owned : run.loop.state ≠ .uninitialized → ∃ owner, run.loop.owner = some owner) :
    (state.advance visits run).Attributed := by
  obtain ⟨made, grows⟩ := calls
  have fresh : freshCalls state.run.loop.journal run.loop.journal = made := freshCalls_of_append grows.symm
  have older : ∀ visit, state.Admitted visit → (state.advance visits run).Admitted visit := by
    rintro visit ⟨visited, owner, owns, asked⟩
    exact ⟨more visited, owner, keeps owner owns, asked⟩
  refine ⟨first, ?_, ?_, fun moving => ?_, owned⟩
  · simp only [SharedRun.advance, fresh, List.map_append, holds.recorded, ← grows]
    by_cases silent : made = []
    · simp [silent]
    · obtain ⟨visit, last, -⟩ := inside (Or.inr fun same => silent (by simpa [same] using grows))
      simp [credited_of_last last, Function.comp_def]
  · simp only [SharedRun.advance, fresh]
    intro call member
    rcases List.mem_append.mp member with old | new
    · exact older call.1 (holds.admitted call old)
    · have spoken : made ≠ [] := by
        rintro rfl
        simp at new
      obtain ⟨visit, last, admitted⟩ := inside (Or.inr fun same => spoken (by simpa [same] using grows))
      rw [credited_of_last last] at new
      obtain ⟨_, -, rfl⟩ := List.mem_map.mp new
      exact admitted
  · obtain ⟨visit, last, admitted⟩ := inside (Or.inl moving)
    exact ⟨visit, last, admitted⟩

/-- While nobody enters, the visit under way goes on. -/
theorem inner (holds : state.Attributed) {move : Move τ} (inner : move.isEnter = false) :
    (state.advance state.visits (state.run.step program move)).Attributed := by
  obtain ⟨served, rests⟩ := LoopRun.served_step program state.run inner
  refine holds.advance (List.Subset.refl _) (fun owner owns => served.owner.trans owns)
    (served.owner.trans holds.first) served.calls ?_ ?_
  · intro moves
    have moving : state.run.stage ≠ .idle := by
      intro idle
      obtain ⟨silent, still, -⟩ := rests idle
      exact moves.elim (absurd still) (absurd silent)
    obtain ⟨visit, last, visited, owner, owns, asked⟩ := holds.busy moving
    exact ⟨visit, last, visited, owner, served.owner.trans owns, asked⟩
  · intro begun
    by_cases idle : state.run.stage = .idle
    · obtain ⟨owner, owns⟩ := holds.owned ((rests idle).2.2 ▸ begun)
      exact ⟨owner, served.owner.trans owns⟩
    · obtain ⟨-, -, -, owner, owns, -⟩ := holds.busy idle
      exact ⟨owner, served.owner.trans owns⟩

/-- A hook that asks for its thread makes it the owner of a loop that has none. -/
theorem letIn (holds : state.Attributed) (program : Program ε τ) {visit : Visit} (asks : visit.asks = true)
    (free : ∀ owner, state.run.loop.owner = some owner → owner = visit.thread) :
    (state.advance (state.visits ++ [visit]) (state.run.enter program visit.entry)).Attributed := by
  have first := holds.first
  rw [LoopRun.enter_of_free program asks free]
  let entered : LoopRun ε τ := { state.run with loop := { state.run.loop with owner := some visit.thread } }
  have served := LoopRun.served_beginHook program entered visit.entry
  have inside : (entered.beginHook program visit.entry).loop.owner = some visit.thread := served.owner
  refine holds.advance (List.subset_append_left _ _) (fun owner owns => ?_) ?_ served.calls
    (fun _ => ⟨visit, List.getLast?_concat, List.mem_concat_self, visit.thread, inside, fun _ => rfl⟩)
    fun _ => ⟨visit.thread, inside⟩
  · rw [inside, ← free owner owns]
  · -- The owner is the first visitor that was asked for, and that is the new one if there was none.
    rw [inside, find?_concat]
    cases before : state.visits.find? Visit.asks with
    | none =>
      rw [if_pos asks]
      rfl
    | some earlier =>
      rw [before] at first
      exact congrArg some (free earlier.thread first).symm

/-- A hook that asks for its thread is turned away by a loop that somebody else owns. -/
theorem turnedAway (holds : state.Attributed) (program : Program ε τ) {visit : Visit} (asks : visit.asks = true)
    {owner : ThreadId} (owns : state.run.loop.owner = some owner) (foreign : owner ≠ visit.thread) :
    (state.advance (state.visits ++ [visit]) (state.run.enter program visit.entry)).Attributed := by
  have first := holds.first
  rw [LoopRun.enter_of_foreign program asks owns foreign]
  refine holds.advance (List.subset_append_left _ _) (fun _ => id) ?_ (List.prefix_refl _) ?_
    fun _ => ⟨owner, owns⟩
  · rw [find?_concat]
    cases before : state.visits.find? Visit.asks with
    | none =>
      rw [before, owns] at first
      cases first
    | some earlier => exact first.trans (congrArg _ before)
  · exact fun moves => moves.elim (absurd rfl) (absurd rfl)

/-- The delivery of the rest is let in on every thread. -/
theorem rest (holds : state.Attributed) (program : Program ε τ) {visit : Visit} (unasked : visit.asks = false) :
    (state.advance (state.visits ++ [visit]) (state.run.enter program visit.entry)).Attributed := by
  rw [LoopRun.enter_of_unasked program state.run unasked]
  have served := LoopRun.served_beginHook program state.run .deliverRest
  obtain ⟨same, silent, begins⟩ := LoopRun.rest_begins program state.run
  refine holds.advance (List.subset_append_left _ _) (fun owner owns => served.owner.trans owns) ?_ served.calls ?_
    fun begun => ?_
  · rw [find?_concat, unasked, if_neg Bool.false_ne_true, Option.or_none]
    exact served.owner.trans holds.first
  · intro moves
    -- A loop that runs has an owner, whoever delivers its rest.
    have running := begins (moves.resolve_right (absurd silent))
    obtain ⟨owner, owns⟩ := holds.owned (by rw [running]; exact LoopState.noConfusion)
    refine ⟨visit, List.getLast?_concat, List.mem_concat_self, owner, served.owner.trans owns, fun asks => ?_⟩
    rw [unasked] at asks
    cases asks
  · obtain ⟨owner, owns⟩ := holds.owned (same ▸ begun)
    exact ⟨owner, served.owner.trans owns⟩

theorem visit (holds : state.Attributed) (program : Program ε τ) (visit : Visit) :
    (state.advance (state.visits ++ [visit]) (state.run.enter program visit.entry)).Attributed := by
  cases asks : visit.asks with
  | true =>
    rcases state.run.loop.enter_cases visit.thread with ⟨free, -⟩ | ⟨owner, owns, foreign, -⟩
    · exact holds.letIn program asks free
    · exact holds.turnedAway program asks owns foreign
  | false => exact holds.rest program asks

theorem step (holds : state.Attributed) (program : Program ε τ) (move : SharedMove τ) :
    (state.step program move).Attributed := by
  cases move with
  | submit task => exact holds.inner rfl
  | report notices => exact holds.inner rfl
  | visit visit =>
    simp only [SharedRun.step]
    split
    · exact holds.visit program visit
    · exact holds
  | proceed => exact holds.inner rfl

theorem play (holds : state.Attributed) (program : Program ε τ) (moves : List (SharedMove τ)) :
    (state.play program moves).Attributed := by
  induction moves generalizing state with
  | nil => exact holds
  | cons move moves ih => exact ih (holds.step program move)

end Attributed

/-! ### Visits in one go, and visits of a render thread -/

/-- Steps of the loop's thread, and no move of another, belong to the visit under way. -/
theorem play_proceed (program : Program ε τ) (count : Nat) (state : SharedRun ε τ) :
    let after := state.play program (List.replicate count .proceed)
    ∃ made, callsOf after.run.loop.journal = callsOf state.run.loop.journal ++ made ∧
      after.calls = state.calls ++ credited state.visits made := by
  induction count generalizing state with
  | zero => exact ⟨[], by simp [play], by simp [play]⟩
  | succ count ih =>
    have inner : (Move.proceed : Move τ).isEnter = false := rfl
    obtain ⟨made, grows⟩ := (LoopRun.served_step program state.run inner).1.calls
    obtain ⟨later, grew, credits⟩ := ih (state.step program .proceed)
    have fresh := freshCalls_of_append grows.symm
    refine ⟨made ++ later, ?_, ?_⟩
    · rw [← List.append_assoc, grows]
      exact grew
    · rw [credited_append, ← List.append_assoc, ← fresh]
      exact credits

/-- The delivery of the rest in one go: whoever asks for it, the calls are made on the thread that asks. -/
theorem delivers_rest (program : Program ε τ) (idle : state.run.stage = .idle) (unowed : state.run.owed = [])
    {visit : Visit} (unasked : visit.asks = false) :
    ∃ count made, let after := state.play program (.visit visit :: List.replicate count .proceed)
      after.run.stage = .idle ∧ after.run.loop = (state.run.loop.deliverRest program).2 ∧
        callsOf after.run.loop.journal = callsOf state.run.loop.journal ++ made ∧
        after.calls = state.calls ++ made.map (visit, ·) := by
  obtain ⟨⟨loop, stage, owed, history⟩, visits, calls⟩ := state
  cases idle
  cases unowed
  let run : LoopRun ε τ := ⟨loop, .idle, [], history⟩
  let begun : SharedRun ε τ :=
    SharedRun.advance (visits ++ [visit]) (run.enter program visit.entry) ⟨run, visits, calls⟩
  obtain ⟨count, past, played⟩ := LoopRun.returns_of_enter program visit.entry loop history
  obtain ⟨made, grows, credits⟩ := play_proceed program count begun
  have whole : (begun.play program (List.replicate count .proceed)).run =
      ⟨(loop.deliverRest program).2, .idle, [], past ++ [.returned (visit.entry.run program loop).1]⟩ := by
    rw [play_run, List.map_replicate]
    refine played.trans ?_
    rw [Visit.entry_of_unasked unasked]
    rfl
  obtain ⟨-, silent, -⟩ := LoopRun.rest_begins program run
  have quiet : callsOf begun.run.loop.journal = callsOf loop.journal := by
    show callsOf (run.enter program visit.entry).loop.journal = _
    rw [LoopRun.enter_of_unasked program run unasked]
    exact silent
  have uncalled : begun.calls = calls := by
    have fresh : freshCalls loop.journal begun.run.loop.journal = [] :=
      freshCalls_of_append (by rw [quiet, List.append_nil])
    show calls ++ credited _ (freshCalls loop.journal begun.run.loop.journal) = calls
    rw [fresh, credited_nil, List.append_nil]
  refine ⟨count, made, congrArg LoopRun.stage whole, congrArg LoopRun.loop whole, ?_, ?_⟩
  · rw [← quiet]
    exact grows
  · have last : begun.visits.getLast? = some visit := List.getLast?_concat
    rw [← credited_of_last last]
    exact credits.trans (congrArg (· ++ credited begun.visits made) uncalled)

/-- A render thread visits its loop with the hooks of its signals. -/
theorem exists_visits_of_step (program : Program ε τ) {thread : ThreadRun ε τ} (orderly : thread.Orderly)
    (same : thread.run = state.run) (move : ThreadMove τ) :
    ∃ moves signals, (thread.step program move).run = (state.play program moves).run ∧
      (thread.step program move).thread = thread.thread ∧
      (thread.step program move).handled = thread.handled ++ signals ∧
      (state.play program moves).visits = state.visits ++ signals.map (Visit.mk thread.thread) := by
  refine ThreadRun.step_induction (P := fun after => ∃ moves signals, after.run = (state.play program moves).run ∧
    after.thread = thread.thread ∧ after.handled = thread.handled ++ signals ∧
    (state.play program moves).visits = state.visits ++ signals.map (Visit.mk thread.thread))
    ?_ ?_ ?_ ?_ ?_ ?_ ?_ ?_
  · exact ⟨[], [], same, rfl, by simp, by simp [play]⟩
  · intro inner enters _ _
    cases inner with
    | submit task =>
      exact ⟨[.submit task], [], by rw [same]; rfl, rfl, by simp, by simp [play, step, advance]⟩
    | report notices =>
      exact ⟨[.report notices], [], by rw [same]; rfl, rfl, by simp, by simp [play, step, advance]⟩
    | enter entry => cases enters
    | proceed => exact ⟨[.proceed], [], by rw [same]; rfl, rfl, by simp, by simp [play, step, advance]⟩
  · exact fun _ _ => ⟨[], [], same, rfl, by simp, by simp [play]⟩
  · exact ⟨[], [], same, rfl, by simp, by simp [play]⟩
  · exact fun _ _ _ _ => ⟨[], [], same, rfl, by simp, by simp [play]⟩
  · intro signal phase
    have idle : state.run.stage = .idle := same ▸ orderly.between (by rw [phase]; rfl)
    refine ⟨[.report signal.announces, .visit ⟨thread.thread, signal⟩], [signal], ?_, rfl, rfl, ?_⟩
    · rw [play_run, ← same]
      rfl
    · have still : (state.step program (.report signal.announces)).run.stage = .idle := idle
      exact congrArg visits (step_visit program still ⟨thread.thread, signal⟩)
  · intro signal _ _
    refine ⟨[.report (signal.follow thread.run.loop thread.answer).1], [], ?_, rfl, by simp [ThreadRun.finish],
      by simp [play, step, advance]⟩
    rw [play_run, ← same]
    rfl
  · exact fun _ => ⟨[], [], same, rfl, by simp, by simp [play]⟩

theorem exists_visits_of_thread (program : Program ε τ) {thread : ThreadRun ε τ} (orderly : thread.Orderly)
    (same : thread.run = state.run) (schedule : List (ThreadMove τ)) :
    ∃ moves signals, (thread.play program schedule).run = (state.play program moves).run ∧
      (thread.play program schedule).handled = thread.handled ++ signals ∧
      (state.play program moves).visits = state.visits ++ signals.map (Visit.mk thread.thread) := by
  induction schedule generalizing thread state with
  | nil => exact ⟨[], [], same, (List.append_nil _).symm, by simp [play]⟩
  | cons move schedule ih =>
    obtain ⟨first, one, begins, stays, handles, visits⟩ := exists_visits_of_step program orderly same move
    obtain ⟨rest, others, goesOn, handlesOn, visitsOn⟩ := ih (orderly.step move) begins
    refine ⟨first ++ rest, one ++ others, ?_, ?_, ?_⟩
    · rw [play_append]
      exact goesOn
    · rw [← List.append_assoc, ← handles]
      exact handlesOn
    · rw [play_append, visitsOn, visits, stays, List.append_assoc, List.map_append]

/-- **Strangers change nothing and call nobody, except that they may deliver the rest.** The first thread that is
asked for owns the loop for good. A hook that asks for its thread panics on every other one and leaves the loop
as it was. What waits is delivered on whichever thread asks for it, and the calls are made there; so all calls are
made on one thread as long as the owner alone delivers the rest. A render thread that a loop is moved to is a
visitor like any other. -/
theorem strangers_call_in_the_rest (program : Program ε τ) (engine : ε) (config : Config)
    (moves : List (SharedMove τ)) :
    let state := (start engine config : SharedRun ε τ).play program moves
    let owner := state.run.loop.owner
    owner = (state.visits.find? Visit.asks).map Visit.thread ∧
    state.calls.map Prod.snd = callsOf state.run.loop.journal ∧
    (∀ made ∈ state.calls, made.1 ∈ state.visits ∧ (made.1.asks = true → owner = some made.1.thread)) ∧
    ((∀ visit ∈ state.visits, visit.asks = false → ∀ thread, owner = some thread → visit.thread = thread) →
      ∀ made ∈ state.calls, owner = some made.1.thread) ∧
    (state.run.stage = .idle → ∀ visit,
      (visit.asks = true → (∃ thread, owner = some thread ∧ thread ≠ visit.thread) →
        let after := state.step program (.visit visit)
        after.run = { state.run with history := state.run.history ++ [.returned (.error .foreignThread)] } ∧
          after.calls = state.calls) ∧
      (visit.asks = false → ∃ count made,
        let after := state.play program (.visit visit :: List.replicate count .proceed)
        after.run.stage = .idle ∧ after.run.loop = (state.run.loop.deliverRest program).2 ∧
          callsOf after.run.loop.journal = callsOf state.run.loop.journal ++ made ∧
          after.calls = state.calls ++ made.map (visit, ·)) ∧
      ∀ thread schedule, ∃ later, let moved := (ThreadRun.spawn thread state.run).play program schedule
        moved.run = (state.play program later).run ∧
          (state.play program later).visits = state.visits ++ moved.handled.map (Visit.mk thread)) := by
  intro state owner
  have holds : state.Attributed := (Attributed.start engine config).play program moves
  refine ⟨holds.first, holds.recorded, fun made member => ?_, fun alone made member => ?_,
    fun idle visit => ⟨?_, ?_, ?_⟩⟩
  · obtain ⟨visited, thread, owns, asked⟩ := holds.admitted made member
    exact ⟨visited, fun asks => owns.trans (congrArg some (asked asks).symm)⟩
  · obtain ⟨visited, thread, owns, asked⟩ := holds.admitted made member
    refine owns.trans (congrArg some ?_)
    cases asks : made.1.asks with
    | true => exact (asked asks).symm
    | false => exact (alone made.1 visited asks thread owns).symm
  · rintro asks ⟨thread, owns, foreign⟩ after
    have turnedAway := LoopRun.enter_of_foreign program asks owns foreign
    have stepped : after = state.advance (state.visits ++ [visit]) (state.run.leave (.error .foreignThread)) :=
      (step_visit program idle visit).trans (congrArg (state.advance _) turnedAway)
    rw [stepped]
    refine ⟨?_, ?_⟩
    · simp only [advance, LoopRun.leave, LoopRun.note, idle]
    · have silent : freshCalls state.run.loop.journal state.run.loop.journal = [] :=
        freshCalls_of_append (List.append_nil _).symm
      simp only [advance, LoopRun.leave_frame, silent, credited_nil, List.append_nil]
  · have rested : state.run.Rested := by
      show ((start engine config : SharedRun ε τ).play program moves).run.Rested
      rw [play_run]
      exact LoopRun.rested_play (fun _ => rfl) _
    exact delivers_rest program idle (rested idle)
  · intro thread schedule
    obtain ⟨later, signals, same, handles, visits⟩ :=
      exists_visits_of_thread program (ThreadRun.orderly_spawn idle thread) rfl schedule
    exact ⟨later, same, handles ▸ visits⟩

/-- A surface is created on the first thread, and a task is submitted. -/
def firstVisit : List (SharedMove Unit) :=
  [.visit ⟨0, .surfaceCreated⟩, .proceed, .proceed, .submit (Task.notify .lowMemory)]

/-- The desktop's loop behind these moves. -/
def desktopRun (moves : List (SharedMove Unit)) : SharedRun Desktop.Engine Unit :=
  (start {} {}).play ThreadRun.desktopProgram moves

/-- The same, and then a frame is due on another thread. -/
def secondVisit : List (SharedMove Unit) := firstVisit ++ [.visit ⟨1, .drawFrame⟩]

/-- A second thread may not draw, and the engine is called on the first one only. -/
theorem stranger_is_turned_away :
    (desktopRun secondVisit).run.loop = (desktopRun firstVisit).run.loop ∧
      ∀ made ∈ (desktopRun secondVisit).calls, some 0 = some made.1.thread := by
  obtain ⟨-, -, -, -, visits⟩ :=
    strangers_call_in_the_rest ThreadRun.desktopProgram ({} : Desktop.Engine) {} firstVisit
  obtain ⟨-, -, -, alone, -⟩ :=
    strangers_call_in_the_rest ThreadRun.desktopProgram ({} : Desktop.Engine) {} secondVisit
  obtain ⟨turnedAway, -, -⟩ := visits rfl ⟨1, .drawFrame⟩
  obtain ⟨same, -⟩ := turnedAway rfl ⟨0, rfl, Nat.zero_ne_one⟩
  have unchanged := congrArg LoopRun.loop same
  refine ⟨unchanged, alone ?_⟩
  have asked : ∀ visit ∈ (desktopRun secondVisit).visits, visit.asks = true := by decide
  intro visit visited unasked
  rw [asked visit visited] at unasked
  cases unasked

/-- A second thread that delivers the rest calls the engine; so does a render thread that the loop is moved to,
when it is asked to end. -/
theorem rest_called_elsewhere :
    ((desktopRun (firstVisit ++ .visit ⟨1, .shutdown⟩ :: List.replicate 5 .proceed)).calls.map fun made =>
        (made.1.thread, made.2)) =
      [(0, .configure "." ""), (0, .init [""]), (1, .notify .lowMemory)] ∧
      ((LoopThread.spawn 1 (desktopRun firstVisit).run.loop).map fun thread =>
        let joined := thread.join ThreadRun.desktopProgram
        (joined.1, callsOf joined.2.loop.journal)) =
      .ok (.ok .running, [.configure "." "", .init [""], .notify .lowMemory]) :=
  ⟨rfl, rfl⟩

end SharedRun

end EngineHost
