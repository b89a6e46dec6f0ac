/-
**The loop's thread goes its own way.**

What the loop's thread does next depends on the engine, on the session and on where the thread stands,
and not on what other threads submit or report meanwhile.

* `LoopRun.move_induction`, `LoopRun.inner_induction`: all that a move can do, and all that one can do
  that does not call a hook;
* `LoopRun.Alike`: the loop's thread stands at the same point of two runs, with `LoopRun.Alike.proceed`
  for one step of it and `LoopRun.Alike.outside` for a move of another thread;
* `LoopRun.Rested`: between two hooks nothing is owed;
* `LoopRun.returns_among_others`: a hook returns after a number of steps of its thread that no other
  thread can raise.
-/

import EngineHost.Proofs.Uninterrupted

namespace EngineHost

variable {ε τ α : Type}

/-- Whether a move calls a hook. -/
@[simp] def Move.isEnter : Move τ → Bool
  | .enter _ => true
  | .submit _ | .report _ | .proceed => false

/-- Whether a move is a step of the loop's thread. -/
@[simp] def Move.isProceed : Move τ → Bool
  | .proceed => true
  | .submit _ | .report _ | .enter _ => false

/-- The moves of a schedule while a hook is on its way: none of them calls another one. -/
def Inner (moves : List (Move τ)) : Prop := ∀ move ∈ moves, move.isEnter = false

instance (moves : List (Move τ)) : Decidable (Inner moves) :=
  inferInstanceAs (Decidable (∀ move ∈ moves, move.isEnter = false))

/-- A thread is let in unless somebody else owns the loop. -/
theorem FrameLoop.enter_cases (loop : FrameLoop ε τ) (thread : ThreadId) :
    ((∀ owner, loop.owner = some owner → owner = thread) ∧
      loop.enter thread = .ok { loop with owner := some thread }) ∨
      ∃ owner, loop.owner = some owner ∧ owner ≠ thread ∧ loop.enter thread = .error .foreignThread := by
  unfold FrameLoop.enter
  split
  · rename_i free
    refine Or.inl ⟨fun owner owns => ?_, rfl⟩
    rw [free] at owns
    cases owns
  · rename_i owner owns
    split
    · rename_i same
      refine Or.inl ⟨fun other its => ?_, ?_⟩
      · rw [owns] at its
        exact (Option.some.inj its).symm.trans same
      · rw [← same, ← owns]
    · rename_i foreign
      exact Or.inr ⟨owner, owns, foreign, rfl⟩

/-- Whether the thread of a hook may enter: nobody else owns the loop. -/
def FrameLoop.Admits (entry : Entry) (loop : FrameLoop ε τ) : Prop :=
  ∀ thread, entry.thread? = some thread → ∀ owner, loop.owner = some owner → owner = thread

/-- A thread that may enter is let in. -/
theorem FrameLoop.enter_of_admits {entry : Entry} {loop : FrameLoop ε τ} (admitted : loop.Admits entry)
    {thread : ThreadId} (on : entry.thread? = some thread) :
    loop.enter thread = .ok { loop with owner := some thread } := by
  rcases loop.enter_cases thread with ⟨-, entered⟩ | ⟨owner, owns, foreign, -⟩
  · exact entered
  · exact absurd (admitted thread on owner owns) foreign

namespace LoopRun

variable {program : Program ε τ}

/-- All that one move can do, with what it finds: a hook is called between two hooks only, what is owed is
used first, and nothing is owed when the loop's thread takes its next step. -/
theorem move_induction {run : LoopRun ε τ} {move : Move τ} {P : LoopRun ε τ → Prop}
    (stays : move.isEnter = true → P run)
    (outside : ∀ owed offered loop, run.loop.Offered offered loop → loop.engine = run.loop.engine →
      (owed = run.owed ∨ ∃ use, run.owed = use :: owed) → P ({ run with owed }.offer offered loop))
    (enters : ∀ entry, move = .enter entry → run.stage = .idle → P (run.enter program entry))
    (proceeds : move = .proceed → run.owed = [] → P (run.next program)) :
    P (run.step program move) := by
  cases move with
  | submit task =>
    refine outside run.owed [task] _ (.submit task run.loop) ?_ (Or.inl rfl)
    exact EngineRoom.submit_engine task run.loop.toEngineRoom
  | report notices =>
    rw [step, report_eq_offer]
    exact outside run.owed [] _ (.report notices run.loop) rfl (Or.inl rfl)
  | enter entry =>
    simp only [step]
    split
    · rename_i idle
      exact enters entry rfl idle
    · exact stays rfl
  | proceed =>
    simp only [step]
    split
    · rename_i use owed owes
      rw [useQueue_eq_offer]
      refine outside owed _ _ (.use program use run.loop) ?_ (Or.inr ⟨use, owes⟩)
      exact EngineRoom.use_engine program run.loop.toEngineRoom use
    · rename_i nothing
      exact proceeds rfl nothing

/-- A move that does not call a hook offers tasks to the queue, or is the next step of the loop's thread,
to which nothing is owed then. -/
theorem inner_induction {run : LoopRun ε τ} {move : Move τ} {P : LoopRun ε τ → Prop}
    (inner : move.isEnter = false)
    (outside : ∀ owed offered loop, run.loop.Offered offered loop → loop.engine = run.loop.engine →
      P ({ run with owed }.offer offered loop))
    (proceeds : move = .proceed → run.owed = [] → P (run.next program)) : P (run.step program move) := by
  refine move_induction ?_ ?_ ?_ proceeds
  · intro enters
    rw [inner] at enters
    cases enters
  · exact fun owed offered loop offers engine _ => outside owed offered loop offers engine
  · rintro entry rfl
    cases inner

/-- A thread that may enter begins its hook, and no more than the owner of the loop changes on the way. -/
theorem enter_admitted (program : Program ε τ) {entry : Entry} {run : LoopRun ε τ}
    (admitted : run.loop.Admits entry) :
    ∃ owner, run.enter program entry =
      { run with loop := { run.loop with owner } }.beginHook program entry := by
  unfold enter
  cases on : entry.thread? with
  | none => exact ⟨run.loop.owner, rfl⟩
  | some thread =>
    refine ⟨some thread, ?_⟩
    simp only [FrameLoop.enter_of_admits admitted on]

/-- What an inner schedule keeps, move by move. -/
theorem inner_play_induction {P : LoopRun ε τ → Prop} {moves : List (Move τ)} {run : LoopRun ε τ}
    (inner : Inner moves) (start : P run)
    (kept : ∀ run, P run → ∀ move, move.isEnter = false → P (run.step program move)) :
    P (run.play program moves) :=
  play_induction start fun run holds move member => kept run holds move (inner move member)

/-! ### Two runs whose thread stands at the same point -/

/-- The loop's thread stands at the same point of two runs, and will find the same engine. -/
structure Alike (one other : LoopRun ε τ) : Prop where
  engine : one.loop.engine = other.loop.engine
  session : one.loop.session = other.loop.session
  config : one.loop.config = other.loop.config
  state : one.loop.state = other.loop.state
  stage : one.stage = other.stage
  owed : one.owed = other.owed

namespace Alike

variable {one other : LoopRun ε τ}

theorem refl (run : LoopRun ε τ) : run.Alike run := ⟨rfl, rfl, rfl, rfl, rfl, rfl⟩

theorem symm (alike : one.Alike other) : other.Alike one :=
  ⟨alike.engine.symm, alike.session.symm, alike.config.symm, alike.state.symm, alike.stage.symm,
    alike.owed.symm⟩

theorem trans {third : LoopRun ε τ} (first : one.Alike other) (second : other.Alike third) :
    one.Alike third :=
  ⟨first.engine.trans second.engine, first.session.trans second.session,
    first.config.trans second.config, first.state.trans second.state, first.stage.trans second.stage,
    first.owed.trans second.owed⟩

/-- Tasks that are offered to the queue leave the loop's thread where it stands. -/
theorem offer (run : LoopRun ε τ) {offered : List (Task τ)} {loop : FrameLoop ε τ}
    (outside : run.loop.Offered offered loop) (engine : loop.engine = run.loop.engine) :
    (run.offer offered loop).Alike run :=
  ⟨engine, outside.session, outside.config, outside.state, rfl, rfl⟩

/-- What is remembered does not tell where the thread stands. -/
theorem note (alike : one.Alike other) (happening happening' : Happening τ) :
    (one.note happening).Alike (other.note happening') := { alike with }

theorem leave (alike : one.Alike other) (answer : Entry.Answer) :
    (one.leave answer).Alike (other.leave answer) := { alike with stage := rfl }

/-- The engine is called, and reacts in the same way. -/
theorem call (alike : one.Alike other) (made : EngineCall) (reaction : Reaction ε τ α) :
    (one.call made reaction).Alike (other.call made reaction) :=
  { alike with
    engine := rfl
    owed := rfl }

/-- The two queues may differ, but whatever is dropped as they close, the engine and the session stay. -/
theorem closeQueue (alike : one.Alike other) (notices notices' : List Notice) (answer : Entry.Answer) :
    Alike { one with loop := (one.loop.report notices).inRoom (·.closeQueue), stage := .closing answer }
      { other with loop := (other.loop.report notices').inRoom (·.closeQueue), stage := .closing answer } :=
  { alike with
    engine := by simpa using alike.engine
    session := by simpa using alike.session
    stage := rfl }

/-- An engine with a session is shut down. -/
theorem shutdown (alike : one.Alike other) :
    Alike (if one.loop.session.initialized then one.call .shutdown (program.shutdown one.loop.engine) else one)
      (if other.loop.session.initialized then other.call .shutdown (program.shutdown other.loop.engine)
        else other) := by
  rw [alike.session, alike.engine]
  split
  · exact alike.call .shutdown _
  · exact alike

theorem beginClose (alike : one.Alike other) (notices notices' : List Notice) (answer : Entry.Answer) :
    (one.beginClose program notices answer).Alike (other.beginClose program notices' answer) :=
  ((alike.closeQueue notices notices' answer).note .closed .closed).shutdown

theorem judge (alike : one.Alike other) (pass : Pass) (task : Task τ) (rest : List (Task τ)) :
    (one.judge pass task rest).Alike (other.judge pass task rest) := by
  have verdict : one.loop.verdict pass.inSession task = other.loop.verdict pass.inSession task := by
    simp only [EngineRoom.verdict, alike.session]
  unfold LoopRun.judge
  rw [verdict]
  cases other.loop.verdict pass.inSession task with
  | goOn => exact { alike with stage := rfl }
  | sessionOver =>
    exact { alike with
      engine := by simpa [follow] using alike.engine
      session := by simpa [follow] using alike.session
      stage := rfl }
  | failed failure => exact { alike with stage := rfl }
  | panicked text => exact alike.leave _

theorem finishPass (alike : one.Alike other) (pass : Pass) :
    (one.finishPass program pass).Alike (other.finishPass program pass) := by
  unfold LoopRun.finishPass
  rw [alike.session, alike.engine]
  split
  · split
    · have drawn (outcome : FrameOutcome) :
          Alike { one with stage := .drawn outcome } { other with stage := .drawn outcome } :=
        { alike with stage := rfl }
      exact (drawn _).call .render _
    · exact alike.leave _
  · have waiting : Alike { one with loop := one.loop.awaitSurface }
        { other with loop := other.loop.awaitSurface } := { alike with state := rfl }
    exact waiting.leave _

theorem perform (alike : one.Alike other) (act : Act τ) :
    (one.perform program act).Alike (other.perform program act) := by
  cases act with
  | notify notification =>
    simp only [LoopRun.perform, alike.engine]
    exact alike.call _ _
  | shutdown =>
    simp only [LoopRun.perform, alike.engine]
    exact alike.call _ _
  | queue use => exact { alike with owed := rfl }
  | endSession =>
    exact { alike with
      engine := by simpa [LoopRun.perform, EngineRoom.perform] using alike.engine
      session := by simp [LoopRun.perform, EngineRoom.perform, alike.session] }
  | lookAtSession => exact { alike with }

/-- The next step leads to the same point of both runs. -/
theorem next (alike : one.Alike other) : (one.next program).Alike (other.next program) := by
  unfold LoopRun.next
  rw [alike.stage]
  cases other.stage with
  | idle => exact alike
  | configured =>
    have answered (reply : InitReply) :
        Alike { one with stage := .started reply } { other with stage := .started reply } :=
      { alike with stage := rfl }
    simp only [alike.engine, alike.config]
    exact ((answered _).call _ _).note _ _
  | started reply =>
    cases reply with
    | ready =>
      have begun : Alike { one with loop := one.loop.beginSession }
          { other with loop := other.loop.beginSession } :=
        { alike with
          session := congrArg Session.begun alike.session
          state := rfl }
      exact begun.leave _
    | failed failure => exact alike.beginClose _ _ _
    | panicked text => exact alike.leave _
  | notified => exact alike.leave _
  | choosing pass batch =>
    cases batch with
    | nil => exact alike.finishPass pass
    | cons task rest => exact { alike with stage := rfl }
  | running pass task acts rest =>
    cases acts with
    | cons act acts =>
      have moved : Alike { one with stage := .running pass task acts rest }
          { other with stage := .running pass task acts rest } := { alike with stage := rfl }
      exact moved.perform act
    | nil => exact alike.judge pass task rest
  | failing pass failure => exact alike.beginClose _ _ _
  | drawn outcome =>
    have counted : Alike { one with loop := one.loop.countFrame }
        { other with loop := other.loop.countFrame } := { alike with }
    cases outcome with
    | proceed => exact counted.leave _
    | stop => exact counted.beginClose _ _ _
  | closing answer =>
    have concluded : Alike { one with loop := one.loop.conclude } { other with loop := other.loop.conclude } :=
      { alike with
        engine := by simpa using alike.engine
        session := by simp [alike.session]
        state := rfl }
    exact concluded.leave _

/-- One step of the loop's thread leads to the same point of both runs. -/
theorem proceed (alike : one.Alike other) :
    (one.step program .proceed).Alike (other.step program .proceed) := by
  simp only [step, alike.owed]
  cases owes : other.owed with
  | nil => exact alike.next
  | cons use owed =>
    have resumed : Alike { one with owed } { other with owed } := { alike with owed := rfl }
    simp only [useQueue_eq_offer]
    have here := Alike.offer { one with owed } (.use program use one.loop) (by simp)
    have there := Alike.offer { other with owed } (.use program use other.loop) (by simp)
    exact (here.trans resumed).trans there.symm

/-- What another thread does leaves the loop's thread where it stands. -/
theorem outside (run : LoopRun ε τ) {move : Move τ} (inner : move.isEnter = false)
    (other : move.isProceed = false) : (run.step program move).Alike run := by
  cases move with
  | submit task => exact Alike.offer run (.submit task run.loop) (by simp)
  | report notices =>
    rw [step, report_eq_offer]
    exact Alike.offer run (.report notices run.loop) rfl
  | enter entry => cases inner
  | proceed => cases other

/-- Only the steps of the loop's thread itself count for where it stands. -/
theorem play {moves : List (Move τ)} (inner : Inner moves) (alike : one.Alike other) :
    (one.play program moves).Alike
      (other.play program (List.replicate (moves.countP Move.isProceed) .proceed)) := by
  induction moves generalizing one other with
  | nil => exact alike
  | cons move moves ih =>
    have innerMoves : Inner moves := fun next member => inner next (List.mem_cons_of_mem move member)
    have innerMove : move.isEnter = false := inner move List.mem_cons_self
    by_cases own : move.isProceed = true
    · have isOwn : move = .proceed := by
        cases move with
        | proceed => rfl
        | submit | report | enter => cases own
      subst isOwn
      rw [List.countP_cons_of_pos own, List.replicate_succ]
      exact ih innerMoves alike.proceed
    · rw [List.countP_cons_of_neg own]
      exact ih innerMoves ((Alike.outside one innerMove (Bool.eq_false_iff.mpr own)).trans alike)

end Alike

/-! ### Between two hooks nothing is owed -/

/-- What the loop's thread owes to the queue is paid before a hook returns. -/
def Rested (run : LoopRun ε τ) : Prop := run.stage = .idle → run.owed = []

theorem rested_next {run : LoopRun ε τ} (unowed : run.owed = []) : (run.next program).Rested := by
  obtain ⟨loop, stage, owed, history⟩ := run
  intro idle
  unfold next at idle ⊢
  cases stage with
  | started reply =>
    cases reply with
    | failed failure => simp [answerStart] at idle
    | ready | panicked => exact unowed
  | choosing pass batch =>
    cases batch with
    | nil =>
      revert idle
      simp only [finishPass]
      split
      · split
        · intro idle
          cases idle
        · exact fun _ => unowed
      · exact fun _ => unowed
    | cons task rest => cases idle
  | running pass task acts rest =>
    cases acts with
    | cons act acts => cases act <;> cases idle
    | nil =>
      revert idle
      simp only [judge]
      cases loop.verdict pass.inSession task <;> exact fun _ => unowed
  | failing pass failure => simp at idle
  | drawn outcome =>
    cases outcome with
    | proceed => exact unowed
    | stop => simp [answerFrame] at idle
  | idle | notified | closing => exact unowed
  | configured => cases idle

theorem rested_enter {run : LoopRun ε τ} (unowed : run.owed = []) (entry : Entry) :
    (run.enter program entry).Rested := by
  refine enter_induction (P := Rested) (fun panic _ => unowed) fun owner => ?_
  cases entry <;> cases state : run.loop.state <;> simp only [beginHook, state] <;>
    first
      | exact fun _ => unowed
      | (intro idle; cases idle)

/-- Between two hooks of a schedule nothing is owed. -/
theorem rested_play {run : LoopRun ε τ} (rested : run.Rested) (moves : List (Move τ)) :
    (run.play program moves).Rested := by
  refine play_induction (P := Rested) rested fun run rested move _ => ?_
  refine move_induction (P := Rested) (fun _ => rested) ?_ ?_ fun _ unowed => rested_next unowed
  · rintro owed offered loop - - (rfl | ⟨use, owes⟩) idle
    · exact rested idle
    · rw [rested idle] at owes
      cases owes
  · exact fun entry _ idle => rested_enter (rested idle) entry

/-! ### Every hook returns -/

theorem play_append (program : Program ε τ) (earlier later : List (Move τ)) (run : LoopRun ε τ) :
    run.play program (earlier ++ later) = (run.play program earlier).play program later :=
  List.foldl_append

/-- Between two hooks the loop's thread has nothing to do. -/
theorem play_idle {run : LoopRun ε τ} (idle : run.stage = .idle) (unowed : run.owed = []) (count : Nat) :
    run.play program (List.replicate count .proceed) = run := by
  induction count with
  | zero => rfl
  | succ count ih =>
    have stays : run.step program .proceed = run := by simp only [step, unowed, next, idle]
    rw [List.replicate_succ]
    show (run.step program .proceed).play program _ = run
    rw [stays, ih]

/-- What another thread does during a hook leaves the loop's thread where it stands; so does the call of
another hook, which has no effect. -/
theorem step_of_busy (program : Program ε τ) {run : LoopRun ε τ} (busy : run.stage ≠ .idle)
    {move : Move τ} (other : move.isProceed = false) :
    (run.step program move).stage = run.stage ∧ (run.step program move).owed = run.owed ∧
      (run.step program move).loop.engine = run.loop.engine := by
  cases move with
  | submit task => exact ⟨rfl, rfl, EngineRoom.submit_engine task run.loop.toEngineRoom⟩
  | report notices => exact ⟨rfl, rfl, rfl⟩
  | enter entry =>
    have stays : run.step program (.enter entry) = run := by
      unfold step
      cases stage : run.stage with
      | idle => exact absurd stage busy
      | _ => rfl
    rw [stays]
    exact ⟨rfl, rfl, rfl⟩
  | proceed => cases other

/-- What the loop's thread owes is used first, one use after the other. -/
theorem step_of_owes (program : Program ε τ) {run : LoopRun ε τ} {use : QueueUse τ}
    {owed : List (QueueUse τ)} (owes : run.owed = use :: owed) :
    (run.step program .proceed).stage = run.stage ∧ (run.step program .proceed).owed = owed ∧
      (run.step program .proceed).loop.engine = run.loop.engine := by
  simp only [step, owes]
  exact ⟨rfl, rfl, EngineRoom.use_engine program run.loop.toEngineRoom use⟩

/-- During a hook the loop's thread pays what it owes, use by use, and then takes its next step. -/
theorem reaches_next (program : Program ε τ) {run : LoopRun ε τ} (busy : run.stage ≠ .idle)
    {moves : List (Move τ)} (enough : run.owed.length < moves.countP Move.isProceed) :
    ∃ earlier later, moves = earlier ++ .proceed :: later ∧
      moves.countP Move.isProceed = later.countP Move.isProceed + 1 + run.owed.length ∧
      (run.play program earlier).stage = run.stage ∧ (run.play program earlier).owed = [] ∧
      (run.play program earlier).loop.engine = run.loop.engine := by
  induction moves generalizing run with
  | nil => exact absurd enough (Nat.not_lt_zero _)
  | cons move moves ih =>
    have onward := @ih (run.step program move)
    by_cases own : move.isProceed = true
    · have isOwn : move = .proceed := by
        cases move with
        | proceed => rfl
        | submit | report | enter => cases own
      subst isOwn
      rw [List.countP_cons_of_pos own] at enough ⊢
      cases owes : run.owed with
      | nil => exact ⟨[], moves, rfl, rfl, rfl, owes, rfl⟩
      | cons use owed =>
        obtain ⟨stage, paid, engine⟩ := step_of_owes program owes
        rw [stage, paid, engine] at onward
        rw [owes] at enough
        obtain ⟨earlier, later, rfl, count, there⟩ := onward busy (Nat.lt_of_succ_lt_succ enough)
        exact ⟨.proceed :: earlier, later, rfl, congrArg (· + 1) count, there⟩
    · obtain ⟨stage, owed, engine⟩ := step_of_busy program busy (Bool.eq_false_iff.mpr own)
      rw [List.countP_cons_of_neg own] at enough ⊢
      rw [stage, owed, engine] at onward
      obtain ⟨earlier, later, rfl, count, there⟩ := onward busy enough
      exact ⟨move :: earlier, later, rfl, count, there⟩

/-- **Every hook returns**, after a number of steps of its thread that other threads cannot raise. -/
theorem returns_among_others (program : Program ε τ) (entry : Entry) {run : LoopRun ε τ}
    (idle : run.stage = .idle) (unowed : run.owed = []) :
    ∃ bound, ∀ moves : List (Move τ), Inner moves → bound ≤ moves.countP Move.isProceed →
      ((run.enter program entry).play program moves).stage = .idle := by
  obtain ⟨loop, stage, owed, history⟩ := run
  cases idle
  cases unowed
  obtain ⟨bound, earlier, returned⟩ := returns_of_enter program entry loop history
  refine ⟨bound, fun moves inner enough => ?_⟩
  let entered := enter program entry (⟨loop, .idle, [], history⟩ : LoopRun ε τ)
  have alone : (entered.play program moves).Alike
      (entered.play program (List.replicate (moves.countP Move.isProceed) .proceed)) :=
    Alike.play inner (Alike.refl entered)
  obtain ⟨more, split⟩ := Nat.exists_eq_add_of_le enough
  rw [split, ← List.replicate_append_replicate, play_append, returned, play_idle rfl rfl] at alone
  exact alone.stage

end LoopRun

end EngineHost
