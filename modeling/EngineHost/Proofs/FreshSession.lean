/-
**Whether a new activity gets a session of its own.**

The end of an activity travels through the queue, and the surface of the next one does not: a surface may overtake
the end of the session before it.

* `Program.Tireless`, `LoopRun.Lasting`: nothing fails and nothing wants to stop, so that the loop has no end;
* `LoopRun.endsAhead`: a task that ends the session waits or is under way, with
  `LoopRun.Lasting.renewed_step` for what becomes of it in one move;
* `LoopRun.Arrived`: a surface has arrived, and no hook has delivered anything since;
* `LoopRun.fresh_session_iff`: behind the next frame the loop is running in a new session if and only if no task
  that ends the session waits when the surface arrives.
-/

import EngineHost.Proofs.Ending
import EngineHost.Proofs.FrameBoundary

namespace EngineHost

variable {ε τ : Type}

/-! ### Loops that have no end -/

/-- The engine always starts and never wants to stop, and no job fails. -/
structure Program.Tireless (program : Program ε τ) : Prop where
  starts : ∀ engine args, (program.init engine args).reply = .ready
  draws : ∀ engine, (program.render engine).reply = .proceed
  jobs : ∀ job, (program.task job).ending = .done

/-- A task that ends the session is in hand, or is running and has not ended it yet. -/
@[simp] def Stage.ends : Stage τ → Bool
  | .choosing _ batch => batch.any Task.endsSession
  | .running _ _ acts rest => acts.any Act.endsSession || rest.any Task.endsSession
  | _ => false

/-- Where a loop can stand between a surface and the next hook that delivers. -/
@[simp] def Stage.Arrives (state : LoopState) : Stage τ → Prop
  | .idle | .notified => state = .running
  | .configured | .started _ => True
  | _ => False

namespace LoopRun

/-- A task that ends the session waits, or is under way and has not ended it yet. -/
def endsAhead (run : LoopRun ε τ) : Bool := run.stage.ends || run.loop.queue.tasks.any Task.endsSession

/-- The loop goes on and has no reason to end, now or later. -/
structure Lasting (run : LoopRun ε τ) : Prop where
  goesOn : run.GoesOn
  endless : run.stage.endsLoop = false
  consistent : run.Consistent
  done : ∀ task ∈ run.tasks, task.ending = .done
  unpanicked : ∀ text, .panicked text ∉ replies run.history

section Steps

variable {program : Program ε τ} {run : LoopRun ε τ}

/-- The engine is started at most once in a step. -/
theorem replies_step (program : Program ε τ) (run : LoopRun ε τ) (move : Move τ) :
    replies (run.step program move).history = replies run.history ∨
      ∃ args, replies (run.step program move).history =
        replies run.history ++ [(program.init run.loop.engine args).reply] := by
  have quiet : ∀ {after : LoopRun ε τ} (events : List (Happening τ)),
      after.history = run.history ++ events → replies events = [] →
      replies after.history = replies run.history := by
    intro after events history silent
    rw [history, replies_append, silent, List.append_nil]
  refine step_induction (P := fun after => replies after.history = replies run.history ∨
    ∃ args, replies after.history = replies run.history ++ [(program.init run.loop.engine args).reply])
    (Or.inl rfl) ?_ ?_ ?_
  · intro owed offered loop _ _
    exact Or.inl (quiet _ rfl (replies_submissions offered run))
  · intro entry _
    refine Or.inl (enter_induction (P := fun after => replies after.history = replies run.history)
      (fun panic => quiet [.returned _] rfl rfl) fun owner => ?_)
    cases entry <;> cases state : run.loop.state <;> simp only [beginHook, state]
    all_goals first
      | rfl
      | exact quiet [.returned _] rfl rfl
  · obtain ⟨loop, stage, owed, history⟩ := run
    cases stage with
    | idle => exact Or.inl rfl
    | configured => exact Or.inr ⟨_, replies_append _ _⟩
    | started reply =>
      cases reply with
      | failed failure => exact Or.inl (quiet [.closed] (by simp [next, answerStart]) rfl)
      | ready | panicked => exact Or.inl (quiet [.returned _] rfl rfl)
    | notified => exact Or.inl (quiet [.returned _] rfl rfl)
    | choosing pass batch =>
      cases batch with
      | cons task rest => exact Or.inl (quiet [.begun task] rfl rfl)
      | nil =>
        simp only [next, finishPass]
        split
        · split
          · exact Or.inl rfl
          · exact Or.inl (quiet [.returned _] rfl rfl)
        · exact Or.inl (quiet [.returned _] rfl rfl)
    | running pass task acts rest =>
      cases acts with
      | cons act acts => cases act <;> exact Or.inl rfl
      | nil =>
        simp only [next, judge]
        cases loop.verdict pass.inSession task with
        | goOn | sessionOver => exact Or.inl rfl
        | failed failure => exact Or.inl (quiet [.failed failure] rfl rfl)
        | panicked text => exact Or.inl (quiet [.returned _] rfl rfl)
    | failing pass failure => exact Or.inl (quiet [.closed] (by simp [next]) rfl)
    | drawn outcome =>
      cases outcome with
      | proceed => exact Or.inl (quiet [.returned _] rfl rfl)
      | stop => exact Or.inl (quiet [.closed] (by simp [next, answerFrame]) rfl)
    | closing answer => exact Or.inl (quiet [.returned _] rfl rfl)

namespace Lasting

theorem calm (holds : run.Lasting) : ∀ task ∈ run.tasks, task.Calm := by
  intro task member text panicked
  rw [holds.done task member] at panicked
  cases panicked

/-- A tireless program gives a lasting loop no reason to end. -/
theorem unreasoned (tireless : program.Tireless) (holds : run.Lasting) : ¬ run.FindsReason program := by
  obtain ⟨loop, stage, owed, history⟩ := run
  rintro ⟨-, reason⟩
  cases stage with
  | configured =>
    obtain ⟨failure, replied⟩ := reason
    rw [tireless.starts] at replied
    cases replied
  | choosing pass batch =>
    cases batch with
    | nil =>
      obtain ⟨-, -, stops⟩ := reason
      rw [tireless.draws] at stops
      cases stops
    | cons task rest => cases reason
  | running pass task acts rest =>
    cases acts with
    | nil =>
      obtain ⟨failure, ending⟩ := reason
      rw [holds.done task (List.mem_append_left _ List.mem_cons_self)] at ending
      cases ending
    | cons act acts => cases reason
  | idle | started | notified | failing | drawn | closing => cases reason

theorem step (tireless : program.Tireless) (holds : run.Lasting) {move : Move τ}
    (done : ∀ task, move = .submit task → task.ending = .done) : (run.step program move).Lasting where
  goesOn := by
    rcases holds.goesOn.step program move with goesOn | ⟨-, -, ends, -⟩
    · exact goesOn
    · rw [holds.endless] at ends
      cases ends
  endless := by
    refine Bool.eq_false_iff.mpr fun ends => ?_
    exact holds.unreasoned tireless (reason_of_endsLoop holds.endless ends).2
  consistent := holds.consistent.step holds.calm move
  done := forall_tasks_step tireless.jobs done holds.done
  unpanicked text := by
    rcases replies_step program run move with same | ⟨args, started⟩
    · rw [same]
      exact holds.unpanicked text
    · rw [started, tireless.starts]
      simpa using holds.unpanicked text

theorem start (engine : ε) (config : Config) : Lasting (LoopRun.start engine config : LoopRun ε τ) where
  goesOn := goesOn_start engine config
  endless := rfl
  consistent := consistent_start engine config
  done := List.forall_mem_nil _
  unpanicked _ := List.not_mem_nil

theorem play (tireless : program.Tireless) (holds : run.Lasting) {moves : List (Move τ)}
    (done : ∀ task, .submit task ∈ moves → task.ending = .done) : (run.play program moves).Lasting := by
  refine play_induction (P := Lasting) holds fun run holds move member => ?_
  refine holds.step tireless fun task its => ?_
  rw [its] at member
  exact done task member

/-- The engine has answered that it is ready, if it has answered. -/
theorem ready (holds : run.Lasting) {reply : InitReply} (stage : run.stage = .started reply) :
    reply = .ready := by
  have endless := holds.endless
  have panics := holds.consistent.panics
  rw [stage] at endless panics
  cases reply with
  | ready => rfl
  | failed failure => cases endless
  | panicked text =>
    obtain ⟨other, panicked⟩ := panics.mpr trivial
    exact absurd panicked (holds.unpanicked other)

/-- Between two hooks the loop is running or waits for a surface. -/
theorem state_idle (holds : run.Lasting) (idle : run.stage = .idle) :
    run.loop.state = .running ∨ run.loop.state = .uninitialized := by
  have panics := holds.consistent.panics
  rw [idle] at panics
  cases state : run.loop.state with
  | running => exact Or.inl rfl
  | uninitialized => exact Or.inr rfl
  | initializing =>
    obtain ⟨text, panicked⟩ := panics.mpr state
    exact absurd panicked (holds.unpanicked text)
  | terminated => exact absurd state holds.goesOn.state

end Lasting

/-! ### What becomes of the end of a session -/

/-- The number of sessions that ended never falls. -/
theorem generation_step (program : Program ε τ) (run : LoopRun ε τ) (move : Move τ) :
    run.loop.session.generation ≤ (run.step program move).loop.session.generation := by
  have same : ∀ {after : LoopRun ε τ}, after.loop.session = run.loop.session →
      run.loop.session.generation ≤ after.loop.session.generation := fun session =>
    Nat.le_of_eq (congrArg Session.generation session.symm)
  refine step_induction (P := fun after => run.loop.session.generation ≤ after.loop.session.generation)
    (Nat.le_refl _) (fun owed offered loop outside _ => same outside.session) ?_ ?_
  · intro entry _
    refine enter_induction (P := fun after => run.loop.session.generation ≤ after.loop.session.generation)
      (fun panic => Nat.le_refl _) fun owner => ?_
    cases entry <;> cases state : run.loop.state <;> simp only [beginHook, state] <;>
      exact same (by simp [takeBatch])
  · obtain ⟨loop, stage, owed, history⟩ := run
    cases stage with
    | idle => exact Nat.le_refl _
    | configured => exact same (by simp [next])
    | started reply =>
      cases reply with
      | ready => exact Nat.le_refl _
      | failed failure => exact same (by simp [next, answerStart])
      | panicked text => exact Nat.le_refl _
    | notified => exact Nat.le_refl _
    | choosing pass batch =>
      cases batch with
      | cons task rest => exact Nat.le_refl _
      | nil =>
        simp only [next, finishPass]
        split
        · split
          · exact same (by simp)
          · exact Nat.le_refl _
        · exact same (by simp)
    | running pass task acts rest =>
      cases acts with
      | cons act acts =>
        cases act with
        | endSession =>
          simp only [next, perform, FrameLoop.inRoom_frame, EngineRoom.perform, EngineRoom.endSession_frame]
          exact Nat.le_add_right _ _
        | notify | shutdown | lookAtSession | queue =>
          exact same (by simp [next, perform, EngineRoom.perform])
      | nil =>
        simp only [next, judge]
        cases loop.verdict pass.inSession task <;> exact same (by simp [follow])
    | failing pass failure => exact same (by simp [next])
    | drawn outcome => cases outcome <;> exact same (by simp [next, answerFrame])
    | closing answer =>
      simp only [next, leave_frame, FrameLoop.conclude_frame]
      exact Nat.le_add_right _ _

theorem generation_play (program : Program ε τ) (run : LoopRun ε τ) (moves : List (Move τ)) :
    run.loop.session.generation ≤ (run.play program moves).loop.session.generation :=
  play_induction (P := fun after => run.loop.session.generation ≤ after.loop.session.generation)
    (Nat.le_refl _) fun after grows move _ => Nat.le_trans grows (generation_step program after move)

namespace Lasting

/-- A lasting loop accepts what is submitted. -/
theorem accepted_submit (holds : run.Lasting) (task : Task τ) :
    accepted (run.step program (.submit task)).history = accepted run.history ++ [task] := by
  show accepted (run.history ++ [run.submission task]) = _
  rw [accepted_append, submission_eq, holds.goesOn.isOpen]
  rfl

/-- A task that ends the session and was submitted just now is ahead. -/
theorem endsAhead_submit (holds : run.Lasting) {task : Task τ} (ends : task.endsSession = true) :
    (run.step program (.submit task)).endsAhead = true := by
  have tasks := (FrameLoop.Offered.submit task run.loop).tasks
  rw [if_neg (by rw [holds.goesOn.isOpen]; exact Bool.false_ne_true)] at tasks
  refine Bool.or_eq_true_iff.mpr (Or.inr (List.any_eq_true.mpr ⟨task, ?_, ends⟩))
  exact tasks ▸ List.mem_append_right _ (List.mem_singleton.mpr rfl)

/-- The end of a session that is ahead stays ahead when a hook is called. -/
theorem endsAhead_enter (ahead : run.endsAhead = true) (idle : run.stage = .idle) (entry : Entry) :
    (run.enter program entry).endsAhead = true := by
  have waits : run.loop.queue.tasks.any Task.endsSession = true := by
    simpa [endsAhead, idle] using ahead
  refine enter_induction (P := fun after => after.endsAhead = true)
    (fun panic => by simp [endsAhead, waits]) fun owner => ?_
  cases entry <;> cases state : run.loop.state <;>
    simp [beginHook, state, endsAhead, takeBatch, Queue.take, waits]

/-- The end of a session that is ahead stays ahead, or the next step ends all sessions that were begun so far. -/
theorem renewed_next (holds : run.Lasting) (ahead : run.endsAhead = true) :
    (run.next program).endsAhead = true ∨
      (replies run.history).count .ready ≤ (run.next program).loop.session.generation := by
  have starts := holds.consistent.starts
  have closing := holds.goesOn.stage
  have ready := fun reply => @Lasting.ready _ _ _ holds reply
  have endless := holds.endless
  have done := holds.done
  obtain ⟨loop, stage, owed, history⟩ := run
  cases stage with
  | idle => exact Or.inl ahead
  | configured => exact Or.inl (by simpa [next, endsAhead] using ahead)
  | started reply =>
    cases ready reply rfl
    exact Or.inl (by simpa [next, answerStart, endsAhead, Queue.reopen] using ahead)
  | notified => exact Or.inl ahead
  | choosing pass batch =>
    cases batch with
    | cons task rest => exact Or.inl (by simpa [next, endsAhead, Task.endsSession] using ahead)
    | nil =>
      refine Or.inl ?_
      have waits : loop.queue.tasks.any Task.endsSession = true := by simpa [endsAhead] using ahead
      simp only [next, finishPass]
      split
      · split <;> simp [endsAhead, waits]
      · simp [endsAhead, waits]
  | running pass task acts rest =>
    cases acts with
    | cons act acts =>
      cases act with
      | endSession =>
        refine Or.inr ?_
        rw [← starts]
        simp [next, perform, EngineRoom.perform, Session.starts, Session.reset]
      | notify | shutdown | lookAtSession | queue =>
        exact Or.inl (by simpa [next, perform, EngineRoom.perform, endsAhead] using ahead)
    | nil =>
      refine Or.inl ?_
      have isDone : task.ending = .done := done task (List.mem_append_left _ List.mem_cons_self)
      simp only [next, judge, EngineRoom.verdict, isDone]
      split
      · simpa [follow, endsAhead] using ahead
      · simpa [follow, endsAhead] using ahead
  | failing pass failure => cases endless
  | drawn outcome =>
    cases outcome with
    | proceed => exact Or.inl (by simpa [next, answerFrame, endsAhead] using ahead)
    | stop => cases endless
  | closing answer => cases closing

/-- **The end of a session that is ahead** stays ahead, or the move ends all sessions that were begun so far. -/
theorem renewed_step (holds : run.Lasting) (ahead : run.endsAhead = true) (move : Move τ) :
    (run.step program move).endsAhead = true ∨
      (replies run.history).count .ready ≤ (run.step program move).loop.session.generation := by
  refine move_induction (P := fun after => after.endsAhead = true ∨
    (replies run.history).count .ready ≤ after.loop.session.generation) (fun _ => Or.inl ahead) ?_
    (fun entry _ idle => Or.inl (endsAhead_enter ahead idle entry)) fun _ _ => holds.renewed_next ahead
  intro owed offered loop outside _ _
  refine Or.inl ?_
  have tasks := outside.tasks
  rw [if_neg (by rw [holds.goesOn.isOpen]; exact Bool.false_ne_true)] at tasks
  rcases Bool.or_eq_true_iff.mp ahead with under | waits
  · simp only [endsAhead, offer, under, Bool.true_or]
  · simp [endsAhead, offer, tasks, waits]

/-- What becomes of the end of a session in a schedule. -/
theorem renewed_play (tireless : program.Tireless) (holds : run.Lasting) (ahead : run.endsAhead = true)
    {moves : List (Move τ)} (done : ∀ task, .submit task ∈ moves → task.ending = .done) :
    (run.play program moves).endsAhead = true ∨
      (replies run.history).count .ready ≤ (run.play program moves).loop.session.generation := by
  have kept : (run.play program moves).Lasting ∧ replies run.history <+: replies (run.play program moves).history ∧
      ((run.play program moves).endsAhead = true ∨
        (replies run.history).count .ready ≤ (run.play program moves).loop.session.generation) := by
    refine play_induction (P := fun after => after.Lasting ∧ replies run.history <+: replies after.history ∧
      (after.endsAhead = true ∨ (replies run.history).count .ready ≤ after.loop.session.generation))
      ⟨holds, List.prefix_refl _, Or.inl ahead⟩ ?_
    rintro after ⟨lasting, grows, renewed⟩ move member
    have more : replies after.history <+: replies (after.step program move).history :=
      (isPrefix_history_step program after move).filterMap _
    refine ⟨lasting.step tireless fun task its => done task (its ▸ member), grows.trans more, ?_⟩
    rcases renewed with still | fresh
    · refine (lasting.renewed_step still move).imp_right fun fresh => ?_
      exact Nat.le_trans (grows.sublist.count_le _) fresh
    · exact Or.inr (Nat.le_trans fresh (generation_step program after move))
  exact kept.2.2

end Lasting

/-! ### From a surface to the next frame -/

/-- A surface has arrived since, and no hook has delivered anything: tasks were accepted at most. -/
structure Arrived (before run : LoopRun ε τ) : Prop where
  stage : run.stage.Arrives run.loop.state
  waits : ∃ offered, accepted run.history = accepted before.history ++ offered ∧
    run.loop.queue.tasks = before.loop.queue.tasks ++ offered

namespace Arrived

variable {before : LoopRun ε τ}

/-- Nothing is accepted, and the queue stays. -/
theorem quiet (holds : Arrived before run) {after : LoopRun ε τ} (events : List (Happening τ))
    (history : after.history = run.history ++ events) (silent : accepted events = [])
    (tasks : after.loop.queue.tasks = run.loop.queue.tasks) (stage : after.stage.Arrives after.loop.state) :
    Arrived before after := by
  obtain ⟨offered, accepts, waits⟩ := holds.waits
  refine ⟨stage, offered, ?_, tasks.trans waits⟩
  rw [history, accepted_append, silent, List.append_nil, accepts]

/-- A surface arrives between two hooks of a lasting loop. -/
theorem enter_surface (holds : run.Lasting) (idle : run.stage = .idle) {thread : ThreadId}
    (admitted : run.loop.Admits (.surfaceCreated thread)) :
    Arrived run (run.enter program (.surfaceCreated thread)) := by
  obtain ⟨owner, entered⟩ := enter_admitted program admitted
  rw [entered]
  rcases holds.state_idle idle with state | state
  · simp only [beginHook, state]
    exact ⟨rfl, [], (List.append_nil _).symm, by simp⟩
  · simp only [beginHook, state]
    exact ⟨trivial, [], (List.append_nil _).symm, by simp⟩

theorem enter (holds : Arrived before run) (idle : run.stage = .idle) {entry : Entry}
    (delivers : entry.delivers? = none) : Arrived before (run.enter program entry) := by
  have running : run.loop.state = .running := by
    have stage := holds.stage
    rw [idle] at stage
    exact stage
  refine enter_induction (P := Arrived before) (fun panic => ?_) fun owner => ?_
  · exact holds.quiet [.returned _] rfl rfl rfl running
  · cases entry with
    | surfaceCreated thread =>
      simp only [beginHook, running]
      exact holds.quiet [] (List.append_nil _).symm rfl (by simp) rfl
    | surfaceChanged thread width height => exact holds.quiet [.returned _] rfl rfl rfl running
    | drawFrame | deliverRest => cases delivers

theorem next (holds : Arrived before run) (lasting : run.Lasting) : Arrived before (run.next program) := by
  have stands := holds.stage
  have ready := fun reply => @Lasting.ready _ _ run lasting reply
  obtain ⟨loop, stage, owed, history⟩ := run
  cases stage with
  | idle => exact holds
  | configured => exact holds.quiet [.replied _] rfl rfl rfl trivial
  | started reply =>
    cases ready reply rfl
    exact holds.quiet [.returned _] rfl rfl (by simp [LoopRun.next, answerStart, Queue.reopen]) rfl
  | notified => exact holds.quiet [.returned _] rfl rfl rfl stands
  | choosing | running | failing | drawn | closing => cases stands

theorem step (holds : Arrived before run) (lasting : run.Lasting) {move : Move τ}
    (delivers : ∀ entry, move = .enter entry → entry.delivers? = none) :
    Arrived before (run.step program move) := by
  refine move_induction (P := Arrived before) (fun _ => holds) ?_
    (fun entry its idle => holds.enter idle (delivers entry its)) fun _ _ => holds.next lasting
  intro owed offered loop outside _ _
  obtain ⟨earlier, accepts, waits⟩ := holds.waits
  have tasks := outside.tasks
  rw [if_neg (by rw [lasting.goesOn.isOpen]; exact Bool.false_ne_true)] at tasks
  refine ⟨?_, earlier ++ offered, ?_, ?_⟩
  · simp only [offer, outside.state]
    exact holds.stage
  · have isOpen : run.loop.queue.closed = false := lasting.goesOn.isOpen
    simp only [offer, accepted_append, accepted_submissions, isOpen, Bool.false_eq_true, if_false, accepts,
      List.append_assoc]
  · simp only [offer, tasks, waits, List.append_assoc]

theorem play (tireless : program.Tireless) (holds : Arrived before run) (lasting : run.Lasting)
    {moves : List (Move τ)} (done : ∀ task, .submit task ∈ moves → task.ending = .done)
    (delivers : ∀ entry, .enter entry ∈ moves → entry.delivers? = none) :
    Arrived before (run.play program moves) := by
  have kept : (run.play program moves).Lasting ∧ Arrived before (run.play program moves) := by
    refine play_induction (P := fun after => after.Lasting ∧ Arrived before after) ⟨lasting, holds⟩ ?_
    rintro after ⟨lasting, holds⟩ move member
    exact ⟨lasting.step tireless fun task its => done task (its ▸ member),
      holds.step lasting fun entry its => delivers entry (its ▸ member)⟩
  exact kept.2

/-- Between two hooks the loop is running by then, in a session. -/
theorem running (holds : Arrived before run) (consistent : run.Consistent) (idle : run.stage = .idle) :
    run.loop.state = .running ∧ run.loop.session.initialized = true := by
  have stage := holds.stage
  have fits := consistent.fits
  rw [idle] at stage fits
  exact ⟨stage, fits.1.mp stage⟩

end Arrived

/-- What a frame of a lasting loop comes to: the loop waits for a surface if and only if the batch holds a task
that ends the session. -/
theorem Lasting.drew (tireless : program.Tireless) (holds : run.Lasting) {arrived : List (Task τ)}
    {answer : Entry.Answer} {after : FrameLoop ε τ} (drew : run.loop.Drew program arrived answer after) :
    (after.state = .running ∧ ∀ task ∈ run.loop.queue.tasks, task.endsSession = false) ∨
      (after.state = .uninitialized ∧ ∃ task ∈ run.loop.queue.tasks, task.endsSession = true) := by
  unfold FrameLoop.Drew at drew
  dsimp only at drew
  cases stops : run.loop.queue.tasks.find? Task.stops with
  | none =>
    rw [stops] at drew
    obtain ⟨-, drawn⟩ := drew
    rw [tireless.draws] at drawn
    refine Or.inl ⟨drawn.2.1, fun task member => ?_⟩
    have goesOn := List.find?_eq_none.mp stops task member
    exact (Task.stops_eq_false.mp (Bool.eq_false_iff.mpr goesOn)).2
  | some last =>
    have member : last ∈ run.loop.queue.tasks := List.mem_of_find?_eq_some stops
    have isDone : last.ending = .done := holds.done last (List.mem_append_right _ member)
    have isLast : last.stops = true := List.find?_some stops
    simp only [stops, isDone] at drew
    refine Or.inr ⟨drew.2.2.1, last, member, ?_⟩
    simpa [Task.stops, isDone] using isLast

/-- The frame behind a surface: what waits when it is due is what waited when the surface arrived, and nothing more
that ends the session. -/
theorem Arrived.drew (tireless : program.Tireless) {arriving due : LoopRun ε τ} (arrived : Arrived arriving due)
    (lasting : due.Lasting) (idle : due.stage = .idle) {drawing : ThreadId}
    (admitted : due.loop.Admits (.drawFrame drawing))
    (others : ∀ offered, accepted due.history = accepted arriving.history ++ offered →
      ∀ task ∈ offered, task.endsSession = false) {moves : List (Move τ)} (inner : Inner moves) :
    let after := (due.enter program (.drawFrame drawing)).play program moves
    after.stage = .idle →
      (after.loop.state = .running ∧ due.endsAhead = false ∧
          ∀ task ∈ arriving.loop.queue.tasks, task.endsSession = false) ∨
        (after.loop.state = .uninitialized ∧ ∃ task ∈ arriving.loop.queue.tasks, task.endsSession = true) := by
  intro after returned
  obtain ⟨running, inSession⟩ := arrived.running lasting.consistent idle
  obtain ⟨progress, holds⟩ := (underway_enter program running inSession rfl admitted).play inner
  obtain ⟨-, frame, answer, -, -, drew⟩ := holds.drew returned
  obtain ⟨offered, accepts, waits⟩ := arrived.waits
  rcases lasting.drew tireless drew with ⟨goesOn, none⟩ | ⟨isOver, last, member, ends⟩
  · refine Or.inl ⟨goesOn, ?_, fun task member => none task (waits ▸ List.mem_append_left _ member)⟩
    rw [endsAhead, idle]
    exact List.any_eq_false.mpr fun task member => Bool.eq_false_iff.mp (none task member)
  · refine Or.inr ⟨isOver, last, ?_, ends⟩
    rw [waits] at member
    refine (List.mem_append.mp member).resolve_right fun new => ?_
    rw [others offered accepts last new] at ends
    cases ends

/-- **Behind the next frame the loop is running in a new session if and only if no task that ends the session waits
when the surface arrives**; otherwise it waits for another surface. The activity was destroyed before the surface
of the next one arrives, and whatever hooks are called and whatever is submitted between the two; between the
surface and the frame nobody delivers anything or submits another end of the session. -/
theorem fresh_session_iff (tireless : program.Tireless) (engine : ε) (config : Config)
    (earlier meanwhile between : List (Move τ)) (surface drawing : ThreadId)
    (done : ∀ task, .submit task ∈ earlier ++ meanwhile ++ between → task.ending = .done)
    (delivers : ∀ entry, .enter entry ∈ between → entry.delivers? = none) :
    let before := (start engine config).play program earlier
    let destroyed := before.step program (.submit (Host.lifecycleTask .destroyed))
    let arriving := destroyed.play program meanwhile
    let due := (arriving.step program (.enter (.surfaceCreated surface))).play program between
    let drawn := due.step program (.enter (.drawFrame drawing))
    arriving.stage = .idle → arriving.loop.Admits (.surfaceCreated surface) →
    due.stage = .idle → due.loop.Admits (.drawFrame drawing) →
    (∀ offered, accepted due.history = accepted arriving.history ++ offered →
      ∀ task ∈ offered, task.endsSession = false) →
    accepted destroyed.history = accepted before.history ++ [Task.endActivity] ∧
    (∃ bound, ∀ moves : List (Move τ), Inner moves → bound ≤ moves.countP Move.isProceed →
      (drawn.play program moves).stage = .idle) ∧
    ∀ moves : List (Move τ), Inner moves → (drawn.play program moves).stage = .idle →
      let after := (drawn.play program moves).loop
      (after.state = .running ∧ (replies destroyed.history).count .ready ≤ after.session.generation ↔
        ∀ task ∈ arriving.loop.queue.tasks, task.endsSession = false) ∧
      (after.state = .uninitialized ↔ ∃ task ∈ arriving.loop.queue.tasks, task.endsSession = true) := by
  intro before destroyed arriving due drawn idle admitted dueIdle dueAdmitted others
  have doneMeanwhile : ∀ task, .submit task ∈ meanwhile → task.ending = .done := fun task member =>
    done task (List.mem_append_left _ (List.mem_append_right _ member))
  have doneBetween : ∀ task, .submit task ∈ between → task.ending = .done := fun task member =>
    done task (List.mem_append_right _ member)
  have lastingBefore : before.Lasting := (Lasting.start engine config).play tireless fun task member =>
    done task (List.mem_append_left _ (List.mem_append_left _ member))
  have lastingDestroyed : destroyed.Lasting := lastingBefore.step tireless fun task its => by cases its; rfl
  have lastingArriving : arriving.Lasting := lastingDestroyed.play tireless doneMeanwhile
  have lastingSurface : (arriving.step program (.enter (.surfaceCreated surface))).Lasting :=
    lastingArriving.step tireless nofun
  have lastingDue : due.Lasting := lastingSurface.play tireless doneBetween
  have arrived : Arrived arriving due := by
    refine Arrived.play tireless ?_ lastingSurface doneBetween delivers
    simp only [LoopRun.step, idle]
    exact .enter_surface lastingArriving idle admitted
  have entered : drawn = due.enter program (.drawFrame drawing) := by
    simp only [drawn, LoopRun.step, dueIdle]
  have whole : due = destroyed.play program (meanwhile ++ .enter (.surfaceCreated surface) :: between) :=
    (play_append program meanwhile (.enter (.surfaceCreated surface) :: between) destroyed).symm
  -- The end of the activity is still ahead when the frame is due, or its session is over.
  have renewed : due.endsAhead = true ∨
      (replies destroyed.history).count .ready ≤ due.loop.session.generation := by
    rw [whole]
    refine lastingDestroyed.renewed_play tireless (lastingBefore.endsAhead_submit rfl) fun task member => ?_
    rcases List.mem_append.mp member with old | new
    · exact doneMeanwhile task old
    · rcases List.mem_cons.mp new with its | rest
      · cases its
      · exact doneBetween task rest
  refine ⟨lastingBefore.accepted_submit (Host.lifecycleTask .destroyed), ?_, fun moves inner returned => ?_⟩
  · have rested : due.Rested := by
      have fromStart : due = (start engine config).play program (earlier ++
          .submit (Host.lifecycleTask .destroyed) ::
            (meanwhile ++ .enter (.surfaceCreated surface) :: between)) := by
        rw [play_append]
        exact whole
      rw [fromStart]
      exact rested_play (fun _ => rfl) _
    rw [entered]
    exact returns_among_others program (.drawFrame drawing) dueIdle (rested dueIdle)
  · have later : due.loop.session.generation ≤ (drawn.play program moves).loop.session.generation :=
      generation_play program due (.enter (.drawFrame drawing) :: moves)
    have frame := arrived.drew tireless lastingDue dueIdle dueAdmitted others inner
    rw [← entered] at frame
    rcases frame returned with ⟨goesOn, unended, harmless⟩ | ⟨isOver, last, waited, ends⟩
    · have fresh := Nat.le_trans (renewed.resolve_left (Bool.eq_false_iff.mp unended)) later
      refine ⟨⟨fun _ => harmless, fun _ => ⟨goesOn, fresh⟩⟩, fun isOver => ?_, ?_⟩
      · rw [goesOn] at isOver
        cases isOver
      · rintro ⟨task, member, ends⟩
        rw [harmless task member] at ends
        cases ends
    · refine ⟨⟨fun runs => ?_, fun none => ?_⟩, fun _ => ⟨last, waited, ends⟩, fun _ => isOver⟩
      · have goesOn := runs.1
        rw [isOver] at goesOn
        cases goesOn
      · rw [none last waited] at ends
        cases ends

end Steps

/-- The desktop's engine, which nobody asks to quit, in a program whose jobs end the session. -/
def tirelessProgram : Program Desktop.Engine Unit :=
  { Desktop.program fun _ => Task.endActivity with render := fun engine => { engine, reply := .proceed } }

theorem tirelessProgram_tireless : tirelessProgram.Tireless := ⟨fun _ _ => rfl, fun _ => rfl, fun _ => rfl⟩

/-- A surface is created, and the activity is destroyed. -/
def destroyedRun : LoopRun Desktop.Engine Unit :=
  ((start {} {}).play tirelessProgram [.enter (.surfaceCreated 1), .proceed, .proceed]).step tirelessProgram
    (.submit (Host.lifecycleTask .destroyed))

/-- A frame, with as many steps as it takes to end the session of the activity. -/
def endingFrame : List (Move Unit) := .enter (.drawFrame 1) :: List.replicate 6 .proceed

/-- The surface of the next activity arrives, and the next frame follows; before the surface some hooks are
called. -/
def nextActivity (meanwhile between : List (Move Unit)) : LoopRun Desktop.Engine Unit :=
  (((destroyedRun.play tirelessProgram meanwhile).step tirelessProgram (.enter (.surfaceCreated 1))).play
    tirelessProgram between).play tirelessProgram endingFrame

/-- Without a frame in between, the surface of the next activity is used up by the session of the one before: the
loop waits for another surface. With a frame in between it is running in a new session. -/
theorem nextActivity_waits_or_runs :
    (nextActivity [] [.proceed]).loop.state = .uninitialized ∧
      (nextActivity endingFrame [.proceed, .proceed]).loop.state = .running ∧
      1 ≤ (nextActivity endingFrame [.proceed, .proceed]).loop.session.generation := by
  have unoffered : ∀ arriving due : LoopRun Desktop.Engine Unit,
      accepted due.history = accepted arriving.history →
      ∀ offered, accepted due.history = accepted arriving.history ++ offered →
        ∀ task ∈ offered, task.endsSession = false := by
    intro arriving due same offered accepts
    rw [same, List.self_eq_append_right] at accepts
    subst accepts
    exact List.forall_mem_nil _
  have inner : Inner (List.replicate 6 (.proceed : Move Unit)) := by
    simp [Inner]
  obtain ⟨-, -, overtaken⟩ := fresh_session_iff tirelessProgram_tireless {} {}
    [.enter (.surfaceCreated 1), .proceed, .proceed] [] [.proceed] 1 1 (by simp) (by simp) rfl
    (by rintro thread ⟨⟩ owner ⟨⟩; rfl) rfl (by rintro thread ⟨⟩ owner ⟨⟩; rfl) (unoffered _ _ rfl)
  obtain ⟨-, -, awaited⟩ := fresh_session_iff tirelessProgram_tireless {} {}
    [.enter (.surfaceCreated 1), .proceed, .proceed] endingFrame [.proceed, .proceed] 1 1
    (by simp [endingFrame]) (by simp) rfl (by rintro thread ⟨⟩ owner ⟨⟩; rfl) rfl
    (by rintro thread ⟨⟩ owner ⟨⟩; rfl) (unoffered _ _ rfl)
  have waits := (overtaken (List.replicate 6 .proceed) inner rfl).2.mpr
    ⟨Task.endActivity, List.mem_singleton.mpr rfl, rfl⟩
  have runs := (awaited (List.replicate 6 .proceed) inner rfl).1.mpr (List.forall_mem_nil _)
  exact ⟨waits, runs⟩

/-- The surface of the next activity arrives behind the end of the one before, and behind the next frame no session
is begun. -/
theorem surface_used_up :
    accepted destroyedRun.history = [Task.endActivity] ∧ (nextActivity [] [.proceed]).stage = .idle ∧
      (nextActivity [] [.proceed]).loop.state = .uninitialized ∧
      (nextActivity [] [.proceed]).loop.session.initialized = false ∧
      replies (nextActivity [] [.proceed]).history = replies destroyedRun.history :=
  ⟨rfl, rfl, rfl, rfl, rfl⟩

end LoopRun

end EngineHost
