/-
**A frame delivers what waited when it began, and nothing else.**

* `workedOff`, `leftOver`: the tasks of a batch up to the first behind which it does not go on, and those
  behind that one;
* `Unpanicked`: a history in which nothing panicked, with `LoopRun.conserved_of_unpanicked`;
* `FrameLoop.Drew`: what a frame of a running loop comes to, by the first such task;
* `LoopRun.Underway.drew`: every frame that has returned came to that;
* `LoopRun.frame_boundary`: the frame returns, whatever its tasks submit, and what waits for the next
  one.
-/

import EngineHost.Proofs.Delivery
import EngineHost.Proofs.WorkingOff

namespace EngineHost

variable {ε τ : Type}

/-! ### How far a batch goes -/

/-- The tasks of a batch that are begun: all up to the first behind which the batch does not go on. -/
def workedOff : List (Task τ) → List (Task τ)
  | [] => []
  | task :: rest => if task.stops then [task] else task :: workedOff rest

/-- The tasks of a batch that are not begun. -/
def leftOver : List (Task τ) → List (Task τ)
  | [] => []
  | task :: rest => if task.stops then rest else leftOver rest

/-- A batch behind all of whose tasks it goes on is worked off as a whole. -/
theorem workedOff_of_goesOn {batch : List (Task τ)} (goesOn : ∀ task ∈ batch, task.stops = false) :
    workedOff batch = batch ∧ batch.find? Task.stops = none := by
  induction batch with
  | nil => exact ⟨rfl, rfl⟩
  | cons task rest ih =>
    obtain ⟨here, there⟩ := List.forall_mem_cons.mp goesOn
    obtain ⟨whole, none⟩ := ih there
    unfold workedOff
    rw [here, whole, List.find?_cons, here]
    exact ⟨rfl, none⟩

/-- The first task that stops a batch is the last that is begun. -/
theorem workedOff_of_stops {first : List (Task τ)} {task : Task τ} (rest : List (Task τ))
    (goesOn : ∀ task ∈ first, task.stops = false) (stops : task.stops = true) :
    workedOff (first ++ task :: rest) = first ++ [task] ∧ leftOver (first ++ task :: rest) = rest ∧
      (first ++ task :: rest).find? Task.stops = some task := by
  induction first with
  | nil =>
    rw [List.nil_append, List.find?_cons, stops]
    unfold workedOff leftOver
    rw [if_pos stops, if_pos stops]
    exact ⟨rfl, rfl, rfl⟩
  | cons other first ih =>
    obtain ⟨here, there⟩ := List.forall_mem_cons.mp goesOn
    obtain ⟨ran, left, found⟩ := ih there
    rw [List.cons_append, List.find?_cons, here]
    unfold workedOff leftOver
    rw [here, ran, left]
    exact ⟨rfl, rfl, found⟩

/-- Less than what is begun is begun on the way. -/
theorem isPrefix_workedOff {first : List (Task τ)} (rest : List (Task τ))
    (goesOn : ∀ task ∈ first, task.stops = false) : first <+: workedOff (first ++ rest) := by
  induction first with
  | nil => exact List.nil_prefix
  | cons task first ih =>
    obtain ⟨here, there⟩ := List.forall_mem_cons.mp goesOn
    rw [List.cons_append, workedOff, here]
    exact (List.prefix_cons_inj task).mpr (ih there)

/-- The task that is under way is one of those that are begun. -/
theorem isPrefix_workedOff_running {first : List (Task τ)} (task : Task τ) (rest : List (Task τ))
    (goesOn : ∀ task ∈ first, task.stops = false) :
    first ++ [task] <+: workedOff (first ++ task :: rest) := by
  by_cases stops : task.stops = true
  · exact (workedOff_of_stops rest goesOn stops).1 ▸ List.prefix_refl _
  · rw [List.append_cons first task rest]
    refine isPrefix_workedOff rest fun other member => ?_
    rcases List.mem_append.mp member with old | new
    · exact goesOn other old
    · rw [List.mem_singleton.mp new]
      exact Bool.eq_false_iff.mpr stops

/-- No act of a task draws a frame. -/
theorem render_notMem_acts (acts : List (Act τ)) : EngineCall.render ∉ acts.filterMap Act.call? := by
  intro member
  obtain ⟨act, -, stands⟩ := List.mem_filterMap.mp member
  cases act <;> cases stands

/-- No task of a batch draws a frame. -/
theorem render_notMem_calls (batch : List (Task τ)) : EngineCall.render ∉ batch.flatMap Task.calls := by
  intro member
  obtain ⟨task, -, made⟩ := List.mem_flatMap.mp member
  exact render_notMem_acts task.acts made

/-! ### Panics -/

/-- Whether a hook stopped where the engine or a task panicked. -/
@[simp] def Happening.isPanic : Happening τ → Bool
  | .returned (.error (.raised _)) => true
  | _ => false

/-- Neither the engine nor a task has panicked. -/
def Unpanicked (history : List (Happening τ)) : Prop := ∀ happening ∈ history, happening.isPanic = false

instance (history : List (Happening τ)) : Decidable (Unpanicked history) :=
  inferInstanceAs (Decidable (∀ happening ∈ history, happening.isPanic = false))

/-! ### What a frame comes to -/

/-- What a frame of a running loop comes to while some tasks arrive: the batch that waited is worked off
and, if it goes on behind all its tasks, the frame is drawn. -/
def FrameLoop.Drew (program : Program ε τ) (before : FrameLoop ε τ) (arrived : List (Task τ))
    (answer : Entry.Answer) (after : FrameLoop ε τ) : Prop :=
  let batch := before.queue.tasks
  let calls := callsOf before.journal ++ (workedOff batch).flatMap Task.calls
  match batch.find? Task.stops with
  | none =>
    let reply := (program.render (program.after before.engine (batch.flatMap Task.calls))).reply
    answer = .ok (some reply) ∧
      match reply with
      | .proceed =>
        callsOf after.journal = calls ++ [.render] ∧ after.state = .running ∧ after.queue.tasks = arrived
      | .stop =>
        callsOf after.journal = calls ++ [.render, .shutdown] ∧ after.state = .terminated ∧
          after.queue.tasks = []
  | some last =>
    match last.ending with
    | .done =>
      answer = .ok (some .proceed) ∧ callsOf after.journal = calls ∧ after.state = .uninitialized ∧
        after.queue.tasks = leftOver batch ++ arrived
    | .failed _ =>
      answer = .ok (some .stop) ∧ after.state = .terminated ∧ after.queue.tasks = [] ∧
        callsOf after.journal = calls ++ if last.endsSession then [] else [.shutdown]
    | .panicked text =>
      answer = .error (.raised text) ∧ callsOf after.journal = calls ∧ after.queue.tasks = arrived

namespace LoopRun

variable {program : Program ε τ} {before run : LoopRun ε τ} {progress : PassProgress τ}

/-- On its way a hook has begun no more tasks than the batch goes on for, and a frame is drawn once, after
the calls of all of them. -/
theorem Underway.so_far {drawing : Bool} (holds : Underway program before drawing progress run) :
    progress.ran <+: workedOff before.loop.queue.tasks ∧
      (.render ∈ progress.made → drawing = true ∧ progress.ran = before.loop.queue.tasks ∧
        ∃ ends, progress.made = before.loop.queue.tasks.flatMap Task.calls ++ .render :: ends ∧
          .render ∉ ends) := by
  have stands := holds.stands
  generalize run.loop.state = loopState at stands
  generalize run.stage = stage at stands
  -- No frame was drawn behind a task that stopped the batch.
  have undrawn : ∀ (tasks : List (Task τ)) (ends : List EngineCall), .render ∉ ends →
      .render ∉ tasks.flatMap Task.calls ++ ends := fun tasks ends other member =>
    (List.mem_append.mp member).elim (render_notMem_calls tasks) other
  cases stands with
  | choosing whole goesOn =>
    rw [whole]
    exact ⟨isPrefix_workedOff _ goesOn, fun drew => absurd drew (render_notMem_calls _)⟩
  | running whole goesOn acts =>
    rw [whole]
    exact ⟨isPrefix_workedOff_running _ _ goesOn, fun drew => absurd drew (undrawn _ _ (render_notMem_acts _))⟩
  | left whole goesOn ending ends =>
    rw [whole]
    exact ⟨isPrefix_workedOff_running _ _ goesOn, fun drew => absurd drew (render_notMem_calls _)⟩
  | ended whole goesOn ending ends =>
    rw [whole]
    exact ⟨isPrefix_workedOff_running _ _ goesOn, fun drew => absurd drew (render_notMem_calls _)⟩
  | panicked whole goesOn ending =>
    rw [whole]
    exact ⟨isPrefix_workedOff_running _ _ goesOn, fun drew => absurd drew (render_notMem_calls _)⟩
  | failing whole goesOn ending =>
    rw [whole]
    exact ⟨isPrefix_workedOff_running _ _ goesOn, fun drew => absurd drew (render_notMem_calls _)⟩
  | aborting whole goesOn ending =>
    rw [whole]
    refine ⟨isPrefix_workedOff_running _ _ goesOn, fun drew => absurd drew (undrawn _ _ ?_)⟩
    split <;> simp
  | failed whole goesOn ending =>
    rw [whole]
    refine ⟨isPrefix_workedOff_running _ _ goesOn, fun drew => absurd drew (undrawn _ _ ?_)⟩
    split <;> simp
  | delivered goesOn rests =>
    rw [(workedOff_of_goesOn goesOn).1]
    exact ⟨List.prefix_refl _, fun drew => absurd drew (render_notMem_calls _)⟩
  | drawn goesOn draws =>
    rw [(workedOff_of_goesOn goesOn).1]
    exact ⟨List.prefix_refl _, fun _ => ⟨draws, rfl, [], rfl, List.not_mem_nil⟩⟩
  | drew goesOn draws reply =>
    rw [(workedOff_of_goesOn goesOn).1]
    exact ⟨List.prefix_refl _, fun _ => ⟨draws, rfl, [], rfl, List.not_mem_nil⟩⟩
  | stopping goesOn draws reply =>
    rw [(workedOff_of_goesOn goesOn).1]
    exact ⟨List.prefix_refl _, fun _ => ⟨draws, rfl, [.shutdown], rfl, by simp⟩⟩
  | stopped goesOn draws reply =>
    rw [(workedOff_of_goesOn goesOn).1]
    exact ⟨List.prefix_refl _, fun _ => ⟨draws, rfl, [.shutdown], rfl, by simp⟩⟩

/-- A hook that has returned began the tasks of its batch as far as it goes. -/
theorem Underway.worked {drawing : Bool} (holds : Underway program before drawing progress run)
    (idle : run.stage = .idle) : progress.ran = workedOff before.loop.queue.tasks := by
  have stands := holds.stands
  rw [idle] at stands
  generalize run.loop.state = loopState at stands
  cases stands with
  | delivered goesOn rests => exact (workedOff_of_goesOn goesOn).1.symm
  | drew goesOn draws reply => exact (workedOff_of_goesOn goesOn).1.symm
  | stopped goesOn draws reply => exact (workedOff_of_goesOn goesOn).1.symm
  | ended whole goesOn ending ends =>
    rw [whole]
    exact (workedOff_of_stops _ goesOn (Task.stops_of_endsSession ends)).1.symm
  | failed whole goesOn ending =>
    rw [whole]
    exact (workedOff_of_stops _ goesOn (Task.stops_of_ending ending (nomatch ·))).1.symm
  | panicked whole goesOn ending =>
    rw [whole]
    exact (workedOff_of_stops _ goesOn (Task.stops_of_ending ending (nomatch ·))).1.symm

/-- A frame that has returned began the tasks of its batch as far as it goes, and came to what a frame
comes to. -/
theorem Underway.drew (holds : Underway program before true progress run) (idle : run.stage = .idle) :
    begun run.history = begun before.history ++ workedOff before.loop.queue.tasks ∧
      ∃ arrived answer, accepted run.history = accepted before.history ++ arrived ∧
        answers run.history = answers before.history ++ [answer] ∧
        before.loop.Drew program arrived answer run.loop := by
  obtain ⟨ran, answered, calls, -, -, -, ⟨arrived, accepts, waits⟩, stands⟩ := holds
  rw [idle] at stands
  unfold FrameLoop.Drew
  obtain ⟨loopState, state⟩ : ∃ loopState, run.loop.state = loopState := ⟨_, rfl⟩
  rw [state] at stands
  cases stands with
  | delivered goesOn rests => cases rests
  | drew goesOn draws reply =>
    obtain ⟨whole, none⟩ := workedOff_of_goesOn goesOn
    simp only [whole, none, reply]
    exact ⟨ran, arrived, _, accepts, answered, rfl, calls.trans (List.append_assoc _ _ _).symm, state, waits⟩
  | stopped goesOn draws reply =>
    obtain ⟨whole, none⟩ := workedOff_of_goesOn goesOn
    simp only [whole, none, reply]
    exact ⟨ran, arrived, _, accepts, answered, rfl, calls.trans (List.append_assoc _ _ _).symm, state, waits⟩
  | ended whole goesOn ending ends =>
    rename_i rest _
    obtain ⟨worked, left, found⟩ := workedOff_of_stops rest goesOn (Task.stops_of_endsSession ends)
    simp only [whole, worked, left, found, ending]
    exact ⟨ran, arrived, _, accepts, answered, rfl, calls, state, waits⟩
  | failed whole goesOn ending =>
    rename_i rest _ _
    obtain ⟨worked, left, found⟩ := workedOff_of_stops rest goesOn (Task.stops_of_ending ending (nomatch ·))
    simp only [whole, worked, found, ending]
    exact ⟨ran, arrived, _, accepts, answered, rfl, state, waits, calls.trans (List.append_assoc _ _ _).symm⟩
  | panicked whole goesOn ending =>
    rename_i rest _ _
    obtain ⟨worked, left, found⟩ := workedOff_of_stops rest goesOn (Task.stops_of_ending ending (nomatch ·))
    simp only [whole, worked, found, ending]
    exact ⟨ran, arrived, _, accepts, answered, rfl, calls, waits⟩

/-! ### Runs without panics -/

/-- Nothing has panicked if the task that is judged next does not panic. -/
theorem calm_of_unpanicked {program : Program ε τ} {run : LoopRun ε τ}
    (unpanicked : Unpanicked (run.next program).history) : run.Calm := by
  intro pass task rest stage text ending
  refine Bool.eq_false_iff.mp (unpanicked (.returned (.error (.raised text))) ?_) rfl
  simp [next, stage, judge, EngineRoom.verdict, ending, follow]

/-- As long as nothing has panicked, all tasks are accounted for, and loop, session and queue agree. -/
theorem conserved_of_unpanicked (program : Program ε τ) (engine : ε) (config : Config) (moves : List (Move τ))
    (unpanicked : Unpanicked ((start engine config).play program moves).history) :
    ((start engine config).play program moves).Conserved ∧
      ((start engine config).play program moves).Consistent := by
  revert unpanicked
  refine play_induction (P := fun run => Unpanicked run.history → run.Conserved ∧ run.Consistent) ?_ ?_
  · exact fun _ => ⟨conserved_start engine config, consistent_start engine config⟩
  · intro run ih move _ unpanicked
    obtain ⟨conserved, consistent⟩ := ih fun happening member =>
      unpanicked happening ((isPrefix_history_step program run move).subset member)
    revert unpanicked
    refine step_induction (P := fun after => Unpanicked after.history → after.Conserved ∧ after.Consistent)
      ?_ ?_ ?_ ?_
    · exact fun _ => ⟨conserved, consistent⟩
    · intro owed offered loop outside _ _
      have resumed : Conserved { run with owed } ∧ Consistent { run with owed } :=
        ⟨{ conserved with }, { consistent with }⟩
      exact ⟨resumed.1.offer outside, resumed.2.offer outside⟩
    · exact fun entry idle _ => ⟨conserved.enter idle entry, consistent.enter idle entry⟩
    · intro unpanicked
      have calm := calm_of_unpanicked unpanicked
      exact ⟨conserved.next consistent calm, consistent.next calm⟩

/-! ### The law of a frame -/

/-- Between two hooks of a running loop, every accepted task was begun or waits. -/
theorem Conserved.waiting (holds : run.Conserved) (consistent : run.Consistent) (idle : run.stage = .idle)
    (running : run.loop.state = .running) :
    accepted run.history = begun run.history ++ run.loop.queue.tasks := by
  have fits := consistent.fits
  rw [idle] at fits
  have isOpen : run.loop.queue.closed = false := by
    refine Bool.eq_false_iff.mpr fun closed => ?_
    rw [fits.2.1.mp closed] at running
    cases running
  have whole := holds.whole (holds.intact isOpen (by rw [idle]; rfl))
  rw [idle] at whole
  exact whole

/-- A frame that nobody interrupts comes to what a frame comes to. -/
theorem drew_of_drawFrame (program : Program ε τ) {loop : FrameLoop ε τ} {thread : ThreadId}
    (running : loop.state = .running) (inSession : loop.session.initialized = true)
    (admitted : loop.Admits (.drawFrame thread)) :
    ∃ arrived, loop.Drew program arrived ((loop.drawFrame program thread).1.map some)
      (loop.drawFrame program thread).2 := by
  let run : LoopRun ε τ := { loop }
  obtain ⟨count, history, played⟩ := returns_of_enter program (.drawFrame thread) loop []
  have own : Inner (List.replicate count (.proceed : Move τ)) := fun move member => by
    rw [List.eq_of_mem_replicate member]
    rfl
  have begins : Underway program run true _ (run.enter program (.drawFrame thread)) :=
    underway_enter program running inSession rfl admitted
  obtain ⟨progress, holds⟩ := begins.play own
  rw [played] at holds
  obtain ⟨-, arrived, answer, -, answered, drew⟩ := holds.drew rfl
  rw [answers_append] at answered
  have same := List.append_inj_right' answered rfl
  rw [← List.singleton_inj.mp same] at drew
  exact ⟨arrived, drew⟩

/-- **A frame delivers what waited when it began**, up to the first task that fails, panics or ends the
session, and nothing that is submitted meanwhile, unless something panicked before. It returns, whatever its
tasks submit; it draws once, after all of them, exactly if the batch goes on behind every task; and a frame
that draws has delivered all that was accepted before it began, and nothing else. -/
theorem frame_boundary (program : Program ε τ) (engine : ε) (config : Config) (earlier : List (Move τ))
    (thread : ThreadId) :
    let run := (start engine config).play program earlier
    let batch := run.loop.queue.tasks
    let entered := run.step program (.enter (.drawFrame thread))
    Unpanicked run.history → run.stage = .idle → run.loop.state = .running →
    run.loop.Admits (.drawFrame thread) →
    (∃ bound, ∀ moves : List (Move τ), Inner moves → bound ≤ moves.countP Move.isProceed →
      (entered.play program moves).stage = .idle) ∧
    (∃ arrived, run.loop.Drew program arrived ((run.loop.drawFrame program thread).1.map some)
      (run.loop.drawFrame program thread).2) ∧
    ∀ moves : List (Move τ), Inner moves →
      let after := entered.play program moves
      ∃ ran made arrived, begun after.history = begun run.history ++ ran ∧ ran <+: workedOff batch ∧
        callsOf after.loop.journal = callsOf run.loop.journal ++ made ∧
        accepted after.history = accepted run.history ++ arrived ∧
        (.render ∈ made → begun after.history = accepted run.history ∧
          ∃ ends, made = batch.flatMap Task.calls ++ .render :: ends ∧ .render ∉ ends) ∧
        (after.stage = .idle → ran = workedOff batch ∧ ∃ answer,
          answers after.history = answers run.history ++ [answer] ∧
          run.loop.Drew program arrived answer after.loop) := by
  intro run batch entered unpanicked idle running admitted
  obtain ⟨conserved, consistent⟩ := conserved_of_unpanicked program engine config earlier unpanicked
  have inSession : run.loop.session.initialized = true := by
    have fits := consistent.fits
    rw [idle] at fits
    exact fits.1.mp running
  have unowed : run.owed = [] := rested_play (fun _ => rfl) earlier idle
  have enters : entered = run.enter program (.drawFrame thread) := by
    simp only [entered, step, idle]
  have begins : Underway program run true _ entered :=
    enters ▸ underway_enter program running inSession rfl admitted
  refine ⟨?_, drew_of_drawFrame program running inSession admitted, fun moves inner => ?_⟩
  · rw [enters]
    exact returns_among_others program (.drawFrame thread) idle unowed
  · obtain ⟨progress, holds⟩ := begins.play inner
    obtain ⟨ahead, drawn⟩ := holds.so_far
    obtain ⟨arrived, accepts, -⟩ := holds.waits
    refine ⟨progress.ran, progress.made, arrived, holds.ran, ahead, holds.calls, accepts, fun drew => ?_,
      fun returned => ?_⟩
    · obtain ⟨-, whole, once⟩ := drawn drew
      refine ⟨?_, once⟩
      rw [holds.ran, whole, conserved.waiting consistent idle running]
    · obtain ⟨ran, others, answer, alsoAccepts, answered, drew⟩ := holds.drew returned
      rw [List.append_cancel_left (accepts.symm.trans alsoAccepts)]
      exact ⟨List.append_cancel_left (holds.ran.symm.trans ran), answer, answered, drew⟩

/-- A task that submits two copies of itself. -/
def copyingTask : Task Unit where
  acts := [.queue (.submit ()), .queue (.submit ()), .notify .lowMemory]

/-- The desktop's engine, in a program whose jobs are such tasks. -/
def copyingProgram : Program Desktop.Engine Unit := Desktop.program fun _ => copyingTask

/-- Such a task waits, then the end of the session, then a task behind it. -/
def copyingSchedule : List (Move Unit) :=
  [.enter (.surfaceCreated 0), .proceed, .proceed, .submit copyingTask, .submit Task.endActivity,
    .submit (Task.notify (.windowFocus true))]

/-- A frame while another thread submits once more. -/
def copyingFrame : List (Move Unit) :=
  [.proceed, .proceed, .submit (Task.notify .lowMemory)] ++ List.replicate 11 .proceed

/-- The host before that frame. -/
def copyingRun : LoopRun Desktop.Engine Unit := (start {} {}).play copyingProgram copyingSchedule

/-- The host after that frame. -/
def copiedRun : LoopRun Desktop.Engine Unit :=
  (copyingRun.step copyingProgram (.enter (.drawFrame 0))).play copyingProgram copyingFrame

theorem copyingRun_frame :
    Unpanicked copyingRun.history ∧ copyingRun.stage = .idle ∧ copyingRun.loop.state = .running ∧
      copyingRun.loop.Admits (.drawFrame 0) ∧ Inner copyingFrame ∧ copiedRun.stage = .idle ∧
      begun copiedRun.history = [copyingTask, Task.endActivity] ∧
      answers copiedRun.history = [.ok none, .ok (some .proceed)] ∧
      copiedRun.loop.state = .uninitialized ∧
      copiedRun.loop.queue.tasks = [Task.notify (.windowFocus true), Task.notify .lowMemory, copyingTask,
        copyingTask] := by
  have unpanicked : Unpanicked copyingRun.history := by decide
  have admitted : copyingRun.loop.Admits (.drawFrame 0) := by
    rintro thread ⟨⟩ owner ⟨⟩
    rfl
  have inner : Inner copyingFrame := by decide
  have idle : copyingRun.stage = .idle := rfl
  have running : copyingRun.loop.state = .running := rfl
  have batch : copyingRun.loop.queue.tasks =
      [copyingTask, Task.endActivity, Task.notify (.windowFocus true)] := rfl
  have returned : copiedRun.stage = .idle := rfl
  have came : accepted copiedRun.history = accepted copyingRun.history ++
      [Task.notify .lowMemory, copyingTask, copyingTask] := rfl
  obtain ⟨-, -, law⟩ :=
    frame_boundary copyingProgram {} {} copyingSchedule 0 unpanicked idle running admitted
  obtain ⟨ran, made, arrived, begins, -, -, accepts, -, afterwards⟩ := law copyingFrame inner
  obtain ⟨worked, answer, answered, drew⟩ := afterwards returned
  have arrives : arrived = [Task.notify .lowMemory, copyingTask, copyingTask] :=
    List.append_cancel_left (accepts.symm.trans came)
  have drew : copyingRun.loop.Drew copyingProgram arrived answer copiedRun.loop := drew
  have worked : ran = workedOff copyingRun.loop.queue.tasks := worked
  rw [batch] at worked
  simp only [FrameLoop.Drew, batch] at drew
  obtain ⟨proceeds, -, state, waits⟩ := drew
  refine ⟨unpanicked, idle, running, admitted, inner, returned, ?_, ?_, state, ?_⟩
  · rw [worked] at begins
    exact begins
  · rw [proceeds] at answered
    exact answered
  · rw [arrives] at waits
    exact waits

end LoopRun

end EngineHost
