/-
**What the loop passes on to the engine.**

Where only hooks of the system submit, every task passes calls on and does nothing else to the queue.

* `Task.calls`, `Stage.callsAhead`: the calls that a task stands for, and those that are ahead of a
  stage;
* `LoopRun.passed`: the calls that were passed on, that are in hand, and that wait;
* `LoopRun.passed_next`, `LoopRun.passed_enter`: the loop's own thread neither loses nor adds a call, and
  `LoopRun.passed_offer`: others add those of their tasks;
* `LoopRun.Relaying`: nothing else is in hand, with `LoopRun.relaying_step` for one move.
-/

import EngineHost.Proofs.Consistency

namespace EngineHost

variable {ε τ α : Type}

/-! ### Tasks that pass calls on -/

/-- Whether a call passes something on: it is not part of the start of the engine, of a frame or of a
surface. -/
@[simp] def EngineCall.isPassedOn : EngineCall → Bool
  | .configure _ _ | .init _ | .render | .notify .surfaceCreated => false
  | .shutdown | .notify _ => true

/-- The call that an act stands for. -/
@[simp] def Act.call? : Act τ → Option EngineCall
  | .notify notification => some (.notify notification)
  | .shutdown => some .shutdown
  | .endSession | .lookAtSession | .queue _ => none

/-- The calls that a task stands for, in order. -/
def Task.calls (task : Task τ) : List EngineCall := task.acts.filterMap Act.call?

/-- An act that leaves the queue alone, and whose call is passed on. -/
@[simp] def Act.Relays : Act τ → Prop
  | .notify notification => notification ≠ .surfaceCreated
  | .shutdown | .endSession | .lookAtSession => True
  | .queue _ => False

/-- A task that passes calls on and does not fail. -/
structure Task.Relays (task : Task τ) : Prop where
  acts : ∀ act ∈ task.acts, act.Relays
  ending : task.ending = .done

theorem Task.Relays.calm {task : Task τ} (relays : task.Relays) : task.Calm := by
  intro text ending
  rw [relays.ending] at ending
  cases ending

theorem Task.relays_notify {notification : Notification} (other : notification ≠ .surfaceCreated) :
    (Task.notify notification : Task τ).Relays where
  acts := List.forall_mem_singleton.mpr other
  ending := rfl

theorem Task.relays_endActivity : (Task.endActivity : Task τ).Relays where
  acts := by simp [Task.endActivity]
  ending := rfl

theorem isPassedOn_of_relays {act : Act τ} {made : EngineCall} (relays : act.Relays)
    (stands : act.call? = some made) : made.isPassedOn = true := by
  cases act with
  | notify notification =>
    cases stands
    cases notification <;> first | rfl | exact absurd rfl relays
  | shutdown =>
    cases stands
    rfl
  | _ => cases stands

/-! ### Engines that submit nothing -/

/-- A reaction that only looks at the queue. -/
def Reaction.Silent (reaction : Reaction ε τ α) : Prop := ∀ use ∈ reaction.uses, use = .look

/-- An engine that submits nothing. -/
structure Program.Silent (program : Program ε τ) : Prop where
  configure : ∀ engine dataPath archivePath, (program.configure engine dataPath archivePath).Silent
  init : ∀ engine args, (program.init engine args).Silent
  render : ∀ engine, (program.render engine).Silent
  shutdown : ∀ engine, (program.shutdown engine).Silent
  notify : ∀ engine notification, (program.notify engine notification).Silent

/-! ### What is ahead -/

/-- The acts of the running task that are ahead. -/
@[simp] def Stage.acts : Stage τ → List (Act τ)
  | .running _ _ acts _ => acts
  | _ => []

/-- The calls that the tasks in hand stand for. -/
@[simp] def Stage.callsAhead : Stage τ → List EngineCall
  | .choosing _ batch => batch.flatMap Task.calls
  | .running _ _ acts rest => acts.filterMap Act.call? ++ rest.flatMap Task.calls
  | _ => []

namespace LoopRun

/-- The calls that were passed on, then those in hand, then those that wait. -/
def passed (run : LoopRun ε τ) : List EngineCall :=
  (callsOf run.loop.journal).filter EngineCall.isPassedOn ++
    (run.stage.callsAhead ++ run.loop.queue.tasks.flatMap Task.calls)

/-- The acts ahead pass calls on, and nothing is owed to the queue. -/
structure HandsFree (run : LoopRun ε τ) : Prop where
  acts : ∀ act ∈ run.stage.acts, act.Relays
  owed : ∀ use ∈ run.owed, use = .look

/-- All that is in hand or waits passes calls on, and nothing is owed to the queue. -/
structure Relaying (run : LoopRun ε τ) : Prop extends HandsFree run where
  tasks : ∀ task ∈ run.tasks, task.Relays

section Steps

variable {program : Program ε τ} {run : LoopRun ε τ}

/-- An act makes the call that it stands for. -/
theorem passed_perform {pass : Pass} {task : Task τ} {act : Act τ} {acts : List (Act τ)}
    {rest : List (Task τ)} (stage : run.stage = .running pass task (act :: acts) rest)
    (relays : act.Relays) :
    (perform program act { run with stage := .running pass task acts rest }).passed = run.passed := by
  have told : ∀ made, act.call? = some made → [made].filter EngineCall.isPassedOn = [made] :=
    fun made stands => List.filter_eq_self.mpr fun other member => by
      rw [List.mem_singleton.mp member]
      exact isPassedOn_of_relays relays stands
  cases act with
  | notify notification =>
    simp only [passed, perform, stage, call_frame, FrameLoop.inRoom_frame, EngineRoom.hear_frame,
      List.filter_append, told _ rfl]
    simp
  | shutdown =>
    simp only [passed, perform, stage, call_frame, FrameLoop.inRoom_frame, EngineRoom.hear_frame,
      List.filter_append, told _ rfl]
    simp
  | endSession => simp [passed, perform, stage, EngineRoom.perform, List.filterMap_cons]
  | lookAtSession => simp [passed, perform, stage, EngineRoom.perform, List.filterMap_cons]
  | queue use => exact absurd relays id

/-- A task that does not fail leaves the rest of the batch in hand, or in front of what waits. -/
theorem passed_judge {pass : Pass} {task : Task τ} {rest : List (Task τ)}
    (stage : run.stage = .running pass task [] rest) (ending : task.ending = .done) :
    (run.judge pass task rest).passed = run.passed := by
  simp only [judge, EngineRoom.verdict, ending]
  split
  · simp [passed, follow, stage]
  · simp [passed, follow, stage]

/-- A step of the loop's thread leaves all calls in their order, unless it closes the queue. -/
theorem passed_next (relaying : run.Relaying) (isOpen : (run.next program).loop.queue.closed = false) :
    (run.next program).passed = run.passed := by
  obtain ⟨loop, stage, owed, history⟩ := run
  cases stage with
  | idle => rfl
  | configured => simp [passed, next]
  | started reply =>
    cases reply with
    | ready => simp [passed, next, answerStart, Queue.reopen]
    | failed failure => simp [next, answerStart] at isOpen
    | panicked text => rfl
  | notified => rfl
  | choosing pass batch =>
    cases batch with
    | nil =>
      simp only [next, finishPass]
      split
      · split
        · simp [passed]
        · rfl
      · simp [passed]
    | cons task rest => simp [passed, next, Task.calls]
  | running pass task acts rest =>
    cases acts with
    | cons act acts => exact passed_perform rfl (relaying.acts act List.mem_cons_self)
    | nil => exact passed_judge rfl (relaying.tasks task List.mem_cons_self).ending
  | failing pass failure => simp [next] at isOpen
  | drawn outcome =>
    cases outcome with
    | proceed => rfl
    | stop => simp [next, answerFrame] at isOpen
  | closing answer => simp [passed, next]

/-- The call of a hook leaves all calls in their order. -/
theorem passed_enter (idle : run.stage = .idle) (entry : Entry) :
    (run.enter program entry).passed = run.passed := by
  refine enter_induction (P := fun after => after.passed = run.passed) (fun panic => ?_) fun owner => ?_
  · simp [passed, idle]
  · cases entry <;> cases state : run.loop.state <;>
      simp [passed, beginHook, state, idle, takeBatch, Queue.take]

/-- An open queue adds the calls of what is offered at the end. -/
theorem passed_offer {offered : List (Task τ)} {loop : FrameLoop ε τ}
    (outside : run.loop.Offered offered loop) (isOpen : run.loop.queue.closed = false) :
    (run.offer offered loop).passed = run.passed ++ offered.flatMap Task.calls := by
  simp [passed, offer, outside.calls, outside.tasks, isOpen]

/-- A closed queue stays closed. -/
theorem closed_next (consistent : run.Consistent) (closed : run.loop.queue.closed = true) :
    (run.next program).loop.queue.closed = true := by
  obtain ⟨loop, stage, owed, history⟩ := run
  have fits := consistent.fits
  cases stage with
  | idle => exact closed
  | closing answer => simpa [next] using closed
  -- At every other stage the queue is open.
  | configured | started | notified | choosing | running | failing | drawn => simp_all

/-- A closed queue stays closed when a hook is called. -/
theorem closed_enter (program : Program ε τ) (entry : Entry) :
    (run.enter program entry).loop.queue.closed = run.loop.queue.closed := by
  refine enter_induction (P := fun after => after.loop.queue.closed = run.loop.queue.closed)
    (fun panic => rfl) fun owner => ?_
  cases entry <;> cases state : run.loop.state <;> simp [beginHook, state, takeBatch, Queue.take]

theorem handsFree_perform (silent : program.Silent) {act : Act τ} (relays : act.Relays)
    (free : run.HandsFree) : (run.perform program act).HandsFree := by
  obtain ⟨ahead, owed⟩ := free
  cases act with
  | notify notification => exact ⟨ahead, silent.notify _ _⟩
  | shutdown => exact ⟨ahead, silent.shutdown _⟩
  | endSession => exact ⟨ahead, owed⟩
  | lookAtSession => exact ⟨ahead, owed⟩
  | queue use => exact absurd relays id

theorem handsFree_beginClose (silent : program.Silent) (owed : ∀ use ∈ run.owed, use = .look)
    (notices : List Notice) (answer : Entry.Answer) :
    (run.beginClose program notices answer).HandsFree := by
  refine ⟨by simp, ?_⟩
  simp only [beginClose]
  split
  · exact silent.shutdown _
  · exact owed

theorem handsFree_next (silent : program.Silent) (relaying : run.Relaying) :
    (run.next program).HandsFree := by
  obtain ⟨⟨acts, owed⟩, tasks⟩ := relaying
  obtain ⟨loop, stage, uses, history⟩ := run
  cases stage with
  | idle => exact ⟨acts, owed⟩
  | configured => exact ⟨List.forall_mem_nil _, silent.init _ _⟩
  | started reply =>
    cases reply with
    | ready => exact ⟨List.forall_mem_nil _, owed⟩
    | failed failure => exact handsFree_beginClose silent owed _ _
    | panicked text => exact ⟨List.forall_mem_nil _, owed⟩
  | notified => exact ⟨List.forall_mem_nil _, owed⟩
  | choosing pass batch =>
    cases batch with
    | nil =>
      simp only [next, finishPass]
      split
      · split
        · exact ⟨List.forall_mem_nil _, silent.render _⟩
        · exact ⟨List.forall_mem_nil _, owed⟩
      · exact ⟨List.forall_mem_nil _, owed⟩
    | cons task rest => exact ⟨(tasks task List.mem_cons_self).acts, owed⟩
  | running pass task all rest =>
    cases all with
    | cons act ahead =>
      obtain ⟨relays, others⟩ := List.forall_mem_cons.mp acts
      exact handsFree_perform silent relays ⟨others, owed⟩
    | nil =>
      simp only [next, judge]
      cases loop.verdict pass.inSession task <;> exact ⟨List.forall_mem_nil _, owed⟩
  | failing pass failure => exact handsFree_beginClose silent owed _ _
  | drawn outcome =>
    cases outcome with
    | proceed => exact ⟨List.forall_mem_nil _, owed⟩
    | stop =>
      let counted : LoopRun ε τ := ⟨loop.countFrame, .drawn .stop, uses, history⟩
      have countedOwed : ∀ use ∈ counted.owed, use = .look := owed
      exact handsFree_beginClose silent countedOwed _ _
  | closing answer => exact ⟨List.forall_mem_nil _, owed⟩

namespace Relaying

/-- A step of the loop's thread takes nothing else in hand. -/
theorem next (silent : program.Silent) (relaying : run.Relaying) : (run.next program).Relaying where
  toHandsFree := handsFree_next silent relaying
  tasks task member := relaying.tasks task (tasks_next_subset program run member)

/-- The call of a hook takes nothing else in hand. -/
theorem enter (silent : program.Silent) (relaying : run.Relaying) (idle : run.stage = .idle)
    (entry : Entry) : (run.enter program entry).Relaying := by
  refine ⟨⟨?_, ?_⟩, fun task member =>
    relaying.tasks task (tasks_enter_subset program entry idle member)⟩
  · refine enter_induction (P := fun after => ∀ act ∈ after.stage.acts, act.Relays)
      (fun panic => List.forall_mem_nil _) fun owner => ?_
    cases entry <;> cases state : run.loop.state <;> simp [beginHook, state, takeBatch]
  · refine enter_induction (P := fun after => ∀ use ∈ after.owed, use = .look)
      (fun panic => relaying.owed) fun owner => ?_
    cases entry <;> cases state : run.loop.state <;> simp only [beginHook, state]
    all_goals first
      | exact relaying.owed
      | exact silent.configure _ _ _
      | exact silent.notify _ _

/-- Tasks that pass calls on are offered to the queue. -/
theorem offer (relaying : run.Relaying) {offered : List (Task τ)} {loop : FrameLoop ε τ}
    (outside : run.loop.Offered offered loop) (relays : ∀ task ∈ offered, task.Relays) :
    (run.offer offered loop).Relaying where
  toHandsFree := { relaying.toHandsFree with }
  tasks task member := by
    rcases List.mem_append.mp (tasks_offer_subset outside member) with old | new
    · exact relaying.tasks task old
    · exact relays task new

end Relaying

/-- A move of the loop's own thread: it takes nothing else in hand, and leaves all calls in their order
unless it closes the queue. -/
theorem relaying_step (silent : program.Silent) (consistent : run.Consistent) (relaying : run.Relaying)
    {move : Move τ} (own : ∀ task, move ≠ .submit task) :
    (run.step program move).Relaying ∧ ((run.step program move).loop.queue.closed = false →
      run.loop.queue.closed = false ∧ (run.step program move).passed = run.passed) := by
  cases move with
  | submit task => exact absurd rfl (own task)
  | report notices =>
    have outside := FrameLoop.Offered.report notices run.loop
    rw [step, report_eq_offer]
    refine ⟨relaying.offer outside (List.forall_mem_nil _), fun isOpen => ?_⟩
    have wasOpen : run.loop.queue.closed = false := outside.closed.symm.trans isOpen
    exact ⟨wasOpen, (passed_offer outside wasOpen).trans (List.append_nil _)⟩
  | enter entry =>
    simp only [step]
    split
    · rename_i idle
      refine ⟨relaying.enter silent idle entry, fun isOpen => ⟨?_, passed_enter idle entry⟩⟩
      rw [← closed_enter program entry]
      exact isOpen
    · exact ⟨relaying, fun isOpen => ⟨isOpen, rfl⟩⟩
  | proceed =>
    simp only [step]
    split
    · rename_i use owed all
      obtain ⟨rfl, looks⟩ := List.forall_mem_cons.mp (all ▸ relaying.owed)
      have resumed : Relaying { run with owed } := { relaying with owed := looks }
      have outside := FrameLoop.Offered.use program .look run.loop
      rw [useQueue_eq_offer]
      refine ⟨resumed.offer outside (List.forall_mem_nil _), fun isOpen => ?_⟩
      have wasOpen : run.loop.queue.closed = false := outside.closed.symm.trans isOpen
      exact ⟨wasOpen, (passed_offer outside wasOpen).trans (List.append_nil _)⟩
    · refine ⟨relaying.next silent, fun isOpen => ⟨?_, passed_next relaying isOpen⟩⟩
      refine Bool.eq_false_iff.mpr fun closed => ?_
      rw [closed_next consistent closed] at isOpen
      cases isOpen

end Steps

end LoopRun

end EngineHost
