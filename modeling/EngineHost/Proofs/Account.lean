/-
**No task disappears silently.**

* `LoopRun.drops`, `LoopRun.dropped`: the tasks that one move drops, and those that a schedule drops;
* `LoopRun.Accounted`: the tasks that were accepted were begun, were dropped, are in hand or wait, with
  `LoopRun.Accounted.step` for one move;
* `LoopRun.tells_of_step`: a move that drops tasks says how many, unless a task panics;
* `LoopRun.Counted`: a pass counts the tasks of its batch that ran.

Nothing is assumed about the tasks, which may fail, panic and end the session.
-/

import EngineHost.Proofs.Delivery
import EngineHost.Proofs.Independence
import Mathlib.Data.List.Induction

namespace EngineHost

variable {ε τ : Type}

/-! ### The stages that end a loop -/

/-- Whether the loop ends with the next step: its engine did not start, a task failed, or the engine wants
to stop. -/
@[simp] def Stage.endsLoop : Stage τ → Bool
  | .started (.failed _) | .failing _ _ | .drawn .stop => true
  | _ => false

/-- The tasks that the step behind a stage drops, by those that wait: the rest of the batch behind a task
that is not done at its end, and all that wait when the loop ends. -/
def Stage.drops (waiting : List (Task τ)) : Stage τ → List (Task τ)
  | .running _ task [] rest => if task.ending = .done then [] else rest
  | stage => if stage.endsLoop then waiting else []

/-- How many tasks a notice says were dropped, if it says so. -/
@[simp] def Notice.dropped? : Notice → Option Nat
  | .taskFailed _ _ dropped _ => some dropped
  | .discarded count => some count
  | _ => none

namespace LoopRun

/-- The tasks that a move drops. -/
def drops (run : LoopRun ε τ) : Move τ → List (Task τ)
  | .proceed => if run.owed.isEmpty then run.stage.drops run.loop.queue.tasks else []
  | .submit _ | .report _ | .enter _ => []

/-- The tasks that a schedule drops. -/
def dropped (program : Program ε τ) : List (Move τ) → LoopRun ε τ → List (Task τ)
  | [], _ => []
  | move :: moves, run => run.drops move ++ dropped program moves (run.step program move)

/-- Every accepted task was begun, was dropped, is in hand or waits, exactly once. -/
def Accounted (dropped : List (Task τ)) (run : LoopRun ε τ) : Prop :=
  (accepted run.history).Perm
    (begun run.history ++ dropped ++ (run.stage.inHand ++ run.loop.queue.tasks))

section Account

variable {program : Program ε τ} {run after : LoopRun ε τ} {gone : List (Task τ)}

namespace Accounted

open scoped List in
/-- A move keeps the account if it moves tasks from one place to another. -/
theorem advance (holds : run.Accounted gone) (events : List (Happening τ)) (drops : List (Task τ))
    (history : after.history = run.history ++ events)
    (balance : run.stage.inHand ++ run.loop.queue.tasks ++ accepted events =
      begun events ++ drops ++ (after.stage.inHand ++ after.loop.queue.tasks)) :
    after.Accounted (gone ++ drops) := by
  have swap : (gone ++ begun events).Perm (begun events ++ gone) := List.perm_append_comm
  unfold Accounted
  rw [history, accepted_append, begun_append]
  calc accepted run.history ++ accepted events
    _ ~ begun run.history ++ gone ++ (run.stage.inHand ++ run.loop.queue.tasks) ++ accepted events :=
      holds.append_right (accepted events)
    _ = begun run.history ++ (gone ++ begun events) ++
        (drops ++ (after.stage.inHand ++ after.loop.queue.tasks)) := by
      rw [List.append_assoc, balance]
      simp only [List.append_assoc]
    _ ~ begun run.history ++ (begun events ++ gone) ++
        (drops ++ (after.stage.inHand ++ after.loop.queue.tasks)) :=
      (swap.append_left (begun run.history)).append_right _
    _ = _ := by simp only [List.append_assoc]

/-- A step that accepts, begins and drops nothing. -/
theorem quiet (holds : run.Accounted gone) (events : List (Happening τ))
    (history : after.history = run.history ++ events) (accepts : accepted events = [])
    (begins : begun events = [])
    (same : after.stage.inHand ++ after.loop.queue.tasks = run.stage.inHand ++ run.loop.queue.tasks) :
    after.Accounted (gone ++ []) := by
  refine holds.advance events [] history ?_
  rw [accepts, begins, same, List.append_nil]
  rfl

/-- Tasks are offered to the queue. -/
theorem offer (holds : run.Accounted gone) {offered : List (Task τ)} {loop : FrameLoop ε τ}
    (outside : run.loop.Offered offered loop) : (run.offer offered loop).Accounted (gone ++ []) := by
  refine holds.advance (offered.map run.submission) [] rfl ?_
  rw [accepted_submissions, begun_submissions]
  simp only [LoopRun.offer, outside.tasks]
  by_cases closed : run.loop.queue.closed = true
  · rw [if_pos closed, if_pos closed, List.append_nil]
    rfl
  · rw [if_neg closed, if_neg closed, List.append_assoc]
    rfl

/-- The end of a loop drops what waits. -/
theorem beginClose (holds : run.Accounted gone) (empty : run.stage.inHand = []) (notices : List Notice)
    (answer : Entry.Answer) :
    (run.beginClose program notices answer).Accounted (gone ++ run.loop.queue.tasks) := by
  refine holds.advance [.closed] run.loop.queue.tasks ?_ ?_
  · simp
  · rw [empty]
    simp [Stage.inHand]

/-- The end of a task. -/
theorem judge (holds : run.Accounted gone) {pass : Pass} {task : Task τ} {rest : List (Task τ)}
    (stage : run.stage = .running pass task [] rest) :
    (run.judge pass task rest).Accounted (gone ++ if task.ending = .done then [] else rest) := by
  have inHand : run.stage.inHand = rest := by rw [stage]; rfl
  simp only [LoopRun.judge, EngineRoom.verdict]
  cases ending : task.ending with
  | done =>
    rw [if_pos rfl]
    refine holds.quiet [] ?_ ?_ ?_ ?_
    · simp only
      split <;> exact (List.append_nil _).symm
    · rfl
    · rfl
    · rw [inHand]
      simp only
      split <;> simp [follow, Stage.inHand]
  | failed failure =>
    refine holds.advance [.failed failure] _ rfl ?_
    rw [inHand]
    simp [follow, Stage.inHand]
  | panicked text =>
    refine holds.advance [.returned (.error (.raised text))] _ rfl ?_
    rw [inHand]
    simp [follow, Stage.inHand]

/-- The next step of the loop's thread, stage by stage. -/
theorem next (holds : run.Accounted gone) :
    (run.next program).Accounted (gone ++ run.stage.drops run.loop.queue.tasks) := by
  obtain ⟨loop, stage, owed, history⟩ := run
  cases stage with
  | idle => exact holds.quiet [] (List.append_nil _).symm rfl rfl rfl
  | configured => exact holds.quiet [.replied _] rfl rfl rfl rfl
  | started reply =>
    cases reply with
    | ready => exact holds.quiet [.returned _] rfl rfl rfl rfl
    | failed failure => exact holds.beginClose rfl _ _
    | panicked text => exact holds.quiet [.returned _] rfl rfl rfl rfl
  | notified => exact holds.quiet [.returned _] rfl rfl rfl rfl
  | choosing pass batch =>
    cases batch with
    | nil =>
      simp only [LoopRun.next, finishPass]
      split
      · split
        · exact holds.quiet [] (List.append_nil _).symm rfl rfl rfl
        · exact holds.quiet [.returned _] rfl rfl rfl rfl
      · exact holds.quiet [.returned _] rfl rfl rfl rfl
    | cons task rest =>
      refine holds.advance [.begun task] [] rfl ?_
      simp [LoopRun.next, Stage.inHand]
  | running pass task acts rest =>
    cases acts with
    | cons act acts =>
      refine holds.quiet [] ?_ rfl rfl ?_
      · cases act <;> exact (List.append_nil _).symm
      · cases act <;> simp [LoopRun.next, perform, EngineRoom.perform, Stage.inHand]
    | nil => exact holds.judge rfl
  | failing pass failure => exact holds.beginClose rfl _ _
  | drawn outcome =>
    cases outcome with
    | proceed => exact holds.quiet [.returned _] rfl rfl rfl rfl
    | stop =>
      have counted : Accounted gone (⟨loop.countFrame, .drawn .stop, owed, history⟩ : LoopRun ε τ) := holds
      exact counted.beginClose rfl _ _
  | closing answer =>
    refine holds.quiet [.returned _] rfl rfl rfl ?_
    simp [LoopRun.next, Stage.inHand]

/-- The call of a hook takes what waits in hand, or leaves it where it is. -/
theorem enter (holds : run.Accounted gone) (idle : run.stage = .idle) (entry : Entry) :
    (run.enter program entry).Accounted (gone ++ []) := by
  obtain ⟨events, history, accepts, begins⟩ := history_enter program run entry
  refine holds.quiet events history accepts begins ?_
  refine enter_induction (P := fun after => after.stage.inHand ++ after.loop.queue.tasks =
    run.stage.inHand ++ run.loop.queue.tasks) (fun panic => ?_) fun owner => ?_
  · simp [idle, Stage.inHand]
  · cases entry <;> cases state : run.loop.state <;>
      simp [beginHook, state, idle, takeBatch, Queue.take, Stage.inHand]

/-- One move keeps the account. -/
theorem step (holds : run.Accounted gone) (move : Move τ) :
    (run.step program move).Accounted (gone ++ run.drops move) := by
  cases move with
  | submit task => exact holds.offer (.submit task run.loop)
  | report notices =>
    rw [LoopRun.step, report_eq_offer]
    exact holds.offer (.report notices run.loop)
  | enter entry =>
    simp only [LoopRun.step, drops]
    split
    · rename_i idle
      exact holds.enter idle entry
    · rwa [List.append_nil]
  | proceed =>
    simp only [LoopRun.step, drops]
    cases owes : run.owed with
    | nil => exact holds.next
    | cons use owed =>
      have resumed : Accounted gone { run with owed } := holds
      simp only [useQueue_eq_offer]
      exact resumed.offer (.use program use run.loop)

/-- A schedule keeps the account. -/
theorem play (program : Program ε τ) (holds : run.Accounted gone) (moves : List (Move τ)) :
    (run.play program moves).Accounted (gone ++ run.dropped program moves) := by
  induction moves generalizing run gone with
  | nil =>
    rw [dropped, List.append_nil]
    exact holds
  | cons move moves ih =>
    rw [dropped, ← List.append_assoc]
    exact ih (holds.step move)

end Accounted

/-! ### What is dropped is told -/

/-- The loop says in its journal that so many tasks were dropped. -/
def Tells (before after : LoopRun ε τ) (count : Nat) : Prop :=
  ∃ notice events, after.loop.journal = before.loop.journal ++ events ∧ .notice notice ∈ events ∧
    notice.dropped? = some count

/-- The end of a loop says how many tasks it drops. -/
theorem tells_of_beginClose (some : run.loop.queue.tasks ≠ []) (notices : List Notice)
    (answer : Entry.Answer) :
    run.Tells (run.beginClose program notices answer) run.loop.queue.tasks.length := by
  have pending : run.loop.queue.pending ≠ 0 := fun none => some (List.length_eq_zero_iff.mp none)
  let closed := (run.loop.report notices).inRoom (·.closeQueue)
  let told : List Event := notices.map .notice ++ [.notice (.discarded run.loop.queue.tasks.length)]
  let shut : List Event := [.call .shutdown] ++ (program.shutdown closed.engine).notices.map .notice
  have closes : closed.journal = run.loop.journal ++ told := by
    simp only [closed, FrameLoop.inRoom_frame, FrameLoop.report_frame, EngineRoom.closeQueue,
      EngineRoom.report_frame, pending, if_false]
    exact List.append_assoc _ _ _
  have member : .notice (.discarded run.loop.queue.tasks.length) ∈ told :=
    List.mem_append_right _ List.mem_cons_self
  by_cases inSession : closed.session.initialized = true
  · have begins : (run.beginClose program notices answer).loop.journal = closed.journal ++ shut := by
      simp only [beginClose]
      rw [if_pos inSession]
      exact List.append_assoc _ _ _
    refine ⟨.discarded _, told ++ shut, ?_, List.mem_append_left shut member, rfl⟩
    rw [begins, closes, List.append_assoc]
  · have begins : (run.beginClose program notices answer).loop.journal = closed.journal := by
      simp only [beginClose]
      rw [if_neg inSession]
      rfl
    exact ⟨.discarded _, told, begins.trans closes, member, rfl⟩

/-- A failed task is reported with its position in the batch, and with the tasks that are dropped behind
it. -/
theorem journal_failed {pass : Pass} {task : Task τ} {rest : List (Task τ)} {failure : EngineFailure}
    (ending : task.ending = .failed failure) :
    (run.judge pass task rest).loop.journal = run.loop.journal ++
      [.notice (.taskFailed (pass.ran + 1) (pass.ran + 1 + rest.length) rest.length failure)] := by
  simp only [judge, EngineRoom.verdict, ending]
  rfl

/-- A move that drops tasks says how many, unless its hook panics. -/
theorem tells_of_step (program : Program ε τ) (run : LoopRun ε τ) {move : Move τ}
    (some : run.drops move ≠ []) :
    run.Tells (run.step program move) (run.drops move).length ∨
      ∃ text, (run.step program move).history = run.history ++ [.returned (.error (.raised text))] := by
  cases move with
  | submit | report | enter => exact absurd rfl some
  | proceed =>
    simp only [drops] at some ⊢
    cases owes : run.owed with
    | cons use owed =>
      rw [owes] at some
      exact absurd rfl some
    | nil =>
      rw [owes] at some
      simp only [step, owes]
      obtain ⟨loop, stage, owed, history⟩ := run
      cases stage with
      | started reply =>
        cases reply with
        | failed failure => exact Or.inl (tells_of_beginClose some _ _)
        | ready | panicked => exact absurd rfl some
      | failing pass failure => exact Or.inl (tells_of_beginClose some _ _)
      | drawn outcome =>
        cases outcome with
        | proceed => exact absurd rfl some
        | stop =>
          have counted : (⟨loop.countFrame, .drawn .stop, owed, history⟩ : LoopRun ε τ).loop.queue.tasks ≠ [] := some
          exact Or.inl (tells_of_beginClose counted _ _)
      | running pass task acts rest =>
        cases acts with
        | cons act acts => exact absurd rfl some
        | nil =>
          cases ending : task.ending with
          | done => simp [Stage.drops, ending] at some
          | failed failure =>
            refine Or.inl ⟨_, _, journal_failed ending, List.mem_cons_self, ?_⟩
            simp [Stage.drops, ending]
          | panicked text =>
            refine Or.inr ⟨text, ?_⟩
            simp only [next, judge, EngineRoom.verdict, ending]
            rfl
      | idle | configured | notified | choosing | closing => exact absurd rfl some

/-! ### The position of a task in its batch -/

/-- A pass counts the tasks of its batch that ran, and the next one is the one behind them. -/
def Counted (batch prior : List (Task τ)) (run : LoopRun ε τ) : Prop :=
  match run.stage with
  | .choosing pass rest => rest ≠ [] → ∃ first, batch = first ++ rest ∧ pass.ran = first.length ∧
      begun run.history = prior ++ first
  | .running pass task _ rest => ∃ first, batch = first ++ task :: rest ∧ pass.ran = first.length ∧
      begun run.history = prior ++ first ++ [task]
  | _ => True

namespace Counted

variable {batch prior : List (Task τ)}

theorem offer (holds : run.Counted batch prior) (offered : List (Task τ)) (loop : FrameLoop ε τ) :
    (run.offer offered loop).Counted batch prior := by
  have begins : begun (run.offer offered loop).history = begun run.history := by
    simp only [LoopRun.offer, begun_append, begun_submissions, List.append_nil]
  unfold Counted
  rw [begins]
  exact holds

/-- The next step of the loop's thread, stage by stage. -/
theorem next (holds : run.Counted batch prior) : (run.next program).Counted batch prior := by
  obtain ⟨loop, stage, owed, history⟩ := run
  cases stage with
  | choosing pass rest =>
    cases rest with
    | nil =>
      simp only [LoopRun.next, finishPass]
      split
      · split <;> exact trivial
      · exact trivial
    | cons task rest =>
      obtain ⟨first, whole, ran, begins⟩ := holds (List.cons_ne_nil task rest)
      refine ⟨first, whole, ran, ?_⟩
      simp only [LoopRun.next, note_frame, begun_append, begins]
      rfl
  | running pass task acts rest =>
    cases acts with
    | cons act acts => cases act <;> exact holds
    | nil =>
      simp only [LoopRun.next, judge]
      cases loop.verdict pass.inSession task with
      | goOn =>
        obtain ⟨first, whole, ran, begins⟩ := holds
        refine fun _ => ⟨first ++ [task], ?_, ?_, ?_⟩
        · rw [whole, List.append_assoc]
          rfl
        · rw [List.length_append, ← ran]
          rfl
        · rw [← List.append_assoc]
          exact begins
      | sessionOver => exact fun none => absurd rfl none
      | failed failure => exact trivial
      | panicked text => exact trivial
  | started reply => cases reply <;> simp [LoopRun.next, answerStart, Counted]
  | failing pass failure => simp [LoopRun.next, Counted]
  | drawn outcome => cases outcome <;> simp [LoopRun.next, answerFrame, Counted]
  | idle | configured | notified | closing => exact trivial

/-- A pass begins with all that waits. -/
theorem enter (entry : Entry) : (run.enter program entry).Counted run.loop.queue.tasks (begun run.history) := by
  refine enter_induction (P := Counted run.loop.queue.tasks (begun run.history)) (fun _ => trivial)
    fun owner => ?_
  cases entry <;> cases state : run.loop.state <;> simp only [beginHook, state] <;>
    first
      | exact trivial
      | exact fun _ => ⟨[], rfl, rfl, (List.append_nil _).symm⟩

end Counted

/-- The hook that is on its way was called between two hooks, and counts the tasks of the batch that it
found then. -/
def InBatch (program : Program ε τ) (start : LoopRun ε τ) (moves : List (Move τ)) (run : LoopRun ε τ) :
    Prop :=
  run.stage = .idle ∨ ∃ earlier entry later, moves = earlier ++ .enter entry :: later ∧
    (start.play program earlier).stage = .idle ∧
    run.Counted (start.play program earlier).loop.queue.tasks
      (begun (start.play program earlier).history)

/-- A move that does not call a hook goes on with the same batch. -/
theorem InBatch.goOn {start : LoopRun ε τ} {moves : List (Move τ)} (holds : InBatch program start moves run)
    (move : Move τ) (rests : run.stage = .idle → after.stage = .idle)
    (counted : ∀ batch prior, run.Counted batch prior → after.Counted batch prior) :
    InBatch program start (moves ++ [move]) after := by
  rcases holds with idle | ⟨earlier, entry, later, split, idle, counts⟩
  · exact Or.inl (rests idle)
  · refine Or.inr ⟨earlier, entry, later ++ [move], ?_, idle, counted _ _ counts⟩
    rw [split, List.append_assoc]
    rfl

theorem inBatch_play {start : LoopRun ε τ} (fresh : start.stage = .idle) (moves : List (Move τ)) :
    InBatch program start moves (start.play program moves) := by
  induction moves using List.reverseRecOn with
  | nil => exact Or.inl fresh
  | append_singleton moves move ih =>
    rw [play_append]
    refine move_induction (P := InBatch program start (moves ++ [move])) ?_ ?_ ?_ ?_
    · exact fun _ => ih.goOn move id fun _ _ => id
    · intro owed offered loop _ _ _
      refine ih.goOn move id fun batch prior counts => ?_
      have resumed : Counted batch prior { start.play program moves with owed } := counts
      exact resumed.offer offered loop
    · rintro entry rfl idle
      exact Or.inr ⟨moves, entry, [], rfl, idle, .enter entry⟩
    · intro _ _
      refine ih.goOn move (fun idle => ?_) fun _ _ counts => counts.next
      simp only [next, idle]

/-- A task that is under way is one of those that waited when its hook was called, behind as many of them
as its pass has counted; and these are the tasks that were begun since then. -/
theorem running_in_batch {start : LoopRun ε τ} (fresh : start.stage = .idle) {moves : List (Move τ)}
    {pass : Pass} {task : Task τ} {acts : List (Act τ)} {rest : List (Task τ)}
    (stage : (start.play program moves).stage = .running pass task acts rest) :
    ∃ earlier entry later first, moves = earlier ++ .enter entry :: later ∧
      (start.play program earlier).stage = .idle ∧
      (start.play program earlier).loop.queue.tasks = first ++ task :: rest ∧ pass.ran = first.length ∧
      begun (start.play program moves).history =
        begun (start.play program earlier).history ++ first ++ [task] := by
  rcases inBatch_play fresh moves with idle | ⟨earlier, entry, later, split, idle, counted⟩
  · rw [idle] at stage
    cases stage
  · unfold Counted at counted
    rw [stage] at counted
    obtain ⟨first, whole, ran, begins⟩ := counted
    exact ⟨earlier, entry, later, first, split, idle, whole, ran, begins⟩

end Account

end LoopRun

end EngineHost
