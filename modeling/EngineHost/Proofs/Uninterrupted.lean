/-
**A hook that nobody interrupts.**

The steps of `LoopRun` are the hooks of `FrameLoop`, cut into pieces: a hook whose steps follow one
another without a move of another thread gives the answer and leaves the loop of the hook in one go.

* `LoopRun.Returns`: the steps of the loop's thread alone lead to an answer;
* `LoopRun.returns_of_enter`: every hook returns, with the answer and the loop of `Entry.run`.
-/

import EngineHost.Proofs.Interleaving

namespace EngineHost

variable {ε τ α : Type}

/-- A hook in one go. -/
def Entry.run (program : Program ε τ) (loop : FrameLoop ε τ) : Entry → Entry.Answer × FrameLoop ε τ
  | .surfaceCreated thread => ((loop.surfaceCreated program thread).1.map fun _ => none,
      (loop.surfaceCreated program thread).2)
  | .surfaceChanged thread width height =>
    ((loop.surfaceChanged thread width height).1.map fun _ => none,
      (loop.surfaceChanged thread width height).2)
  | .drawFrame thread => ((loop.drawFrame program thread).1.map some, (loop.drawFrame program thread).2)
  | .deliverRest => ((loop.deliverRest program).1.map fun _ => none, (loop.deliverRest program).2)

namespace LoopRun

/-- Steps of the loop's thread, and no move of another, lead to the end of the hook. -/
def Returns (program : Program ε τ) (run : LoopRun ε τ) (answer : Entry.Answer)
    (loop : FrameLoop ε τ) : Prop :=
  ∃ count history, run.play program (List.replicate count .proceed) =
    ⟨loop, .idle, [], history ++ [.returned answer]⟩

section Steps

variable {program : Program ε τ} {answer : Entry.Answer} {last loop : FrameLoop ε τ} {stage : Stage τ}

theorem returns_of_step {run : LoopRun ε τ}
    (after : Returns program (run.step program .proceed) answer last) :
    Returns program run answer last := by
  obtain ⟨count, history, played⟩ := after
  exact ⟨count + 1, history, played⟩

/-- The end of a hook with nothing owed. -/
theorem returns_of_leave (history : List (Happening τ)) :
    Returns program (leave answer ⟨last, stage, [], history⟩) answer last :=
  ⟨0, history, rfl⟩

/-- What is owed is used first. -/
theorem returns_of_owed {uses : List (QueueUse τ)}
    (after : ∀ history, Returns program
      ⟨loop.inRoom fun room => uses.foldl (EngineRoom.use program) room, stage, [], history⟩ answer
        last)
    (history : List (Happening τ)) :
    Returns program ⟨loop, stage, uses, history⟩ answer last := by
  induction uses generalizing loop history with
  | nil => exact after history
  | cons use uses ih => exact returns_of_step (@ih (loop.inRoom (·.use program use)) after _)

/-- A call with all that it owes. -/
theorem returns_of_call {run : LoopRun ε τ} {made : EngineCall} {reaction : Reaction ε τ α}
    (after : ∀ history, Returns program
      ⟨run.loop.inRoom (·.take program made reaction), run.stage, [], history⟩ answer last) :
    Returns program (run.call made reaction) answer last :=
  returns_of_owed after run.history

/-- The acts of a task, up to its end. -/
theorem returns_of_acts {pass : Pass} {task : Task τ} {acts : List (Act τ)} {rest : List (Task τ)}
    (after : ∀ history, Returns program
      ⟨loop.inRoom fun room => acts.foldl (EngineRoom.perform program) room, .running pass task [] rest,
        [], history⟩ answer last)
    (history : List (Happening τ)) :
    Returns program ⟨loop, .running pass task acts rest, [], history⟩ answer last := by
  induction acts generalizing loop history with
  | nil => exact after history
  | cons act acts ih =>
    have rest_returns := @ih (loop.inRoom (·.perform program act)) after
    refine returns_of_step ?_
    cases act with
    | notify notification => exact returns_of_call rest_returns
    | shutdown => exact returns_of_call rest_returns
    | endSession => exact rest_returns history
    | lookAtSession => exact rest_returns history
    | queue use => exact returns_of_owed rest_returns history

/-- The end of a loop. -/
theorem returns_of_beginClose (notices : List Notice) (history : List (Happening τ)) :
    Returns program (beginClose program notices answer ⟨loop, stage, [], history⟩) answer
      ((loop.report notices).close program) := by
  let closed := (loop.report notices).inRoom (·.closeQueue)
  by_cases inSession : closed.session.initialized = true
  · have begins : beginClose program notices answer ⟨loop, stage, [], history⟩ =
        call .shutdown (program.shutdown closed.engine)
          (⟨closed, .closing answer, [], history ++ [.closed]⟩ : LoopRun ε τ) := if_pos inSession
    have closes : (loop.report notices).close program =
        (closed.inRoom (·.shutdown program)).conclude := congrArg FrameLoop.conclude (if_pos inSession)
    rw [begins, closes]
    exact returns_of_call fun history => returns_of_step (returns_of_leave history)
  · have begins : beginClose program notices answer ⟨loop, stage, [], history⟩ =
        (⟨closed, .closing answer, [], history ++ [.closed]⟩ : LoopRun ε τ) := if_neg inSession
    have closes : (loop.report notices).close program = closed.conclude :=
      congrArg FrameLoop.conclude (if_neg inSession)
    rw [begins, closes]
    exact returns_of_step (returns_of_leave _)

/-- A batch, up to what follows its last task. -/
theorem returns_of_batch {pass : Pass} {batch : List (Task τ)}
    (done : ∀ room ran history, EngineRoom.workOff program pass.inSession pass.ran batch
        loop.toEngineRoom = (.done, room) →
      Returns program ⟨{ loop with toEngineRoom := room }, .choosing { pass with ran } [], [], history⟩
        answer last)
    (failed : ∀ room ran failure history, EngineRoom.workOff program pass.inSession pass.ran batch
        loop.toEngineRoom = (.failed failure, room) →
      Returns program
        ⟨{ loop with toEngineRoom := room }, .failing { pass with ran } failure, [], history⟩ answer last)
    (panicked : ∀ room text history, EngineRoom.workOff program pass.inSession pass.ran batch
        loop.toEngineRoom = (.panicked text, room) →
      Returns program (leave (.error (.raised text))
        ⟨{ loop with toEngineRoom := room }, .choosing pass [], [], history⟩) answer last)
    (history : List (Happening τ)) :
    Returns program ⟨loop, .choosing pass batch, [], history⟩ answer last := by
  induction batch generalizing loop pass history with
  | nil => exact done _ _ history rfl
  | cons task rest ih =>
    refine returns_of_step (returns_of_acts (fun history => returns_of_step ?_) _)
    let after := loop.inRoom (·.run program task)
    show Returns program (follow pass rest ⟨after, .running pass task [] rest, [], history⟩
      ((loop.toEngineRoom.run program task).verdict pass.inSession task)) answer last
    cases verdict : (loop.toEngineRoom.run program task).verdict pass.inSession task with
    | goOn =>
      simp only [EngineRoom.workOff, verdict] at done failed panicked
      exact @ih after { pass with ran := pass.ran + 1 } done failed panicked history
    | sessionOver =>
      simp only [EngineRoom.workOff, verdict] at done
      exact done _ _ _ rfl
    | failed failure =>
      simp only [EngineRoom.workOff, verdict] at failed
      exact failed _ pass.ran failure _ rfl
    | panicked text =>
      simp only [EngineRoom.workOff, verdict] at panicked
      exact panicked _ text history rfl

/-- A delivery, up to what follows it: the frame, unless the delivery ended the session or the loop. -/
theorem returns_of_takeBatch {drawing : Bool}
    (goesOn : ∀ delivered pass history, loop.deliver program = (.ok none, delivered) →
      pass.drawing = drawing → delivered.session.initialized = true →
      Returns program ⟨delivered, .choosing pass [], [], history⟩ answer last)
    (ended : ∀ delivered outcome, loop.deliver program = (.ok (some outcome), delivered) →
      answer = .ok (if drawing then some outcome else none) ∧ last = delivered)
    (panicked : ∀ delivered panic, loop.deliver program = (.error panic, delivered) →
      answer = .error panic ∧ last = delivered)
    (history : List (Happening τ)) :
    Returns program (takeBatch drawing ⟨loop, stage, [], history⟩) answer last := by
  let taken : FrameLoop ε τ := { loop with queue := loop.queue.take.2 }
  have passed : loop.toEngineRoom.pass program = EngineRoom.workOff program loop.session.initialized 0
      loop.queue.tasks taken.toEngineRoom := rfl
  refine returns_of_batch ?_ ?_ ?_ history
  · intro room ran history worked
    have delivers : loop.deliver program = if room.session.initialized then
        (.ok none, { loop with toEngineRoom := room })
        else (.ok (some .proceed),
          ({ loop with toEngineRoom := room } : FrameLoop ε τ).awaitSurface) := by
      unfold FrameLoop.deliver
      rw [passed.trans worked]
    by_cases inSession : room.session.initialized = true
    · rw [if_pos inSession] at delivers
      exact goesOn _ _ history delivers rfl inSession
    · rw [if_neg inSession] at delivers
      obtain ⟨rfl, rfl⟩ := ended _ _ delivers
      refine returns_of_step ?_
      show Returns program (finishPass program _ _) _ _
      unfold finishPass
      rw [if_neg inSession]
      exact returns_of_leave history
  · intro room ran failure history worked
    have delivers : loop.deliver program = (.ok (some .stop),
        ({ loop with toEngineRoom := room } : FrameLoop ε τ).abort program (.engineFailed failure)) := by
      unfold FrameLoop.deliver
      rw [passed.trans worked]
    obtain ⟨rfl, rfl⟩ := ended _ _ delivers
    exact returns_of_step (returns_of_beginClose _ history)
  · intro room text history worked
    have delivers : loop.deliver program =
        (.error (.raised text), { loop with toEngineRoom := room }) := by
      unfold FrameLoop.deliver
      rw [passed.trans worked]
    obtain ⟨rfl, rfl⟩ := panicked _ _ delivers
    exact returns_of_leave history

/-- What waits is delivered, and a frame is drawn unless that ended the session or the loop. -/
theorem returns_of_frame (history : List (Happening τ)) :
    Returns program (takeBatch true ⟨loop, stage, [], history⟩) ((loop.frame program).1.map some)
      (loop.frame program).2 := by
  refine returns_of_takeBatch ?_ ?_ ?_ history
  · intro delivered pass history delivers drawing inSession
    have frame : loop.frame program =
        (.ok (delivered.render program).1, (delivered.render program).2) := by
      unfold FrameLoop.frame
      rw [delivers]
    rw [frame]
    refine returns_of_step ?_
    show Returns program (finishPass program pass ⟨delivered, .choosing pass [], [], history⟩) _ _
    unfold finishPass
    rw [if_pos inSession, if_pos drawing]
    refine returns_of_call fun history => returns_of_step ?_
    let reaction := program.render delivered.engine
    let counted := (delivered.inRoom (·.take program .render reaction)).countFrame
    cases outcome : (program.render delivered.engine).reply with
    | proceed =>
      have rendered : delivered.render program = (.proceed, counted) := by
        simp only [FrameLoop.render, outcome, counted, reaction]
      rw [rendered]
      exact returns_of_leave history
    | stop =>
      have rendered : delivered.render program =
          (.stop, (counted.report [.stopRequested counted.frames]).close program) := by
        simp only [FrameLoop.render, outcome, counted, reaction]
      rw [rendered]
      exact returns_of_beginClose _ history
  · intro delivered outcome delivers
    unfold FrameLoop.frame
    rw [delivers]
    exact ⟨rfl, rfl⟩
  · intro delivered panic delivers
    unfold FrameLoop.frame
    rw [delivers]
    exact ⟨rfl, rfl⟩

/-- The rest is delivered, and no frame follows. -/
theorem returns_of_deliver (history : List (Happening τ)) :
    Returns program (takeBatch false ⟨loop, stage, [], history⟩)
      ((loop.deliver program).1.map fun _ => none) (loop.deliver program).2 := by
  refine returns_of_takeBatch ?_ ?_ ?_ history
  · intro delivered pass history delivers drawing inSession
    rw [delivers]
    refine returns_of_step ?_
    show Returns program (finishPass program pass ⟨delivered, .choosing pass [], [], history⟩) _ _
    unfold finishPass
    rw [if_pos inSession, if_neg (by rw [drawing]; exact Bool.false_ne_true)]
    exact returns_of_leave history
  · intro delivered outcome delivers
    rw [delivers]
    exact ⟨rfl, rfl⟩
  · intro delivered panic delivers
    rw [delivers]
    exact ⟨rfl, rfl⟩

/-- The configured engine is started, and a session begins if it starts. -/
theorem returns_of_configured (history : List (Happening τ)) :
    Returns program ⟨loop, .configured, [], history⟩ ((loop.initEngine program).1.map fun _ => none)
      (loop.initEngine program).2 := by
  let args := loop.config.launchArgs
  let reaction := program.init loop.engine args
  let started := loop.inRoom (·.take program (.init args) reaction)
  refine returns_of_step (returns_of_owed (fun history => returns_of_step ?_) _)
  show Returns program (answerStart program ⟨started, .started reaction.reply, [], history⟩
    reaction.reply) _ _
  cases replied : reaction.reply with
  | ready =>
    have inits : loop.initEngine program = (.ok (), started.beginSession) := by
      unfold FrameLoop.initEngine
      simp only [replied, reaction, args, started]
    rw [inits]
    exact returns_of_leave history
  | failed failure =>
    have inits : loop.initEngine program =
        (.ok (), started.abort program (.engineFailed failure)) := by
      unfold FrameLoop.initEngine
      simp only [replied, reaction, args, started]
    rw [inits]
    exact returns_of_beginClose _ history
  | panicked text =>
    have inits : loop.initEngine program = (.error (.raised text), started) := by
      unfold FrameLoop.initEngine
      simp only [replied, reaction, args, started]
    rw [inits]
    exact returns_of_leave history

/-- A hook on a thread that was let in. -/
theorem returns_of_beginHook (entry : Entry) (history : List (Happening τ))
    (enters : ∀ thread, entry.thread? = some thread → loop.enter thread = .ok loop) :
    Returns program (beginHook program ⟨loop, stage, [], history⟩ entry) (entry.run program loop).1
      (entry.run program loop).2 := by
  cases entry with
  | surfaceCreated thread =>
    simp only [Entry.run, FrameLoop.surfaceCreated, enters thread rfl, beginHook]
    cases state : loop.state with
    | uninitialized => exact returns_of_call returns_of_configured
    | running => exact returns_of_call fun history => returns_of_step (returns_of_leave history)
    | initializing => exact returns_of_leave history
    | terminated => exact returns_of_leave history
  | surfaceChanged thread width height =>
    simp only [Entry.run, FrameLoop.surfaceChanged, enters thread rfl, beginHook]
    exact returns_of_leave history
  | drawFrame thread =>
    simp only [Entry.run, FrameLoop.drawFrame, enters thread rfl, beginHook]
    cases state : loop.state with
    | running => exact returns_of_frame history
    | uninitialized => exact returns_of_leave history
    | initializing => exact returns_of_leave history
    | terminated => exact returns_of_leave history
  | deliverRest =>
    simp only [Entry.run, FrameLoop.deliverRest, beginHook]
    cases state : loop.state with
    | running =>
      have delivered : Returns program (takeBatch false ⟨loop, stage, [], history⟩) _ _ :=
        returns_of_deliver history
      rcases result : loop.deliver program with ⟨panic | outcome, after⟩
      · rwa [result] at delivered
      · rwa [result] at delivered
    | uninitialized => exact returns_of_leave history
    | initializing => exact returns_of_leave history
    | terminated => exact returns_of_leave history

end Steps

/-- **A hook that nobody interrupts is the hook in one go**: the same answer, and the same loop after
it. -/
theorem returns_of_enter (program : Program ε τ) (entry : Entry) (loop : FrameLoop ε τ)
    (history : List (Happening τ)) :
    Returns program (enter program entry ⟨loop, .idle, [], history⟩) (entry.run program loop).1
      (entry.run program loop).2 := by
  simp only [enter]
  cases on : entry.thread? with
  | none => exact returns_of_beginHook entry history (by simp [on])
  | some thread =>
    simp only
    cases entered : loop.enter thread with
    | error panic =>
      have turnedAway : entry.run program loop = (.error panic, loop) := by
        cases entry <;> cases on <;>
          simp [Entry.run, FrameLoop.surfaceCreated, FrameLoop.surfaceChanged, FrameLoop.drawFrame,
            entered, Except.map]
      rw [turnedAway]
      exact returns_of_leave history
    | ok inside =>
      have again := FrameLoop.enter_again entered
      have same : entry.run program loop = entry.run program inside := by
        cases entry <;> cases on <;>
          simp [Entry.run, FrameLoop.surfaceCreated, FrameLoop.surfaceChanged, FrameLoop.drawFrame,
            entered, again]
      rw [same]
      refine returns_of_beginHook entry history fun other its => ?_
      rw [on] at its
      cases its
      exact again

end LoopRun

end EngineHost
