/-
**The order of the calls into an engine.**

* `SessionTrace`: the calls of one session, from the configuration of the engine to the end of the
  session;
* `Task.Progress`, `Stage.Shows`: how far the present session is at each point of a task and at each
  stage of a hook;
* `LoopRun.Recorded`: the calls of a run are those of sessions that were destroyed and of the present
  one, with `LoopRun.Recorded.step` for one move.

The tasks are those that a host submits of its own, and any that neither end the session nor shut the
engine down.
-/

import EngineHost.Desktop.Engine
import EngineHost.Proofs.Interleaving

namespace EngineHost

variable {ε τ : Type}

/-! ### Tasks that keep the order -/

/-- An act that neither ends the session nor shuts the engine down. -/
@[simp] def Act.Plain : Act τ → Prop
  | .shutdown | .endSession => False
  | .notify _ | .lookAtSession | .queue _ => True

/-- A task that neither ends the session nor shuts the engine down. -/
def Task.Plain (task : Task τ) : Prop := ∀ act ∈ task.acts, act.Plain

/-- The task that ends the session of an activity, or one that leaves the session alone. -/
def Task.Orderly (task : Task τ) : Prop := task = Task.endActivity ∨ task.Plain

/-- Whether an act shuts the engine down. -/
@[simp] def Act.isShutdown : Act τ → Bool
  | .shutdown => true
  | _ => false

/-- Whether a task shuts the engine down, as the end of an activity does. -/
def Task.endsActivity (task : Task τ) : Bool := task.acts.any Act.isShutdown

/-- How many shutdowns the acts ahead stand for, at most one. -/
@[simp] def Stage.endsAhead : Stage τ → Nat
  | .running _ _ acts _ => (acts.any Act.isShutdown).toNat
  | _ => 0

theorem any_isShutdown_of_plain {acts : List (Act τ)} (plain : ∀ act ∈ acts, act.Plain) :
    acts.any Act.isShutdown = false := by
  refine List.any_eq_false.mpr fun act member => ?_
  cases act with
  | shutdown => exact absurd (plain _ member) id
  | _ => exact Bool.false_ne_true

/-! ### Sessions -/

/-- A call that may stand between the start of an engine and its end. -/
@[simp] def EngineCall.InSession : EngineCall → Prop
  | .notify _ | .render => True
  | .configure _ _ | .init _ | .shutdown => False

/-- How far a session is, with the calls between its start and its end. -/
inductive SessionTrace
  /-- The engine was configured. -/
  | configured
  /-- The engine answered to its start, and no session began so far. -/
  | started (reply : InitReply)
  | underway (body : List EngineCall)
  /-- The engine was told that the activity is destroyed, and is about to be shut down. -/
  | leaving (body : List EngineCall)
  /-- The session ended with its activity. -/
  | destroyed (body : List EngineCall)
  /-- The session ended with the loop. -/
  | closed (body : List EngineCall)

namespace SessionTrace

/-- The first calls of every session. -/
def opening (config : Config) : List EngineCall :=
  [.configure config.dataPath config.archivePath, .init config.launchArgs]

/-- The calls of a session, in order. -/
@[simp] def calls (config : Config) : SessionTrace → List EngineCall
  | .configured => [.configure config.dataPath config.archivePath]
  | .started _ => opening config
  | .underway body => opening config ++ body
  | .leaving body => opening config ++ body ++ [.notify (.lifecycle .destroyed)]
  | .destroyed body => opening config ++ body ++ [.notify (.lifecycle .destroyed), .shutdown]
  | .closed body => opening config ++ body ++ [.shutdown]

/-- The calls between the start of the engine and the end of the session. -/
@[simp] def body : SessionTrace → List EngineCall
  | .configured | .started _ => []
  | .underway body | .leaving body | .destroyed body | .closed body => body

/-- How the start of the engine ended. -/
@[simp] def reply? : SessionTrace → Option InitReply
  | .configured => none
  | .started reply => some reply
  | .underway _ | .leaving _ | .destroyed _ | .closed _ => some .ready

/-- Whether a session was begun and is over. -/
@[simp] def HasEnded : SessionTrace → Prop
  | .destroyed _ | .closed _ => True
  | .configured | .started _ | .underway _ | .leaving _ => False

/-- Whether a session ended with its activity. -/
@[simp] def wasDestroyed : SessionTrace → Bool
  | .destroyed _ => true
  | .configured | .started _ | .underway _ | .leaving _ | .closed _ => false

/-- A session that is over was shut down once, at its very end. -/
theorem one_shutdown (config : Config) {trace : SessionTrace} (ended : trace.HasEnded)
    (inSession : ∀ call ∈ trace.body, call.InSession) :
    (trace.calls config).count .shutdown = 1 ∧ (trace.calls config).getLast? = some .shutdown := by
  have none : trace.body.count .shutdown = 0 :=
    List.count_eq_zero.mpr fun member => inSession _ member
  cases trace with
  | destroyed body =>
    refine ⟨?_, ?_⟩
    · simp [opening, show body.count .shutdown = 0 from none]
    · simp
  | closed body =>
    refine ⟨?_, ?_⟩
    · simp [opening, show body.count .shutdown = 0 from none]
    · simp
  | _ => exact absurd ended id

end SessionTrace

/-- The sessions of a run: those that were destroyed, by their bodies, and the present one. -/
@[simp] def sessionsOf (past : List (List EngineCall)) (present : Option SessionTrace) :
    List SessionTrace :=
  past.map SessionTrace.destroyed ++ present.toList

/-- What the state of a loop between two hooks says about the last of its sessions. -/
def LoopState.LastSession : LoopState → Option SessionTrace → Prop
  | .uninitialized, last => ∀ trace ∈ last, trace.wasDestroyed = true
  | .initializing, last => ∃ text, last = some (.started (.panicked text))
  | .running, last => ∃ body, last = some (.underway body)
  | .terminated, last =>
    (∃ failure, last = some (.started (.failed failure))) ∨ ∃ body, last = some (.closed body)

/-- How far a task is, by the acts ahead, by whether a session is begun, and by the present session. -/
inductive Task.Progress : Task τ → List (Act τ) → Bool → Option SessionTrace → Prop
  | plain {task : Task τ} {acts : List (Act τ)} {body : List EngineCall}
      (ahead : ∀ act ∈ acts, act.Plain) : Progress task acts true (some (.underway body))
  | begins {body : List EngineCall} :
      Progress Task.endActivity [.notify (.lifecycle .destroyed), .shutdown, .endSession] true
        (some (.underway body))
  | told {body : List EngineCall} :
      Progress Task.endActivity [.shutdown, .endSession] true (some (.leaving body))
  | shut : Progress Task.endActivity [.endSession] true none
  | leftSession : Progress Task.endActivity [] false none

/-- What each stage of a hook says about the state of the loop, about whether a session is begun, and
about the present session. -/
inductive Stage.Shows : LoopState → Bool → Option SessionTrace → Stage τ → Prop
  | fresh : Shows .uninitialized false none .idle
  | stuck {text : String} : Shows .initializing false (some (.started (.panicked text))) .idle
  | steady {body : List EngineCall} : Shows .running true (some (.underway body)) .idle
  | unstarted {failure : EngineFailure} :
      Shows .terminated false (some (.started (.failed failure))) .idle
  | terminated {body : List EngineCall} : Shows .terminated false (some (.closed body)) .idle
  | configured : Shows .initializing false (some .configured) .configured
  | started {reply : InitReply} : Shows .initializing false (some (.started reply)) (.started reply)
  | notified {body : List EngineCall} : Shows .running true (some (.underway body)) .notified
  | choosing {pass : Pass} {batch : List (Task τ)} {body : List EngineCall}
      (inSession : pass.inSession = true) :
      Shows .running true (some (.underway body)) (.choosing pass batch)
  | ended {pass : Pass} : Shows .running false none (.choosing pass [])
  | running {pass : Pass} {task : Task τ} {acts : List (Act τ)} {rest : List (Task τ)} {begun : Bool}
      {present : Option SessionTrace} (inSession : pass.inSession = true)
      (progress : task.Progress acts begun present) :
      Shows .running begun present (.running pass task acts rest)
  | failing {pass : Pass} {failure : EngineFailure} {body : List EngineCall} :
      Shows .running true (some (.underway body)) (.failing pass failure)
  | drawn {outcome : FrameOutcome} {body : List EngineCall} :
      Shows .running true (some (.underway body)) (.drawn outcome)
  | giveUp {failure : EngineFailure} {answer : Entry.Answer} :
      Shows .initializing false (some (.started (.failed failure))) (.closing answer)
  | closing {body : List EngineCall} {answer : Entry.Answer} :
      Shows .running true (some (.closed body)) (.closing answer)

namespace LoopRun

/-- The calls of a run are those of the sessions that were destroyed and of the present one. -/
structure Recorded (config : Config) (past : List (List EngineCall)) (present : Option SessionTrace)
    (run : LoopRun ε τ) : Prop where
  configured : run.loop.config = config
  calls : callsOf run.loop.journal = (sessionsOf past present).flatMap (SessionTrace.calls config)
  replies : replies run.history = (sessionsOf past present).filterMap SessionTrace.reply?
  bodies : ∀ trace ∈ sessionsOf past present, ∀ call ∈ trace.body, call.InSession
  ends : (begun run.history).countP Task.endsActivity = past.length + run.stage.endsAhead
  shows : run.stage.Shows run.loop.state run.loop.session.initialized present

theorem recorded_start (engine : ε) (config : Config) :
    Recorded config [] none (LoopRun.start engine config : LoopRun ε τ) where
  configured := rfl
  calls := rfl
  replies := rfl
  bodies := fun _ member => nomatch member
  ends := rfl
  shows := .fresh

namespace Recorded

variable {program : Program ε τ} {config : Config} {past : List (List EngineCall)}
  {present later : Option SessionTrace} {run after : LoopRun ε τ}

/-- The present session goes on by the calls that are made. -/
theorem advance (holds : run.Recorded config past present) (made : List EngineCall)
    (events : List (Happening τ)) (configured : after.loop.config = run.loop.config)
    (calls : callsOf after.loop.journal = callsOf run.loop.journal ++ made)
    (history : after.history = run.history ++ events) (begins : begun events = [])
    (grows : later.toList.flatMap (SessionTrace.calls config) =
      present.toList.flatMap (SessionTrace.calls config) ++ made)
    (answered : later.toList.filterMap SessionTrace.reply? =
      present.toList.filterMap SessionTrace.reply? ++ EngineHost.replies events)
    (bodies : ∀ trace ∈ later, ∀ call ∈ trace.body, call.InSession)
    (ahead : after.stage.endsAhead = run.stage.endsAhead)
    (shows : after.stage.Shows after.loop.state after.loop.session.initialized later) :
    after.Recorded config past later where
  configured := configured.trans holds.configured
  calls := by
    rw [calls, holds.calls, sessionsOf, sessionsOf, List.flatMap_append, List.flatMap_append, grows,
      List.append_assoc]
  replies := by
    rw [history, replies_append, holds.replies, sessionsOf, sessionsOf, List.filterMap_append,
      List.filterMap_append, answered, List.append_assoc]
  bodies trace member := by
    rcases List.mem_append.mp member with old | new
    · exact holds.bodies trace (List.mem_append_left _ old)
    · exact bodies trace (Option.mem_toList.mp new)
  ends := by rw [history, begun_append, begins, List.append_nil, holds.ends, ahead]
  shows := shows

/-- No call is made. -/
theorem quiet (holds : run.Recorded config past present) (events : List (Happening τ))
    (configured : after.loop.config = run.loop.config)
    (calls : callsOf after.loop.journal = callsOf run.loop.journal)
    (history : after.history = run.history ++ events) (begins : begun events = [])
    (answered : EngineHost.replies events = []) (ahead : after.stage.endsAhead = run.stage.endsAhead)
    (shows : after.stage.Shows after.loop.state after.loop.session.initialized present) :
    after.Recorded config past present := by
  refine holds.advance [] events configured ?_ history begins ?_ ?_ ?_ ahead shows
  · rw [calls, List.append_nil]
  · rw [List.append_nil]
  · rw [answered, List.append_nil]
  · intro trace member
    exact holds.bodies trace (List.mem_append_right _ (Option.mem_toList.mpr member))

/-- The engine is called. -/
theorem call {α : Type} (holds : run.Recorded config past present) {loop : FrameLoop ε τ}
    {stage : Stage τ} (made : EngineCall) (reaction : Reaction ε τ α)
    (configured : loop.config = run.loop.config)
    (calls : callsOf loop.journal = callsOf run.loop.journal)
    (grows : later.toList.flatMap (SessionTrace.calls config) =
      present.toList.flatMap (SessionTrace.calls config) ++ [made])
    (answered : later.toList.filterMap SessionTrace.reply? =
      present.toList.filterMap SessionTrace.reply?)
    (bodies : ∀ trace ∈ later, ∀ call ∈ trace.body, call.InSession)
    (ahead : stage.endsAhead = run.stage.endsAhead)
    (shows : stage.Shows loop.state loop.session.initialized later) :
    (LoopRun.call made reaction { run with loop, stage }).Recorded config past later := by
  refine holds.advance [made] [] configured ?_ (List.append_nil _).symm rfl grows ?_ bodies ahead ?_
  · simp [calls]
  · rw [answered, replies_nil, List.append_nil]
  · simpa using shows

/-- The hook returns. -/
theorem leave (holds : run.Recorded config past present) {loop : FrameLoop ε τ} (answer : Entry.Answer)
    (configured : loop.config = run.loop.config)
    (calls : callsOf loop.journal = callsOf run.loop.journal) (ahead : run.stage.endsAhead = 0)
    (shows : (Stage.idle : Stage τ).Shows loop.state loop.session.initialized present) :
    (LoopRun.leave answer { run with loop }).Recorded config past present :=
  holds.quiet [.returned answer] configured calls rfl rfl rfl ahead.symm shows

/-- The loop ends with its session: the engine is shut down. -/
theorem close {body : List EngineCall} (holds : run.Recorded config past (some (.underway body)))
    (notices : List Notice) (answer : Entry.Answer) (state : run.loop.state = .running)
    (inSession : run.loop.session.initialized = true) (ahead : run.stage.endsAhead = 0) :
    (run.beginClose program notices answer).Recorded config past (some (.closed body)) := by
  refine holds.advance [.shutdown] [.closed] ?_ ?_ ?_ rfl ?_ rfl ?_ ?_ ?_
  · simp
  · simp [inSession]
  · simp
  · simp
  · rintro trace ⟨rfl⟩
    exact holds.bodies (.underway body) (List.mem_append_right _ List.mem_cons_self)
  · simp only [beginClose_frame]
    exact ahead.symm
  · simp only [beginClose_frame, state, inSession]
    exact .closing

/-- The loop ends after the engine did not start. -/
theorem giveUp {failure : EngineFailure}
    (holds : run.Recorded config past (some (.started (.failed failure)))) (notices : List Notice)
    (answer : Entry.Answer) (state : run.loop.state = .initializing)
    (idle : run.loop.session.initialized = false) (ahead : run.stage.endsAhead = 0) :
    (run.beginClose program notices answer).Recorded config past
      (some (.started (.failed failure))) := by
  refine holds.quiet [.closed] ?_ ?_ ?_ rfl rfl ?_ ?_
  · simp
  · simp [idle]
  · simp
  · simp only [beginClose_frame]
    exact ahead.symm
  · simp only [beginClose_frame, state, idle]
    exact .giveUp

/-- A call within a session. -/
theorem callInSession {α : Type} {body : List EngineCall}
    (holds : run.Recorded config past (some (.underway body))) {loop : FrameLoop ε τ} {stage : Stage τ}
    {made : EngineCall} (reaction : Reaction ε τ α) (inSession : made.InSession)
    (configured : loop.config = run.loop.config)
    (calls : callsOf loop.journal = callsOf run.loop.journal)
    (ahead : stage.endsAhead = run.stage.endsAhead)
    (shows : ∀ body, stage.Shows loop.state loop.session.initialized (some (.underway body))) :
    (LoopRun.call made reaction { run with loop, stage }).Recorded config past
      (some (.underway (body ++ [made]))) := by
  refine holds.call made reaction configured calls ?_ rfl ?_ ahead (shows _)
  · simp
  · rintro trace ⟨rfl⟩ call member
    rcases List.mem_append.mp member with old | new
    · exact holds.bodies (.underway body) (List.mem_append_right _ List.mem_cons_self) call old
    · rw [List.mem_singleton.mp new]
      exact inSession

/-- An act of a task that leaves the session alone. -/
theorem performPlain {body : List EngineCall} (holds : run.Recorded config past (some (.underway body)))
    {pass : Pass} {task : Task τ} {act : Act τ} {acts : List (Act τ)} {rest : List (Task τ)}
    (stage : run.stage = .running pass task (act :: acts) rest) (state : run.loop.state = .running)
    (begun : run.loop.session.initialized = true) (inSession : pass.inSession = true)
    (plain : ∀ other ∈ act :: acts, other.Plain) :
    ∃ body, (LoopRun.perform program act { run with stage := .running pass task acts rest }).Recorded
      config past (some (.underway body)) := by
  have plainAhead : ∀ other ∈ acts, other.Plain := fun other member =>
    plain other (List.mem_cons_of_mem act member)
  have ahead : (Stage.running pass task acts rest).endsAhead = run.stage.endsAhead := by
    rw [stage]
    simp only [Stage.endsAhead, any_isShutdown_of_plain plain, any_isShutdown_of_plain plainAhead]
  have shows : ∀ body, (Stage.running pass task acts rest).Shows run.loop.state
      run.loop.session.initialized (some (.underway body)) := by
    intro body
    rw [state, begun]
    exact .running inSession (.plain plainAhead)
  cases act with
  | notify notification => exact ⟨_, holds.callInSession _ trivial rfl rfl ahead shows⟩
  | shutdown => exact absurd (plain _ List.mem_cons_self) id
  | endSession => exact absurd (plain _ List.mem_cons_self) id
  | lookAtSession =>
    refine ⟨body, holds.quiet [] rfl ?_ (List.append_nil _).symm rfl rfl ahead (shows body)⟩
    simp [LoopRun.perform, EngineRoom.perform]
  | queue use =>
    exact ⟨body, holds.quiet [] rfl rfl (List.append_nil _).symm rfl rfl ahead (shows body)⟩

/-- The engine is shut down at the end of an activity: the present session joins those that were
destroyed. -/
theorem shutDown {α : Type} {body : List EngineCall}
    (holds : run.Recorded config past (some (.leaving body))) {stage : Stage τ} (reaction : Reaction ε τ α) (ended : stage.endsAhead + 1 = run.stage.endsAhead)
    (shows : stage.Shows run.loop.state run.loop.session.initialized none) :
    (LoopRun.call .shutdown reaction { run with stage }).Recorded config (past ++ [body]) none where
  configured := holds.configured
  calls := by
    simp [holds.calls]
  replies := by
    simp [holds.replies]
  bodies trace member := by
    have both : trace ∈ past.map SessionTrace.destroyed ++ [SessionTrace.destroyed body] := by
      simpa using member
    rcases List.mem_append.mp both with old | new
    · exact holds.bodies trace (List.mem_append_left _ old)
    · rw [List.mem_singleton.mp new]
      exact holds.bodies (.leaving body) (List.mem_append_right _ List.mem_cons_self)
  ends := by
    simp only [call_frame, List.length_append, List.length_singleton]
    rw [holds.ends, ← ended]
    omega
  shows := by simpa using shows

/-- One act of a task. -/
theorem perform (holds : run.Recorded config past present) {pass : Pass} {task : Task τ} {act : Act τ}
    {acts : List (Act τ)} {rest : List (Task τ)}
    (stage : run.stage = .running pass task (act :: acts) rest) (state : run.loop.state = .running)
    (inSession : pass.inSession = true) (progress : task.Progress (act :: acts) run.loop.session.initialized present) :
    ∃ past present,
      (LoopRun.perform program act { run with stage := .running pass task acts rest }).Recorded config
        past present := by
  generalize begun : run.loop.session.initialized = initialized at progress
  generalize whole : act :: acts = all at progress
  cases progress with
  | plain plain =>
    subst whole
    exact ⟨past, _, (holds.performPlain stage state begun inSession plain).choose_spec⟩
  | begins =>
    rename_i body
    obtain ⟨rfl, rfl⟩ := List.cons.inj whole
    refine ⟨past, some (.leaving body), holds.call _ _ rfl rfl ?_ rfl ?_ ?_ ?_⟩
    · simp
    · rintro trace ⟨rfl⟩
      exact holds.bodies (.underway body) (List.mem_append_right _ List.mem_cons_self)
    · rw [stage]
      rfl
    · rw [state, begun]
      exact .running inSession .told
  | told =>
    rename_i body
    obtain ⟨rfl, rfl⟩ := List.cons.inj whole
    -- The shutdown ends the present session; the session of the loop ends with the next act.
    refine ⟨past ++ [body], none, holds.shutDown _ ?_ ?_⟩
    · rw [stage]
      rfl
    · rw [state, begun]
      exact .running inSession .shut
  | shut =>
    obtain ⟨rfl, rfl⟩ := List.cons.inj whole
    refine ⟨past, none, holds.quiet [] rfl ?_ (List.append_nil _).symm rfl rfl ?_ ?_⟩
    · simp [LoopRun.perform, EngineRoom.perform]
    · rw [stage]
      rfl
    · simp only [LoopRun.perform, FrameLoop.inRoom_frame, EngineRoom.perform,
        EngineRoom.endSession_frame, Session.reset_flags, state]
      exact .running inSession .leftSession
  | leftSession => cases whole

/-- What follows the end of a task: a batch goes on only within a session. -/
theorem judge (holds : run.Recorded config past present) {pass : Pass} {task : Task τ}
    {rest : List (Task τ)} (stage : run.stage = .running pass task [] rest)
    (state : run.loop.state = .running) (inSession : pass.inSession = true)
    (progress : task.Progress [] run.loop.session.initialized present) :
    (run.judge pass task rest).Recorded config past present := by
  have ahead : run.stage.endsAhead = 0 := by rw [stage]; rfl
  generalize begun : run.loop.session.initialized = initialized at progress
  generalize noneAhead : ([] : List (Act τ)) = acts at progress
  unfold LoopRun.judge
  cases progress with
  | plain =>
    cases verdict : run.loop.verdict pass.inSession task with
    | goOn =>
      refine holds.quiet [] rfl rfl (List.append_nil _).symm rfl rfl ahead.symm ?_
      simp only [follow, state, begun]
      exact .choosing inSession
    | sessionOver =>
      simp only [EngineRoom.verdict, begun] at verdict
      split at verdict <;> simp_all
    | failed failure =>
      refine holds.quiet [.failed failure] rfl ?_ rfl rfl rfl ahead.symm ?_
      · simp [follow]
      · simp only [follow, note_frame, FrameLoop.inRoom_frame, EngineRoom.dropRest_frame, state, begun]
        exact .failing
    | panicked text =>
      refine holds.leave _ rfl rfl ahead ?_
      rw [state, begun]
      exact .steady
  | begins => cases noneAhead
  | told => cases noneAhead
  | shut => cases noneAhead
  | leftSession =>
    have verdict : run.loop.verdict pass.inSession Task.endActivity = .sessionOver := by
      simp [EngineRoom.verdict, Task.endActivity, inSession, begun]
    rw [verdict]
    refine holds.quiet [] rfl ?_ (List.append_nil _).symm rfl rfl ahead.symm ?_
    · simp [follow]
    · simp only [follow, FrameLoop.inRoom_frame, EngineRoom.putBack_frame, state, begun]
      exact .ended

/-- A task of the batch in hand is begun. -/
theorem begin {body : List EngineCall} (holds : run.Recorded config past (some (.underway body)))
    {pass : Pass} {task : Task τ} {rest : List (Task τ)}
    (stage : run.stage = .choosing pass (task :: rest)) (state : run.loop.state = .running) (begun : run.loop.session.initialized = true)
    (inSession : pass.inSession = true) (orderly : task.Orderly) :
    (note (.begun task) { run with stage := .running pass task task.acts rest }).Recorded config past
      (some (.underway body)) where
  configured := holds.configured
  calls := holds.calls
  replies := by simpa using holds.replies
  bodies := holds.bodies
  ends := by
    have before : (EngineHost.begun run.history).countP Task.endsActivity = past.length := by
      rw [holds.ends, stage]
      rfl
    simp only [note_frame, begun_append, begun_singleton, Happening.begun?, Option.toList,
      List.countP_append, List.countP_singleton, before, Stage.endsAhead, Task.endsActivity]
    by_cases ends : task.acts.any Act.isShutdown = true <;> simp [ends]
  shows := by
    simp only [note_frame, state, begun]
    rcases orderly with rfl | plain
    · exact .running inSession .begins
    · exact .running inSession (.plain plain)

/-- What follows a batch within a session. -/
theorem finishPass {body : List EngineCall} (holds : run.Recorded config past (some (.underway body)))
    {pass : Pass} (stage : run.stage = .choosing pass []) (state : run.loop.state = .running)
    (begun : run.loop.session.initialized = true) :
    ∃ past present, (run.finishPass program pass).Recorded config past present := by
  have ahead : run.stage.endsAhead = 0 := by rw [stage]; rfl
  simp only [LoopRun.finishPass, begun]
  cases pass.drawing with
  | true =>
    refine ⟨past, _, holds.callInSession _ trivial rfl rfl ahead.symm fun body => ?_⟩
    rw [state, begun]
    exact .drawn
  | false =>
    refine ⟨past, _, holds.leave _ rfl rfl ahead ?_⟩
    rw [state, begun]
    exact .steady

/-- The next step of the loop's thread, by what its stage shows. -/
theorem next (holds : run.Recorded config past present) (orderly : ∀ task ∈ run.tasks, task.Orderly) :
    ∃ past present, (run.next program).Recorded config past present := by
  obtain ⟨loop, stage, owed, history⟩ := run
  have shows : stage.Shows loop.state loop.session.initialized present := holds.shows
  generalize state : loop.state = loopState, begun : loop.session.initialized = initialized at shows
  cases shows with
  | fresh => exact ⟨past, _, holds⟩
  | stuck => exact ⟨past, _, holds⟩
  | steady => exact ⟨past, _, holds⟩
  | unstarted => exact ⟨past, _, holds⟩
  | terminated => exact ⟨past, _, holds⟩
  | configured =>
    let reaction := program.init loop.engine loop.config.launchArgs
    refine ⟨past, some (.started reaction.reply), holds.advance [.init loop.config.launchArgs]
      [.replied reaction.reply] rfl ?_ rfl rfl ?_ rfl ?_ rfl ?_⟩
    · simp [LoopRun.next]
    · simp [SessionTrace.opening, ← holds.configured]
    · rintro trace ⟨rfl⟩ call member
      cases member
    · simp only [LoopRun.next, note_frame, call_frame, FrameLoop.inRoom_frame, EngineRoom.hear_frame,
        state, begun]
      exact .started
  | started =>
    rename_i reply
    cases reply with
    | ready =>
      refine ⟨past, some (.underway []),
        holds.advance [] [.returned (.ok none)] ?_ ?_ rfl rfl ?_ rfl ?_ rfl ?_⟩
      · simp [LoopRun.next, answerStart]
      · simp [LoopRun.next, answerStart]
      · simp
      · rintro trace ⟨rfl⟩ call member
        cases member
      · simp only [LoopRun.next, answerStart, leave_frame, FrameLoop.beginSession_frame,
          Session.begun_flags]
        exact .steady
    | failed failure => exact ⟨past, _, holds.giveUp _ _ state begun rfl⟩
    | panicked text =>
      refine ⟨past, _, holds.leave _ rfl rfl rfl ?_⟩
      rw [state, begun]
      exact .stuck
  | notified =>
    refine ⟨past, _, holds.leave _ rfl rfl rfl ?_⟩
    rw [state, begun]
    exact .steady
  | choosing inSession =>
    rename_i pass batch body
    cases batch with
    | nil => exact holds.finishPass rfl state begun
    | cons task rest =>
      exact ⟨past, _, holds.begin rfl state begun inSession (orderly task List.mem_cons_self)⟩
  | ended =>
    rename_i pass
    simp only [LoopRun.next, LoopRun.finishPass, begun]
    refine ⟨past, none, holds.leave _ ?_ ?_ rfl ?_⟩
    · simp
    · simp
    · simp only [FrameLoop.awaitSurface_frame, begun]
      exact .fresh
  | running inSession progress =>
    rename_i pass task acts rest
    cases acts with
    | cons act acts => exact holds.perform rfl state inSession (begun ▸ progress)
    | nil => exact ⟨past, _, holds.judge rfl state inSession (begun ▸ progress)⟩
  | failing => exact ⟨past, _, holds.close _ _ state begun rfl⟩
  | drawn =>
    rename_i outcome body
    cases outcome with
    | proceed =>
      refine ⟨past, _, holds.leave _ rfl rfl rfl ?_⟩
      simp only [FrameLoop.countFrame_frame, state, begun]
      exact .steady
    | stop =>
      have counted : Recorded config past (some (.underway body))
          (⟨loop.countFrame, .drawn .stop, owed, history⟩ : LoopRun ε τ) := { holds with }
      exact ⟨past, _, counted.close _ _ state begun rfl⟩
  | giveUp =>
    refine ⟨past, _, holds.leave _ ?_ ?_ rfl ?_⟩
    · simp
    · simp
    · simp only [FrameLoop.conclude_frame, Session.reset_flags]
      exact .unstarted
  | closing =>
    refine ⟨past, _, holds.leave _ ?_ ?_ rfl ?_⟩
    · simp
    · simp
    · simp only [FrameLoop.conclude_frame, Session.reset_flags]
      exact .terminated

/-- A hook returns at once. -/
theorem leaveIdle (holds : run.Recorded config past present) (idle : run.stage = .idle)
    {loop : FrameLoop ε τ} (answer : Entry.Answer) (configured : loop.config = run.loop.config)
    (calls : callsOf loop.journal = callsOf run.loop.journal) (state : loop.state = run.loop.state)
    (session : loop.session = run.loop.session) :
    (LoopRun.leave answer { run with loop }).Recorded config past present := by
  refine holds.leave answer configured calls (by rw [idle]; rfl) ?_
  rw [state, session, ← idle]
  exact holds.shows

/-- A pass over the queue of a running loop begins. -/
theorem takeBatch {body : List EngineCall} (holds : run.Recorded config past (some (.underway body)))
    (idle : run.stage = .idle) (state : run.loop.state = .running)
    (begun : run.loop.session.initialized = true) (drawing : Bool) :
    (run.takeBatch drawing).Recorded config past (some (.underway body)) := by
  refine holds.quiet [] rfl rfl (List.append_nil _).symm rfl rfl (by rw [idle]; rfl) ?_
  simp only [LoopRun.takeBatch, state, begun]
  exact .choosing rfl

/-- The call of a hook on a thread that may enter. -/
theorem beginHook (holds : run.Recorded config past present) (idle : run.stage = .idle)
    (entry : Entry) : ∃ present, (run.beginHook program entry).Recorded config past present := by
  have shows : (Stage.idle : Stage τ).Shows run.loop.state run.loop.session.initialized present := by
    rw [← idle]
    exact holds.shows
  generalize state : run.loop.state = loopState, begun : run.loop.session.initialized = initialized
    at shows
  cases entry with
  | surfaceCreated thread =>
    simp only [LoopRun.beginHook, state]
    cases shows with
    | fresh =>
      refine ⟨some .configured, holds.call _ _ ?_ ?_ ?_ rfl ?_ ?_ ?_⟩
      · simp
      · simp
      · simp [holds.configured]
      · rintro trace ⟨rfl⟩ call member
        cases member
      · rw [idle]
        rfl
      · simp only [FrameLoop.prepare_frame, begun]
        exact .configured
    | steady =>
      refine ⟨_, holds.callInSession _ trivial rfl rfl (by rw [idle]; rfl) fun body => ?_⟩
      rw [state, begun]
      exact .notified
    | stuck => exact ⟨_, holds.leaveIdle idle _ rfl (by simp) rfl rfl⟩
    | unstarted => exact ⟨_, holds.leaveIdle idle _ rfl (by simp) rfl rfl⟩
    | terminated => exact ⟨_, holds.leaveIdle idle _ rfl (by simp) rfl rfl⟩
  | surfaceChanged thread width height => exact ⟨_, holds.leaveIdle idle _ rfl (by simp) rfl rfl⟩
  | drawFrame thread =>
    simp only [LoopRun.beginHook, state]
    cases shows with
    | steady => exact ⟨_, holds.takeBatch idle state begun true⟩
    | fresh => exact ⟨_, holds.leaveIdle idle _ rfl rfl rfl rfl⟩
    | stuck => exact ⟨_, holds.leaveIdle idle _ rfl rfl rfl rfl⟩
    | unstarted => exact ⟨_, holds.leaveIdle idle _ rfl rfl rfl rfl⟩
    | terminated => exact ⟨_, holds.leaveIdle idle _ rfl rfl rfl rfl⟩
  | deliverRest =>
    simp only [LoopRun.beginHook, state]
    cases shows with
    | steady => exact ⟨_, holds.takeBatch idle state begun false⟩
    | fresh => exact ⟨_, holds.leaveIdle idle _ rfl rfl rfl rfl⟩
    | stuck => exact ⟨_, holds.leaveIdle idle _ rfl rfl rfl rfl⟩
    | unstarted => exact ⟨_, holds.leaveIdle idle _ rfl rfl rfl rfl⟩
    | terminated => exact ⟨_, holds.leaveIdle idle _ rfl rfl rfl rfl⟩

theorem enter (holds : run.Recorded config past present) (idle : run.stage = .idle) (entry : Entry) :
    ∃ present, (run.enter program entry).Recorded config past present := by
  refine enter_induction (P := fun after => ∃ present, after.Recorded config past present)
    (fun panic => ?_) fun owner => ?_
  · exact ⟨present, holds.leaveIdle idle _ rfl rfl rfl rfl⟩
  · have entered : Recorded config past present { run with loop := { run.loop with owner } } :=
      { holds with }
    exact entered.beginHook idle entry

/-- Tasks are offered to the queue. -/
theorem offer (holds : run.Recorded config past present) {offered : List (Task τ)}
    {loop : FrameLoop ε τ} (outside : run.loop.Offered offered loop) :
    (run.offer offered loop).Recorded config past present := by
  refine holds.quiet (offered.map run.submission) outside.config outside.calls rfl
    (begun_submissions offered run) (replies_submissions offered run) rfl ?_
  simp only [LoopRun.offer, outside.state, outside.session]
  exact holds.shows

/-- One move keeps the record. -/
theorem step (holds : run.Recorded config past present) (orderly : ∀ task ∈ run.tasks, task.Orderly)
    (move : Move τ) : ∃ past present, (run.step program move).Recorded config past present := by
  refine step_induction (P := fun after => ∃ past present, after.Recorded config past present)
    ⟨past, present, holds⟩ ?_ ?_ (holds.next orderly)
  · intro owed offered loop outside _
    have resumed : Recorded config past present { run with owed } := { holds with }
    exact ⟨past, present, resumed.offer outside⟩
  · exact fun entry idle => ⟨past, holds.enter idle entry⟩

/-- What the state says between two hooks, in terms of all sessions. -/
theorem lastSession (holds : run.Recorded config past present) (idle : run.stage = .idle) :
    (∀ trace ∈ (sessionsOf past present).dropLast, trace.wasDestroyed = true) ∧
      run.loop.state.LastSession (sessionsOf past present).getLast? ∧
      (sessionsOf past present).countP SessionTrace.wasDestroyed = past.length := by
  have shows : (Stage.idle : Stage τ).Shows run.loop.state run.loop.session.initialized present := by
    rw [← idle]
    exact holds.shows
  have destroyed : ∀ trace ∈ past.map SessionTrace.destroyed, trace.wasDestroyed = true :=
    List.forall_mem_map.mpr fun _ _ => rfl
  have all : (past.map SessionTrace.destroyed).countP SessionTrace.wasDestroyed = past.length := by
    rw [List.countP_eq_length.mpr destroyed, List.length_map]
  generalize run.loop.state = state, run.loop.session.initialized = begun at shows
  cases shows with
  | fresh =>
    simp only [sessionsOf, Option.toList_none, List.append_nil]
    refine ⟨fun trace member => destroyed trace (List.dropLast_subset _ member), ?_, all⟩
    exact fun trace last => destroyed trace (List.mem_of_getLast? last)
  | stuck | steady | unstarted | terminated =>
    simp only [sessionsOf, Option.toList_some, List.dropLast_concat, List.getLast?_concat,
      List.countP_append, all]
    refine ⟨destroyed, ?_, rfl⟩
    simp [LoopState.LastSession]

end Recorded

section Schedules

variable {program : Program ε τ} (orderlyJobs : ∀ job, (program.task job).Orderly)
include orderlyJobs

/-- A schedule of orderly tasks keeps the record. -/
theorem recorded_play (engine : ε) (config : Config) {moves : List (Move τ)}
    (orderlyMoves : ∀ task, .submit task ∈ moves → task.Orderly) :
    ∃ past present, ((start engine config).play program moves).Recorded config past present := by
  refine (play_induction_of_tasks (P := fun run => ∃ past present, run.Recorded config past present)
    orderlyJobs orderlyMoves ?_ ?_ ?_).1
  · exact List.forall_mem_nil _
  · exact ⟨[], none, recorded_start engine config⟩
  · rintro run ⟨past, present, holds⟩ orderly move
    exact holds.step orderly move

/-- **The calls of a run are sessions, one after another**: each configures the engine and starts it,
and only if it starts tells it things and draws frames; each but the last ended with its activity, the
end of an activity being told right before the only shutdown; and the state says how far the last one
is. -/
theorem calls_are_sessions (engine : ε) (config : Config) (moves : List (Move τ))
    (orderlyMoves : ∀ task, .submit task ∈ moves → task.Orderly) :
    let run := (start engine config).play program moves
    run.stage = .idle → ∃ sessions : List SessionTrace,
      callsOf run.loop.journal = sessions.flatMap (SessionTrace.calls config) ∧
      replies run.history = sessions.filterMap SessionTrace.reply? ∧
      (∀ trace ∈ sessions, ∀ call ∈ trace.body, call.InSession) ∧
      (∀ trace ∈ sessions, trace.HasEnded → (trace.calls config).count .shutdown = 1 ∧
        (trace.calls config).getLast? = some .shutdown) ∧
      (∀ trace ∈ sessions.dropLast, trace.wasDestroyed = true) ∧
      run.loop.state.LastSession sessions.getLast? ∧
      sessions.countP SessionTrace.wasDestroyed = (begun run.history).countP Task.endsActivity := by
  intro run idle
  obtain ⟨past, present, holds⟩ := recorded_play orderlyJobs engine config orderlyMoves
  obtain ⟨destroyed, last, all⟩ := holds.lastSession idle
  refine ⟨sessionsOf past present, holds.calls, holds.replies, holds.bodies, ?_, destroyed, last, ?_⟩
  · exact fun trace member ended => SessionTrace.one_shutdown config ended (holds.bodies trace member)
  · have ends := holds.ends
    rw [idle] at ends
    exact all.trans ends.symm

end Schedules

/-- A task that tells the engine something, submits a task, and fails. -/
def refusedTask : Task Unit where
  acts := [.notify .lowMemory, .queue (.submit ())]
  ending := .failed ⟨"no memory"⟩

/-- A session that ends with its activity, and another one that ends with the loop. -/
def successiveSchedule : List (Move Unit) :=
  .enter (.surfaceCreated 0) :: List.replicate 2 .proceed ++
    .submit Task.endActivity :: .enter (.drawFrame 0) :: List.replicate 6 .proceed ++
    .enter (.surfaceCreated 0) :: List.replicate 2 .proceed ++
    .submit refusedTask :: .enter .deliverRest :: List.replicate 7 .proceed

/-- The desktop's engine through that schedule. -/
def successiveRun : LoopRun Desktop.Engine Unit :=
  (start {} {}).play (Desktop.program fun _ => Task.endActivity) successiveSchedule

theorem successiveRun_sessions :
    (∀ job, ((Desktop.program fun _ : Unit => Task.endActivity).task job).Orderly) ∧
      (∀ task, .submit task ∈ successiveSchedule → task.Orderly) ∧ successiveRun.stage = .idle ∧
      ∃ sessions : List SessionTrace,
        callsOf successiveRun.loop.journal = sessions.flatMap (SessionTrace.calls {}) ∧
        sessions.countP SessionTrace.wasDestroyed = 1 ∧
        LoopState.terminated.LastSession sessions.getLast? := by
  have orderlyJobs : ∀ job, ((Desktop.program fun _ : Unit => Task.endActivity).task job).Orderly :=
    fun _ => Or.inl rfl
  have orderlyMoves : ∀ task, .submit task ∈ successiveSchedule → task.Orderly := by
    intro task member
    have submitted : task = Task.endActivity ∨ task = refusedTask := by
      simpa [successiveSchedule] using member
    rcases submitted with rfl | rfl
    · exact Or.inl rfl
    · exact Or.inr (by simp [Task.Plain, refusedTask])
  have idle : successiveRun.stage = .idle := rfl
  obtain ⟨sessions, calls, -, -, -, -, last, ended⟩ :=
    calls_are_sessions orderlyJobs {} {} successiveSchedule orderlyMoves idle
  exact ⟨orderlyJobs, orderlyMoves, idle, sessions, calls, ended, last⟩

end LoopRun

end EngineHost
