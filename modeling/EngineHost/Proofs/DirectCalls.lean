/-
**A loop on a thread of its own does what direct calls of its hooks do.**

* `EngineRoom.behind`, `FrameLoop.behind`: a journal that begins with earlier events; nobody reads it, so that
  every operation does the same behind it;
* `FrameLoop.Agrees`: two loops that differ in their notices only;
* `FrameLoop.turn`, `LoopThread.turn`: a signal or a submission, for a loop whose hooks are called directly and
  for one on a thread;
* `FrameLoop.IsLast`, `FrameLoop.endingOf`: the signals behind which a thread ends, and how it ends then;
* `LoopThread.spawned_as_driven`: the thread does what the direct calls do, up to its last signal.
-/

import EngineHost.Desktop.Engine
import EngineHost.Proofs.RenderThread

namespace EngineHost

variable {ε τ α : Type}

/-! ### A journal that begins with earlier events -/

namespace EngineRoom

/-- A room whose journal begins with earlier events. -/
def behind (earlier : List Event) (room : EngineRoom ε τ) : EngineRoom ε τ :=
  { room with journal := earlier ++ room.journal }

variable {program : Program ε τ} {room : EngineRoom ε τ} {earlier : List Event}

theorem record_behind (events : List Event) :
    (room.behind earlier).record events = (room.record events).behind earlier := by
  simp [record, behind]

theorem report_behind (notices : List Notice) :
    (room.behind earlier).report notices = (room.report notices).behind earlier :=
  record_behind _

theorem submit_behind (task : Task τ) :
    (room.behind earlier).submit task = ((room.submit task).1, (room.submit task).2.behind earlier) := by
  have queue : (room.behind earlier).queue = room.queue := rfl
  unfold submit
  rw [queue]
  cases room.queue.submit task with
  | none => exact congrArg (Prod.mk false) (report_behind _)
  | some after => rfl

theorem use_behind (use : QueueUse τ) :
    (room.behind earlier).use program use = (room.use program use).behind earlier := by
  cases use with
  | submit job =>
    simp only [EngineRoom.use, submit_behind]
    exact record_behind _
  | look => exact record_behind _

theorem hear_behind (call : EngineCall) (reaction : Reaction ε τ α) :
    (room.behind earlier).hear call reaction = (room.hear call reaction).behind earlier := by
  simp [hear, record, report, behind]

theorem take_behind (call : EngineCall) (reaction : Reaction ε τ α) :
    (room.behind earlier).take program call reaction = (room.take program call reaction).behind earlier := by
  unfold take
  rw [hear_behind]
  generalize room.hear call reaction = heard
  induction reaction.uses generalizing heard with
  | nil => rfl
  | cons use uses ih =>
    simp only [List.foldl_cons, use_behind]
    exact ih _

theorem endSession_behind : (room.behind earlier).endSession = room.endSession.behind earlier := by
  have session : (room.behind earlier).session = room.session := rfl
  unfold endSession
  rw [session]
  split
  · rw [report_behind]
    rfl
  · rfl

theorem perform_behind (act : Act τ) :
    (room.behind earlier).perform program act = (room.perform program act).behind earlier := by
  cases act with
  | notify notification => exact take_behind _ _
  | shutdown => exact take_behind _ _
  | endSession => exact endSession_behind
  | lookAtSession => exact record_behind _
  | queue use => exact use_behind use

theorem run_behind (task : Task τ) :
    (room.behind earlier).run program task = (room.run program task).behind earlier := by
  unfold run
  induction task.acts generalizing room with
  | nil => rfl
  | cons act acts ih =>
    simp only [List.foldl_cons, perform_behind]
    exact ih

theorem putBack_behind (rest : List (Task τ)) :
    (room.behind earlier).putBack rest = (room.putBack rest).behind earlier := by
  unfold putBack
  split
  · rfl
  · rw [report_behind]
    rfl

theorem workOff_behind (inSession : Bool) (done : Nat) (batch : List (Task τ)) :
    workOff program inSession done batch (room.behind earlier) =
      ((workOff program inSession done batch room).1,
        (workOff program inSession done batch room).2.behind earlier) := by
  induction batch generalizing room done with
  | nil => rfl
  | cons task rest ih =>
    have verdict : ((room.run program task).behind earlier).verdict inSession task =
        (room.run program task).verdict inSession task := rfl
    simp only [workOff, run_behind, verdict]
    cases (room.run program task).verdict inSession task with
    | goOn => exact ih _
    | sessionOver => exact congrArg (Prod.mk TaskEnd.done) (putBack_behind rest)
    | failed failure => exact congrArg (Prod.mk (TaskEnd.failed failure)) (report_behind _)
    | panicked text => rfl

theorem pass_behind :
    (room.behind earlier).pass program = ((room.pass program).1, (room.pass program).2.behind earlier) := by
  have taken : ({ room.behind earlier with queue := room.queue.take.2 } : EngineRoom ε τ) =
      ({ room with queue := room.queue.take.2 } : EngineRoom ε τ).behind earlier := rfl
  simp only [pass]
  exact (congrArg _ taken).trans (workOff_behind _ _ _)

theorem closeQueue_behind : (room.behind earlier).closeQueue = room.closeQueue.behind earlier := by
  have queue : (room.behind earlier).queue = room.queue := rfl
  unfold closeQueue
  rw [queue]
  split
  · rfl
  · rw [report_behind]
    rfl

end EngineRoom

namespace FrameLoop

/-- A loop whose journal begins with earlier events. -/
def behind (earlier : List Event) (loop : FrameLoop ε τ) : FrameLoop ε τ := loop.inRoom (·.behind earlier)

section Behind

variable {program : Program ε τ} {loop : FrameLoop ε τ} {earlier : List Event}

/-- What an operation does behind earlier events, the loop does there. -/
theorem inRoom_behind {change : EngineRoom ε τ → EngineRoom ε τ}
    (same : ∀ room, change (EngineRoom.behind earlier room) = (change room).behind earlier) :
    (loop.behind earlier).inRoom change = (loop.inRoom change).behind earlier := by
  unfold behind inRoom
  rw [same]

theorem conclude_behind : (loop.behind earlier).conclude = loop.conclude.behind earlier := by
  unfold conclude
  rw [inRoom_behind fun _ => EngineRoom.endSession_behind, inRoom_behind fun _ => EngineRoom.record_behind _]
  rfl

theorem close_behind : (loop.behind earlier).close program = (loop.close program).behind earlier := by
  have closes : (loop.behind earlier).inRoom (·.closeQueue) = (loop.inRoom (·.closeQueue)).behind earlier :=
    inRoom_behind fun _ => EngineRoom.closeQueue_behind
  have session : ((loop.inRoom (·.closeQueue)).behind earlier).session =
      (loop.inRoom (·.closeQueue)).session := rfl
  unfold close
  simp only [closes, session]
  split
  · have shuts : ∀ room : EngineRoom ε τ, (room.behind earlier).shutdown program =
        (room.shutdown program).behind earlier := fun _ => EngineRoom.take_behind _ _
    rw [inRoom_behind shuts]
    exact conclude_behind
  · exact conclude_behind

theorem report_behind (notices : List Notice) :
    (loop.behind earlier).report notices = (loop.report notices).behind earlier :=
  inRoom_behind fun _ => EngineRoom.report_behind notices

theorem abort_behind (reason : HostFailure) :
    (loop.behind earlier).abort program reason = (loop.abort program reason).behind earlier := by
  unfold abort
  rw [report_behind, close_behind]

theorem awaitSurface_behind : (loop.behind earlier).awaitSurface = loop.awaitSurface.behind earlier := by
  unfold awaitSurface
  rw [report_behind]
  rfl

theorem deliver_behind : (loop.behind earlier).deliver program =
    ((loop.deliver program).1, (loop.deliver program).2.behind earlier) := by
  have passes : (loop.behind earlier).toEngineRoom.pass program =
      ((loop.toEngineRoom.pass program).1, (loop.toEngineRoom.pass program).2.behind earlier) :=
    EngineRoom.pass_behind
  unfold deliver
  rw [passes]
  obtain ⟨ending, room⟩ := loop.toEngineRoom.pass program
  have delivered : ({ loop.behind earlier with toEngineRoom := room.behind earlier } : FrameLoop ε τ) =
      ({ loop with toEngineRoom := room } : FrameLoop ε τ).behind earlier := rfl
  have session : (room.behind earlier).session = room.session := rfl
  cases ending with
  | done =>
    simp only [session, delivered, awaitSurface_behind]
    split <;> rfl
  | failed failure =>
    dsimp only
    rw [delivered, abort_behind]
  | panicked text =>
    dsimp only
    rw [delivered]

theorem deliverRest_behind : (loop.behind earlier).deliverRest program =
    ((loop.deliverRest program).1, (loop.deliverRest program).2.behind earlier) := by
  have state : (loop.behind earlier).state = loop.state := rfl
  unfold deliverRest
  rw [state, deliver_behind]
  cases loop.state with
  | running => rcases loop.deliver program with ⟨panic | outcome, after⟩ <;> rfl
  | uninitialized | initializing | terminated => rfl

end Behind

end FrameLoop

/-! ### Loops that differ in their notices only -/

/-- Whether an event is more than a notice. -/
@[simp] def Event.isDeed : Event → Bool
  | .notice _ => false
  | .call _ | .submitted _ | .sawQueue _ _ | .sawSession _ | .finish => true

/-- What a journal holds besides notices: the calls into the engine, the requests to finish, and what hosted code
has learned. -/
def deedsOf (journal : List Event) : List Event := journal.filter Event.isDeed

@[simp] theorem deedsOf_append (first second : List Event) :
    deedsOf (first ++ second) = deedsOf first ++ deedsOf second :=
  List.filter_append first second

@[simp] theorem deedsOf_notices (notices : List Notice) : deedsOf (notices.map Event.notice) = [] := by
  refine List.filter_eq_nil_iff.mpr fun event member => ?_
  obtain ⟨notice, -, rfl⟩ := List.mem_map.mp member
  exact Bool.false_ne_true

/-- Calls and requests to finish are no notices. -/
theorem told_of_deeds (journal : List Event) :
    callsOf (deedsOf journal) = callsOf journal ∧ finishesOf (deedsOf journal) = finishesOf journal := by
  induction journal with
  | nil => exact ⟨rfl, rfl⟩
  | cons event rest ih =>
    obtain ⟨calls, asked⟩ := ih
    unfold deedsOf at calls asked ⊢
    cases event <;> simp [List.filter_cons, calls, asked]

namespace FrameLoop

/-- Two loops that differ in the notices of their journals only. -/
structure Agrees (one other : FrameLoop ε τ) : Prop where
  engine : one.engine = other.engine
  session : one.session = other.session
  queue : one.queue = other.queue
  config : one.config = other.config
  state : one.state = other.state
  owner : one.owner = other.owner
  frames : one.frames = other.frames
  finishes : one.finishes = other.finishes
  deeds : deedsOf one.journal = deedsOf other.journal
  calls : callsOf one.journal = callsOf other.journal
  asked : finishesOf one.journal = finishesOf other.journal

namespace Agrees

variable {one other : FrameLoop ε τ}

/-- Loops agree that are the same behind events with the same deeds. -/
theorem of_behind (loop : FrameLoop ε τ) {first second : List Event} (same : deedsOf first = deedsOf second) :
    (loop.behind first).Agrees (loop.behind second) := by
  have deeds : deedsOf (loop.behind first).journal = deedsOf (loop.behind second).journal := by
    simp only [behind, inRoom_frame, EngineRoom.behind, deedsOf_append, same]
  refine ⟨rfl, rfl, rfl, rfl, rfl, rfl, rfl, rfl, deeds, ?_, ?_⟩
  · rw [← (told_of_deeds _).1, deeds, (told_of_deeds _).1]
  · rw [← (told_of_deeds _).2, deeds, (told_of_deeds _).2]

/-- Loops that agree are the same behind events with the same deeds. -/
theorem exists_behind (agrees : one.Agrees other) : ∃ (loop : FrameLoop ε τ) (first second : List Event),
    one = loop.behind first ∧ other = loop.behind second ∧ deedsOf first = deedsOf second := by
  obtain ⟨⟨engine, session, queue, journal⟩, config, state, owner, frames, finishes⟩ := one
  obtain ⟨⟨engine', session', queue', journal'⟩, config', state', owner', frames', finishes'⟩ := other
  obtain ⟨rfl, rfl, rfl, rfl, rfl, rfl, rfl, rfl, deeds, -, -⟩ := agrees
  refine ⟨⟨⟨engine, session, queue, []⟩, config, state, owner, frames, finishes⟩, journal, journal', ?_, ?_,
    deeds⟩
  · simp only [behind, inRoom, EngineRoom.behind, List.append_nil]
  · simp only [behind, inRoom, EngineRoom.behind, List.append_nil]

theorem refl (loop : FrameLoop ε τ) : loop.Agrees loop :=
  ⟨rfl, rfl, rfl, rfl, rfl, rfl, rfl, rfl, rfl, rfl, rfl⟩

theorem trans {third : FrameLoop ε τ} (first : one.Agrees other) (second : other.Agrees third) :
    one.Agrees third where
  engine := first.engine.trans second.engine
  session := first.session.trans second.session
  queue := first.queue.trans second.queue
  config := first.config.trans second.config
  state := first.state.trans second.state
  owner := first.owner.trans second.owner
  frames := first.frames.trans second.frames
  finishes := first.finishes.trans second.finishes
  deeds := first.deeds.trans second.deeds
  calls := first.calls.trans second.calls
  asked := first.asked.trans second.asked

/-- A report adds notices only. -/
theorem report (notices : List Notice) (loop : FrameLoop ε τ) : loop.Agrees (loop.report notices) := by
  refine ⟨rfl, rfl, rfl, rfl, rfl, rfl, rfl, rfl, ?_, ?_, ?_⟩
  · show deedsOf loop.journal = deedsOf (loop.journal ++ notices.map Event.notice)
    rw [deedsOf_append, deedsOf_notices, List.append_nil]
  · simp
  · simp

/-- The delivery of the rest answers the same for loops that agree, and they agree afterwards. -/
theorem deliverRest (program : Program ε τ) (agrees : one.Agrees other) :
    (one.deliverRest program).1 = (other.deliverRest program).1 ∧
      (one.deliverRest program).2.Agrees (other.deliverRest program).2 := by
  obtain ⟨loop, first, second, rfl, rfl, same⟩ := agrees.exists_behind
  rw [deliverRest_behind, deliverRest_behind]
  exact ⟨rfl, .of_behind _ same⟩

theorem submit (agrees : one.Agrees other) (task : Task τ) :
    (one.inRoom fun room => (room.submit task).2).Agrees (other.inRoom fun room => (room.submit task).2) := by
  obtain ⟨loop, first, second, rfl, rfl, same⟩ := agrees.exists_behind
  have submits : ∀ earlier : List Event, (loop.behind earlier).inRoom (fun room => (room.submit task).2) =
      (loop.inRoom fun room => (room.submit task).2).behind earlier := fun earlier =>
    inRoom_behind fun room => congrArg Prod.snd (EngineRoom.submit_behind task)
  rw [submits, submits]
  exact .of_behind _ same

end Agrees

end FrameLoop

/-! ### The last frame -/

namespace FrameLoop

variable {program : Program ε τ} {loop : FrameLoop ε τ}

theorem terminated_of_deliver (stops : (loop.deliver program).1 = .ok (some .stop)) :
    (loop.deliver program).2.state = .terminated := by
  unfold deliver at stops ⊢
  generalize loop.toEngineRoom.pass program = passed at stops ⊢
  obtain ⟨ending, room⟩ := passed
  cases ending with
  | done =>
    dsimp only at stops
    split at stops <;> cases stops
  | failed failure => rfl
  | panicked text => cases stops

theorem terminated_of_render (stops : (loop.render program).1 = .stop) :
    (loop.render program).2.state = .terminated := by
  unfold render at stops ⊢
  cases replied : (program.render loop.engine).reply with
  | proceed =>
    simp only [replied] at stops
    cases stops
  | stop =>
    simp only [replied]
    rfl

/-- A frame behind which nothing more is to be drawn leaves the loop terminated. -/
theorem terminated_of_stop {thread : ThreadId} (stops : (loop.drawFrame program thread).1 = .ok .stop) :
    (loop.drawFrame program thread).2.state = .terminated := by
  unfold drawFrame at stops ⊢
  cases entered : loop.enter thread with
  | error panic =>
    rw [entered] at stops
    cases stops
  | ok inside =>
    rw [entered] at stops
    cases state : inside.state with
    | uninitialized | initializing =>
      simp only [state] at stops
      cases stops
    | terminated => simp only [state]
    | running =>
      simp only [state] at stops ⊢
      unfold frame at stops ⊢
      have delivers := @terminated_of_deliver _ _ program inside
      generalize inside.deliver program = delivered at delivers stops ⊢
      rcases delivered with ⟨panic | _ | outcome, after⟩
      · cases stops
      · exact terminated_of_render (Except.ok.inj stops)
      · cases stops
        exact delivers rfl

end FrameLoop

/-! ### Turns -/

/-- What reaches a render thread: a signal, or a task that is submitted between two signals. -/
inductive Turn (τ : Type)
  | signal (signal : Signal)
  | submit (task : Task τ)

/-- Whether a turn submits a task. -/
@[simp] def Turn.isSubmit : Turn τ → Bool
  | .submit _ => true
  | .signal _ => false

/-- The hook of a signal in one go, called directly. -/
def FrameLoop.hook (program : Program ε τ) (thread : ThreadId) (loop : FrameLoop ε τ) (signal : Signal) :
    Entry.Answer × FrameLoop ε τ :=
  (signal.entry thread).run program loop

/-- A turn of a loop whose hooks are called directly, all on one thread. -/
def FrameLoop.turn (program : Program ε τ) (thread : ThreadId) (loop : FrameLoop ε τ) : Turn τ → FrameLoop ε τ
  | .signal signal => (loop.hook program thread signal).2
  | .submit task => loop.inRoom fun room => (room.submit task).2

/-- The turns of such a loop, in order. -/
def FrameLoop.turns (program : Program ε τ) (thread : ThreadId) (loop : FrameLoop ε τ) (turns : List (Turn τ)) :
    FrameLoop ε τ :=
  turns.foldl (FrameLoop.turn program thread) loop

/-- A turn of a loop on a thread of its own. -/
def LoopThread.turn (program : Program ε τ) (thread : LoopThread ε τ) : Turn τ → LoopThread ε τ
  | .signal signal => thread.receive program signal
  | .submit task => { thread with loop := thread.loop.inRoom fun room => (room.submit task).2 }

/-- The turns of such a loop, in order. -/
def LoopThread.turns (program : Program ε τ) (thread : LoopThread ε τ) (turns : List (Turn τ)) :
    LoopThread ε τ :=
  turns.foldl (LoopThread.turn program) thread

/-- What joining a thread gives, by its end. -/
def ThreadEnd.joined : ThreadEnd → Except HostFailure LoopState
  | .returned state => .ok state
  | .panicked _ => .error .threadPanicked

namespace FrameLoop

/-- A signal is the last one of its thread: a request to end, a frame behind which nothing more is to be drawn, or
one whose hook panics. -/
def IsLast (program : Program ε τ) (thread : ThreadId) (loop : FrameLoop ε τ) (signal : Signal) : Prop :=
  signal = .shutdown ∨
    (signal = .drawFrame ∧ (loop.hook program thread signal).1 = .ok (some .stop)) ∨
    ∃ panic, (loop.hook program thread signal).1 = .error panic

/-- How a thread ends behind its last signal. -/
def endingOf (program : Program ε τ) (thread : ThreadId) (loop : FrameLoop ε τ) (signal : Signal) : ThreadEnd :=
  match (loop.hook program thread signal).1 with
  | .error panic => .panicked panic
  | .ok _ => .returned (loop.hook program thread signal).2.state

/-- No signal among these turns is the last one. -/
def Endless (program : Program ε τ) (thread : ThreadId) (loop : FrameLoop ε τ) (turns : List (Turn τ)) : Prop :=
  ∀ earlier signal later, turns = earlier ++ .signal signal :: later →
    ¬ (loop.turns program thread earlier).IsLast program thread signal

end FrameLoop

namespace LoopThread

section Turns

variable {program : Program ε τ} {thread : ThreadId} {loop : FrameLoop ε τ} {signal : Signal}

/-- A signal that is not the last one is its hook, and no more. -/
theorem receive_of_goesOn (goesOn : ¬ loop.IsLast program thread signal) :
    receive program { loop, thread } signal = { loop := (loop.hook program thread signal).2, thread } := by
  have handled := ThreadRun.handle_eq program loop thread signal
  have ⟨unasked, goesOn⟩ := not_or.mp goesOn
  have ⟨undrawn, unpanicked⟩ := not_or.mp goesOn
  have announced : signal.announces = [] := by
    cases signal with
    | shutdown => exact absurd rfl unasked
    | surfaceCreated | surfaceChanged | drawFrame => rfl
  have follows : signal.follow (loop.hook program thread signal).2 (loop.hook program thread signal).1 =
      ([], .waiting) := by
    cases answered : (loop.hook program thread signal).1 with
    | error panic => exact absurd ⟨panic, answered⟩ unpanicked
    | ok outcome =>
      cases signal with
      | shutdown => exact absurd rfl unasked
      | drawFrame => exact if_neg fun stop => undrawn ⟨rfl, by rw [answered, stop]⟩
      | surfaceCreated | surfaceChanged => rfl
  unfold FrameLoop.hook at follows ⊢
  simp only [announced, FrameLoop.report_nil, follows] at handled
  exact handled

/-- The hook of a signal answers the same behind what the thread reports first, and leaves a loop that agrees. -/
theorem hook_behind_announced (program : Program ε τ) (thread : ThreadId) (loop : FrameLoop ε τ)
    (signal : Signal) :
    ((loop.report signal.announces).hook program thread signal).1 = (loop.hook program thread signal).1 ∧
      (loop.hook program thread signal).2.Agrees
        ((loop.report signal.announces).hook program thread signal).2 := by
  cases signal with
  | shutdown =>
    obtain ⟨answer, after⟩ := (FrameLoop.Agrees.report [.threadShutdown] loop).deliverRest program
    exact ⟨congrArg (Except.map _) answer.symm, after⟩
  | surfaceCreated | surfaceChanged | drawFrame =>
    rw [Signal.announces, FrameLoop.report_nil]
    exact ⟨rfl, .refl _⟩

/-- Behind its last signal the thread has ended, and its loop is as the hook leaves it, but for what the thread
reports. -/
theorem receive_of_isLast (isLast : loop.IsLast program thread signal) :
    (loop.hook program thread signal).2.Agrees (receive program { loop, thread } signal).loop ∧
      (receive program { loop, thread } signal).thread = thread ∧
      (receive program { loop, thread } signal).ending = some (loop.endingOf program thread signal) := by
  obtain ⟨answer, after⟩ := hook_behind_announced program thread loop signal
  have handled : receive program { loop, thread } signal = _ := ThreadRun.handle_eq program loop thread signal
  rw [handled]
  refine ⟨after.trans (.report _ _), rfl, ?_⟩
  show (signal.follow ((loop.report signal.announces).hook program thread signal).2
    ((loop.report signal.announces).hook program thread signal).1).2.ending? = _
  rw [answer, FrameLoop.endingOf]
  rcases isLast with rfl | ⟨rfl, stop⟩ | ⟨panic, panics⟩
  · cases (loop.hook program thread .shutdown).1 with
    | error panic => rfl
    | ok outcome => exact congrArg (fun state => some (ThreadEnd.returned state)) after.state.symm
  · rw [stop]
    exact congrArg (fun state => some (ThreadEnd.returned state)) after.state.symm
  · rw [panics]
    rfl

/-- A thread that returns a state returns that of its loop, which is terminated behind the last frame. -/
theorem state_of_endingOf (isLast : loop.IsLast program thread signal) {state : LoopState}
    (returned : loop.endingOf program thread signal = .returned state) :
    (loop.hook program thread signal).2.state = state ∧ (signal = .drawFrame → state = .terminated) := by
  unfold FrameLoop.endingOf at returned
  cases answered : (loop.hook program thread signal).1 with
  | error panic =>
    rw [answered] at returned
    cases returned
  | ok outcome =>
    rw [answered] at returned
    cases returned
    refine ⟨rfl, ?_⟩
    rintro rfl
    rcases isLast with other | ⟨-, stop⟩ | ⟨panic, panics⟩
    · cases other
    · show (loop.drawFrame program thread).2.state = .terminated
      refine FrameLoop.terminated_of_stop ?_
      have frame : (loop.drawFrame program thread).1.map some = .ok (some .stop) := stop
      cases outcome : (loop.drawFrame program thread).1 with
      | error panic =>
        rw [outcome] at frame
        cases frame
      | ok drawn =>
        rw [outcome] at frame
        cases frame
        rfl
    · rw [answered] at panics
      cases panics

/-- As long as no signal is the last one, the thread makes the direct calls and no others. -/
theorem turns_of_endless {turns : List (Turn τ)} (endless : loop.Endless program thread turns) :
    LoopThread.turns program { loop, thread } turns = { loop := loop.turns program thread turns, thread } := by
  induction turns generalizing loop with
  | nil => rfl
  | cons turn rest ih =>
    have step : LoopThread.turn program { loop, thread } turn =
        { loop := loop.turn program thread turn, thread } := by
      cases turn with
      | submit task => rfl
      | signal signal => exact receive_of_goesOn (endless [] signal rest rfl)
    have onward : (loop.turn program thread turn).Endless program thread rest := by
      rintro earlier signal later rfl
      exact endless (turn :: earlier) signal later rfl
    refine Eq.trans ?_ (ih onward)
    exact congrArg (fun thread => LoopThread.turns program thread rest) step

/-- Behind the end of a thread only submissions have an effect. -/
theorem turns_of_ended (thread : ThreadId) {ended : LoopThread ε τ} {ending : ThreadEnd}
    (isOver : ended.ending = some ending)
    (later : List (Turn τ)) : LoopThread.turns program ended later =
      { ended with loop := ended.loop.turns program thread (later.filter Turn.isSubmit) } := by
  induction later generalizing ended with
  | nil => rfl
  | cons turn rest ih =>
    cases turn with
    | submit task => exact @ih { ended with loop := _ } isOver
    | signal signal =>
      have stays : ended.receive program signal = ended := by simp only [receive, isOver]
      refine Eq.trans ?_ (ih isOver)
      exact congrArg (fun thread => LoopThread.turns program thread rest) stays

/-- Submissions leave loops that agree in agreement, and their state as it is. -/
theorem agrees_submissions (program : Program ε τ) (thread : ThreadId) {one other : FrameLoop ε τ}
    (agrees : one.Agrees other) (later : List (Turn τ)) :
    (one.turns program thread (later.filter Turn.isSubmit)).Agrees
        (other.turns program thread (later.filter Turn.isSubmit)) ∧
      (one.turns program thread (later.filter Turn.isSubmit)).state = one.state := by
  induction later generalizing one other with
  | nil => exact ⟨agrees, rfl⟩
  | cons turn rest ih =>
    cases turn with
    | submit task => exact ih (agrees.submit task)
    | signal signal => exact ih agrees

/-- No signal is the last one, or there is a first one that is. -/
theorem endless_or_last (program : Program ε τ) (thread : ThreadId) (loop : FrameLoop ε τ)
    (turns : List (Turn τ)) :
    loop.Endless program thread turns ∨ ∃ earlier last later, turns = earlier ++ .signal last :: later ∧
      loop.Endless program thread earlier ∧ (loop.turns program thread earlier).IsLast program thread last := by
  induction turns generalizing loop with
  | nil =>
    refine Or.inl fun earlier signal later split => ?_
    simp at split
  | cons turn rest ih =>
    by_cases here : ∃ signal, turn = .signal signal ∧ loop.IsLast program thread signal
    · obtain ⟨signal, rfl, isLast⟩ := here
      refine Or.inr ⟨[], signal, rest, rfl, fun earlier signal later split => ?_, isLast⟩
      simp at split
    · have longer : ∀ {turns}, (loop.turn program thread turn).Endless program thread turns →
          loop.Endless program thread (turn :: turns) := by
        intro turns endless earlier signal later split isLast
        cases earlier with
        | nil => exact here ⟨signal, (List.cons.inj split).1, isLast⟩
        | cons first earlier =>
          obtain ⟨rfl, behind⟩ := List.cons.inj split
          exact endless earlier signal later behind isLast
      rcases ih (loop.turn program thread turn) with endless | ⟨earlier, last, later, rfl, endless, isLast⟩
      · exact Or.inl (longer endless)
      · exact Or.inr ⟨turn :: earlier, last, later, rfl, longer endless, isLast⟩

/-- Joining a thread that has ended gives its end. -/
theorem join_of_ended {ended : LoopThread ε τ} {ending : ThreadEnd} (isOver : ended.ending = some ending) :
    join program ended = (ending.joined, ended) := by
  have stays : ended.receive program .shutdown = ended := by simp only [receive, isOver]
  unfold join
  rw [stays]
  cases ending <;> simp only [isOver, ThreadEnd.joined]

/-- Joining a thread that has not ended asks it to end. -/
theorem join_of_goesOn (program : Program ε τ) (thread : ThreadId) (loop : FrameLoop ε τ) :
    join program { loop, thread } =
      ((loop.endingOf program thread .shutdown).joined, receive program { loop, thread } .shutdown) := by
  have isLast : loop.IsLast program thread .shutdown := Or.inl rfl
  obtain ⟨-, -, isOver⟩ := receive_of_isLast isLast
  unfold join
  cases ending : loop.endingOf program thread .shutdown <;>
    simp only [isOver, ending, ThreadEnd.joined]

end Turns

/-- **A loop on a thread of its own does what direct calls of its hooks do**, whatever its engine and its tasks do
and whatever is submitted between two signals. Up to its last signal the thread makes the direct calls and no
others: up to a frame behind which nothing more is to be drawn, up to a request to end, which delivers the rest,
or up to a panic. Behind that signal only submissions have an effect. A thread that can get no more signals ends
where it stands, and joining a thread asks it to end. -/
theorem spawned_as_driven (program : Program ε τ) {thread : ThreadId} {loop : FrameLoop ε τ}
    {spawned : LoopThread ε τ} (starts : LoopThread.spawn thread loop = .ok spawned) (turns : List (Turn τ)) :
    let direct := loop.turns program thread
    let after := spawned.turns program turns
    (loop.Endless program thread turns ∧ after = { loop := direct turns, thread } ∧
        after.hangUp = { after with ending := some (.returned (direct turns).state) } ∧
        (direct (turns ++ [.signal .shutdown])).Agrees (after.join program).2.loop ∧
        (after.join program).1 = ((direct turns).endingOf program thread .shutdown).joined) ∨
      ∃ earlier last later, turns = earlier ++ .signal last :: later ∧ loop.Endless program thread earlier ∧
        (direct earlier).IsLast program thread last ∧
        let ending := (direct earlier).endingOf program thread last
        let left := direct (earlier ++ .signal last :: later.filter Turn.isSubmit)
        left.Agrees after.loop ∧ after.ending = some ending ∧ after.hangUp = after ∧
        after.join program = (ending.joined, after) ∧
        ∀ state, ending = .returned state → left.state = state ∧ (last = .drawFrame → state = .terminated) := by
  intro direct after
  have its : spawned = { loop, thread } := by
    unfold spawn at starts
    cases named : ThreadName.toStart loop.config.renderThreadName with
    | error panic =>
      rw [named] at starts
      cases starts
    | ok name =>
      rw [named] at starts
      cases starts
      rfl
  subst its
  rcases endless_or_last program thread loop turns with endless | ⟨earlier, last, later, rfl, endless, isLast⟩
  · have goesOn : after = { loop := direct turns, thread } := turns_of_endless endless
    refine Or.inl ⟨endless, goesOn, ?_, ?_, ?_⟩
    · rw [goesOn]
      rfl
    · rw [goesOn, join_of_goesOn]
      have asked : (direct turns).IsLast program thread .shutdown := Or.inl rfl
      have rest : direct (turns ++ [.signal .shutdown]) = ((direct turns).hook program thread .shutdown).2 :=
        List.foldl_append
      rw [rest]
      exact (receive_of_isLast asked).1
    · rw [goesOn, join_of_goesOn]
  · let ended := receive program { loop := direct earlier, thread } last
    obtain ⟨agrees, same, isOver⟩ := receive_of_isLast isLast
    have behind : after = LoopThread.turns program ended later := by
      refine List.foldl_append.trans ?_
      exact congrArg (fun thread => LoopThread.turns program thread (.signal last :: later))
        (turns_of_endless endless)
    have left : direct (earlier ++ .signal last :: later.filter Turn.isSubmit) =
        ((direct earlier).hook program thread last).2.turns program thread (later.filter Turn.isSubmit) :=
      List.foldl_append
    obtain ⟨submitted, still⟩ := agrees_submissions program thread agrees later
    rw [turns_of_ended thread isOver] at behind
    have ends : after.ending = some ((direct earlier).endingOf program thread last) := by
      rw [behind]
      exact isOver
    refine Or.inr ⟨earlier, last, later, rfl, endless, isLast, ?_, ends, ?_, join_of_ended ends, ?_⟩
    · rw [left, behind]
      exact submitted
    · simp only [hangUp, ends]
    · intro state returned
      rw [left, still]
      exact state_of_endingOf isLast returned

/-- A surface is created, the user confirms to quit, and a frame is due; what follows comes too late. -/
def quittingTurns : List (Turn Unit) :=
  [.signal .surfaceCreated, .submit (Task.notify (.dialog .yes)), .signal .drawFrame,
    .submit (Task.notify .lowMemory), .signal .surfaceCreated]

/-- The desktop's loop on a thread of its own. -/
def desktopLoopThread : LoopThread Desktop.Engine Unit := { loop := FrameLoop.create {} {}, thread := 1 }

/-- The thread ends behind the frame; without the frame it is asked to end, and the task that waits is delivered
first. -/
theorem quittingTurns_as_driven :
    let program : Program Desktop.Engine Unit := Desktop.program fun _ => Task.endActivity
    LoopThread.spawn 1 desktopLoopThread.loop = .ok desktopLoopThread ∧
      ((desktopLoopThread.turns program quittingTurns).join program).1 = .ok .terminated ∧
      ((desktopLoopThread.turns program (quittingTurns.take 2)).join program).1 = .ok .running ∧
      callsOf ((desktopLoopThread.turns program (quittingTurns.take 2)).join program).2.loop.journal =
        [.configure "." "", .init [""], .notify (.dialog .yes)] := by
  intro program
  have starts : LoopThread.spawn 1 desktopLoopThread.loop = .ok desktopLoopThread := rfl
  have ended : (desktopLoopThread.turns program quittingTurns).ending = some (.returned .terminated) := rfl
  have waits : (desktopLoopThread.turns program (quittingTurns.take 2)).ending = none := rfl
  refine ⟨starts, ?_, ?_⟩
  · rcases spawned_as_driven program starts quittingTurns with
      ⟨-, goesOn, -⟩ | ⟨_, _, _, -, -, -, -, ends, -, joins, -⟩
    · rw [goesOn] at ended
      cases ended
    · rw [joins, ← Option.some.inj (ends.symm.trans ended).symm]
      rfl
  · rcases spawned_as_driven program starts (quittingTurns.take 2) with ⟨-, -, -, agrees, joins⟩ |
      ⟨_, _, _, -, -, -, -, ends, -⟩
    · exact ⟨joins, agrees.calls.symm⟩
    · rw [ends] at waits
      cases waits

end LoopThread

end EngineHost
