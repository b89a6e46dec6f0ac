/-
**An engine that acts by a script, and jobs that are written out.**

* `Scripted.Job`: a job as the acts it performs, jobs to submit among them;
* `Scripted.Engine`: how the starts and the frames to come end, and what the engine does with the queue at
  which moment;
* `Scripted.program`: the hosted program of scripted engines and jobs.
-/

import EngineHost.Engine.Program

namespace EngineHost.Scripted

/-- A job written out: what it does, and how it ends. -/
inductive Job
  | mk (acts : List (Act Job)) (ending : TaskEnd)

/-- The task of a job. -/
def Job.task : Job → Task Job
  | .mk acts ending => ⟨acts, ending⟩

/-- The moments at which a scripted engine may use the queue. -/
inductive Moment
  | configure
  | init
  | render
  | shutdown
  | surfaceCreated
deriving DecidableEq, Repr

/-- A scripted engine. -/
structure Engine where
  /-- Whether it keeps going after each of the frames to come; after these it always does. -/
  renders : List Bool := []
  /-- How each of the starts to come ends; after these it always starts. -/
  starts : List InitReply := []
  uses : Moment → List (QueueUse Job) := fun _ => []
  /-- Whether it listens to notifications. -/
  listens : Bool := true

/-- Whether an engine takes notice of a call. -/
def Engine.hears (engine : Engine) : EngineCall → Bool
  | .notify _ => engine.listens
  | _ => true

/-- The reaction of an engine at a moment. -/
def Engine.reactAt {α : Type} (engine : Engine) (moment : Moment) (reply : α) : Reaction Engine Job α where
  engine := engine
  uses := engine.uses moment
  reply := reply

/-- The reaction of an engine to a notification. -/
def Engine.told (engine : Engine) : Notification → Reaction Engine Job Unit
  | .surfaceCreated => if engine.listens then engine.reactAt .surfaceCreated () else { engine, reply := () }
  | _ => { engine, reply := () }

/-- The hosted program of scripted engines. -/
def program : Program Engine Job where
  configure engine _ _ := engine.reactAt .configure ()
  init engine _ := { engine with starts := engine.starts.tail }.reactAt .init (engine.starts.headD .ready)
  render engine :=
    { engine with renders := engine.renders.tail }.reactAt .render
      (FrameOutcome.ofKeepGoing (engine.renders.headD true))
  shutdown engine := engine.reactAt .shutdown ()
  notify engine notification := engine.told notification
  task := Job.task

end EngineHost.Scripted
