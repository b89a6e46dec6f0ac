/-
**What the host reports while it works.**

* `Notice`: the notices of the host, each with the data it reports;
* `Notice.level`, `Notice.text`: the level and the text of a notice.
-/

import EngineHost.Activity.Lifecycle
import EngineHost.Dialog.Basic
import EngineHost.Failure
import EngineHost.Notice.Level
import EngineHost.Text.Quoted

namespace EngineHost

/-- What the host reports. -/
inductive Notice
  -- Start of the host.
  | starting
  | profileResolved
  | profileReady
  -- The queue and the session.
  | submissionRefused
  | taskFailed (position total dropped : Nat) (error : EngineFailure)
  | deferred (count : Nat)
  | discarded (count : Nat)
  | sessionReset (generation : Nat)
  -- The frame loop and its thread.
  | engineInitialized (generation : Nat)
  | terminating (reason : HostFailure)
  | stopRequested (frames : Nat)
  | sessionEnded
  | surfaceWhileInitializing
  | surfaceAfterTermination
  | surfaceChanged (width height : UInt32)
  | threadNameRefused (name : String)
  | threadStopping (frames : Nat)
  | threadShutdown
  -- The hooks of the system.
  | unexpectedLifecycle (previous : Option Lifecycle) (state : Lifecycle)
  | lifecycle (state : Lifecycle)
  | focusChanged (focused : Bool)
  | lowMemory
  | unknownReport (code : Int32)
  | keyboardCycled
  | autoRotateChanged
  -- Dialogs.
  | dialogReplaced (handle : Dialog.Handle)
  | presentationFallback (error : PresenterFailure)
  | presentationFailed (error : HostFailure)
  | dialogSuperseded (handle : Dialog.Handle)
  | outcomeUndelivered (outcome : Dialog.Outcome)
  -- Anything said by the hosted engine or by the services, in their own words.
  | said (level : Level) (text : String)
deriving DecidableEq, Repr

/-- The level of a notice. -/
def Notice.level : Notice → Level
  | .taskFailed .. | .terminating _ | .presentationFailed _ => .error
  | .surfaceWhileInitializing | .unexpectedLifecycle .. | .lowMemory | .presentationFallback _ => .warn
  | .starting | .sessionReset _ | .engineInitialized _ | .stopRequested _ | .sessionEnded
  | .threadStopping _ => .info
  | .said level _ => level
  | _ => .debug

/-- The text of a notice about a presenter that did not show a dialog. -/
def fallbackText : PresenterFailure → String
  | .unavailable primitive =>
    (HostFailure.primitiveMissing primitive).message ++ ", falling back to legacy dialog"
  | .failed reason => "modal dialog failed (" ++ reason ++ "), falling back to legacy dialog"

/-- The text of a notice. -/
def Notice.text : Notice → String
  | .starting => "starting platform bridge"
  | .profileResolved => "resolved device quirks"
  | .profileReady => "device quirks resolved"
  | .submissionRefused => "dropping notification submitted after session termination"
  | .taskFailed position total dropped error =>
    "dispatch task " ++ toString position ++ " of " ++ toString total ++ " failed, dropping " ++
      toString dropped ++ " queued notifications: " ++ error.message
  | .deferred count => "session ended, deferring " ++ toString count ++ " notifications"
  | .discarded count => "discarded " ++ toString count ++ " notifications on queue close"
  | .sessionReset _ => "engine session reset"
  | .engineInitialized _ => "engine initialized"
  | .terminating reason => "terminating engine session: " ++ reason.message
  | .stopRequested _ => "engine requested stop"
  | .sessionEnded => "engine session ended by the host"
  | .surfaceWhileInitializing => "surface created while the engine is initializing, ignoring"
  | .surfaceAfterTermination => "surface created after termination, ignoring"
  | .surfaceChanged .. => "render surface changed"
  | .threadNameRefused name => "thread name " ++ Text.quoted name ++ " contains a NUL byte"
  | .threadStopping frames => "render thread stopping after " ++ toString frames ++ " frames"
  | .threadShutdown => "render thread shutdown requested"
  | .unexpectedLifecycle .. => "unexpected lifecycle transition"
  | .lifecycle _ => "lifecycle"
  | .focusChanged _ => "window focus changed"
  | .lowMemory => "system reports low memory"
  | .unknownReport _ => "ignoring unknown input method result"
  | .keyboardCycled => "cycling soft keyboard to work around input method race"
  | .autoRotateChanged => "auto-rotate setting changed"
  | .dialogReplaced _ => "dialog replaced before it was resolved"
  | .presentationFallback error => fallbackText error
  | .presentationFailed error => error.message
  | .dialogSuperseded _ => "ignoring result of a superseded dialog"
  | .outcomeUndelivered outcome =>
    "dialog outcome " ++ outcome.name ++ " not delivered: " ++ HostFailure.noSession.message
  | .said _ text => text

end EngineHost
