/-
**The frame loop of a host in an Android activity.**

* `Android.onLoop`: a hook of the frame loop. Where the loop asks the host to finish, that is the last thing the
  hook does, and the activity is ended right after it.
-/

import EngineHost.Android.Services
import EngineHost.Host.Basic

namespace EngineHost.Android

variable {ε σ τ α : Type}

/-- Runs a hook of the frame loop, and ends the activity if the loop asks for it. -/
def onLoop (machine : Java.Machine σ) (hook : FrameLoop ε τ → α × FrameLoop ε τ)
    (host : Host ε (Java.World σ) τ) : α × Host ε (Java.World σ) τ :=
  let (answer, after) := host.onLoop hook
  (answer,
    if host.loop.finishes < after.loop.finishes then (after.ask (finishActivity machine)).2 else after)

end EngineHost.Android
