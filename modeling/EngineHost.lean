import EngineHost.Android.Loop
import EngineHost.Desktop.Application
import EngineHost.Desktop.Engine
import EngineHost.Desktop.KeyCode
import EngineHost.Json.Text
import EngineHost.Logging.Filter
import EngineHost.Proofs.AndroidDialogs
import EngineHost.Proofs.AutoRotate
import EngineHost.Proofs.CallOrder
import EngineHost.Proofs.Delivery
import EngineHost.Proofs.DeviceKeys
import EngineHost.Proofs.DialogLabels
import EngineHost.Proofs.DirectCalls
import EngineHost.Proofs.DisplaySize
import EngineHost.Proofs.Finality
import EngineHost.Proofs.FrameBoundary
import EngineHost.Proofs.FreshSession
import EngineHost.Proofs.HookDelivery
import EngineHost.Proofs.KeyboardCycle
import EngineHost.Proofs.LateTasks
import EngineHost.Proofs.LifeSpans
import EngineHost.Proofs.NameCut
import EngineHost.Proofs.Ownership
import EngineHost.Proofs.Signals
import EngineHost.Proofs.SingleDialog
import EngineHost.Proofs.Uninterrupted
import EngineHost.Proofs.WindowKeyboard
import EngineHost.Scripted.Script
