/-
**A request for the keyboard is good for one remedy.**

* `KeyboardEvent`, `KeyboardRun`: what a host asks of the keyboard and hears of it, and what it does about it;
* `RequestStands`: the keyboard was asked for, and was not reported visible since;
* `KeyboardRun.Tracked`: what the host remembers of the keyboard is what the past says, with
  `KeyboardRun.Tracked.step` for one move;
* `KeyboardRun.one_remedy_per_request`: remedies, calls of the input method and visibility over a whole run.

The remedy stays armed while the keyboard is hidden or reports something unknown, so that the last event which is
a request or a visible report decides.
-/

import EngineHost.Host.Hooks
import EngineHost.Proofs.History
import EngineHost.Scripted.Device

namespace EngineHost

variable {ε δ τ : Type}

/-! ### What happens to the keyboard -/

/-- The keyboard is to be shown or hidden, or the input method reports a code. -/
inductive KeyboardMove
  | request (visible : Bool)
  | report (code : Int32)
deriving DecidableEq, Repr

/-- What happened to the keyboard: a request, or a report and what the host did about it. -/
inductive KeyboardEvent
  | requested (visible : Bool)
  | reported (code : Int32) (remedy : Keyboard.Remedy)
deriving DecidableEq, Repr

namespace KeyboardEvent

/-- The move behind an event. -/
@[simp] def move : KeyboardEvent → KeyboardMove
  | .requested visible => .request visible
  | .reported code _ => .report code

/-- Whether the keyboard was asked for. -/
@[simp] def isRequest : KeyboardEvent → Bool
  | .requested _ => true
  | .reported _ _ => false

/-- Whether the keyboard was reported visible: still shown, or shown. -/
@[simp] def isVisible : KeyboardEvent → Bool
  | .requested _ => false
  | .reported code _ => code = 0 ∨ code = 2

/-- Whether the keyboard was hidden and shown once more. -/
@[simp] def isCycle : KeyboardEvent → Bool
  | .requested _ => false
  | .reported _ remedy => remedy = .cycled

/-- The report of an event, if it is one with a known code. -/
@[simp] def report? : KeyboardEvent → Option Keyboard.Report
  | .requested _ => none
  | .reported code _ => Keyboard.Report.ofCode code

/-- The calls of the input method that an event stands for: true shows the keyboard, and false hides it. -/
@[simp] def calls : KeyboardEvent → List Bool
  | .requested visible => [visible]
  | .reported _ .cycled => [false, true]
  | .reported _ .none => []

end KeyboardEvent

/-- The keyboard was asked for, and since the last request it was not reported visible. -/
def RequestStands (events : List KeyboardEvent) : Prop :=
  Standing (fun event => event.isRequest = true) (fun event => event.isRequest || event.isVisible) events

/-- Whether the keyboard is visible by the last report with a known code. -/
def lastVisible (events : List KeyboardEvent) : Bool :=
  ((events.filterMap KeyboardEvent.report?).getLast?.map Keyboard.Report.visible).getD false

/-- Every report is answered by the remedy exactly if the device needs it, the report is a visible one, and a
request stands. -/
def CyclesOncePerRequest (needsCycle : Bool) (events : List KeyboardEvent) : Prop :=
  ∀ earlier code remedy later, events = earlier ++ .reported code remedy :: later →
    (remedy = .cycled ↔ needsCycle = true ∧ (code = 0 ∨ code = 2) ∧ RequestStands earlier)

/-- A system after calls of its input method. -/
def Services.afterCalls (services : Services δ) (calls : List Bool) (device : δ) : δ :=
  calls.foldl (fun device visible =>
    ((if visible then services.showKeyboard else services.hideKeyboard) device).device) device

theorem requestStands_concat {events : List KeyboardEvent} {last : KeyboardEvent} :
    RequestStands (events ++ [last]) ↔
      last.isRequest = true ∨ (last.isVisible = false ∧ RequestStands events) := by
  unfold RequestStands
  rw [standing_concat]
  cases last <;> simp

theorem lastVisible_concat (events : List KeyboardEvent) (last : KeyboardEvent) :
    lastVisible (events ++ [last]) =
      (last.report?.map Keyboard.Report.visible).getD (lastVisible events) := by
  unfold lastVisible
  rw [List.filterMap_append, List.filterMap_cons]
  cases last.report? with
  | none => rw [List.filterMap_nil, List.append_nil, Option.map_none, Option.getD_none]
  | some report =>
    rw [List.filterMap_nil, List.getLast?_concat]
    rfl

theorem afterCalls_append (services : Services δ) (first second : List Bool) (device : δ) :
    services.afterCalls (first ++ second) device =
      services.afterCalls second (services.afterCalls first device) :=
  List.foldl_append

/-- The codes of the visible reports. -/
theorem visible_iff {code : Int32} {report : Keyboard.Report}
    (known : Keyboard.Report.ofCode code = some report) : report.visible = true ↔ code = 0 ∨ code = 2 := by
  unfold Keyboard.Report.ofCode at known
  split_ifs at known with stillShown stillHidden shown hidden
  · cases known
    exact iff_of_true rfl (Or.inl stillShown)
  · cases known
    exact iff_of_false nofun (by simp [stillHidden])
  · cases known
    exact iff_of_true rfl (Or.inr shown)
  · cases known
    exact iff_of_false nofun (by simp [hidden])

/-- A code without a report is none of the visible ones. -/
theorem not_visible_of_unknown {code : Int32} (unknown : Keyboard.Report.ofCode code = none) :
    ¬ (code = 0 ∨ code = 2) := by
  rintro (rfl | rfl) <;> cases unknown

/-- A report uses up the armed remedy if it is a visible one, and sets the visibility. -/
theorem settle_eq (report : Keyboard.Report) (watch : Keyboard.Watch) :
    watch.settle report = (if report.visible && watch.armed then .cycled else .none,
      ⟨watch.armed && !report.visible, report.visible⟩) := by
  obtain ⟨armed, visible⟩ := watch
  cases report <;> cases armed <;> rfl

/-! ### The hooks and the keyboard -/

section Hooks

variable (services : Services δ) (host : Host ε δ τ)

/-- An unknown code is reported, and that is all. -/
theorem keyboardResult_of_unknown {code : Int32} (unknown : Keyboard.Report.ofCode code = none) :
    host.keyboardResult services code = (.none, host.report [.unknownReport code]) := by
  unfold Host.keyboardResult
  rw [unknown]

/-- A known code sets the visibility. An armed remedy is used up by a visible one, which hides the keyboard and
shows it once more; otherwise nothing is done. -/
theorem keyboardResult_of_known {code : Int32} {report : Keyboard.Report}
    (known : Keyboard.Report.ofCode code = some report) :
    let watch := host.memory.keyboard
    let answer := host.keyboardResult services code
    let cycles := report.visible && watch.armed
    answer.1 = (if cycles then .cycled else .none) ∧
    answer.2.memory = { host.memory with keyboard := ⟨watch.armed && !report.visible, report.visible⟩ } ∧
    answer.2.device = services.afterCalls (if cycles then [false, true] else []) host.device := by
  intro watch answer cycles
  unfold answer Host.keyboardResult
  rw [known]
  simp only [settle_eq]
  cases its : cycles with
  | true =>
    have usedUp : (report.visible && host.memory.keyboard.armed) = true := its
    rw [usedUp]
    exact ⟨rfl, rfl, rfl⟩
  | false =>
    have taken : (report.visible && host.memory.keyboard.armed) = false := its
    rw [taken]
    exact ⟨rfl, rfl, rfl⟩

end Hooks

/-! ### Runs -/

/-- A host, and what happened to its keyboard. -/
structure KeyboardRun (ε δ τ : Type) where
  host : Host ε δ τ
  events : List KeyboardEvent := []

namespace KeyboardRun

/-- A host whose loop has not started, and nothing so far. -/
def start (engine : ε) (config : Config) (identity : Device.Identity) (device : δ) : KeyboardRun ε δ τ where
  host := Host.create engine config identity device

/-- One move. -/
def step (services : Services δ) (state : KeyboardRun ε δ τ) : KeyboardMove → KeyboardRun ε δ τ
  | .request visible =>
    { host := state.host.requestKeyboard services visible
      events := state.events ++ [.requested visible] }
  | .report code =>
    let (remedy, host) := state.host.keyboardResult services code
    { host, events := state.events ++ [.reported code remedy] }

/-- The moves of a run, in order. -/
def play (services : Services δ) (moves : List KeyboardMove) (state : KeyboardRun ε δ τ) :
    KeyboardRun ε δ τ :=
  moves.foldl (step services) state

/-- What the host remembers of its keyboard, and what became of the system, is what the history says. -/
structure Tracked (services : Services δ) (needsCycle : Bool) (device : δ) (host : Host ε δ τ)
    (events : List KeyboardEvent) : Prop where
  profile : host.memory.profile.cyclesKeyboard = needsCycle
  armed : host.memory.keyboard.armed = true ↔ needsCycle = true ∧ RequestStands events
  visible : host.memory.keyboard.visible = lastVisible events
  cycles : CyclesOncePerRequest needsCycle events
  /-- A remedy that is armed has a request of its own. -/
  few : events.countP KeyboardEvent.isCycle + host.memory.keyboard.armed.toNat ≤
    events.countP KeyboardEvent.isRequest
  always : ∀ earlier, earlier <+: events →
    earlier.countP KeyboardEvent.isCycle ≤ earlier.countP KeyboardEvent.isRequest
  called : host.device = services.afterCalls (events.flatMap KeyboardEvent.calls) device

namespace Tracked

variable {services : Services δ} {needsCycle : Bool} {device : δ} {host after : Host ε δ τ}
  {events : List KeyboardEvent}

theorem start (engine : ε) (config : Config) (identity : Device.Identity) :
    Tracked services identity.profile.cyclesKeyboard device
      (Host.create engine config identity device : Host ε δ τ) [] where
  profile := rfl
  armed := ⟨nofun, fun stands => absurd stands.2 (not_standing_nil _ _)⟩
  visible := rfl
  cycles earlier code remedy later split := by cases earlier <;> cases split
  few := Nat.le_refl 0
  always earlier first := by
    rw [List.prefix_nil.mp first]
    exact Nat.le_refl 0
  called := rfl

/-- One more event, of which the system gets the calls it stands for. -/
theorem extend (holds : Tracked services needsCycle device host events) (last : KeyboardEvent)
    (profile : after.memory.profile = host.memory.profile)
    (armed : after.memory.keyboard.armed = true ↔ needsCycle = true ∧ RequestStands (events ++ [last]))
    (visible : after.memory.keyboard.visible =
      (last.report?.map Keyboard.Report.visible).getD host.memory.keyboard.visible)
    (remedied : ∀ code remedy, last = .reported code remedy →
      (remedy = .cycled ↔ needsCycle = true ∧ (code = 0 ∨ code = 2) ∧ RequestStands events))
    (few : last.isCycle.toNat + after.memory.keyboard.armed.toNat ≤
      host.memory.keyboard.armed.toNat + last.isRequest.toNat)
    (called : after.device = services.afterCalls last.calls host.device) :
    Tracked services needsCycle device after (events ++ [last]) := by
  have few : (events ++ [last]).countP KeyboardEvent.isCycle + after.memory.keyboard.armed.toNat ≤
      (events ++ [last]).countP KeyboardEvent.isRequest := by
    have before := holds.few
    rw [countP_concat, countP_concat]
    omega
  refine ⟨?_, armed, ?_, ?_, few, ?_, ?_⟩
  · rw [profile, holds.profile]
  · rw [visible, holds.visible, lastVisible_concat]
  · intro earlier code remedy later split
    rcases split_concat split with ⟨rfl, its⟩ | ⟨between, -, old⟩
    · exact remedied code remedy its
    · exact holds.cycles earlier code remedy between old
  · intro earlier first
    rcases List.prefix_concat_iff.mp first with rfl | old
    · exact Nat.le_trans (Nat.le_add_right _ _) few
    · exact holds.always earlier old
  · rw [called, holds.called, List.flatMap_append, afterCalls_append]
    exact congrArg (services.afterCalls · _) (List.append_nil _).symm

/-- A request stands from now on. -/
theorem request (holds : Tracked services needsCycle device host events) (visible : Bool) :
    Tracked services needsCycle device (host.requestKeyboard services visible)
      (events ++ [.requested visible]) := by
  have armed : (host.requestKeyboard services visible).memory.keyboard.armed = needsCycle := holds.profile
  refine holds.extend _ rfl ?_ rfl nofun ?_ rfl
  · rw [armed, requestStands_concat]
    exact ⟨fun needs => ⟨needs, Or.inl rfl⟩, And.left⟩
  · have one := Bool.toNat_le (host.requestKeyboard services visible).memory.keyboard.armed
    simp only [KeyboardEvent.isCycle, KeyboardEvent.isRequest, Bool.toNat_false, Bool.toNat_true]
    omega

/-- A report without a meaning changes nothing. -/
theorem unknown (holds : Tracked services needsCycle device host events) {code : Int32}
    (unknown : Keyboard.Report.ofCode code = none) :
    Tracked services needsCycle device (host.report [.unknownReport code])
      (events ++ [.reported code .none]) := by
  have invisible := not_visible_of_unknown unknown
  refine holds.extend _ rfl ?_ ?_ ?_ ?_ rfl
  · rw [requestStands_concat]
    exact holds.armed.trans (by simp [invisible])
  · simp only [KeyboardEvent.report?, unknown]
    rfl
  · rintro code remedy ⟨⟩
    exact ⟨nofun, fun ⟨_, visible, _⟩ => absurd visible invisible⟩
  · simp only [KeyboardEvent.isCycle, KeyboardEvent.isRequest, reduceCtorEq, decide_false, Bool.toNat_false]
    exact Nat.le_of_eq (Nat.zero_add _)

/-- A report with a meaning: a visible one uses up what a request has armed. -/
theorem known (holds : Tracked services needsCycle device host events) {code : Int32}
    {report : Keyboard.Report} (known : Keyboard.Report.ofCode code = some report) :
    Tracked services needsCycle device (host.keyboardResult services code).2
      (events ++ [.reported code (host.keyboardResult services code).1]) := by
  obtain ⟨answer, memory, called⟩ := keyboardResult_of_known services host known
  have seen := visible_iff known
  have visible : (KeyboardEvent.reported code (host.keyboardResult services code).1).isVisible =
      report.visible := by
    simp only [KeyboardEvent.isVisible, ← seen, Bool.decide_eq_true]
  have cycled : (host.keyboardResult services code).1 = .cycled ↔
      report.visible = true ∧ host.memory.keyboard.armed = true := by
    rw [answer, ← Bool.and_eq_true]
    split <;> simp [*]
  refine holds.extend _ ?_ ?_ ?_ ?_ ?_ ?_
  · rw [memory]
  · rw [memory, requestStands_concat, visible, Bool.and_eq_true, holds.armed, Bool.not_eq_true']
    simp only [KeyboardEvent.isRequest, Bool.false_eq_true, false_or]
    tauto
  · rw [memory]
    simp only [KeyboardEvent.report?, known]
    rfl
  · rintro code remedy ⟨⟩
    rw [cycled, holds.armed, seen]
    tauto
  · rw [memory]
    simp only [KeyboardEvent.isCycle, KeyboardEvent.isRequest, cycled]
    cases report.visible <;> cases host.memory.keyboard.armed <;> decide
  · rw [called, answer]
    split <;> rfl

/-- One move. -/
theorem step {state : KeyboardRun ε δ τ}
    (holds : Tracked services needsCycle device state.host state.events) (move : KeyboardMove) :
    Tracked services needsCycle device (state.step services move).host
      (state.step services move).events := by
  cases move with
  | request visible => exact holds.request visible
  | report code =>
    cases means : Keyboard.Report.ofCode code with
    | none =>
      simp only [KeyboardRun.step, keyboardResult_of_unknown services state.host means]
      exact holds.unknown means
    | some report => exact holds.known means

theorem play {state : KeyboardRun ε δ τ}
    (holds : Tracked services needsCycle device state.host state.events) (moves : List KeyboardMove) :
    Tracked services needsCycle device (state.play services moves).host
      (state.play services moves).events := by
  induction moves generalizing state with
  | nil => exact holds
  | cons move moves ih => exact ih (holds.step move)

end Tracked

/-- The history has every move, in order. -/
theorem moves_play (services : Services δ) (moves : List KeyboardMove) (state : KeyboardRun ε δ τ) :
    (state.play services moves).events.map KeyboardEvent.move =
      state.events.map KeyboardEvent.move ++ moves := by
  induction moves generalizing state with
  | nil => exact (List.append_nil _).symm
  | cons move moves ih =>
    have one : (state.step services move).events.map KeyboardEvent.move =
        state.events.map KeyboardEvent.move ++ [move] := by
      cases move <;> exact List.map_append
    exact (ih (state.step services move)).trans (by rw [one, List.append_assoc]; rfl)

/-- **A request for the keyboard is good for one remedy.** On every device, and whatever is asked of the keyboard
and reported of it:

* a report is answered by hiding and showing the keyboard once more exactly if the device needs that, the code
  is 0 or 2, and the keyboard was not reported visible since the last request; so that at no time there were
  more remedies than requests, and none before the first request;
* the input method gets one call for each request, and the two calls of each remedy, in order;
* the keyboard counts as visible by the last report with a known code, and an unknown code changes nothing. -/
theorem one_remedy_per_request (services : Services δ) (engine : ε) (config : Config)
    (identity : Device.Identity) (device : δ) (moves : List KeyboardMove) :
    let state : KeyboardRun ε δ τ := (start engine config identity device).play services moves
    state.events.map KeyboardEvent.move = moves ∧
    CyclesOncePerRequest identity.profile.cyclesKeyboard state.events ∧
    (∀ earlier, earlier <+: state.events →
      earlier.countP KeyboardEvent.isCycle ≤ earlier.countP KeyboardEvent.isRequest) ∧
    state.host.device = services.afterCalls (state.events.flatMap KeyboardEvent.calls) device ∧
    state.host.memory.keyboard.visible = lastVisible state.events ∧
    ∀ code, Keyboard.Report.ofCode code = none →
      state.host.keyboardResult services code = (.none, state.host.report [.unknownReport code]) := by
  intro state
  have start : Tracked services identity.profile.cyclesKeyboard device
      (start engine config identity device : KeyboardRun ε δ τ).host
      (start engine config identity device : KeyboardRun ε δ τ).events := .start engine config identity
  have tracked : Tracked services identity.profile.cyclesKeyboard device state.host state.events :=
    start.play moves
  exact ⟨moves_play services moves _, tracked.cycles, tracked.always, tracked.called, tracked.visible,
    fun code => keyboardResult_of_unknown services state.host⟩

/-- A visible report before any request; a request, which a hidden and an unknown report leave standing and
a visible one uses up; one more visible report. -/
def remediedMoves : List KeyboardMove :=
  [.report 2, .request true, .report 1, .report 7, .report 0, .report 2]

/-- A device that needs the remedy through those moves. -/
def remediedRun : KeyboardRun Unit Scripted.Device Unit :=
  (start () {} { board := " Mecha" } {}).play Scripted.services remediedMoves

theorem remediedRun_cycles_once :
    let before : List KeyboardEvent :=
      [.reported 2 .none, .requested true, .reported 1 .none, .reported 7 .none]
    remediedRun.events = before ++ [.reported 0 .cycled, .reported 2 .none] ∧
      RequestStands before ∧ ¬ RequestStands (before ++ [.reported 0 .cycled]) ∧
      remediedRun.host.device = Scripted.services.afterCalls [true, false, true] {} ∧
      remediedRun.host.memory.keyboard.visible = true := by
  intro before
  obtain ⟨-, cycles, -, called, visible, -⟩ := one_remedy_per_request (τ := Unit) Scripted.services ()
    {} { board := " Mecha" } {} remediedMoves
  have events : remediedRun.events = before ++ [.reported 0 .cycled, .reported 2 .none] := by
    decide +kernel
  have needs : (Device.Identity.profile { board := " Mecha" }).cyclesKeyboard = true := by
    decide +kernel
  have first := (cycles before 0 .cycled [.reported 2 .none] events).mp rfl
  have second := cycles (before ++ [KeyboardEvent.reported 0 .cycled]) 2 .none [] events
  refine ⟨events, first.2.2, fun stands => ?_, called, ?_⟩
  · exact absurd (second.mpr ⟨needs, Or.inr rfl, stands⟩) nofun
  · exact visible.trans (congrArg lastVisible events)

end KeyboardRun

end EngineHost
