/-
**The orientation settles with the first notification.**

* `Orientation.settled`: the code to which a code comes to rest under the auto-rotate setting;
* `Services.Keeps`: a system that answers with the setting and the orientation it was given last;
* `RotationEvent`, `RotationRun`: changes from outside, and notifications, of which one is owed for each write of
  the host;
* `RotationRun.Tracked`: where a run stands since the last change, with `RotationRun.Tracked.step` for one move;
* `RotationRun.one_write_per_change`: writes, notifications and codes over a whole run.

To come to rest twice is to come to rest once (`settled_settled`); all else follows from that.
-/

import EngineHost.Host.Hooks
import EngineHost.Proofs.History
import EngineHost.Scripted.Device

namespace EngineHost

variable {ε δ τ : Type}

/-! ### Codes at rest -/

namespace Orientation

/-- Every code is the code of its orientation. -/
theorem code_ofCode (code : Int32) : (ofCode code).code = code := by
  unfold ofCode
  split_ifs with unspecified landscape portrait sensor sensorLandscape sensorPortrait
  · exact unspecified.symm
  · exact landscape.symm
  · exact portrait.symm
  · exact sensor.symm
  · exact sensorLandscape.symm
  · exact sensorPortrait.symm
  · rfl

/-- An orientation counts by its code alone. -/
theorem target_congr (autoRotate : Bool) {first second : Orientation} (same : first.code = second.code) :
    target autoRotate first = target autoRotate second := by
  unfold target
  rw [same]

/-- The code to which a code comes to rest: lying ones turn with the sensor while the setting is on, and so do
upright ones; a setting that is off or not set takes that back. -/
def settled (setting : Option Bool) (code : Int32) : Int32 :=
  if code = 0 ∨ code = 6 then if setting = some true then 6 else 0
  else if code = 1 ∨ code = 7 then if setting = some true then 7 else 1
  else code

theorem settled_settled (setting : Option Bool) (code : Int32) :
    settled setting (settled setting code) = settled setting code := by
  unfold settled
  by_cases on : setting = some true <;> by_cases lying : code = 0 ∨ code = 6 <;>
    by_cases upright : code = 1 ∨ code = 7 <;> simp [on, lying, upright]

/-- The orientations that the setting calls for, by code. -/
theorem target_eq (autoRotate : Bool) (current : Orientation) :
    target autoRotate current =
      if autoRotate then
        if current.code = 0 then some .sensorLandscape
        else if current.code = 1 then some .sensorPortrait else none
      else
        if current.code = 6 then some .landscape
        else if current.code = 7 then some .portrait else none := by
  unfold target
  generalize current.code = code
  fun_cases ofCode code <;> cases autoRotate <;> simp [*]

/-- What the setting calls for is the code at rest, unless it is there already. -/
theorem target_code (setting : Option Bool) (current : Orientation) :
    (target (setting.getD false) current).map code =
      if settled setting current.code = current.code then none
      else some (settled setting current.code) := by
  rw [target_eq]
  unfold settled
  generalize current.code = code
  rcases setting with _ | _ | _ <;> grind [Orientation.code]

end Orientation

/-! ### Systems that answer with what they were given -/

/-- A system that keeps the auto-rotate setting and the code of the orientation: it answers with what it keeps,
a question changes neither, and a request changes the code. -/
structure Services.Keeps (services : Services δ) (kept : δ → Option Bool × Int32) : Prop where
  setting : ∀ device, (services.autoRotate device).answer = (kept device).1
  after_setting : ∀ device, kept (services.autoRotate device).device = kept device
  orientation : ∀ device, (services.requestedOrientation device).answer.code = (kept device).2
  after_orientation : ∀ device, kept (services.requestedOrientation device).device = kept device
  after_request : ∀ wanted device,
    kept (services.requestOrientation wanted device).device = ((kept device).1, wanted.code)

section Keeps

variable {services : Services δ} {kept : δ → Option Bool × Int32}

/-- A notification brings the code to rest, by a write unless it is there already. -/
theorem kept_settingsChanged (keeps : services.Keeps kept) (host : Host ε δ τ) :
    let rest := Orientation.settled (kept host.device).1 (kept host.device).2
    (host.settingsChanged services).1.isSome = decide (rest ≠ (kept host.device).2) ∧
      kept (host.settingsChanged services).2.device = ((kept host.device).1, rest) := by
  intro rest
  let asked := services.autoRotate host.device
  let current := services.requestedOrientation asked.device
  have unchanged : kept current.device = kept host.device :=
    (keeps.after_orientation _).trans (keeps.after_setting _)
  have code : current.answer.code = (kept host.device).2 :=
    (keeps.orientation _).trans (congrArg Prod.snd (keeps.after_setting _))
  have called : (Orientation.target (asked.answer.getD false) current.answer).map Orientation.code =
      if rest = (kept host.device).2 then none else some rest := by
    rw [Orientation.target_code, show asked.answer = (kept host.device).1 from keeps.setting _, code]
  have answer : (host.settingsChanged services).1 = (services.followAutoRotate host.device).answer := rfl
  have device : (host.settingsChanged services).2.device =
    (services.followAutoRotate host.device).device := rfl
  rw [answer, device]
  unfold Services.followAutoRotate
  rw [Ask.bind_apply, Ask.bind_apply]
  cases wanted : Orientation.target (asked.answer.getD false) current.answer with
  | none =>
    -- Nothing is called for, so the code is at rest.
    rw [wanted] at called
    have atRest : rest = (kept host.device).2 := by
      by_contra moved
      rw [if_neg moved] at called
      cases called
    rw [atRest]
    exact ⟨by simp, unchanged⟩
  | some target =>
    rw [wanted] at called
    have moved : rest ≠ (kept host.device).2 := by
      intro atRest
      rw [if_pos atRest] at called
      cases called
    rw [if_neg moved] at called
    refine ⟨by simp [moved], ?_⟩
    calc kept (services.requestOrientation target current.device).device
        = ((kept current.device).1, target.code) := keeps.after_request target _
      _ = ((kept host.device).1, rest) := by rw [unchanged, Option.some.inj called]

end Keeps

/-! ### Runs -/

/-- What happened to the orientation: the system changed from outside, or a notification was handled, one of a
write of the host itself or another one, with what the host wrote. -/
inductive RotationEvent (δ : Type)
  | changed (device : δ)
  | handled (own : Bool) (written : Option Orientation)

namespace RotationEvent

/-- Whether the system changed from outside. -/
@[simp] def isChange : RotationEvent δ → Bool
  | .changed _ => true
  | .handled _ _ => false

/-- Whether the host wrote an orientation. -/
@[simp] def isWrite : RotationEvent δ → Bool
  | .changed _ => false
  | .handled _ written => written.isSome

/-- Whether the host was notified of a write of its own. -/
@[simp] def isOwn : RotationEvent δ → Bool
  | .changed _ => false
  | .handled own _ => own

end RotationEvent

/-- A move of a run: the system changes from outside in any way, or a notification arrives. -/
inductive RotationMove (δ : Type)
  | change (device : δ)
  | notify (own : Bool)

/-- A host, what happened to the orientation so far, and how many of its own writes it has not been notified
of. -/
structure RotationRun (ε δ τ : Type) where
  host : Host ε δ τ
  events : List (RotationEvent δ)
  owed : Nat := 0

namespace RotationRun

/-- A host whose loop has not started, on a system that is taken as it is. -/
def start (engine : ε) (config : Config) (identity : Device.Identity) (device : δ) : RotationRun ε δ τ where
  host := Host.create engine config identity device
  events := [.changed device]

/-- One move. A notification of a write of the host itself can only arrive if one is owed; each write owes one
more. -/
def step (services : Services δ) (state : RotationRun ε δ τ) : RotationMove δ → RotationRun ε δ τ
  | .change device =>
    { state with host := { state.host with device }, events := state.events ++ [.changed device] }
  | .notify own =>
    if own && state.owed == 0 then state
    else
      let (written, host) := state.host.settingsChanged services
      { host
        events := state.events ++ [.handled own written]
        owed := state.owed - own.toNat + written.isSome.toNat }

/-- The moves of a run, in order. -/
def play (services : Services δ) (moves : List (RotationMove δ)) (state : RotationRun ε δ τ) :
    RotationRun ε δ τ :=
  moves.foldl (step services) state

/-- Where a run stands. -/
structure Tracked (kept : δ → Option Bool × Int32) (state : RotationRun ε δ τ) : Prop where
  /-- Since the last change the code stands where it was, or was brought to rest. -/
  stands : ∀ earlier change later, state.events = earlier ++ .changed change :: later →
    (∀ event ∈ later, event.isChange = false) →
    kept state.host.device = ((kept change).1,
      if later.isEmpty then (kept change).2 else Orientation.settled (kept change).1 (kept change).2)
  /-- Since any change there was at most one write, and none before the first notification. -/
  writes : ∀ earlier change later, earlier ++ .changed change :: later <+: state.events →
    (∀ event ∈ later, event.isChange = false) → later.countP RotationEvent.isWrite ≤ 1
  /-- A code that is not at rest is good for one write. -/
  few : state.events.countP RotationEvent.isWrite +
    (if Orientation.settled (kept state.host.device).1 (kept state.host.device).2 =
      (kept state.host.device).2 then 0 else 1) ≤ state.events.countP RotationEvent.isChange
  owed : state.events.countP RotationEvent.isOwn + state.owed = state.events.countP RotationEvent.isWrite

namespace Tracked

variable {services : Services δ} {kept : δ → Option Bool × Int32} {state : RotationRun ε δ τ}

/-- The system is taken as it is found, after anything that kept the account of the writes. -/
theorem found {host : Host ε δ τ} {events : List (RotationEvent δ)} {owed : Nat} (device : δ)
    (writes : ∀ earlier change later, earlier ++ .changed change :: later <+: events →
      (∀ event ∈ later, event.isChange = false) → later.countP RotationEvent.isWrite ≤ 1)
    (few : events.countP RotationEvent.isWrite ≤ events.countP RotationEvent.isChange)
    (account : events.countP RotationEvent.isOwn + owed = events.countP RotationEvent.isWrite) :
    Tracked kept ⟨{ host with device }, events ++ [.changed device], owed⟩ where
  stands earlier change later split quiet := by
    rcases split_concat split with ⟨rfl, its⟩ | ⟨between, rfl, -⟩
    · cases its
      obtain ⟨-, rfl⟩ := List.cons.inj (List.append_cancel_left split)
      rfl
    · exact absurd (quiet _ (List.mem_append_right _ List.mem_cons_self)) nofun
  writes earlier change later first quiet := by
    rcases List.prefix_concat_iff.mp first with whole | old
    · rcases split_concat whole.symm with ⟨rfl, its⟩ | ⟨between, rfl, -⟩
      · cases its
        obtain ⟨-, rfl⟩ := List.cons.inj (List.append_cancel_left whole)
        exact Nat.zero_le 1
      · exact absurd (quiet _ (List.mem_append_right _ List.mem_cons_self)) nofun
    · exact writes earlier change later old quiet
  few := by
    simp only [countP_concat, RotationEvent.isWrite, RotationEvent.isChange, Bool.toNat_false,
      Bool.toNat_true]
    split <;> omega
  owed := by
    rw [countP_concat, countP_concat]
    exact account

theorem start (engine : ε) (config : Config) (identity : Device.Identity) (device : δ) :
    Tracked kept (RotationRun.start engine config identity device : RotationRun ε δ τ) := by
  refine @found ε δ τ kept (Host.create engine config identity device) [] 0 device ?_ ?_ rfl
  · intro earlier change later first
    cases earlier <;> cases List.prefix_nil.mp first
  · exact Nat.le_refl 0

/-- The system changes from outside. -/
theorem change (holds : Tracked kept state) (device : δ) :
    Tracked kept (state.step services (.change device)) :=
  found device holds.writes (Nat.le_trans (Nat.le_add_right _ _) holds.few) holds.owed

/-- A notification is handled. -/
theorem handled (holds : Tracked kept state) (keeps : services.Keeps kept) {own : Bool}
    (due : (own && state.owed == 0) = false) :
    Tracked kept (state.step services (.notify own)) := by
  obtain ⟨writes, after⟩ := kept_settingsChanged keeps state.host
  simp only [RotationRun.step, due, Bool.false_eq_true, if_false]
  -- The last change is one of those before the notification.
  have stands : ∀ earlier change later,
      state.events ++ [.handled own (state.host.settingsChanged services).1] =
        earlier ++ .changed change :: later →
      (∀ event ∈ later, event.isChange = false) →
      ∃ between, later = between ++ [.handled own (state.host.settingsChanged services).1] ∧
        state.events = earlier ++ .changed change :: between ∧
        kept state.host.device = ((kept change).1, if between.isEmpty then (kept change).2
          else Orientation.settled (kept change).1 (kept change).2) := by
    intro earlier change later split quiet
    rcases split_concat split with ⟨-, other⟩ | ⟨between, rfl, old⟩
    · cases other
    · exact ⟨between, rfl, old, holds.stands earlier change between old
        (List.forall_mem_append.mp quiet).1⟩
  refine ⟨?_, ?_, ?_, ?_⟩
  · intro earlier change later split quiet
    obtain ⟨between, rfl, -, stood⟩ := stands earlier change later split quiet
    simp only [after, stood]
    cases between with
    | nil => simp
    | cons => simp [Orientation.settled_settled]
  · intro earlier change later first quiet
    rcases List.prefix_concat_iff.mp first with whole | old
    · obtain ⟨between, rfl, split, stood⟩ := stands earlier change later whole.symm quiet
      have before := holds.writes earlier change between (split ▸ List.prefix_rfl)
        (List.forall_mem_append.mp quiet).1
      rw [countP_concat, RotationEvent.isWrite, writes]
      cases between with
      | nil =>
        rw [List.countP_nil, Nat.zero_add]
        exact Bool.toNat_le _
      | cons event rest =>
        -- The code is at rest since the first notification.
        rw [stood]
        simpa [Orientation.settled_settled] using before
    · exact holds.writes earlier change later old quiet
  · have before := holds.few
    rw [countP_concat, countP_concat, RotationEvent.isWrite, writes, after,
      if_pos (Orientation.settled_settled _ _)]
    by_cases rest : Orientation.settled (kept state.host.device).1 (kept state.host.device).2 =
      (kept state.host.device).2
    · simpa [rest] using before
    · simpa [rest] using before
  · have account := holds.owed
    rw [countP_concat, countP_concat]
    simp only [RotationEvent.isOwn, RotationEvent.isWrite]
    cases own with
    | false => simp only [Bool.toNat_false]; omega
    | true =>
      have some : state.owed ≠ 0 := by simpa using due
      simp only [Bool.toNat_true]
      omega

/-- One move. -/
theorem step (holds : Tracked kept state) (keeps : services.Keeps kept) (move : RotationMove δ) :
    Tracked kept (state.step services move) := by
  cases move with
  | change device => exact holds.change device
  | notify own =>
    cases due : own && state.owed == 0 with
    | true =>
      simp only [RotationRun.step, due, if_true]
      exact holds
    | false => exact holds.handled keeps due

theorem play (holds : Tracked kept state) (keeps : services.Keeps kept)
    (moves : List (RotationMove δ)) : Tracked kept (state.play services moves) := by
  induction moves generalizing state with
  | nil => exact holds
  | cons move moves ih => exact ih (holds.step keeps move)

end Tracked

/-- **The orientation settles with the first notification.** On a system that answers with the setting and the
orientation it was given last, however it changes from outside, and however many notifications arrive and when:

* from one change to the next the host writes at most once;
* once a notification was handled after the last change, the code is at rest for the setting and the code of
  that change;
* each write is followed by at most one notification of its own, and there are no more writes than changes, the
  start counted in, so that the host does not keep itself busy;
* every code is the code of its orientation, and orientations of one code call for the same. -/
theorem one_write_per_change {services : Services δ} {kept : δ → Option Bool × Int32}
    (keeps : services.Keeps kept) (engine : ε) (config : Config) (identity : Device.Identity) (device : δ)
    (moves : List (RotationMove δ)) :
    let state : RotationRun ε δ τ := (start engine config identity device).play services moves
    (∀ earlier change between later,
      state.events = earlier ++ .changed change :: between ++ later →
      (∀ event ∈ between, event.isChange = false) → between.countP RotationEvent.isWrite ≤ 1) ∧
    (∀ earlier change later, state.events = earlier ++ .changed change :: later → later ≠ [] →
      (∀ event ∈ later, event.isChange = false) →
      kept state.host.device = ((kept change).1, Orientation.settled (kept change).1 (kept change).2)) ∧
    (state.events.countP RotationEvent.isOwn + state.owed = state.events.countP RotationEvent.isWrite ∧
      state.events.countP RotationEvent.isWrite ≤ state.events.countP RotationEvent.isChange) ∧
    (∀ code, (Orientation.ofCode code).code = code) ∧
    ∀ autoRotate (first second : Orientation), first.code = second.code →
      first.target autoRotate = second.target autoRotate := by
  intro state
  have tracked : Tracked kept state := (Tracked.start engine config identity device).play keeps moves
  refine ⟨fun earlier change between later split quiet => ?_,
    fun earlier change later split some quiet => ?_,
    ⟨tracked.owed, Nat.le_trans (Nat.le_add_right _ _) tracked.few⟩,
    Orientation.code_ofCode, fun autoRotate first second => Orientation.target_congr autoRotate⟩
  · exact tracked.writes earlier change between ⟨later, split.symm⟩ quiet
  · rw [tracked.stands earlier change later split quiet, if_neg (by simpa using some)]

theorem scripted_keeps :
    Scripted.services.Keeps fun device => (device.autoRotate, device.orientation.code) where
  setting _ := rfl
  after_setting _ := rfl
  orientation _ := rfl
  after_orientation _ := rfl
  after_request _ _ := rfl

/-- An upright orientation without a name while the setting is on; later the setting is taken away, and the
orientation is put to a lying one. -/
def turningMoves : List (RotationMove Scripted.Device) :=
  [.notify false, .notify true, .notify true, .change { orientation := .other 6 }, .notify false, .notify false]

/-- A scripted system through those moves. -/
def turningRun : RotationRun Unit Scripted.Device Unit :=
  (start () {} {} { autoRotate := some true, orientation := .other 1 }).play Scripted.services turningMoves

theorem turningRun_settles :
    Scripted.services.Keeps (fun device => (device.autoRotate, device.orientation.code)) ∧
      turningRun.events.map RotationEvent.isWrite = [false, true, false, false, true, false] ∧
      turningRun.events.map RotationEvent.isOwn = [false, false, true, false, false, false] ∧
      (turningRun.host.device.autoRotate, turningRun.host.device.orientation.code) = (none, 0) ∧
      turningRun.owed = 1 := by
  obtain ⟨-, settles, ⟨account, -⟩, -, -⟩ := one_write_per_change (τ := Unit) scripted_keeps () {} {}
    { autoRotate := some true, orientation := .other 1 } turningMoves
  refine ⟨scripted_keeps, rfl, rfl, ?_, ?_⟩
  · exact settles (turningRun.events.take 3) { orientation := .other 6 } (turningRun.events.drop 4) rfl
      nofun (by decide)
  · -- Two writes, and one notification of them so far.
    change 1 + turningRun.owed = 2 at account
    omega

end RotationRun

end EngineHost
