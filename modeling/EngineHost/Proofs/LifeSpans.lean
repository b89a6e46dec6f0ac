/-
**An activity that enters its states in order leaves what it entered.**

* `Lifecycle.Walk`: a series of states, each of which may follow the one before;
* `LifeSpan`: a part of the life of an activity that one state opens and another one closes, with
  `LifeSpan.Fits` for what one state after another does to it;
* `Lifecycle.Walk.alternates`, `Lifecycle.Walk.count_eq`: over a walk the two ends of a span take turns, and one
  more is open than closed exactly within it;
* `Lifecycle.Walk.even_before`, `Lifecycle.Walk.resumed_while_visible`: the spans of an activity over a walk;
* `ActivityRun.unwarned_life_is_balanced`: the states that a host is told without a warning.

Created and destroyed, started and stopped, resumed and paused are three such spans, and the last lies within the
second.
-/

import EngineHost.Proofs.HookDelivery
import EngineHost.Scripted.Device
import Mathlib.Data.List.Chain

namespace EngineHost

variable {ε δ τ : Type}

/-! ### Walks -/

/-- The states of an activity, each of which may follow the one before. -/
inductive Lifecycle.Walk : List Lifecycle → Prop
  | start : Walk []
  | enter {entered : List Lifecycle} {state : Lifecycle} (walk : Walk entered)
      (follows : state.mayFollow entered.getLast? = true) : Walk (entered ++ [state])

namespace Lifecycle.Walk

variable {entered : List Lifecycle} {state : Lifecycle}

/-- A walk goes on exactly if the next state may follow. -/
theorem concat_iff : Walk (entered ++ [state]) ↔ Walk entered ∧ state.mayFollow entered.getLast? = true := by
  constructor
  · intro walk
    -- The last state of a walk is the one that it was built with.
    generalize whole : entered ++ [state] = states at walk
    cases walk with
    | start => exact absurd whole (List.append_ne_nil_of_right_ne_nil entered (List.cons_ne_nil state []))
    | enter walk follows =>
      obtain ⟨rfl, same⟩ := List.append_inj' whole rfl
      exact ⟨walk, List.singleton_inj.mp same ▸ follows⟩
  · exact fun ⟨walk, follows⟩ => .enter walk follows

/-- The beginning of a walk is a walk. -/
theorem of_prefix {earlier : List Lifecycle} (walk : Walk entered) (first : earlier <+: entered) :
    Walk earlier := by
  induction walk with
  | start =>
    rw [List.prefix_nil.mp first]
    exact .start
  | enter before follows ih =>
    rcases List.prefix_concat_iff.mp first with rfl | old
    · exact .enter before follows
    · exact ih old

/-- A series of states is a walk exactly if each of them may follow what stands before it. -/
theorem iff_forall : Walk entered ↔ ∀ earlier next, earlier ++ [next] <+: entered →
    next.mayFollow earlier.getLast? = true := by
  constructor
  · exact fun walk earlier next first => (concat_iff.mp (walk.of_prefix first)).2
  · intro follow
    induction entered using List.reverseRecOn with
    | nil => exact .start
    | append_singleton before state ih =>
      refine .enter (ih fun earlier next first => ?_) (follow before state List.prefix_rfl)
      exact follow earlier next (first.trans (List.prefix_append before [state]))

/-- The first state of a walk is the creation. -/
theorem head (walk : Walk entered) : ∀ first ∈ entered.head?, first = .created := by
  induction walk with
  | start => exact fun first none => nomatch none
  | @enter before state _ follows ih =>
    cases before with
    | nil =>
      rintro first ⟨⟩
      exact eq_of_beq follows
    | cons start rest => exact ih

end Lifecycle.Walk

/-! ### Spans -/

/-- A part of the life of an activity: the state that opens it, the state that closes it, and the states within. -/
structure LifeSpan where
  opening : Lifecycle
  closing : Lifecycle
  within : List Lifecycle

namespace LifeSpan

/-- The life of an activity. -/
def life : LifeSpan := ⟨.created, .destroyed, [.created, .started, .resumed, .paused, .stopped, .restarted]⟩

/-- The time in which an activity can be seen. -/
def visible : LifeSpan := ⟨.started, .stopped, [.started, .resumed, .paused]⟩

/-- The time in which an activity stands in front. -/
def inFront : LifeSpan := ⟨.resumed, .paused, [.resumed]⟩

variable (span : LifeSpan)

/-- Whether an activity is within the span after its last state. -/
def holds (last : Option Lifecycle) : Bool := last.any span.within.contains

/-- Whether a state opens or closes the span. -/
def isEnd (state : Lifecycle) : Bool := state == span.opening || state == span.closing

theorem isEnd_iff {state : Lifecycle} :
    span.isEnd state = true ↔ state = span.opening ∨ state = span.closing := by
  simp only [isEnd, Bool.or_eq_true, beq_iff_eq]

/-- What a state after the last one does to the span: it is opened from without, closed from within, and kept by
every other state. -/
def Changes (last : Option Lifecycle) (state : Lifecycle) : Prop :=
  (state = span.opening → span.holds last = false ∧ span.holds (some state) = true) ∧
  (state = span.closing → span.holds last = true ∧ span.holds (some state) = false) ∧
  (span.isEnd state = false → span.holds (some state) = span.holds last)

instance (last : Option Lifecycle) (state : Lifecycle) : Decidable (span.Changes last state) :=
  inferInstanceAs (Decidable (_ ∧ _ ∧ _))

/-- A span fits the order of the states. -/
structure Fits : Prop where
  apart : span.opening ≠ span.closing
  first : span.Changes none .created
  next : ∀ previous : Lifecycle, ∀ state ∈ previous.successors, span.Changes (some previous) state

theorem fits_life : life.Fits := ⟨by decide, by decide, fun previous => by cases previous <;> decide⟩

theorem fits_visible : visible.Fits := ⟨by decide, by decide, fun previous => by cases previous <;> decide⟩

/-- An activity stands in front only while it can be seen. -/
theorem visible_of_inFront {last : Option Lifecycle} (front : inFront.holds last = true) :
    visible.holds last = true := by
  cases last with
  | none => cases front
  | some state =>
    obtain rfl : state = .resumed := List.mem_singleton.mp (List.contains_iff_mem.mp front)
    rfl

theorem fits_inFront : inFront.Fits := ⟨by decide, by decide, fun previous => by cases previous <;> decide⟩

variable {span}

/-- Every state that may follow the last one changes a span as it should. -/
theorem Fits.changes (fits : span.Fits) {last : Option Lifecycle} {state : Lifecycle}
    (follows : state.mayFollow last = true) : span.Changes last state := by
  cases last with
  | none =>
    obtain rfl : state = .created := eq_of_beq follows
    exact fits.first
  | some previous => exact fits.next previous state (List.contains_iff_mem.mp follows)

end LifeSpan

namespace Lifecycle.Walk

variable {span : LifeSpan} {entered : List Lifecycle}

/-- Over a walk a span was opened once more than closed within it, and as often as closed without. -/
theorem count_eq (walk : Walk entered) (fits : span.Fits) : entered.count span.opening =
    entered.count span.closing + (span.holds entered.getLast?).toNat := by
  induction walk with
  | start => rfl
  | @enter entered state _ follows ih =>
    obtain ⟨opens, closes, keeps⟩ := fits.changes follows
    have apart := fits.apart
    rw [List.count_append, List.count_append, List.count_singleton, List.count_singleton, ih,
      List.getLast?_concat]
    cases isEnd : span.isEnd state with
    | false =>
      obtain ⟨notOpening, notClosing⟩ := Bool.or_eq_false_iff.mp isEnd
      rw [notOpening, notClosing, keeps isEnd]
      rfl
    | true =>
      rcases span.isEnd_iff.mp isEnd with rfl | rfl
      · obtain ⟨without, inside⟩ := opens rfl
        rw [without, inside]
        simp [apart]
      · obtain ⟨inside, without⟩ := closes rfl
        rw [without, inside]
        simp [apart.symm]

/-- Where a walk enters a state outside a span without leaving it, the span was closed as often as opened. -/
theorem count_eq_of_outside {state : Lifecycle} (walk : Walk (entered ++ [state])) (fits : span.Fits)
    (neither : span.isEnd state = false) (outside : span.holds (some state) = false) :
    entered.count span.opening = entered.count span.closing := by
  obtain ⟨before, follows⟩ := concat_iff.mp walk
  obtain ⟨-, -, keeps⟩ := fits.changes follows
  rw [before.count_eq fits, ← keeps neither, outside]
  rfl

/-- The last end of a span tells whether the activity is within it. -/
theorem lastEnd (walk : Walk entered) (fits : span.Fits) :
    ∀ last ∈ (entered.filter span.isEnd).getLast?,
      last = if span.holds entered.getLast? then span.opening else span.closing := by
  induction walk with
  | start => exact fun last none => nomatch none
  | @enter entered state _ follows ih =>
    obtain ⟨opens, closes, keeps⟩ := fits.changes follows
    rw [List.filter_append, List.filter_singleton, List.getLast?_concat]
    cases isEnd : span.isEnd state with
    | false =>
      rw [cond_false, List.append_nil, keeps isEnd]
      exact ih
    | true =>
      rw [cond_true, List.getLast?_concat]
      rintro last ⟨⟩
      rcases span.isEnd_iff.mp isEnd with its | its
      · rw [(opens its).2, if_pos rfl, its]
      · rw [(closes its).2, if_neg Bool.false_ne_true, its]

/-- The ends of a span take turns. -/
theorem alternates (walk : Walk entered) (fits : span.Fits) :
    (entered.filter span.isEnd).IsChain (· ≠ ·) := by
  induction walk with
  | start => exact .nil
  | @enter entered state walk follows ih =>
    obtain ⟨opens, closes, -⟩ := fits.changes follows
    rw [List.filter_append, List.filter_singleton]
    cases isEnd : span.isEnd state with
    | false =>
      rw [cond_false, List.append_nil]
      exact ih
    | true =>
      rw [cond_true]
      refine List.isChain_append.mpr ⟨ih, .singleton state, ?_⟩
      rintro last isLast _ ⟨⟩
      rw [walk.lastEnd fits last isLast]
      -- An opening state finds the span closed, and a closing one finds it open.
      rcases span.isEnd_iff.mp isEnd with its | its
      · rw [(opens its).1, if_neg Bool.false_ne_true, its]
        exact fits.apart.symm
      · rw [(closes its).1, if_pos rfl, its]
        exact fits.apart

/-- A walk that enters the destruction or a restart has left what it started and what it resumed. -/
theorem even_before {state : Lifecycle} (walk : Walk (entered ++ [state]))
    (ends : state = .destroyed ∨ state = .restarted) :
    entered.count .started = entered.count .stopped ∧ entered.count .resumed = entered.count .paused := by
  rcases ends with rfl | rfl <;>
    exact ⟨walk.count_eq_of_outside LifeSpan.fits_visible rfl rfl,
      walk.count_eq_of_outside LifeSpan.fits_inFront rfl rfl⟩

/-- Over a walk an activity is resumed at most once more than paused, and once more only while it can be seen. -/
theorem resumed_while_visible (walk : Walk entered) :
    entered.count .paused ≤ entered.count .resumed ∧
    entered.count .resumed ≤ entered.count .paused + 1 ∧
    (entered.count .resumed = entered.count .paused + 1 →
      entered.count .started = entered.count .stopped + 1) := by
  have shown : entered.count .started =
      entered.count .stopped + (LifeSpan.visible.holds entered.getLast?).toNat :=
    walk.count_eq LifeSpan.fits_visible
  have fronted : entered.count .resumed =
      entered.count .paused + (LifeSpan.inFront.holds entered.getLast?).toNat :=
    walk.count_eq LifeSpan.fits_inFront
  cases front : LifeSpan.inFront.holds entered.getLast? with
  | false =>
    rw [front, Bool.toNat_false] at fronted
    omega
  | true =>
    rw [LifeSpan.visible_of_inFront front, Bool.toNat_true] at shown
    rw [front, Bool.toNat_true] at fronted
    omega

end Lifecycle.Walk

/-! ### What a host is told -/

/-- Whether an event warns of a state that an activity entered. -/
def Event.warnsOfState : Event → Bool
  | .notice (.unexpectedLifecycle _ _) => true
  | _ => false

/-- The warnings about its state that a host reports as an activity enters one. -/
def Hook.stateWarnings (services : Services δ) (host : Host ε δ τ) (hook : Hook) : List Event :=
  match hook with
  | .lifecycle _ => ((hook.run services host).loop.journal.drop host.loop.journal.length).filter
      Event.warnsOfState
  | _ => []

/-- A host warns of a state exactly if it must not follow the last one. -/
theorem stateWarnings_eq_nil_iff (services : Services δ) (host : Host ε δ τ) (state : Lifecycle) :
    (Hook.lifecycle state).stateWarnings services host = [] ↔
      state.mayFollow host.memory.lifecycle = true := by
  obtain ⟨added, grows, warns⟩ := Hook.warning_iff services host state
  simp only [Hook.stateWarnings, grows, List.drop_left, List.filter_eq_nil_iff]
  constructor
  · intro quiet
    by_contra unexpected
    have warned := (warns _ _).mpr ⟨rfl, rfl, Bool.eq_false_iff.mpr unexpected⟩
    exact quiet _ warned rfl
  · intro follows event member warning
    obtain ⟨previous, next, rfl⟩ : ∃ previous next, event = .notice (.unexpectedLifecycle previous next) := by
      unfold Event.warnsOfState at warning
      split at warning
      · exact ⟨_, _, rfl⟩
      · cases warning
    obtain ⟨-, -, unexpected⟩ := (warns previous next).mp member
    rw [follows] at unexpected
    cases unexpected

/-- A host, the states that the activity entered, and the warnings about them. -/
structure ActivityRun (ε δ τ : Type) where
  host : Host ε δ τ
  entered : List Lifecycle := []
  warnings : List Event := []

/-- A move of a run: a hook is called, or the loop and the system change in any way. -/
inductive ActivityMove (ε δ τ : Type)
  | hook (hook : Hook)
  | meanwhile (loop : FrameLoop ε τ) (device : δ)

namespace ActivityRun

/-- A host whose loop has not started, and no state so far. -/
def start (engine : ε) (config : Config) (identity : Device.Identity) (device : δ) : ActivityRun ε δ τ where
  host := Host.create engine config identity device

/-- One move. -/
def step (services : Services δ) (state : ActivityRun ε δ τ) : ActivityMove ε δ τ → ActivityRun ε δ τ
  | .hook hook =>
    { host := hook.run services state.host
      entered := state.entered ++ hook.lifecycle?.toList
      warnings := state.warnings ++ hook.stateWarnings services state.host }
  | .meanwhile loop device => { state with host := { state.host with loop, device } }

/-- The moves of a run, in order. -/
def play (services : Services δ) (moves : List (ActivityMove ε δ τ)) (state : ActivityRun ε δ τ) :
    ActivityRun ε δ τ :=
  moves.foldl (step services) state

/-- The host remembers the last state, and has warned unless the states are a walk. -/
structure Tracked (state : ActivityRun ε δ τ) : Prop where
  last : state.host.memory.lifecycle = state.entered.getLast?
  walk : state.warnings = [] ↔ Lifecycle.Walk state.entered

namespace Tracked

variable {services : Services δ} {state : ActivityRun ε δ τ}

theorem start (engine : ε) (config : Config) (identity : Device.Identity) (device : δ) :
    Tracked (ActivityRun.start engine config identity device : ActivityRun ε δ τ) where
  last := rfl
  walk := iff_of_true rfl .start

/-- A hook. -/
theorem hook (holds : Tracked state) (hook : Hook) : Tracked (state.step services (.hook hook)) where
  last := by
    simp only [ActivityRun.step]
    rw [Hook.memory_run, holds.last, List.getLast?_append]
    cases hook <;> rfl
  walk := by
    cases hook with
    | lifecycle entered =>
      simp only [ActivityRun.step, Hook.lifecycle?, Option.toList, List.append_eq_nil_iff,
        stateWarnings_eq_nil_iff, Lifecycle.Walk.concat_iff, holds.walk, holds.last]
    | _ =>
      simp only [ActivityRun.step, Hook.lifecycle?, Hook.stateWarnings, Option.toList, List.append_nil]
      exact holds.walk

theorem step (holds : Tracked state) (move : ActivityMove ε δ τ) : Tracked (state.step services move) := by
  cases move with
  | hook hook => exact holds.hook hook
  | meanwhile loop device => exact ⟨holds.last, holds.walk⟩

theorem play (holds : Tracked state) (moves : List (ActivityMove ε δ τ)) :
    Tracked (state.play services moves) := by
  induction moves generalizing state with
  | nil => exact holds
  | cons move moves ih => exact ih (holds.step move)

end Tracked

/-- **An activity that enters its states in order leaves what it entered.** Whatever hooks are called and whatever
the loop and the system do meanwhile, a host has warned of no state exactly if each of them may follow the one
before, and then:

* the first state is the creation, and creation and destruction take turns;
* at each destruction and at each restart it was stopped as often as started, and paused as often as resumed;
* at any time it was resumed at most once more than paused, and once more only while it was started once more than
  stopped. -/
theorem unwarned_life_is_balanced (services : Services δ) (engine : ε) (config : Config)
    (identity : Device.Identity) (device : δ) (moves : List (ActivityMove ε δ τ)) :
    let state : ActivityRun ε δ τ := (start engine config identity device).play services moves
    (state.warnings = [] ↔ ∀ earlier next, earlier ++ [next] <+: state.entered →
      next.mayFollow earlier.getLast? = true) ∧
    (state.warnings = [] →
      (∀ first ∈ state.entered.head?, first = .created) ∧
      (state.entered.filter fun next => next == .created || next == .destroyed).IsChain (· ≠ ·) ∧
      (∀ earlier next, earlier ++ [next] <+: state.entered → next = .destroyed ∨ next = .restarted →
        earlier.count .started = earlier.count .stopped ∧ earlier.count .resumed = earlier.count .paused) ∧
      ∀ earlier, earlier <+: state.entered →
        earlier.count .paused ≤ earlier.count .resumed ∧
        earlier.count .resumed ≤ earlier.count .paused + 1 ∧
        (earlier.count .resumed = earlier.count .paused + 1 →
          earlier.count .started = earlier.count .stopped + 1)) := by
  intro state
  have tracked : Tracked state := (Tracked.start engine config identity device).play moves
  refine ⟨tracked.walk.trans Lifecycle.Walk.iff_forall, fun unwarned => ?_⟩
  have walk := tracked.walk.mp unwarned
  exact ⟨walk.head, walk.alternates LifeSpan.fits_life,
    fun earlier next first => (walk.of_prefix first).even_before,
    fun earlier first => (walk.of_prefix first).resumed_while_visible⟩

/-- An activity is paused and comes back, is restarted without coming to the front, and is destroyed; the next one
is about to start. Meanwhile the user presses a key, and the loop is replaced. -/
def recreatedMoves : List (ActivityMove Unit Scripted.Device Unit) :=
  let enter (state : Lifecycle) : ActivityMove Unit Scripted.Device Unit := .hook (.lifecycle state)
  [enter .created, enter .started, enter .resumed, .hook (.input (.keyUp 4)), enter .paused, enter .resumed,
    enter .paused, .meanwhile (FrameLoop.create () {}) {}, enter .stopped, enter .restarted, enter .started,
    enter .stopped, enter .destroyed, enter .created]

/-- A scripted system through those moves. -/
def recreatedRun : ActivityRun Unit Scripted.Device Unit :=
  (start () {} {} {}).play Scripted.services recreatedMoves

theorem recreatedRun_balanced :
    recreatedRun.warnings = [] ∧ recreatedRun.entered.count .started = 2 ∧
      (recreatedRun.entered.take 10).count .started = (recreatedRun.entered.take 10).count .stopped ∧
      (recreatedRun.entered.filter fun next => next == .created || next == .destroyed) =
        [.created, .destroyed, .created] ∧
      (recreatedRun.entered.filter fun next => next == .created || next == .destroyed).IsChain (· ≠ ·) := by
  have unwarned : recreatedRun.warnings = [] := rfl
  obtain ⟨-, balanced⟩ := unwarned_life_is_balanced Scripted.services () {} {} {} recreatedMoves
  obtain ⟨-, turns, even, -⟩ := balanced unwarned
  have destroyed := even (recreatedRun.entered.take 10) .destroyed ⟨[.created], rfl⟩ (Or.inl rfl)
  exact ⟨unwarned, rfl, destroyed.1, rfl, turns⟩

end ActivityRun

end EngineHost
