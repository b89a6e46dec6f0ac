/-
**No device is taken for another one.**

Boards and models are known by keys in one table, and the keys are put together from texts that a device may
choose freely.

* `Respelled`, `normalized_respelled`: letters of ASCII in another case and blank characters around a name make no
  difference;
* `boardKey_eq_iff`, `deviceKey_eq_iff`: a known key belongs to one board, or to one manufacturer and model;
* `field_profile`: a part of the profile is what the last workaround for the device says of it;
* `profile_of_own_names`: what the profile of a device is, and which names it depends on.

A key of a model holds one slash between two names. A device whose key is the same one has no room for a further
slash in its names, so that the slash stands at the same place.
-/

import EngineHost.Device.Workaround
import EngineHost.Text.LetterCase
import Mathlib.Data.List.Basic

namespace EngineHost.Device

/-! ### Names in other spellings -/

/-- A name in another spelling: its letters of ASCII in either case, and blank characters around it. -/
def Respelled (name other : String) : Prop :=
  ∃ front text back, other.toList = front ++ text ++ back ∧
    (∀ c ∈ front ++ back, Text.isBlank c = true) ∧
    text.map Char.toLower = name.toList.map Char.toLower

/-- The letters of ASCII may be written small in a name. -/
theorem lowerCase_trimBlank (text : List Char) :
    Text.lowerCase (Text.trimBlank text) = Text.lowerCase (Text.trimBlank (text.map Char.toLower)) := by
  rw [Text.trimBlank_map Text.isBlank_toLower, Text.lowerCase_map_toLower]

/-- The spelling of a name makes no difference. -/
theorem normalized_respelled {name other : String} (respelled : Respelled name other) :
    normalized other = normalized name := by
  obtain ⟨front, text, back, split, blank, same⟩ := respelled
  obtain ⟨blankFront, blankBack⟩ := List.forall_mem_append.mp blank
  unfold normalized
  rw [split, Text.trimBlank_append_blank blankBack, Text.trimBlank_blank_append blankFront,
    lowerCase_trimBlank text, lowerCase_trimBlank name.toList, same]

/-! ### Keys -/

/-- Whether a device is a model of a manufacturer, by its names without blank ends and in lower case. -/
def Identity.IsModel (identity : Identity) (manufacturer model : String) : Prop :=
  normalized identity.manufacturer = manufacturer ∧ normalized identity.model = model

instance (identity : Identity) (manufacturer model : String) :
    Decidable (identity.IsModel manufacturer model) :=
  inferInstanceAs (Decidable (_ ∧ _))

section Keys

variable (identity : Identity)

/-- The key of a board is that of one board alone. -/
theorem boardKey_eq_iff (board : String) :
    identity.boardKey = "board:" ++ board ↔ normalized identity.board = board :=
  String.append_right_inj "board:"

/-- No board has the key of a model, since the two begin with different letters. -/
theorem boardKey_ne (names : String) : identity.boardKey ≠ "device:" ++ names := by
  intro same
  have letters := congrArg String.toList same
  simp [Identity.boardKey] at letters

/-- No model has the key of a board. -/
theorem deviceKey_ne (board : String) : identity.deviceKey ≠ "board:" ++ board := by
  intro same
  have letters := congrArg String.toList same
  simp [Identity.deviceKey] at letters

/-- A key with one slash between two names is that of one model alone: the names of a device that has it hold no
slash either. -/
theorem deviceKey_eq_iff {manufacturer model : String} (whole : '/' ∉ manufacturer.toList)
    (plain : '/' ∉ model.toList) :
    identity.deviceKey = "device:" ++ (manufacturer ++ "/" ++ model) ↔
      identity.IsModel manufacturer model := by
  have key : identity.deviceKey =
      "device:" ++ (normalized identity.manufacturer ++ "/" ++ normalized identity.model) := by
    simp only [Identity.deviceKey, String.append_assoc]
  have slash : "/".toList = ['/'] := rfl
  rw [key, String.append_right_inj, ← String.toList_inj]
  simp only [String.toList_append, List.append_assoc, slash, List.singleton_append]
  rw [eq_comm, List.append_cons_inj_of_notMem whole plain]
  simp only [String.toList_inj, Identity.IsModel, true_and, eq_comm]

end Keys

/-! ### The known workarounds -/

namespace Workaround

/-- A board whose keyboard has to be shown twice. -/
def ofBoard (board : String) (sdk : VersionRange) : Workaround := ⟨"board:" ++ board, sdk, .cycleKeyboard⟩

/-- A model that needs something on every system. -/
def ofModel (manufacturer model : String) (effect : Effect) : Workaround :=
  ⟨"device:" ++ (manufacturer ++ "/" ++ model), .any, effect⟩

@[simp] theorem effect_ofBoard (board : String) (sdk : VersionRange) :
    (ofBoard board sdk).effect = .cycleKeyboard := rfl

@[simp] theorem effect_ofModel (manufacturer model : String) (effect : Effect) :
    (ofModel manufacturer model effect).effect = effect := rfl

theorem workarounds_eq : workarounds = [
    ofBoard "mecha" .any, ofBoard "marvel" .any, ofBoard "marvelc" .any, ofBoard "shooteru" (.below 10),
    ofBoard "supersonic" .any, ofBoard "inc" (.since 10),
    ofModel "htc" "htc one x" (.overrideDpi 312.0), ofModel "amazon" "kindle fire" (.correctHeight (-20))] :=
  rfl

variable (identity : Identity)

/-- A workaround for a board looks at the board and the version of the system. -/
theorem applies_ofBoard (board : String) (sdk : VersionRange) :
    (ofBoard board sdk).applies identity = true ↔
      normalized identity.board = board ∧ sdk.contains identity.sdk = true := by
  have apart := deviceKey_ne identity board
  simp only [applies, ofBoard, Bool.and_eq_true, Bool.or_eq_true, beq_iff_eq, boardKey_eq_iff, apart, or_false]

/-- A workaround for a model looks at the manufacturer and the model. -/
theorem applies_ofModel (manufacturer model : String) (effect : Effect)
    (whole : '/' ∉ manufacturer.toList) (plain : '/' ∉ model.toList) :
    (ofModel manufacturer model effect).applies identity = true ↔
      identity.IsModel manufacturer model := by
  have apart := boardKey_ne identity (manufacturer ++ "/" ++ model)
  simp only [applies, ofModel, Bool.and_eq_true, Bool.or_eq_true, beq_iff_eq, apart, false_or,
    deviceKey_eq_iff identity whole plain, VersionRange.contains, and_true]

end Workaround

/-! ### Profiles -/

/-- The density that an effect asks for. -/
def Effect.dpi? : Effect → Option Float32
  | .overrideDpi dpi => some dpi
  | .cycleKeyboard | .correctHeight _ => none

/-- The correction of the height that an effect asks for. -/
def Effect.pixels? : Effect → Option Int32
  | .correctHeight pixels => some pixels
  | .cycleKeyboard | .overrideDpi _ => none

/-- The keyboard is cycled if any effect asks for it. -/
theorem cyclesKeyboard_foldl (effects : List Effect) (profile : Profile) :
    (effects.foldl Profile.add profile).cyclesKeyboard = true ↔
      .cycleKeyboard ∈ effects ∨ profile.cyclesKeyboard = true := by
  induction effects generalizing profile with
  | nil => simp
  | cons effect rest ih =>
    rw [List.foldl_cons, ih]
    cases effect <;> simp [Profile.add]

/-- Of a part of the profile that effects may set, the last one that does so decides. -/
theorem field_foldl {α : Type} {field : Profile → Option α} {asked? : Effect → Option α}
    (adds : ∀ profile effect, field (profile.add effect) = (asked? effect).or (field profile))
    (effects : List Effect) (profile : Profile) :
    field (effects.foldl Profile.add profile) =
      (effects.filterMap asked?).getLast?.or (field profile) := by
  induction effects generalizing profile with
  | nil => rfl
  | cons effect rest ih =>
    rw [List.foldl_cons, ih, adds, List.filterMap_cons]
    cases asked? effect with
    | none => rfl
    | some value =>
      rw [List.getLast?_cons]
      cases (rest.filterMap asked?).getLast? <;> rfl

/-- A part of the profile is what the last workaround for the device says of it, if any does. -/
theorem field_profile {α : Type} {field : Profile → Option α} {asked? : Effect → Option α}
    (adds : ∀ profile effect, field (profile.add effect) = (asked? effect).or (field profile))
    (unset : field {} = none) (identity : Identity) :
    field identity.profile = (workarounds.filterMap fun workaround =>
      if workaround.applies identity then asked? workaround.effect else none).getLast? := by
  unfold Identity.profile
  rw [field_foldl adds, unset, Option.or_none, List.filterMap_map, List.filterMap_filter]
  rfl

/-- The boards whose keyboard is cycled. -/
theorem cyclesKeyboard_iff (identity : Identity) : identity.profile.cyclesKeyboard = true ↔
    normalized identity.board ∈ ["mecha", "marvel", "marvelc", "supersonic"] ∨
      (normalized identity.board = "shooteru" ∧ identity.sdk < 10) ∨
      (normalized identity.board = "inc" ∧ 10 ≤ identity.sdk) := by
  unfold Identity.profile
  rw [cyclesKeyboard_foldl]
  simp only [List.mem_map, List.mem_filter, and_assoc, Workaround.workarounds_eq, List.exists_mem_cons_iff,
    Workaround.applies_ofBoard, Workaround.effect_ofBoard, Workaround.effect_ofModel]
  simp only [VersionRange.contains, List.mem_cons, List.not_mem_nil, decide_eq_true_eq, reduceCtorEq,
    Bool.false_eq_true, false_and, exists_false, and_true, and_false, or_false, or_assoc]
  -- The table names the last of the four boards behind the one of old systems.
  rw [or_left_comm (a := _ ∧ _ < _)]

/-- The model whose density is overridden. -/
theorem dpi_eq (identity : Identity) :
    identity.profile.dpi = if identity.IsModel "htc" "htc one x" then some 312.0 else none := by
  have adds : ∀ (profile : Profile) effect, (profile.add effect).dpi = effect.dpi?.or profile.dpi := by
    intro profile effect
    cases effect <;> rfl
  have meant := Workaround.applies_ofModel identity "htc" "htc one x" (.overrideDpi 312.0) (by decide)
    (by decide)
  rw [field_profile adds rfl, Workaround.workarounds_eq]
  simp only [List.filterMap_cons, List.filterMap_nil, Workaround.effect_ofBoard, Workaround.effect_ofModel,
    Effect.dpi?, ite_self, meant]
  split_ifs <;> rfl

/-- The model whose height is corrected. -/
theorem heightCorrection_eq (identity : Identity) :
    identity.profile.heightCorrection =
      if identity.IsModel "amazon" "kindle fire" then some (-20) else none := by
  have adds : ∀ (profile : Profile) effect,
      (profile.add effect).heightCorrection = effect.pixels?.or profile.heightCorrection := by
    intro profile effect
    cases effect <;> rfl
  have meant := Workaround.applies_ofModel identity "amazon" "kindle fire" (.correctHeight (-20)) (by decide)
    (by decide)
  rw [field_profile adds rfl, Workaround.workarounds_eq]
  simp only [List.filterMap_cons, List.filterMap_nil, Workaround.effect_ofBoard, Workaround.effect_ofModel,
    Effect.pixels?, ite_self, meant]
  split_ifs <;> rfl

/-- Devices with the same names, however they are spelled, on the same system have one profile. -/
theorem profile_respelled {identity other : Identity} (sdk : other.sdk = identity.sdk)
    (board : Respelled identity.board other.board)
    (manufacturer : Respelled identity.manufacturer other.manufacturer)
    (model : Respelled identity.model other.model) : other.profile = identity.profile := by
  have boardKey : other.boardKey = identity.boardKey := by
    unfold Identity.boardKey
    rw [normalized_respelled board]
  have deviceKey : other.deviceKey = identity.deviceKey := by
    unfold Identity.deviceKey
    rw [normalized_respelled manufacturer, normalized_respelled model]
  unfold Identity.profile Workaround.applies
  rw [boardKey, deviceKey, sdk]

/-- **No device is taken for another one.** Whatever texts a device gives for its names, and with `normalized` for
a name without blank ends and in lower case:

* its keyboard is cycled exactly if its board is one of four, or of one more on old systems, or of one more on new
  ones;
* its density is overridden exactly if it is the one model of the one manufacturer, and its height is corrected
  exactly if it is the other one;
* so the manufacturer and the model have no say on the keyboard, and the board has none on the display;
* letters of ASCII in another case and blank characters around the names change nothing. -/
theorem profile_of_own_names (identity : Identity) :
    (identity.profile.cyclesKeyboard = true ↔
      normalized identity.board ∈ ["mecha", "marvel", "marvelc", "supersonic"] ∨
        (normalized identity.board = "shooteru" ∧ identity.sdk < 10) ∨
        (normalized identity.board = "inc" ∧ 10 ≤ identity.sdk)) ∧
    (identity.profile.dpi =
        if normalized identity.manufacturer = "htc" ∧ normalized identity.model = "htc one x" then some 312.0
        else none) ∧
    (identity.profile.heightCorrection =
        if normalized identity.manufacturer = "amazon" ∧ normalized identity.model = "kindle fire" then
          some (-20)
        else none) ∧
    (∀ other : Identity, other.board = identity.board → other.sdk = identity.sdk →
      other.profile.cyclesKeyboard = identity.profile.cyclesKeyboard) ∧
    (∀ other : Identity, other.manufacturer = identity.manufacturer → other.model = identity.model →
      other.profile.dpi = identity.profile.dpi ∧
        other.profile.heightCorrection = identity.profile.heightCorrection) ∧
    ∀ other : Identity, other.sdk = identity.sdk → Respelled identity.board other.board →
      Respelled identity.manufacturer other.manufacturer → Respelled identity.model other.model →
      other.profile = identity.profile := by
  refine ⟨cyclesKeyboard_iff identity, dpi_eq identity, heightCorrection_eq identity,
    fun other board sdk => ?_, fun other manufacturer model => ?_,
    fun other sdk board manufacturer model => profile_respelled sdk board manufacturer model⟩
  · rw [Bool.eq_iff_iff, cyclesKeyboard_iff, cyclesKeyboard_iff, board, sdk]
  · simp only [dpi_eq, heightCorrection_eq, Identity.IsModel, manufacturer, model]
    exact ⟨rfl, rfl⟩

/-- A device whose names hold the keys of others. -/
def keyedDevice : Identity where
  manufacturer := "board:mecha"
  model := "amazon/kindle fire"
  board := "device:htc/htc one x"
  sdk := 10

/-- A tablet with a menu bar of its own, spelled in capital letters and with blank characters around. -/
def capitalDevice : Identity where
  manufacturer := "\u3000AMAZON"
  model := " KINDLE FIRE\t"
  board := "OTTER"
  sdk := 10

theorem keyedDevice_needs_nothing :
    keyedDevice.profile.cyclesKeyboard = false ∧ keyedDevice.profile.dpi = none ∧
      keyedDevice.profile.heightCorrection = none ∧
      Respelled "Amazon" capitalDevice.manufacturer ∧ Respelled "Kindle Fire" capitalDevice.model ∧
      Respelled "otter" capitalDevice.board ∧ capitalDevice.profile.heightCorrection = some (-20) := by
  let tablet : Identity := ⟨"Amazon", "Kindle Fire", "otter", 10⟩
  obtain ⟨cycles, dpi, height, -⟩ := profile_of_own_names keyedDevice
  obtain ⟨-, -, corrected, -, -, spelled⟩ := profile_of_own_names tablet
  have manufacturer : Respelled tablet.manufacturer capitalDevice.manufacturer :=
    ⟨['\u3000'], "AMAZON".toList, [], by decide, List.all_eq_true.mp (by decide), by decide⟩
  have model : Respelled tablet.model capitalDevice.model :=
    ⟨[' '], "KINDLE FIRE".toList, ['\t'], by decide, List.all_eq_true.mp (by decide), by decide⟩
  have board : Respelled tablet.board capitalDevice.board :=
    ⟨[], "OTTER".toList, [], by decide, List.all_eq_true.mp rfl, by decide⟩
  refine ⟨?_, ?_, ?_, manufacturer, model, board, ?_⟩
  · rw [Bool.eq_false_iff, ne_eq, cycles]
    decide +kernel
  · rw [dpi, if_neg (by decide +kernel)]
  · rw [height, if_neg (by decide +kernel)]
  · rw [spelled capitalDevice rfl board manufacturer model, corrected, if_pos (by decide +kernel)]

end EngineHost.Device
