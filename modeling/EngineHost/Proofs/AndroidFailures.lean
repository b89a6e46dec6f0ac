/-
**The failures of Java stay inside the services of an Android system.**

* `Android.TellsMetrics` and the like: all that an errand asks Java for, in its order, and what the answers tell;
* `Android.ShowsDialog`: the errand of a presenter, and `Android.MayShow`: when it may ask for what, with
  `Android.goes_showDialog`;
* `Android.contained_metrics` and the like: one lemma for each question;
* `Android.failures_stay_inside`: all questions side by side, and the auto-rotate setting followed through them.

Each question is walked through once, by the rules of its small actions; that its failures stay inside is then a
matter of the shape of the talk alone.
-/

import EngineHost.Android.Services
import EngineHost.Proofs.JavaFailures
import EngineHost.Scripted.Java
import Mathlib.Data.List.Forall2

namespace EngineHost.Android

open Java

variable {σ α : Type} {machine : Machine σ}

/-! ### What the errands tell -/

/-- The errand tells of a device: its version, which is not below zero, and its texts. -/
def TellsIdentity (talk : List Exchange) (identity : Device.Identity) : Prop :=
  ∃ sdk manufacturer model board,
    ReadsText "android/os/Build" "MANUFACTURER" manufacturer identity.manufacturer ∧
    ReadsText "android/os/Build" "MODEL" model identity.model ∧
    ReadsText "android/os/Build" "BOARD" board identity.board ∧
    identity.sdk.toNat = sdk.toInt.toInt.toNat ∧
    talk = readingStatic "android/os/Build$VERSION" "SDK_INT" "I" sdk ++ manufacturer ++ model ++ board

/-- The activity gives its window, and the window the view that holds all others. -/
def findingView (window view : Value) : List Exchange :=
  calling Action.activity "getWindow" "()Landroid/view/Window;" [] window ++
    calling window "getDecorView" "()Landroid/view/View;" [] view

/-- The activity gives the service that shows and hides the keyboard. -/
def findingKeyboard (service manager : Value) : List Exchange :=
  readingStatic "android/content/Context" "INPUT_METHOD_SERVICE" "Ljava/lang/String;" service ++
    calling Action.activity "getSystemService" "(Ljava/lang/String;)Ljava/lang/Object;" [service] manager

/-- The errand tells of the whole display: the resources of the activity hold its metrics. -/
def TellsMetrics (talk : List Exchange) (metrics : Display.Metrics) : Prop :=
  ∃ resources held width height xdpi ydpi,
    metrics = { width := width.toInt, height := height.toInt, xdpi := xdpi.toFloat, ydpi := ydpi.toFloat } ∧
    talk =
      calling Action.activity "getResources" "()Landroid/content/res/Resources;" [] resources ++
      calling resources "getDisplayMetrics" "()Landroid/util/DisplayMetrics;" [] held ++
      reading held "widthPixels" "I" width ++ reading held "heightPixels" "I" height ++
      reading held "xdpi" "F" xdpi ++ reading held "ydpi" "F" ydpi

/-- The errand tells of the flags of the bars. -/
def TellsFlags (talk : List Exchange) (flags : Int32) : Prop :=
  ∃ window view value, flags = value.toInt ∧
    talk = findingView window view ++ calling view "getSystemUiVisibility" "()I" [] value

/-- The errand tells whether the bars are hidden: the second flag says so. -/
def TellsBars (talk : List Exchange) (hidden : Bool) : Prop :=
  ∃ flags, TellsFlags talk flags ∧ hidden = (flags &&& 2 != 0)

/-- The errand tells of the visible part of the display: the view fills in a rectangle. -/
def TellsFrame (talk : List Exchange) (frame : Display.Frame) : Prop :=
  ∃ window view rect filled left top right bottom,
    frame = { left := left.toInt, top := top.toInt, right := right.toInt, bottom := bottom.toInt } ∧
    talk = findingView window view ++ constructing "android/graphics/Rect" "()V" [] rect ++
      calling view "getWindowVisibleDisplayFrame" "(Landroid/graphics/Rect;)V" [rect] filled ++
      reading rect "left" "I" left ++ reading rect "top" "I" top ++
      reading rect "right" "I" right ++ reading rect "bottom" "I" bottom

/-- The errand tells of the stored auto-rotate setting. -/
def TellsStored (talk : List Exchange) (stored : Int32) : Prop :=
  ∃ resolver key value, stored = value.toInt ∧
    talk = calling Action.activity "getContentResolver" "()Landroid/content/ContentResolver;" [] resolver ++
      [⟨.makeString "accelerometer_rotation", .returned key⟩] ++
      sought (.findClass "android/provider/Settings$System") ::
        callingStatic (.object "android/provider/Settings$System") "getInt"
          "(Landroid/content/ContentResolver;Ljava/lang/String;I)I" [resolver, key, .int (-1)] value

/-- The errand tells of the auto-rotate setting; the machine gives -1 for one that is not set. -/
def TellsSetting (talk : List Exchange) (setting : Option Bool) : Prop :=
  ∃ stored, TellsStored talk stored ∧ setting = if stored = -1 then none else some (stored != 0)

/-- The errand tells of the requested orientation. -/
def TellsOrientation (talk : List Exchange) (orientation : Orientation) : Prop :=
  ∃ code, orientation = .ofCode code.toInt ∧
    talk = calling Action.activity "getRequestedOrientation" "()I" [] code

/-- The errand requests an orientation. -/
def Writes (wanted : Orientation) (talk : List Exchange) : Prop :=
  ∃ value, talk = calling Action.activity "setRequestedOrientation" "(I)V" [.int wanted.code] value

/-- The errand shows the keyboard, and tells whether that worked. -/
def Raises (talk : List Exchange) (shown : Bool) : Prop :=
  ∃ service manager window view value, shown = value.toBool ∧
    talk = findingKeyboard service manager ++ findingView window view ++
      calling manager "showSoftInput" "(Landroid/view/View;I)Z" [view, .int 0] value

/-- The errand hides the keyboard, and tells whether that worked. -/
def Lowers (talk : List Exchange) (hidden : Bool) : Prop :=
  ∃ service manager window view token value, hidden = value.toBool ∧
    talk = findingKeyboard service manager ++ findingView window view ++
      calling view "getWindowToken" "()Landroid/os/IBinder;" [] token ++
      calling manager "hideSoftInputFromWindow" "(Landroid/os/IBinder;I)Z" [token, .int 0] value

/-- The errand ends the activity. -/
def Finishes (talk : List Exchange) : Prop := ∃ value, talk = calling Action.activity "finish" "()V" [] value

/-! ### What the presenters tell -/

/-- Whether a request calls a method of this name. -/
@[simp] def calls (method : String) : Request → Bool
  | .call _ name _ _ | .callStatic _ name _ _ => name = method
  | _ => false

/-- The calls of a talk that are to show a dialog. -/
def showCalls (talk : List Exchange) : List Exchange :=
  talk.filter fun exchange => calls "show" exchange.request

/-- Whether the last call that is to show a dialog was answered with true. -/
def showed (talk : List Exchange) : Bool :=
  (showCalls talk).getLast?.any fun exchange => exchange.answer = .returned (.bool true)

/-- What is said while strings are made of texts. -/
def making (texts : List String) (strings : List Value) : List Exchange :=
  List.zipWith (fun text string => ⟨.makeString text, .returned string⟩) texts strings

/-- The arguments of a call that is to show a dialog, given its strings. -/
def showArgs (handle : Dialog.Handle) (view : Dialog.View) (strings : List Value) (legacy : Bool) : List Value :=
  [Action.activity, .long (javaId handle)] ++ strings ++ [.int (iconCode view.icon), .bool legacy]

/-- The class that shows dialogs is loaded. -/
def loading (loader name owner : Value) : List Exchange :=
  calling Action.activity "getClassLoader" "()Ljava/lang/ClassLoader;" [] loader ++
    [⟨.makeString "com.april.bridge.DialogHost", .returned name⟩] ++
    calling loader "loadClass" "(Ljava/lang/String;)Ljava/lang/Class;" [name] owner

/-- A modern presenter is asked for, and is there; nobody asks for a legacy one. -/
def asking (owner : Value) (legacy : Bool) : List Exchange :=
  if legacy then [] else callingStatic owner "supportsFragments" "()Z" [] (.bool true)

/-- The strings of a dialog are made, and a presenter is to show it. -/
def presenting (handle : Dialog.Handle) (view : Dialog.View) (legacy : Bool) (owner : Value)
    (strings : List Value) (value : Value) : List Exchange :=
  making (texts view) strings ++
    callingStatic owner "show" showSignature (showArgs handle view strings legacy) value

/-- The errand shows a dialog with one of the presenters, and tells whether that worked. Without a modern presenter
there is nothing more to do. -/
inductive ShowsDialog (handle : Dialog.Handle) (view : Dialog.View) (legacy : Bool) : List Exchange → Bool → Prop
  | missing (loader name owner supported : Value) : legacy = false → supported ≠ .bool true →
    ShowsDialog handle view legacy
      (loading loader name owner ++ callingStatic owner "supportsFragments" "()Z" [] supported) false
  | asked (loader name owner value : Value) {strings : List Value} : strings.length = (texts view).length →
    ShowsDialog handle view legacy
      (loading loader name owner ++ asking owner legacy ++ presenting handle view legacy owner strings value)
      value.toBool

theorem showCalls_append (first second : List Exchange) :
    showCalls (first ++ second) = showCalls first ++ showCalls second :=
  List.filter_append first second

@[simp] theorem showCalls_making (texts : List String) (strings : List Value) :
    showCalls (making texts strings) = [] := by
  induction texts generalizing strings with
  | nil => rfl
  | cons text texts ih =>
    cases strings with
    | nil => rfl
    | cons string strings => exact ih strings

@[simp] theorem showCalls_attachedFor (talk : List Exchange) (detached : Answer) :
    showCalls (attachedFor talk detached) = showCalls talk := by
  change showCalls (talk ++ [⟨.detach, detached⟩]) = showCalls talk
  rw [showCalls_append]
  exact List.append_nil _

theorem errand_making (texts : List String) (strings : List Value) :
    errand (making texts strings) = making texts strings := by
  induction texts generalizing strings with
  | nil => rfl
  | cons text texts ih =>
    cases strings with
    | nil => rfl
    | cons string strings => exact congrArg (_ :: ·) (ih strings)

/-- The calls that are to show a dialog are part of the errand. -/
theorem showed_errand (talk : List Exchange) : showed (errand talk) = showed talk := by
  have same : showCalls (errand talk) = showCalls talk := by
    induction talk with
    | nil => rfl
    | cons exchange talk ih =>
      obtain ⟨request, answer⟩ := exchange
      rw [← List.singleton_append, errand_append, showCalls_append, showCalls_append, ih]
      cases request <;> rfl
  rw [showed, same, showed]

theorem toBool_iff {value : Value} : value.toBool = true ↔ value = .bool true := by
  cases value <;> simp [Value.toBool]

/-- The dialog is shown if the last call that was to show it was answered with true. -/
theorem ShowsDialog.showed_eq {handle : Dialog.Handle} {view : Dialog.View} {legacy : Bool}
    {talk : List Exchange} {shown : Bool} (shows : ShowsDialog handle view legacy talk shown) :
    showed talk = shown := by
  unfold showed
  cases shows with
  | missing => rfl
  | asked loader name owner value count =>
    have unasked : showCalls (loading loader name owner ++ asking owner legacy) = [] := by
      cases legacy <;> rfl
    rw [showCalls_append, unasked, presenting, showCalls_append, showCalls_making, Bool.eq_iff_iff, toBool_iff]
    simp [showCalls, callingStatic, sought]

/-! ### How the services go -/

section Goes

variable {sofar : List Exchange} {told : List Exchange → α → Prop}

theorem goes_fieldAsInt {object : Value} {name : String} {next : Int32 → Action σ α}
    (continues : ∀ found value, Goes machine anything (sofar ++ [⟨.findMember name, .returned found⟩,
      ⟨.field object name "I", .returned value⟩]) (next value.toInt) told) :
    Goes machine anything sofar (fieldAsInt machine object name >>= next) told := by
  unfold fieldAsInt
  rw [bind_bind]
  exact .field continues

theorem goes_fieldAsFloat {object : Value} {name : String} {next : Float32 → Action σ α}
    (continues : ∀ found value, Goes machine anything (sofar ++ [⟨.findMember name, .returned found⟩,
      ⟨.field object name "F", .returned value⟩]) (next value.toFloat) told) :
    Goes machine anything sofar (fieldAsFloat machine object name >>= next) told := by
  unfold fieldAsFloat
  rw [bind_bind]
  exact .field continues

theorem goes_decorView {activity : Value} {next : Value → Action σ α}
    (continues : ∀ seen window found view, Goes machine anything
      (sofar ++ [⟨.findMember "getWindow", .returned seen⟩,
        ⟨.call activity "getWindow" "()Landroid/view/Window;" [], .returned window⟩,
        ⟨.findMember "getDecorView", .returned found⟩,
        ⟨.call window "getDecorView" "()Landroid/view/View;" [], .returned view⟩]) (next view) told) :
    Goes machine anything sofar (decorView machine activity >>= next) told := by
  unfold decorView
  rw [bind_bind]
  refine .callForObject (by decide) lookup_anything fun seen window _ => ?_
  refine .callForObject (by decide) lookup_anything fun found view _ => ?_
  rw [List.append_assoc]
  exact continues seen window found view

theorem goes_inputMethodManager {activity : Value} {next : Value → Action σ α}
    (continues : ∀ owner found service seen manager, Goes machine anything
      (sofar ++ [⟨.findClass "android/content/Context", .returned owner⟩,
        ⟨.findMember "INPUT_METHOD_SERVICE", .returned found⟩,
        ⟨.staticField (.object "android/content/Context") "INPUT_METHOD_SERVICE" "Ljava/lang/String;",
          .returned service⟩,
        ⟨.findMember "getSystemService", .returned seen⟩,
        ⟨.call activity "getSystemService" "(Ljava/lang/String;)Ljava/lang/Object;" [service],
          .returned manager⟩]) (next manager) told) :
    Goes machine anything sofar (inputMethodManager machine activity >>= next) told := by
  unfold inputMethodManager
  rw [bind_bind]
  refine .staticField fun owner found service => ?_
  refine .callForObject (by decide) lookup_anything fun seen manager _ => ?_
  rw [List.append_assoc]
  exact continues owner found service seen manager

end Goes

/-! ### How the presenters go -/

/-- The strings that a machine made of texts; none of them is null. -/
def MadeOf (machine : Machine σ) : List String → List Value → Prop :=
  List.Forall₂ fun text string =>
    string ≠ .null ∧ ∃ side, (machine.answer (.makeString text) side).1 = .returned string

/-- Java was asked whether it has the modern presenter, and said yes. -/
def Supported (talk : List Exchange) : Prop :=
  ∃ exchange ∈ talk, calls "supportsFragments" exchange.request = true ∧
    exchange.answer = .returned (.bool true)

/-- What a presenter may ask for: nothing behind a call that is to show the dialog. The call carries the strings of
the dialog, and the modern presenter makes it only if it is there. -/
structure MayShow (machine : Machine σ) (handle : Dialog.Handle) (view : Dialog.View) (legacy : Bool)
    (talk : List Exchange) (request : Request) : Prop where
  first : showCalls talk = []
  supported : calls "show" request = true → legacy = false → Supported talk
  carries : calls "show" request = true → ∃ owner strings, MadeOf machine (texts view) strings ∧
    request = .callStatic owner "show" showSignature (showArgs handle view strings legacy)

theorem goes_makeStrings {may : List Exchange → Request → Prop} {told : List Exchange → α → Prop}
    {texts : List String} {sofar : List Exchange} {next : List Value → Action σ α}
    (allowed : ∀ some strings text, may (sofar ++ making some strings) (.makeString text))
    (continues : ∀ strings, MadeOf machine texts strings →
      Goes machine may (sofar ++ making texts strings) (next strings) told) :
    Goes machine may sofar (makeStrings machine texts >>= next) told := by
  induction texts generalizing sofar next with
  | nil => exact List.append_nil sofar ▸ continues [] .nil
  | cons text texts ih =>
    unfold makeStrings
    rw [bind_bind]
    refine .makeString (List.append_nil sofar ▸ allowed [] [] text) fun string some made => ?_
    rw [bind_bind]
    refine ih (fun others strings other => ?_) fun strings all => ?_
    · rw [List.append_assoc]
      exact allowed (text :: others) (string :: strings) other
    · rw [List.append_assoc]
      exact continues (string :: strings) (.cons ⟨some, made⟩ all)

section Show

variable {handle : Dialog.Handle} {view : Dialog.View} {legacy : Bool}

/-- A request of another kind may be made as long as the dialog was not to be shown. -/
theorem MayShow.other {talk : List Exchange} {request : Request} (first : showCalls talk = [])
    (other : calls "show" request = false) : MayShow machine handle view legacy talk request where
  first := first
  supported shows := nomatch other.symm.trans shows
  carries shows := nomatch other.symm.trans shows

/-- The strings are made, and the dialog is to be shown. -/
theorem goes_show {loader name owner : Value} {sofar : List Exchange} (first : showCalls sofar = [])
    (supported : legacy = false → Supported sofar)
    (loaded : errand sofar = loading loader name owner ++ asking owner legacy) :
    Goes machine (MayShow machine handle view legacy) sofar (do
      let strings ← makeStrings machine (texts view)
      let shown ← Action.callStatic machine owner "show" showSignature (showArgs handle view strings legacy)
      pure shown.toBool) fun talk shown => ShowsDialog handle view legacy (errand talk) shown := by
  refine goes_makeStrings (fun some strings text => .other (by simp [showCalls_append, first]) rfl)
    fun strings made => ?_
  have unasked : showCalls (sofar ++ making (texts view) strings) = [] := by
    simp [showCalls_append, first]
  refine .callStatic (fun found => ⟨.other unasked rfl, ?_, fun _ modern => ?_, fun _ => ?_⟩)
    fun found shown => .pure ?_
  · rw [showCalls_append, unasked]
    rfl
  · obtain ⟨exchange, member, told⟩ := supported modern
    exact ⟨exchange, List.mem_append_left _ (List.mem_append_left _ member), told⟩
  · exact ⟨owner, strings, made, rfl⟩
  · rw [errand_append, errand_append, loaded, errand_making, List.append_assoc _ (making _ _)]
    exact .asked loader name owner shown made.length_eq.symm

theorem goes_showDialog (handle : Dialog.Handle) (view : Dialog.View) (legacy : Bool) :
    Goes machine (MayShow machine handle view legacy) [] (do
      let owner ← classOfApp machine Action.activity dialogClass
      if ← supports machine owner legacy then
        let strings ← makeStrings machine (texts view)
        let shown ← Action.callStatic machine owner "show" showSignature (showArgs handle view strings legacy)
        pure shown.toBool
      else pure false) fun talk shown => ShowsDialog handle view legacy (errand talk) shown := by
  unfold classOfApp
  rw [bind_bind]
  refine .callForObject (by decide) (fun _ => ⟨.other rfl rfl, .other rfl rfl⟩) fun _ loader _ => ?_
  rw [bind_bind]
  refine .makeString (.other rfl rfl) fun name _ _ => ?_
  refine .callForObject (by decide) (fun _ => ⟨.other rfl rfl, .other rfl rfl⟩) fun _ owner _ => ?_
  cases legacy with
  | true => exact goes_show rfl nofun rfl
  | false =>
    unfold supports
    rw [if_neg Bool.false_ne_true, bind_bind]
    refine .callStatic (fun _ => ⟨.other rfl rfl, .other rfl rfl⟩) fun _ supported => ?_
    change Goes machine _ _ (if supported.toBool = true then _ else _) _
    by_cases there : supported = .bool true
    · subst there
      refine goes_show rfl (fun _ => ?_) rfl
      exact ⟨⟨.callStatic owner "supportsFragments" "()Z" [], .returned (.bool true)⟩,
        List.mem_append_right _ (List.mem_cons_of_mem _ List.mem_cons_self), rfl, rfl⟩
    · rw [if_neg (toBool_iff.not.mpr there)]
      exact .pure (.missing loader name owner supported rfl there)

end Show

/-! ### The questions one by one -/

/-- Every version that is not below zero fits. -/
theorem toNat_sdkVersion (code : Int32) : (sdkVersion code).toNat = code.toInt.toNat := by
  have fits : code.toInt.toNat < 2 ^ 32 := by
    have below := code.toInt_lt
    omega
  exact UInt32.toNat_ofNat_of_lt fits

section Contained

variable (quiet : machine.AttachesQuietly)

include quiet

theorem contained_identity : Contained machine (identity machine).asked (Succeeds TellsIdentity) .error := by
  refine contained_onActivity quiet anything ?_
  refine .staticField fun _ _ sdk => ?_
  refine .staticText fun first manufacturer reads => ?_
  refine .staticText fun second model reads' => ?_
  refine .staticText fun third board reads'' => .pure ?_
  refine ⟨sdk, errand first, errand second, errand third, reads, reads', reads'', toNat_sdkVersion _, ?_⟩
  rw [errand_append, errand_append, errand_append]
  rfl

theorem contained_metrics : Contained machine (readMetrics machine).asked (Succeeds TellsMetrics) .error := by
  refine contained_onActivity quiet anything ?_
  refine .callForObject (by decide) lookup_anything fun _ resources _ => ?_
  refine .callForObject (by decide) lookup_anything fun _ metrics _ => ?_
  refine goes_fieldAsInt fun _ width => goes_fieldAsInt fun _ height => ?_
  refine goes_fieldAsFloat fun _ xdpi => goes_fieldAsFloat fun _ ydpi => .pure ?_
  exact ⟨resources, metrics, width, height, xdpi, ydpi, rfl, rfl⟩

theorem contained_flags : Contained machine (readUiVisibility machine).asked (Succeeds TellsFlags) .error := by
  refine contained_onActivity quiet anything ?_
  refine goes_decorView fun _ window _ view => ?_
  refine .call (by decide) lookup_anything fun _ flags => .pure ?_
  exact ⟨window, view, flags, rfl, rfl⟩

theorem contained_frame : Contained machine (readVisibleFrame machine).asked (Succeeds TellsFrame) .error := by
  refine contained_onActivity quiet anything ?_
  refine goes_decorView fun _ window _ view => ?_
  refine .construct fun _ _ rect => ?_
  refine .call (by decide) lookup_anything fun _ filled => ?_
  refine goes_fieldAsInt fun _ left => goes_fieldAsInt fun _ top => ?_
  refine goes_fieldAsInt fun _ right => goes_fieldAsInt fun _ bottom => .pure ?_
  exact ⟨window, view, rect, filled, left, top, right, bottom, rfl, rfl⟩

theorem contained_stored : Contained machine (readAutoRotate machine).asked (Succeeds TellsStored) .error := by
  refine contained_onActivity quiet anything ?_
  refine .callForObject (by decide) lookup_anything fun _ resolver _ => ?_
  refine .makeString trivial fun key _ _ => ?_
  refine .classNamed trivial fun _ => ?_
  refine .callStatic lookup_anything fun _ stored => .pure ?_
  exact ⟨resolver, key, stored, rfl, rfl⟩

theorem contained_orientation :
    Contained machine (readOrientation machine).asked (Succeeds TellsOrientation) .error := by
  refine contained_onActivity quiet anything ?_
  exact .call (by decide) lookup_anything fun _ code => .pure ⟨code, rfl, rfl⟩

theorem contained_write (wanted : Orientation) : Contained machine (writeOrientation machine wanted).asked
    (Succeeds fun talk _ => Writes wanted talk) .error := by
  refine contained_onActivity quiet anything ?_
  exact .call (by decide) lookup_anything fun _ value => .pure ⟨value, rfl⟩

theorem contained_raise : Contained machine (raiseKeyboard machine).asked (Succeeds Raises) .error := by
  refine contained_onActivity quiet anything ?_
  refine goes_inputMethodManager fun _ _ service _ manager => ?_
  refine goes_decorView fun _ window _ view => ?_
  refine .call (by decide) lookup_anything fun _ shown => .pure ?_
  exact ⟨service, manager, window, view, shown, rfl, rfl⟩

theorem contained_lower : Contained machine (lowerKeyboard machine).asked (Succeeds Lowers) .error := by
  refine contained_onActivity quiet anything ?_
  refine goes_inputMethodManager fun _ _ service _ manager => ?_
  refine goes_decorView fun _ window _ view => ?_
  refine .callForObject (by decide) lookup_anything fun _ token _ => ?_
  refine .call (by decide) lookup_anything fun _ hidden => .pure ?_
  exact ⟨service, manager, window, view, token, hidden, rfl, rfl⟩

/-- What a presenter answers if nothing failed: it showed the dialog, or it refused. -/
def Presents (handle : Dialog.Handle) (view : Dialog.View) (legacy : Bool) (refusal : PresenterFailure)
    (talk : List Exchange) (result : Except PresenterFailure Unit) : Prop :=
  ∃ shown, ShowsDialog handle view legacy talk shown ∧ result = if shown then .ok () else .error refusal

theorem contained_present (handle : Dialog.Handle) (view : Dialog.View) (legacy : Bool)
    (refusal : PresenterFailure) :
    Contained machine (presented machine handle view legacy refusal) (Presents handle view legacy refusal)
      fun error => .error (.failed error.message) := by
  have shows : Contained machine (showDialog machine handle view legacy).asked
      (Succeeds (ShowsDialog handle view legacy)) .error :=
    contained_onActivity quiet (MayShow machine handle view legacy) (goes_showDialog handle view legacy)
  have asks (world : World σ) : (presented machine handle view legacy refusal world).device =
      (showDialog machine handle view legacy world).2 := by
    unfold presented
    split <;> simp [*]
  refine shows.map (fun
    | .ok shown => if shown then .ok () else .error refusal
    | .error error => .error (.failed error.message)) asks (fun world => ?_) ?_
  · unfold presented Action.asked
    rcases showDialog machine handle view legacy world with ⟨error | _ | _, after⟩ <;> rfl
  · rintro talk _ ⟨shown, holds, rfl⟩
    exact ⟨shown, holds, rfl⟩

end Contained

/-- A failure is answered with the fallback. -/
theorem contained_orElse {action : Action σ α} {told : List Exchange → α → Prop}
    (contained : Contained machine action.asked (Succeeds told) .error) (level : Level)
    (complaint : String) (fallback : α) :
    Contained machine (orElse action level complaint fallback) told fun _ => fallback := by
  refine contained.map (fun result => result.toOption.getD fallback) (fun world => ?_) (fun world => ?_) ?_
  · unfold orElse Action.asked
    rcases action world with ⟨_ | _, after⟩ <;> rfl
  · unfold orElse Action.asked
    rcases action world with ⟨_ | _, after⟩ <;> rfl
  · rintro talk _ ⟨value, holds, rfl⟩
    exact holds

theorem contained_autoRotate (quiet : machine.AttachesQuietly) :
    Contained machine (services machine).autoRotate TellsSetting fun _ => none := by
  have unread : autoRotateSetting unset = none := if_pos rfl
  rw [← unread]
  exact (contained_orElse (contained_stored quiet) .debug _ unset).map autoRotateSetting (fun _ => rfl)
    (fun _ => rfl) fun _ stored tells => ⟨stored, tells, rfl⟩

theorem contained_barsHidden (quiet : machine.AttachesQuietly) :
    Contained machine (services machine).barsHidden TellsBars fun _ => false := by
  have unread : (0 &&& hideNavigation != 0) = false := rfl
  rw [← unread]
  exact (contained_orElse (contained_flags quiet) .debug _ 0).map (fun flags => flags &&& hideNavigation != 0)
    (fun _ => rfl) (fun _ => rfl) fun _ flags tells => ⟨flags, tells, rfl⟩

theorem contained_requestedOrientation (quiet : machine.AttachesQuietly) :
    Contained machine (services machine).requestedOrientation TellsOrientation fun _ => .unspecified :=
  contained_orElse (contained_orientation quiet) _ _ _

theorem contained_requestOrientation (quiet : machine.AttachesQuietly) (wanted : Orientation) :
    Contained machine ((services machine).requestOrientation wanted) (fun talk _ => Writes wanted talk)
      fun _ => () :=
  contained_orElse (contained_write quiet wanted) _ _ _

/-- The auto-rotate setting was followed as far as it could be read: a setting that could not be read counts as
off, and without the orientation, or if that fits the setting, nothing is written. -/
def FollowedAsRead (machine : Machine σ) (before : World σ) : Prop :=
  let asked := ((services machine).autoRotate before).device
  let read := ((services machine).requestedOrientation asked).device
  let reply := (services machine).followAutoRotate before
  ∃ first second third setting current, Talked machine before first asked ∧
    Yields (machine.failure? before.side first) first TellsSetting (fun _ => none) setting ∧
    Talked machine asked second read ∧
    Yields (machine.failure? asked.side second) second TellsOrientation (fun _ => .unspecified) current ∧
    Talked machine read third reply.device ∧ reply.device.pending = false ∧
    reply.answer = (machine.failure? asked.side second).elim
      (Orientation.target (setting.getD false) current) (fun _ => none) ∧
    match reply.answer with
    | none => third = []
    | some wanted =>
      Yields (machine.failure? read.side third) third (fun talk _ => Writes wanted talk) (fun _ => ()) () ∧
        reply.device = ((services machine).requestOrientation wanted read).device

theorem followedAsRead (quiet : machine.AttachesQuietly) {before : World σ} (calm : before.pending = false) :
    FollowedAsRead machine before := by
  unfold FollowedAsRead
  intro asked read reply
  obtain ⟨first, talked, calm, -, -, setting⟩ := contained_autoRotate quiet before calm
  obtain ⟨second, talked', calm, -, -, current⟩ := contained_requestedOrientation quiet asked calm
  have target : Orientation.target (((services machine).autoRotate before).answer.getD false)
      ((services machine).requestedOrientation asked).answer =
        (machine.failure? asked.side second).elim
        (Orientation.target (((services machine).autoRotate before).answer.getD false)
          ((services machine).requestedOrientation asked).answer) (fun _ => none) := by
    cases failed : machine.failure? asked.side second with
    | none => rfl
    | some error =>
      rw [failed] at current
      have unspecified : ((services machine).requestedOrientation asked).answer = .unspecified := current
      -- An orientation that counts as unspecified fits every setting.
      rw [unspecified]
      cases ((services machine).autoRotate before).answer.getD false <;> rfl
  unfold reply Services.followAutoRotate
  rw [Ask.bind_apply, Ask.bind_apply]
  cases fits : Orientation.target (((services machine).autoRotate before).answer.getD false)
    ((services machine).requestedOrientation asked).answer with
  | none =>
    refine ⟨first, second, [], _, _, talked, setting, talked', current, .nothing _, calm, ?_, rfl⟩
    rw [← target, fits]
    rfl
  | some wanted =>
    obtain ⟨third, talked'', calm, -, -, written⟩ := contained_requestOrientation quiet wanted read calm
    refine ⟨first, second, third, _, _, talked, setting, talked', current, talked'', calm, ?_, written, rfl⟩
    rw [← target, fits]
    rfl

/-- **The failures of Java stay inside.** However a machine answers, by any value, null or an exception, each
question about the device, the display, the orientation, the keyboard, a dialog or the end of the activity has an
answer, and

* it leaves no exception pending, and each exception was printed and taken back once, at once;
* behind the first exception or refused null nothing is asked for;
* without a failure all that belongs to the question was asked for, and no more, and the answer is made of the
  values of Java. Otherwise it is the fallback: a failure, zeros, bars that are shown, a setting that is not set, or
  an unspecified orientation.

So the auto-rotate setting is followed as far as it can be read: a setting that cannot be read counts as off, and
without the orientation nothing is written. -/
theorem failures_stay_inside (quiet : machine.AttachesQuietly) :
    Contained machine (identity machine).asked (Succeeds TellsIdentity) .error ∧
    Contained machine (services machine).metrics TellsMetrics
      (fun _ => { width := 0, height := 0, xdpi := 0.0, ydpi := 0.0 }) ∧
    Contained machine (services machine).barsHidden TellsBars (fun _ => false) ∧
    Contained machine (services machine).visibleFrame TellsFrame
      (fun _ => { left := 0, top := 0, right := 0, bottom := 0 }) ∧
    Contained machine (services machine).autoRotate TellsSetting (fun _ => none) ∧
    Contained machine (services machine).requestedOrientation TellsOrientation (fun _ => .unspecified) ∧
    (∀ wanted, Contained machine ((services machine).requestOrientation wanted)
      (fun talk _ => Writes wanted talk) fun _ => ()) ∧
    Contained machine (services machine).showKeyboard (fun talk _ => ∃ shown, Raises talk shown) (fun _ => ()) ∧
    Contained machine (services machine).hideKeyboard (fun talk _ => ∃ hidden, Lowers talk hidden)
      (fun _ => ()) ∧
    Contained machine (finishActivity machine) (fun talk _ => Finishes talk) (fun _ => ()) ∧
    (∀ handle view, Contained machine ((services machine).present handle view)
      (Presents handle view false (.unavailable "DialogFragment"))
      fun error => .error (.failed error.message)) ∧
    (∀ handle view, Contained machine ((services machine).presentLegacy handle view)
      (Presents handle view true (.failed "legacy dialog rejected"))
      fun error => .error (.failed error.message)) ∧
    ∀ before : World σ, before.pending = false → FollowedAsRead machine before := by
  have finish : Contained machine (Action.asked (Action.onActivity machine fun activity => do
      let _ ← Action.call machine activity "finish" "()V" []
      pure ())) (Succeeds fun talk _ => Finishes talk) .error :=
    contained_onActivity quiet anything
      (.call (by decide) lookup_anything fun _ value => .pure ⟨value, rfl⟩)
  have shows := contained_orElse (contained_raise quiet) .debug "showSoftInput failed" false
  have hides := contained_orElse (contained_lower quiet) .debug "hideSoftInputFromWindow failed" false
  exact ⟨contained_identity quiet, contained_orElse (contained_metrics quiet) _ _ _,
    contained_barsHidden quiet, contained_orElse (contained_frame quiet) _ _ _, contained_autoRotate quiet,
    contained_requestedOrientation quiet, contained_requestOrientation quiet,
    shows.map (fun _ => ()) (fun _ => rfl) (fun _ => rfl) fun _ shown raises => ⟨shown, raises⟩,
    hides.map (fun _ => ()) (fun _ => rfl) (fun _ => rfl) fun _ hidden lowers => ⟨hidden, lowers⟩,
    contained_orElse finish _ _ _, fun handle view => contained_present quiet handle view false _,
    fun handle view => contained_present quiet handle view true _,
    fun _ calm => followedAsRead quiet calm⟩

/-- The bars are hidden, but the window throws when it is asked for its view. The thread has to be attached. Without
the fault the window is asked for its flags. -/
def throwingWindow : Scripted.JavaSide where
  uiFlags := 2
  attached := false
  faults := [("getDecorView", .throws)]

theorem throwingWindow_stays_inside :
    Scripted.javaMachine.AttachesQuietly ∧
      (let reply := (services Scripted.javaMachine).barsHidden { side := throwingWindow }
      reply.answer = false ∧ reply.device.pending = false ∧ reply.device.requests =
        [.attach, .findMember "getWindow",
          .call (.object "activity") "getWindow" "()Landroid/view/Window;" [], .findMember "getDecorView",
          .call (.object "window") "getDecorView" "()Landroid/view/View;" [], .describe, .clear, .detach]) ∧
      ∃ talk, TellsBars (errand talk) true ∧ talk.map Exchange.request =
        ((services Scripted.javaMachine).barsHidden
          { side := { throwingWindow with faults := [] } }).device.requests := by
  have quiet : Scripted.javaMachine.AttachesQuietly := fun side => ⟨nofun, nofun⟩
  obtain ⟨-, -, bars, -⟩ := failures_stay_inside quiet
  obtain ⟨-, -, calm, -⟩ := bars { side := throwingWindow } rfl
  obtain ⟨talk, talked, -, -, -, yields⟩ := bars { side := { throwingWindow with faults := [] } } rfl
  have hidden : ((services Scripted.javaMachine).barsHidden
      { side := { throwingWindow with faults := [] } }).answer = true := by decide +kernel
  refine ⟨quiet, ⟨by decide +kernel, calm, by decide +kernel⟩, talk, ?_, talked.requests.symm⟩
  rw [hidden] at yields
  cases failed : Scripted.javaMachine.failure? { throwingWindow with faults := [] } talk with
  | none =>
    rw [failed] at yields
    exact yields
  | some error =>
    rw [failed] at yields
    cases yields

end EngineHost.Android
