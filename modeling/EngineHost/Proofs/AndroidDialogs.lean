/-
**A dialog over Java.**

* `Android.Announcement`: a dialog as Java is told of it, read back from the arguments by their places;
* `Android.ShowsWell`: a presenter makes one call at most that is to show the dialog, as `Android.MayShow` allows;
* `Android.Announced`: what such a call carries, and when it is made, for both presenters one after the other;
* `Android.dialog_over_java`: the calls, the open dialog, and its number on the way to Java and back.
-/

import EngineHost.Proofs.AndroidFailures
import EngineHost.Proofs.SingleDialog

namespace EngineHost.Android

open Java

variable {σ : Type} {machine : Machine σ}

/-! ### What Java is told of a dialog -/

/-- A dialog as Java is told of it. -/
structure Announcement where
  id : Int
  title : String
  message : String
  buttons : List (Dialog.Role × String)
  icon : Dialog.Icon
  legacy : Bool
deriving DecidableEq, Repr

namespace Announcement

/-- The buttons of these labels, but for those without a label. -/
def labelled (buttons : List (Dialog.Role × String)) : List (Dialog.Role × String) :=
  buttons.filter fun button => button.2 ≠ ""

/-- The dialog that arguments tell of, by their places. -/
def ofArgs? : List Value → Option Announcement
  | [.object _, .long id, .text title, .text message, .text positive, .text negative, .text neutral, .int icon,
      .bool legacy] =>
    some {
      id
      title
      message
      buttons := labelled [(.positive, positive), (.negative, negative), (.neutral, neutral)]
      icon := .ofCode icon
      legacy }
  | _ => none

/-- The dialog of a view, under the number of a handle. -/
def ofView (handle : Dialog.Handle) (view : Dialog.View) (legacy : Bool) : Announcement where
  id := javaId handle
  title := view.title
  message := view.message
  buttons := labelled (view.buttons.map fun button => (button.role, button.label))
  icon := view.icon
  legacy := legacy

end Announcement

/-- A machine whose strings hold the texts that they were made of. -/
def KeepsTexts (machine : Machine σ) : Prop :=
  ∀ text side value, (machine.answer (.makeString text) side).1 = .returned value →
    value = .null ∨ value = .text text

theorem strings_eq (keeps : KeepsTexts machine) {texts : List String} {strings : List Value}
    (made : MadeOf machine texts strings) : strings = texts.map .text := by
  induction made with
  | nil => rfl
  | cons made _ ih =>
    obtain ⟨some, side, answered⟩ := made
    rw [List.map_cons, ← ih, (keeps _ _ _ answered).resolve_left some]

theorem ofCode_iconCode (icon : Dialog.Icon) : Dialog.Icon.ofCode (iconCode icon) = icon := by
  cases icon <;> rfl

/-- The labels by their places are those of the buttons. -/
theorem labelled_ofRequest (request : Dialog.Request) :
    let view := Dialog.View.ofRequest request
    Announcement.labelled [(.positive, label view .positive), (.negative, label view .negative),
        (.neutral, label view .neutral)] =
      Announcement.labelled (view.buttons.map fun button => (button.role, button.label)) := by
  obtain ⟨title, message, ok, yes, no, cancel, icon⟩ := request
  cases ok <;> cases yes <;> cases no <;> cases cancel <;>
    simp [Announcement.labelled, label, Dialog.View.ofRequest, Dialog.View.button?, Dialog.Request.buttons,
      Dialog.Button.ofLabel, List.filter_cons]

/-- What Java is told of the dialog of a request is that dialog. -/
theorem ofArgs?_ofRequest (handle : Dialog.Handle) (request : Dialog.Request) (legacy : Bool) :
    let view := Dialog.View.ofRequest request
    Announcement.ofArgs? (showArgs handle view ((texts view).map .text) legacy) =
      some (.ofView handle view legacy) := by
  intro view
  have buttons := labelled_ofRequest request
  simp only [showArgs, texts, Announcement.ofArgs?, Announcement.ofView, Action.activity, List.map_cons,
    List.map_nil, List.cons_append, List.nil_append, buttons, ofCode_iconCode, view]

/-! ### One presenter -/

/-- Every call that is to show the dialog is one that may be made. -/
def ShowsWell (machine : Machine σ) (handle : Dialog.Handle) (view : Dialog.View) (legacy : Bool) :
    List Exchange → Prop :=
  Along (fun talk request => calls "show" request = true → MayShow machine handle view legacy talk request) []

theorem Supported.append {talk : List Exchange} (supported : Supported talk) (front : List Exchange) :
    Supported (front ++ talk) := by
  obtain ⟨exchange, member, told⟩ := supported
  exact ⟨exchange, List.mem_append_right _ member, told⟩

theorem MayShow.append {handle : Dialog.Handle} {view : Dialog.View} {legacy : Bool}
    {front talk : List Exchange} {request : Request} (may : MayShow machine handle view legacy talk request)
    (first : showCalls front = []) : MayShow machine handle view legacy (front ++ talk) request where
  first := by rw [showCalls_append, first, may.first, List.append_nil]
  supported shows modern := (may.supported shows modern).append front
  carries := may.carries

theorem calls_upkeep {request : Request} (upkeep : request.isUpkeep = true) (method : String) :
    calls method request = false := by
  cases request <;> first | rfl | cases upkeep

theorem showCalls_eq_nil {talk : List Exchange}
    (upkeep : ∀ exchange ∈ talk, exchange.request.isUpkeep = true) : showCalls talk = [] := by
  refine List.filter_eq_nil_iff.mpr fun exchange member => ?_
  rw [calls_upkeep (upkeep exchange member)]
  nofun

theorem along_upkeep {may : List Exchange → Request → Prop} {sofar talk : List Exchange}
    (upkeep : ∀ exchange ∈ talk, exchange.request.isUpkeep = true) :
    Along (fun talk request => calls "show" request = true → may talk request) sofar talk := by
  induction talk generalizing sofar with
  | nil => trivial
  | cons exchange talk ih =>
    obtain ⟨here, rest⟩ := List.forall_mem_cons.mp upkeep
    exact ⟨fun shows => absurd shows (Bool.eq_false_iff.mp (calls_upkeep here "show")), ih rest⟩

section Attempt

variable {handle : Dialog.Handle} {view : Dialog.View} {legacy : Bool}

theorem went_showsWell {talk : List Exchange} {result : Except Error Bool}
    (went : Went (MayShow machine handle view legacy) []
      (fun talk shown => ShowsDialog handle view legacy (errand talk) shown) talk result) :
    ShowsWell machine handle view legacy talk ∧ showed talk = result.toOption.getD false := by
  cases went with
  | done _ along shows =>
    refine ⟨along_mono [] (fun _ _ may _ => may) along, ?_⟩
    rw [← showed_errand]
    exact shows.showed_eq
  | failed fine good plain fails along after =>
    rename_i failing error aftermath
    have upkeep := fun exchange member => (aftermath_upkeep after exchange member).2
    refine ⟨?_, ?_⟩
    · rw [← List.singleton_append, ← List.append_assoc]
      exact along_append.mpr ⟨along_mono [] (fun _ _ may _ => may) along, along_upkeep upkeep⟩
    · obtain ⟨-, here, -⟩ := along_append.mp along
      have first : showCalls fine = [] := here.first
      have refused : failing.answer ≠ .returned (.bool true) := fun granted =>
        nomatch (failure?_returned plain granted).symm.trans fails
      rw [showed, ← List.singleton_append, showCalls_append, showCalls_append, first,
        showCalls_eq_nil upkeep, List.nil_append, List.append_nil, showCalls, List.filter_singleton]
      cases calls "show" failing.request with
      | true => exact decide_eq_false refused
      | false => rfl

/-- One presenter: what is said to the machine, and what it means that the dialog is shown. -/
theorem presented_showsWell (refusal : PresenterFailure) (before : World σ) :
    ∃ talk, Talked machine before talk (presented machine handle view legacy refusal before).device ∧
      ShowsWell machine handle view legacy talk ∧
      (presented machine handle view legacy refusal before).answer.isOk = showed talk := by
  have device : (presented machine handle view legacy refusal before).device =
      (showDialog machine handle view legacy before).2 := by
    unfold presented
    rcases showDialog machine handle view legacy before with ⟨error | _ | _, after⟩ <;> rfl
  have answer : (presented machine handle view legacy refusal before).answer.isOk =
      (showDialog machine handle view legacy before).1.toOption.getD false := by
    unfold presented
    rcases showDialog machine handle view legacy before with ⟨error | _ | _, after⟩ <;> rfl
  rw [device, answer]
  cases reachable : machine.reachable before.side with
  | false =>
    unfold showDialog
    rw [onActivity_unreachable reachable]
    exact ⟨[], .nothing before, trivial, rfl⟩
  | true =>
    have visits : ∃ talk, Talked machine before talk (showDialog machine handle view legacy before).2 ∧
        Visited machine (MayShow machine handle view legacy)
          (fun talk shown => ShowsDialog handle view legacy (errand talk) shown) talk
          (showDialog machine handle view legacy before).1 :=
      visited_onActivity (goes_showDialog handle view legacy) reachable
    obtain ⟨talk, talked, visited⟩ := visits
    refine ⟨talk, talked, ?_⟩
    generalize (showDialog machine handle view legacy before).1 = result at visited
    cases visited with
    | there went => exact ⟨(went_showsWell went).1, (went_showsWell went).2.symm⟩
    | attached side went =>
      obtain ⟨well, shown⟩ := went_showsWell went
      refine ⟨?_, by rw [showed, showCalls_attachedFor, ← showed, shown]⟩
      -- The attachment comes before, and its end behind.
      rw [attachedFor, ← List.singleton_append]
      refine along_append.mpr ⟨along_upkeep (List.forall_mem_singleton.mpr rfl), along_append.mpr ⟨?_, ?_⟩⟩
      · exact along_mono [_] (fun _ _ may shows => (may shows).append rfl) well
      · exact along_upkeep (List.forall_mem_singleton.mpr rfl)
    | refused first last bad =>
      refine ⟨along_upkeep ?_, rfl⟩
      exact List.forall_mem_cons.mpr ⟨rfl, List.forall_mem_singleton.mpr rfl⟩

/-- A presenter makes at most one call that is to show the dialog. -/
theorem length_showCalls_le {talk : List Exchange} (well : ShowsWell machine handle view legacy talk) :
    (showCalls talk).length ≤ 1 := by
  match its : showCalls talk with
  | [] => exact Nat.zero_le 1
  | [_] => exact Nat.le_refl 1
  | first :: second :: rest =>
    -- The second call would come behind a first one.
    obtain ⟨earlier, later, rfl, -, shows, others⟩ := List.filter_eq_cons_iff.mp its
    obtain ⟨between, later, rfl, -, again, -⟩ := List.filter_eq_cons_iff.mp others
    rw [← List.cons_append, ← List.append_assoc] at well
    have none := (along_split well again).first
    rw [List.nil_append, showCalls_append, showCalls, showCalls, List.filter_cons, if_pos shows] at none
    cases (List.append_eq_nil_iff.mp none).2

end Attempt

/-! ### The number of a dialog -/

/-- The handle of a number that Java passes back, as a word without sign. -/
def handleOfJava (id : Int) : Dialog.Handle := ⟨(id % UInt64.size).toNat⟩

theorem handleOfJava_javaId {handle : Dialog.Handle} (small : handle.id < 2 ^ 63) :
    handleOfJava (javaId handle) = handle := by
  have longest : longestId = 2 ^ 63 - 1 := by decide
  obtain ⟨id⟩ := handle
  unfold handleOfJava javaId UInt64.size
  rw [longest, Nat.min_eq_left (Nat.le_sub_one_of_lt small)]
  congr 1
  dsimp only at small ⊢
  omega

/-! ### Both presenters -/

/-- Behind calls of which the last was not answered with true, the later calls decide. -/
theorem showed_append {first : List Exchange} (refused : showed first = false) (second : List Exchange) :
    showed (first ++ second) = showed second := by
  unfold showed at refused ⊢
  rw [showCalls_append, List.getLast?_append]
  cases (showCalls second).getLast? with
  | none => exact refused
  | some last => rfl

/-- A call that is to show a dialog carries it. The modern presenter makes it after Java said that it has that
presenter, and the legacy one while no such call was answered with true. -/
structure Announced (handle : Dialog.Handle) (view : Dialog.View) (legacy : Bool) (earlier : List Exchange)
    (request : Request) : Prop where
  carries : ∃ owner args, request = .callStatic owner "show" showSignature args ∧
    args = showArgs handle view ((texts view).map .text) legacy ∧
    Announcement.ofArgs? args = some (.ofView handle view legacy)
  supported : legacy = false → Supported earlier
  refused : legacy = true → showed earlier = false

theorem MayShow.announced (keeps : KeepsTexts machine) {handle : Dialog.Handle} {request : Dialog.Request}
    {legacy : Bool} {front talk : List Exchange} {call : Request}
    (may : MayShow machine handle (.ofRequest request) legacy talk call) (shows : calls "show" call = true)
    (refused : showed front = false) :
    Announced handle (.ofRequest request) legacy (front ++ talk) call where
  carries := by
    obtain ⟨owner, strings, made, rfl⟩ := may.carries shows
    rw [strings_eq keeps made]
    exact ⟨owner, _, rfl, rfl, ofArgs?_ofRequest handle request legacy⟩
  supported modern := (may.supported shows modern).append front
  refused _ := by
    rw [showed_append refused, showed, may.first]
    rfl

section Slot

variable {δ : Type} (services : Services δ) (request : Dialog.Request) (slot : Dialog.Slot) (device : δ)

/-- The modern presenter alone is asked if it shows the dialog. -/
theorem showDialog_modern {handle : Dialog.Handle} {view : Dialog.View}
    (shown : (services.present handle view device).answer.isOk = true) :
    (services.showDialog handle view device).answer = .ok () ∧
      (services.showDialog handle view device).device = (services.present handle view device).device := by
  unfold Services.showDialog
  rw [Ask.bind_apply]
  cases answer : (services.present handle view device).answer with
  | ok => exact ⟨rfl, rfl⟩
  | error failure =>
    rw [answer] at shown
    cases shown

/-- Otherwise the legacy one decides. -/
theorem showDialog_legacy {handle : Dialog.Handle} {view : Dialog.View}
    (refused : (services.present handle view device).answer.isOk = false) :
    let legacy := services.presentLegacy handle view (services.present handle view device).device
    (services.showDialog handle view device).answer = legacy.answer ∧
      (services.showDialog handle view device).device = legacy.device := by
  unfold Services.showDialog
  rw [Ask.bind_apply]
  cases answer : (services.present handle view device).answer with
  | ok =>
    rw [answer] at refused
    cases refused
  | error failure => exact ⟨rfl, rfl⟩

/-- What becomes of the slot: the dialog is open if it is shown, and the failure is kept otherwise. -/
theorem openDialog_eq {handle : Dialog.Handle} {view : Dialog.View} (its : handle = ⟨slot.next⟩)
    (of : view = .ofRequest request) :
    (slot.openDialog services request device).device = (services.showDialog handle view device).device ∧
      (slot.openDialog services request device).answer = (handle,
        match (services.showDialog handle view device).answer with
        | .ok () => { current := some ⟨handle, view⟩, next := slot.next + 1, failure := none }
        | .error failure =>
          { current := none, next := slot.next + 1, failure := some (.dialogNotShown failure.message) }) := by
  subst its of
  unfold Dialog.Slot.openDialog
  rw [Ask.bind_apply, giveWay_device, Ask.bind_apply]
  rcases (services.showDialog ⟨slot.next⟩ (Dialog.View.ofRequest request) device).answer with failure | ⟨⟩
  · exact ⟨rfl, rfl⟩
  · exact ⟨rfl, rfl⟩

end Slot

/-- An answer to any other dialog changes nothing. -/
theorem resolve_other {slot : Dialog.Slot} {handle : Dialog.Handle} (other : slot.handle? ≠ some handle)
    (action : Dialog.Action) : slot.resolve handle action = (none, slot) := by
  unfold Dialog.Slot.handle? at other
  unfold Dialog.Slot.resolve
  cases current : slot.current with
  | none => rfl
  | some pending =>
    refine if_neg fun its => other ?_
    rw [current, ← its]
    rfl

/-- Both presenters, one after the other: what is said to the machine, and what it means that the dialog is shown. -/
theorem showDialog_announced (keeps : KeepsTexts machine) (handle : Dialog.Handle) (request : Dialog.Request)
    (before : World σ) :
    let view := Dialog.View.ofRequest request
    let modern := (services machine).present handle view before
    let legacy := (services machine).presentLegacy handle view modern.device
    let shown := (services machine).showDialog handle view before
    ∃ talk, Talked machine before talk shown.device ∧ (showCalls talk).length ≤ 2 ∧
      Along (fun earlier call => calls "show" call = true → ∃ older, Announced handle view older earlier call ∧
        (older = true → modern.answer.isOk = false)) [] talk ∧
      shown.answer.isOk = showed talk ∧ (showed talk = false → shown.answer = legacy.answer) := by
  intro view modern legacy shown
  obtain ⟨first, talked, well, answered⟩ := @presented_showsWell σ machine handle view false
    (.unavailable "DialogFragment") before
  have few := length_showCalls_le well
  change Talked machine before first modern.device at talked
  change modern.answer.isOk = showed first at answered
  cases ok : showed first with
  | true =>
    obtain ⟨answer, device⟩ := showDialog_modern (services machine) before (answered.trans ok)
    refine ⟨first, device ▸ talked, by omega, ?_, ?_, ?_⟩
    · exact along_mono [] (fun _ _ may shows => ⟨false, (may shows).announced keeps shows rfl, nofun⟩) well
    · rw [ok]
      exact congrArg Except.isOk answer
    · rw [ok]
      nofun
  | false =>
    obtain ⟨answer, device⟩ := showDialog_legacy (services machine) before (answered.trans ok)
    obtain ⟨second, talked', well', answered'⟩ := @presented_showsWell σ machine handle view true
      (.failed "legacy dialog rejected") modern.device
    have few' := length_showCalls_le well'
    refine ⟨first ++ second, device ▸ talked.append talked', ?_, along_append.mpr ⟨?_, ?_⟩, ?_, fun _ => answer⟩
    · rw [showCalls_append, List.length_append]
      omega
    · exact along_mono [] (fun _ _ may shows => ⟨false, (may shows).announced keeps shows rfl, nofun⟩) well
    · rw [List.nil_append, ← List.append_nil first]
      exact along_mono first (fun _ _ may shows =>
        ⟨true, (may shows).announced keeps shows ok, fun _ => answered.trans ok⟩) well'
    · rw [showed_append ok, ← answered']
      exact congrArg Except.isOk answer

/-- **A dialog over Java.** However Java answers, opening a dialog

* makes at most two calls that are to show it. Each carries the dialog of the request, by its number, its texts, its
  icon and its labels, of which an empty one stands for no button; the modern presenter makes it after it was told
  that it is supported, and the legacy one after the modern one did not show the dialog;
* leaves the dialog open exactly if the last such call was answered with true, and keeps the failure of the legacy
  presenter otherwise.

For the first numbers, as many as Java has, the number that Java passes back is the number of the dialog: an answer
decides that dialog and no other. -/
theorem dialog_over_java (keeps : KeepsTexts machine) (slot : Dialog.Slot) (request : Dialog.Request)
    (before : World σ) :
    let handle : Dialog.Handle := ⟨slot.next⟩
    let view := Dialog.View.ofRequest request
    let modern := (services machine).present handle view before
    let legacy := (services machine).presentLegacy handle view modern.device
    let reply := slot.openDialog (services machine) request before
    let after := reply.answer.2
    ∃ talk, Talked machine before talk reply.device ∧ reply.answer.1 = handle ∧
      (showCalls talk).length ≤ 2 ∧
      (∀ earlier call later, talk = earlier ++ call :: later → calls "show" call.request = true →
        ∃ older, Announced handle view older earlier call.request ∧
          (older = true → modern.answer.isOk = false)) ∧
      (after.handle? = if showed talk then some handle else none) ∧
      (if showed talk then after.failure = none else
        ∃ failure, legacy.answer = .error failure ∧ after.failure = some (.dialogNotShown failure.message)) ∧
      (handle.id < 2 ^ 63 → handleOfJava (javaId handle) = handle ∧ ∀ action,
        (after.resolve (handleOfJava (javaId handle)) action).1 =
          (if showed talk then view.outcome? action else none) ∧
        ∀ other : Dialog.Handle, other.id < 2 ^ 63 → other ≠ handle →
          after.resolve (handleOfJava (javaId other)) action = (none, after)) := by
  intro handle view modern legacy reply after
  obtain ⟨talk, talked, few, along, shown, failed⟩ := showDialog_announced keeps handle request before
  obtain ⟨device, answer⟩ := @openDialog_eq (World σ) (services machine) request slot before handle view rfl rfl
  refine ⟨talk, device ▸ talked, congrArg Prod.fst answer, few, ?_, ?_⟩
  · rintro earlier call later rfl
    exact along_split along
  have becomes : after = _ := congrArg Prod.snd answer
  generalize after = slot' at becomes
  cases asked : ((services machine).showDialog handle view before).answer with
  | ok =>
    rw [asked] at becomes shown
    have yes : showed talk = true := shown.symm
    refine ⟨?_, ?_, fun small => ⟨handleOfJava_javaId small, fun action =>
      ⟨?_, fun other fits different => ?_⟩⟩⟩
    · rw [becomes, if_pos yes]
      rfl
    · rw [becomes, if_pos yes]
    · rw [handleOfJava_javaId small, if_pos yes, becomes]
      exact resolve_open rfl action
    · rw [handleOfJava_javaId fits]
      refine resolve_other (fun its => different ?_) action
      rw [becomes] at its
      exact (Option.some.inj its).symm
  | error failure =>
    rw [asked] at becomes shown
    have no : showed talk = false := shown.symm
    have closed (other : Dialog.Handle) : slot'.handle? ≠ some other := by
      rw [becomes]
      exact nofun
    rw [no]
    refine ⟨becomes ▸ rfl, ⟨failure, (failed no).symm.trans asked, becomes ▸ rfl⟩, fun small =>
      ⟨handleOfJava_javaId small, fun action => ⟨?_, fun other _ _ => resolve_other (closed _) action⟩⟩⟩
    exact congrArg Prod.fst (resolve_other (closed _) action)

theorem scripted_keepsTexts : KeepsTexts Scripted.javaMachine := by
  intro text side value answered
  change side.called "NewStringUTF" (.text text) = .returned value at answered
  unfold Scripted.JavaSide.called at answered
  split at answered
  · cases answered
  · exact Or.inl (Answer.returned.inj answered).symm
  · exact Or.inr (Answer.returned.inj answered).symm

/-- A request with an empty label. -/
def quitRequest : Dialog.Request where
  title := some "Quit?"
  yes := some "Yes"
  no := some ""
  cancel := some "Later"
  icon := .alert

/-- The seventh dialog of a host, on a system whose modern presenter refuses it. -/
def refusedOnce : Reply (World Scripted.JavaSide) (Dialog.Handle × Dialog.Slot) :=
  ({ next := 7 } : Dialog.Slot).openDialog (services Scripted.javaMachine) quitRequest
    { side := { showsModern := false } }

theorem refusedOnce_is_shown :
    KeepsTexts Scripted.javaMachine ∧
      refusedOnce.device.requests.filter (calls "show") = [false, true].map (fun legacy =>
        .callStatic (.object dialogClass) "show" showSignature (showArgs ⟨7⟩ (.ofRequest quitRequest)
          [.text "Quit?", .text "", .text "Yes", .text "", .text "Later"] legacy)) ∧
      Announcement.ofArgs? (showArgs ⟨7⟩ (.ofRequest quitRequest)
          [.text "Quit?", .text "", .text "Yes", .text "", .text "Later"] true) =
        some ⟨7, "Quit?", "", [(.positive, "Yes"), (.neutral, "Later")], .alert, true⟩ ∧
      (refusedOnce.answer.2.resolve (handleOfJava 7) (.button .neutral)).1 = some .cancel := by
  refine ⟨scripted_keepsTexts, by decide +kernel, by decide +kernel, ?_⟩
  obtain ⟨talk, -, -, -, -, opened, -, answers⟩ :=
    dialog_over_java scripted_keepsTexts { next := 7 } quitRequest { side := { showsModern := false } }
  have shown : refusedOnce.answer.2.handle? = some ⟨7⟩ := by decide +kernel
  have yes : showed talk = true := by
    by_contra no
    rw [if_neg no] at opened
    exact nomatch opened.symm.trans shown
  obtain ⟨answer, -⟩ := (answers (by decide)).2 (.button .neutral)
  rw [if_pos yes] at answer
  exact answer

end EngineHost.Android
