/-
FtMmi.EventDispatch.PointerSplit — which fingers of an event with several
pointers a client is sent.

`HandlePointerEventInner` takes those on windows of other processes out of
a copy, one `RemovePointerItem` for each id of the event. A window that is
not known has the process -1, which the test lets pass, and of two items
with one id it is always the first that is looked at. So the client gets
what is on no other process's window exactly if no item that stays hides
one with its id, and its own items exactly if moreover no finger is beside
the windows.
-/
import FtMmi.EventDispatch.TouchRecords

namespace FtMmi.EventDispatch

open FtMmi.Event
open FtMmi.Lib
open FtMmi.Server
open FtMmi.TouchEventNormalize
open FtMmi.WindowManager

/-! ## Whose a finger is -/

/-- The window of an item is there and is the process's. -/
def onWindowOf (group : DisplayGroupInfo) (pid : Int) (item : PointerItem) : Bool :=
  (group.findWindow item.targetWindowId).any fun window => window.pid.toInt = pid

/-- The test of the loop: the window is another process's. -/
def onOtherWindow (group : DisplayGroupInfo) (pid : Int) (item : PointerItem) : Bool :=
  0 ≤ group.getWindowPid item.targetWindowId ∧
    (group.getWindowPid item.targetWindowId).toInt ≠ pid

variable {group : DisplayGroupInfo} {pid : Int} {item : PointerItem} {event : PointerEvent}

theorem not_onOtherWindow (h : onWindowOf group pid item = true) :
    onOtherWindow group pid item = false := by
  unfold onWindowOf at h
  cases hfound : group.findWindow item.targetWindowId with
  | none => simp [hfound] at h
  | some window =>
    have hpid : (group.getWindowPid item.targetWindowId).toInt = pid := by
      simpa [DisplayGroupInfo.getWindowPid, hfound] using h
    simp [onOtherWindow, hpid]

/-! ## One removal -/

/-- The first item with an id is the one that is found, and goes. -/
theorem removePointerItem_split {id : Int32} (h : event.getPointerItem id = some item) :
    ∃ before after, event.pointers = before ++ item :: after ∧
      (event.removePointerItem id).pointers = before ++ after ∧
      ∀ other ∈ before, other.pointerId ≠ id := by
  obtain ⟨before, after, hpointers, hbefore⟩ := (List.find?_eq_some_iff_append.mp h).2
  have hid : item.pointerId = id := (PointerEvent.getPointerItem_some h).2
  have hnot : ∀ other ∈ before, other.pointerId ≠ id := by
    intro other hmem
    simpa using hbefore other hmem
  refine ⟨before, after, hpointers, ?_, hnot⟩
  show event.pointers.eraseP _ = _
  rw [hpointers, List.eraseP_append_right, List.eraseP_cons_of_pos]
  · simpa using hid
  · intro other hmem
    simpa using hnot other hmem

/-- What the loop does with one id: nothing, or the found item goes, which
is on another process's window. -/
theorem keepItemsOf_cons (group : DisplayGroupInfo) (pid : Int) (event : PointerEvent)
    (id : Int32) (ids : List Int32) :
    (keepItemsOf group pid event (id :: ids) = keepItemsOf group pid event ids ∧
      ∀ item, event.getPointerItem id = some item → onOtherWindow group pid item = false) ∨
    (keepItemsOf group pid event (id :: ids)
        = keepItemsOf group pid (event.removePointerItem id) ids ∧
      ∃ item, event.getPointerItem id = some item ∧ onOtherWindow group pid item = true) := by
  cases hitem : event.getPointerItem id with
  | none => exact .inl ⟨by simp [keepItemsOf, hitem], by simp⟩
  | some item =>
    by_cases hother : onOtherWindow group pid item = true
    · refine .inr ⟨?_, item, rfl, hother⟩
      simp only [onOtherWindow, decide_eq_true_eq] at hother
      simp [keepItemsOf, hitem, hother]
    · refine .inl ⟨?_, ?_⟩
      · simp only [onOtherWindow, decide_eq_true_eq] at hother
        simp only [keepItemsOf, hitem, if_neg hother]
      · intro found hfound
        cases hfound
        simpa using hother

/-! ## The whole loop -/

theorem keepItemsOf_pointerId (ids : List Int32) :
    (keepItemsOf group pid event ids).pointerId = event.pointerId := by
  induction ids generalizing event with
  | nil => rfl
  | cons id ids ih =>
    rcases keepItemsOf_cons group pid event id ids with
      ⟨h, _⟩ | ⟨h, _⟩
    · rw [h, ih]
    · rw [h, ih]
      rfl

theorem keepItemsOf_sublist (ids : List Int32) :
    (keepItemsOf group pid event ids).pointers.Sublist event.pointers := by
  induction ids generalizing event with
  | nil => exact List.Sublist.refl _
  | cons id ids ih =>
    rcases keepItemsOf_cons group pid event id ids with ⟨h, _⟩ | ⟨h, _⟩
    · rw [h]
      exact ih
    · rw [h]
      exact ih.trans List.eraseP_sublist

/-- An item that is on no other process's window stays. -/
theorem keepItemsOf_filter {keep : PointerItem → Bool}
    (hkeep : ∀ item, keep item = true → onOtherWindow group pid item = false) (ids : List Int32) :
    (keepItemsOf group pid event ids).pointers.filter keep = event.pointers.filter keep := by
  induction ids generalizing event with
  | nil => rfl
  | cons id ids ih =>
    rcases keepItemsOf_cons group pid event id ids with
      ⟨h, _⟩ | ⟨h, item, hitem, hother⟩
    · rw [h, ih]
    · obtain ⟨before, after, hpointers, hremoved, _⟩ := removePointerItem_split hitem
      have hgone : keep item = false := by
        cases hitemKeep : keep item with
        | false => rfl
        | true =>
          rw [hkeep item hitemKeep] at hother
          cases hother
      rw [h, ih, hremoved, hpointers]
      simp [hgone]

/-- No item that stays stands before one of another process with its id. -/
def Unhidden (group : DisplayGroupInfo) (pid : Int) (items : List PointerItem) : Prop :=
  items.Pairwise fun first second => first.pointerId = second.pointerId →
    onOtherWindow group pid first = false → onOtherWindow group pid second = false

/-- A removal leaves an item that stays, and one behind it with its id. -/
theorem removePointerItem_hidden {first second : PointerItem} {id : Int32}
    (hsub : List.Sublist [first, second] event.pointers)
    (hid : first.pointerId = second.pointerId) (hfirst : onOtherWindow group pid first = false)
    (hitem : event.getPointerItem id = some item) (hother : onOtherWindow group pid item = true) :
    List.Sublist [first, second] (event.removePointerItem id).pointers := by
  obtain ⟨before, after, hpointers, hremoved, hbefore⟩ := removePointerItem_split hitem
  have hitemId : item.pointerId = id := (PointerEvent.getPointerItem_some hitem).2
  have hne : item ≠ first := by
    intro heq
    rw [heq, hfirst] at hother
    cases hother
  rw [hpointers, List.sublist_append_iff] at hsub
  obtain ⟨left, right, hpair, hleft, hright⟩ := hsub
  rw [hremoved, hpair]
  refine hleft.append ?_
  rcases List.sublist_cons_iff.mp hright with hright | ⟨rest, hrest, _⟩
  · exact hright
  · exfalso
    subst hrest
    cases left with
    | nil => exact hne (List.cons.inj hpair).1.symm
    | cons head tail =>
      obtain ⟨rfl, htail⟩ := List.cons.inj hpair
      cases tail with
      | nil =>
        obtain ⟨rfl, _⟩ := List.cons.inj htail
        exact hbefore first (hleft.subset List.mem_cons_self) (hid.trans hitemId)
      | cons _ tail => simp at htail

/-- An item behind one that stays, with its id, stays too. -/
theorem keepItemsOf_hidden {first second : PointerItem}
    (hsub : List.Sublist [first, second] event.pointers)
    (hid : first.pointerId = second.pointerId) (hfirst : onOtherWindow group pid first = false)
    (ids : List Int32) :
    List.Sublist [first, second] (keepItemsOf group pid event ids).pointers := by
  induction ids generalizing event with
  | nil => exact hsub
  | cons id ids ih =>
    rcases keepItemsOf_cons group pid event id ids with
      ⟨h, _⟩ | ⟨h, item, hitem, hother⟩
    · rw [h]
      exact ih hsub
    · rw [h]
      exact ih (removePointerItem_hidden hsub hid hfirst hitem hother)

/-- How many items of another process have an id. -/
def others (group : DisplayGroupInfo) (pid : Int) (id : Int32) (items : List PointerItem) : Nat :=
  items.countP fun item => item.pointerId = id && onOtherWindow group pid item

/-- Nothing hidden: if the item found under an id stays, so do all with it. -/
theorem others_eq_zero (hunhidden : Unhidden group pid event.pointers) {id : Int32}
    (hkept : ∀ item, event.getPointerItem id = some item → onOtherWindow group pid item = false) :
    others group pid id event.pointers = 0 := by
  rw [others, List.countP_eq_zero]
  intro item hmem hcounted
  obtain ⟨hid, hother⟩ : item.pointerId = id ∧ onOtherWindow group pid item = true := by
    simpa using hcounted
  cases hfound : event.getPointerItem id with
  | none =>
    rw [PointerEvent.getPointerItem_none_iff, ← hid] at hfound
    exact hfound (List.mem_map_of_mem hmem)
  | some first =>
    have hfirst : onOtherWindow group pid first = false := hkept first hfound
    obtain ⟨before, after, hpointers, _, hbefore⟩ := removePointerItem_split hfound
    rw [hpointers] at hmem
    rcases List.mem_append.mp hmem with hmem | hmem
    · exact hbefore item hmem hid
    · rcases List.mem_cons.mp hmem with rfl | hmem
      · rw [hfirst] at hother
        cases hother
      · rw [Unhidden, hpointers] at hunhidden
        have htail := (List.pairwise_append.mp hunhidden).2.1
        have hfirstId := (PointerEvent.getPointerItem_some hfound).2
        rw [(List.pairwise_cons.mp htail).1 item hmem (hfirstId.trans hid.symm) hfirst] at hother
        cases hother

/-- Nothing hidden: each turn of the loop with an id takes one of the
items with it out that are another process's, while there is one. -/
theorem others_keepItemsOf (hunhidden : Unhidden group pid event.pointers) (ids : List Int32)
    (hids : ∀ id, others group pid id event.pointers ≤ ids.count id) (id : Int32) :
    others group pid id (keepItemsOf group pid event ids).pointers = 0 := by
  induction ids generalizing event with
  | nil => exact Nat.le_zero.mp (hids id)
  | cons turn ids ih =>
    rcases keepItemsOf_cons group pid event turn ids with
      ⟨h, hkept⟩ | ⟨h, item, hitem, hother⟩
    · rw [h]
      refine ih hunhidden fun id => ?_
      by_cases hid : turn = id
      · rw [← hid, others_eq_zero hunhidden hkept]
        exact Nat.zero_le _
      · simpa [List.count_cons, hid] using hids id
    · obtain ⟨before, after, hpointers, hremoved, _⟩ := removePointerItem_split hitem
      have hitemId : item.pointerId = turn := (PointerEvent.getPointerItem_some hitem).2
      have hsub : List.Sublist (event.removePointerItem turn).pointers event.pointers := by
        rw [hremoved, hpointers]
        exact List.Sublist.append (List.Sublist.refl _) (List.sublist_cons_self _ _)
      rw [h]
      refine ih (hunhidden.sublist hsub) fun id => ?_
      have hcount := hids id
      rw [hpointers, others, List.countP_append, List.countP_cons, List.count_cons] at hcount
      rw [hremoved, others, List.countP_append]
      simp only [hitemId, hother, Bool.and_true, decide_eq_true_eq, beq_iff_eq] at hcount
      split at hcount <;> omega

/-! ## What is sent -/

/-- The copy sent has the items that are on no other process's window, and
the event's own pointer if one of them is its. -/
structure KeptFor (group : DisplayGroupInfo) (pid : Int) (point sent : PointerEvent) : Prop where
  exact : sent.pointers = point.pointers.filter fun item => !onOtherWindow group pid item
  ownPointer : (∃ item ∈ sent.pointers, item.pointerId = sent.pointerId) ↔
    ∃ item ∈ point.pointers, item.pointerId = point.pointerId ∧
      onOtherWindow group pid item = false

/-- The copy sent has the process's items and no other, that of the event's
own pointer with them. -/
structure SplitFor (group : DisplayGroupInfo) (pid : Int) (point sent : PointerEvent) : Prop where
  exact : sent.pointers = point.pointers.filter (onWindowOf group pid)
  ownPointer : ∃ item ∈ sent.pointers, item.pointerId = sent.pointerId
  noLeak : ∀ item ∈ sent.pointers, onWindowOf group pid item = true

/-- Every finger is on the process's or another process's window, nothing
is hidden, and the event's own pointer is on the process's. -/
structure Splittable (group : DisplayGroupInfo) (pid : Int) (point : PointerEvent) : Prop where
  onWindows : ∀ item ∈ point.pointers,
    onWindowOf group pid item = true ∨ onOtherWindow group pid item = true
  unhidden : Unhidden group pid point.pointers
  ownPointer : ∃ item ∈ point.pointers,
    item.pointerId = point.pointerId ∧ onWindowOf group pid item = true

/-- The copy: the items on no other process's window are in it, and with
nothing hidden no others are. -/
theorem copyFor_others (hunhidden : Unhidden group pid event.pointers)
    (hmany : 1 < event.getPointerIds.length) :
    ∀ item ∈ (copyFor group pid event).pointers, onOtherWindow group pid item = false := by
  rw [copyFor, if_pos hmany]
  intro item hmem
  have hnone : others group pid item.pointerId
      (keepItemsOf group pid event event.getPointerIds).pointers = 0 := by
    refine others_keepItemsOf hunhidden _ (fun id => ?_) _
    rw [PointerEvent.getPointerIds, List.count, List.countP_map]
    refine List.countP_mono_left fun item _ h => ?_
    simp only [Bool.and_eq_true, decide_eq_true_eq] at h
    simpa using h.1
  rw [others, List.countP_eq_zero] at hnone
  simpa using hnone item hmem

theorem copyFor_filter {keep : PointerItem → Bool}
    (hkeep : ∀ item, keep item = true → onOtherWindow group pid item = false) :
    (copyFor group pid event).pointers.filter keep = event.pointers.filter keep := by
  unfold copyFor
  split
  · exact keepItemsOf_filter hkeep _
  · rfl

theorem copyFor_sublist : (copyFor group pid event).pointers.Sublist event.pointers := by
  unfold copyFor
  split
  · exact keepItemsOf_sublist _
  · exact List.Sublist.refl _

theorem copyFor_pointerId : (copyFor group pid event).pointerId = event.pointerId := by
  unfold copyFor
  split
  · exact keepItemsOf_pointerId _
  · rfl

/-- An item behind one that stays is sent with it. -/
theorem unhidden_of_copyFor (hmany : 1 < event.getPointerIds.length)
    (h : ∀ item ∈ (copyFor group pid event).pointers, onOtherWindow group pid item = false) :
    Unhidden group pid event.pointers := by
  rw [Unhidden, List.pairwise_iff_forall_sublist]
  intro first second hsub hid hfirst
  have hkept := keepItemsOf_hidden hsub hid hfirst event.getPointerIds
  rw [← show copyFor group pid event = _ from if_pos hmany] at hkept
  exact h second (hkept.subset (by simp))

theorem keptFor_iff (hmany : 1 < event.getPointerIds.length) :
    KeptFor group pid event (copyFor group pid event) ↔ Unhidden group pid event.pointers := by
  constructor
  · intro h
    refine unhidden_of_copyFor hmany fun item hmem => ?_
    rw [h.exact] at hmem
    simpa using (List.mem_filter.mp hmem).2
  · intro hunhidden
    have hexact : (copyFor group pid event).pointers
        = event.pointers.filter fun item => !onOtherWindow group pid item := by
      rw [← @copyFor_filter group pid event _ (by simp)]
      refine (List.filter_eq_self.mpr fun item hmem => ?_).symm
      simp [copyFor_others hunhidden hmany item hmem]
    refine ⟨hexact, ?_⟩
    rw [hexact, copyFor_pointerId]
    constructor
    · rintro ⟨item, hmem, hid⟩
      obtain ⟨hmem, hkept⟩ := List.mem_filter.mp hmem
      exact ⟨item, hmem, hid, by simpa using hkept⟩
    · rintro ⟨item, hmem, hid, hkept⟩
      exact ⟨item, List.mem_filter.mpr ⟨hmem, by simp [hkept]⟩, hid⟩

theorem splitFor_iff (hmany : 1 < event.getPointerIds.length) :
    SplitFor group pid event (copyFor group pid event) ↔ Splittable group pid event := by
  constructor
  · intro h
    refine ⟨?_, ?_, ?_⟩
    · intro item hmem
      cases hother : onOtherWindow group pid item with
      | true => exact .inr rfl
      | false =>
        left
        apply h.noLeak
        have hkept : item ∈ (copyFor group pid event).pointers.filter
            fun item => !onOtherWindow group pid item := by
          rw [copyFor_filter (by simp)]
          exact List.mem_filter.mpr ⟨hmem, by simp [hother]⟩
        exact (List.mem_filter.mp hkept).1
    · exact unhidden_of_copyFor hmany fun item hmem => not_onOtherWindow (h.noLeak item hmem)
    · obtain ⟨item, hmem, hid⟩ := h.ownPointer
      have hown := h.noLeak item hmem
      rw [h.exact] at hmem
      rw [copyFor_pointerId] at hid
      exact ⟨item, (List.mem_filter.mp hmem).1, hid, hown⟩
  · intro h
    have hown : ∀ item ∈ (copyFor group pid event).pointers, onWindowOf group pid item = true := by
      intro item hmem
      rcases h.onWindows item (copyFor_sublist.subset hmem) with hown | hother
      · exact hown
      · rw [copyFor_others h.unhidden hmany item hmem] at hother
        cases hother
    have hexact : (copyFor group pid event).pointers
        = event.pointers.filter (onWindowOf group pid) := by
      rw [← copyFor_filter fun _ => not_onOtherWindow]
      exact (List.filter_eq_self.mpr hown).symm
    refine ⟨hexact, ?_, hown⟩
    obtain ⟨item, hmem, hid, hitem⟩ := h.ownPointer
    refine ⟨item, ?_, hid.trans copyFor_pointerId.symm⟩
    rw [hexact]
    exact List.mem_filter.mpr ⟨hmem, hitem⟩

/-! ## Every event with several pointers -/

namespace PointerService

/-- A packet that is sent holds the copy for the process of its client, with
the windows as they are. -/
theorem handlePointerEventInner_sent {now : Moment} {s : PointerService} {point : PointerEvent}
    {d : Delivery} (hd : (s.handlePointerEventInner now point).delivered = s.delivered ++ [d]) :
    d.event = copyFor s.windowsManager.displayGroupInfo (s.server.getClientPid d.fd) point := by
  have hgroup := (getClientFd_records (s.env now) s.windowsManager point).1
  simp only [handlePointerEventInner] at hd
  split at hd
  · simp at hd
  · split at hd
    · simp at hd
    · rw [hgroup] at hd
      have hdelivery := List.append_cancel_left hd
      cases hdelivery
      rfl

/-- A client is sent precisely the fingers that are on no other process's
window if none that stays hides one that should go, and precisely its own,
the event's with them, if moreover no finger is beside the windows and the
event's own is on one of its windows. -/
theorem delivered_split_iff (now : Moment) (s : PointerService) (point : PointerEvent)
    (d : Delivery) (hmany : 1 < point.pointers.length)
    (hd : (s.handlePointerEventInner now point).delivered = s.delivered ++ [d]) :
    (KeptFor s.windowsManager.displayGroupInfo (s.server.getClientPid d.fd) point d.event ↔
      Unhidden s.windowsManager.displayGroupInfo (s.server.getClientPid d.fd) point.pointers) ∧
    (SplitFor s.windowsManager.displayGroupInfo (s.server.getClientPid d.fd) point d.event ↔
      Splittable s.windowsManager.displayGroupInfo (s.server.getClientPid d.fd) point) := by
  have hids : 1 < point.getPointerIds.length := by
    rw [PointerEvent.getPointerIds, List.length_map]
    exact hmany
  rw [handlePointerEventInner_sent hd]
  exact ⟨keptFor_iff hids, splitFor_iff hids⟩

end PointerService

/-! ## Two fingers of two processes -/

/-- A finger on each of two windows, the first one's event. -/
def twoFingers (firstWindow secondWindow : Int32) : PointerEvent :=
  let event := ((PointerEvent.create 0).setSourceType sourceTypeTouchscreen).setPointerId 0
  let event := (event.setPointerAction pointerActionMove).setTargetWindowId firstWindow
  (event.addPointerItem { pointerId := 0, targetWindowId := firstWindow }).addPointerItem
    { pointerId := 1, targetWindowId := secondWindow }

/-- Processes 10 and 11 have a window each. -/
def twoWindows : PointerService :=
  runFrom PointerService.step (.create 0 (leftOrRight 0 0 0) (leftOrRight 0 0 0))
    [.addSession ⟨1, 5, 10⟩, .addSession ⟨2, 6, 11⟩,
      .updateDisplayInfo quietMoment (oneDisplay [leftOrRight 1 10 0, leftOrRight 2 11 50])]

theorem delivered_split_twoFingers :
    ∃ d, (twoWindows.handlePointerEventInner quietMoment (twoFingers 1 2)).delivered
        = twoWindows.delivered ++ [d] ∧
      (KeptFor twoWindows.windowsManager.displayGroupInfo (twoWindows.server.getClientPid d.fd)
          (twoFingers 1 2) d.event ↔
        Unhidden twoWindows.windowsManager.displayGroupInfo
          (twoWindows.server.getClientPid d.fd) (twoFingers 1 2).pointers) ∧
      (SplitFor twoWindows.windowsManager.displayGroupInfo (twoWindows.server.getClientPid d.fd)
          (twoFingers 1 2) d.event ↔
        Splittable twoWindows.windowsManager.displayGroupInfo
          (twoWindows.server.getClientPid d.fd) (twoFingers 1 2)) :=
  ⟨_, rfl, PointerService.delivered_split_iff quietMoment twoWindows (twoFingers 1 2) _
    (by decide +kernel) rfl⟩

/-- A finger on no window is sent with the others. -/
theorem counterexample_delivered_split :
    ¬ ∀ d, (twoWindows.handlePointerEventInner quietMoment (twoFingers 1 (-1))).delivered
        = twoWindows.delivered ++ [d] →
      SplitFor twoWindows.windowsManager.displayGroupInfo (twoWindows.server.getClientPid d.fd)
        (twoFingers 1 (-1)) d.event := by
  intro h
  have hsplit := (splitFor_iff (by decide +kernel)).mp (h _ rfl)
  have hwindow := hsplit.onWindows { pointerId := 1, targetWindowId := -1 } (by decide +kernel)
  revert hwindow
  decide +kernel

end FtMmi.EventDispatch
