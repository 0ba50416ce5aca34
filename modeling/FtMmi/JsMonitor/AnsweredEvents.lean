/-
FtMmi.JsMonitor.AnsweredEvents — in which order a JavaScript monitor gets
its events, and which events the server is told of.

Every copy of an event that is not marked is on its way, waits, is with the
callback, or was dropped. So the server is told of a touch event when the
last of its copies is marked, and never if one was dropped.
-/
import FtMmi.JsMonitor.WaitingEvents

namespace FtMmi.JsMonitor

open FtMmi.Event
open FtMmi.InputHandler
open FtMmi.Lib
open FtMmi.WindowManager

namespace JsInputMonitorManager

variable {s s' : JsInputMonitorManager} {id : Nat} {item : JsInputMonitor}

/-! ## Writing to a monitor -/

/-- What waits is left alone. -/
theorem passes_write (h : s.Kept) (hitem : item ∈ s.monitors) (item' : JsInputMonitor)
    (hid : item'.monitorId = item.monitorId) (hqueue : item'.evQueue = item.evQueue)
    (hdeliveries : s'.deliveries.map (fun d => (d.monitorId, d.tempEvent))
      = s.deliveries.map fun d => (d.monitorId, d.tempEvent))
    (hmonitors : s'.monitors = (s.write item').monitors) (hcalls : s'.calls = s.calls)
    (hcalled : s'.called = s.called) (hdropped : s'.dropped = s.dropped)
    (hservice : s'.service = s.service) : Passes s s' [] := by
  refine passes_stay hdeliveries ?_ (fun id => ?_) hcalls hcalled hdropped
    (hservice ▸ served_nil s.service)
  · obtain ⟨before, after, hsplit, hwritten⟩ := write_split h hitem hid
    rw [hmonitors, hwritten, hsplit]
    simp only [List.flatMap_append, List.flatMap_cons, hqueue]
  · rw [waiting_of_monitors hmonitors, waiting_write h hitem item' hid]
    split
    · rename_i heq
      rw [heq, waiting_self h hitem, hqueue]
    · rfl

theorem settled_write (h : s.Kept) {exempt : Nat → Prop} (hposted : s.Posted exempt)
    (hitem : item ∈ s.monitors) (item' : JsInputMonitor)
    (hid : item'.monitorId = item.monitorId) (hqueue : item'.evQueue = item.evQueue)
    (hmonitoring : item'.isMonitoring = item.isMonitoring) :
    (s.write item').Kept ∧ (s.write item').Posted exempt := by
  refine ⟨h.write hitem hid hmonitoring (hqueue ▸ h.few item hitem) fun call hcall heq =>
    hqueue ▸ h.free item hitem call hcall heq, hposted.write fun hexempt hne => ?_⟩
  rw [hid]
  exact hposted item hitem (hid ▸ hexempt) (hqueue ▸ hne)

/-! ## The thread of the events -/

variable {d : Delivery} {rest : List Delivery} {exempt : Nat → Prop}

/-- A step keeps the queues in order, and loses no event without saying so. -/
structure Goes (s s' : JsInputMonitorManager) : Prop where
  passes : ∃ marked, Passes s s' marked
  kept : s'.Kept
  posted : s'.Posted fun _ => False

theorem Goes.of_same (h : s.Kept) (hposted : s.Posted fun _ => False) {marked : List TempEvent}
    (hpasses : Passes s s' marked) (hmonitors : s'.monitors = s.monitors)
    (hnext : s'.nextId = s.nextId) (hcalls : ∀ call ∈ s'.calls, call ∈ s.calls)
    (htasks : ∀ id ∈ s.tasks, id ∈ s'.tasks) : Goes s s' :=
  ⟨⟨marked, hpasses⟩, h.of_same hmonitors hnext fun call hcall => .inl (hcalls call hcall),
    hposted.of_same hmonitors htasks⟩

theorem Goes.refl (h : s.Kept) (hposted : s.Posted fun _ => False) : Goes s s :=
  ⟨⟨[], .refl s⟩, h, hposted⟩

theorem Goes.trans {s'' : JsInputMonitorManager} (h : Goes s s') (h' : Goes s' s'') :
    Goes s s'' := by
  obtain ⟨marked, hpasses⟩ := h.passes
  obtain ⟨marked', hpasses'⟩ := h'.passes
  exact ⟨⟨_, hpasses.trans hpasses'⟩, h'.kept, h'.posted⟩

theorem inputMonitor_goes (h : s.Kept) (hposted : s.Posted fun _ => False)
    (hd : s.deliveries = d :: rest) : Goes s (s.inputMonitor d rest) := by
  unfold inputMonitor
  cases hitem : s.getMonitor d.monitorId with
  | none =>
    exact .of_same h hposted (passes_drop hd rfl rfl rfl rfl rfl rfl) rfl rfl (fun _ h => h)
      fun _ h => h
  | some item =>
    obtain ⟨hmem, -⟩ := h.getMonitor_iff.mp hitem
    dsimp only
    split
    · exact .of_same h hposted (passes_mark hd rfl rfl rfl rfl rfl rfl) rfl rfl (fun _ h => h)
        fun _ h => h
    generalize hcount : (if d.tempEvent.event.sourceType = sourceTypeMouse ∧
      d.tempEvent.event.pointerAction = pointerActionMove then { s with count := 0 } else s) = t
    obtain ⟨count, rfl⟩ : ∃ count, t = { s with count := count } := by
      rw [← hcount]
      split
      · exact ⟨0, rfl⟩
      · exact ⟨s.count, rfl⟩
    split
    · exact .of_same h hposted (passes_mark hd rfl rfl rfl rfl rfl rfl) rfl rfl (fun _ h => h)
        fun _ h => h
    split
    · exact .of_same h hposted (passes_drop hd rfl rfl rfl rfl rfl rfl) rfl rfl (fun _ h => h)
        fun _ h => h
    have hsame : (({ d with taken := true } : Delivery) :: rest).map
        (fun d => (d.monitorId, d.tempEvent))
          = s.deliveries.map fun d => (d.monitorId, d.tempEvent) := by
      rw [hd]
      rfl
    split
    · obtain ⟨hkept, hwritten⟩ := settled_write h hposted hmem
        { item with monitor := { item.monitor with consumed := false } } rfl rfl rfl
      exact ⟨⟨[], passes_write h hmem
          { item with monitor := { item.monitor with consumed := false } } rfl rfl hsame rfl rfl rfl
          rfl rfl⟩,
        hkept.of_same rfl rfl fun _ => .inl, hwritten.of_same rfl fun _ h => h⟩
    · exact .of_same h hposted (passes_stay hsame rfl (fun _ => rfl) rfl rfl rfl (served_nil _))
        rfl rfl (fun _ h => h) fun _ h => h

theorem onPointerEvent_goes (h : s.Kept) (hposted : s.Posted fun _ => False)
    (hd : s.deliveries = d :: rest) : Goes s (s.onPointerEvent d rest) := by
  unfold onPointerEvent
  cases hitem : s.getMonitor d.monitorId with
  | none =>
    exact .of_same h hposted (passes_drop hd rfl rfl rfl rfl rfl rfl) rfl rfl (fun _ h => h)
      fun _ h => h
  | some item =>
    obtain ⟨hmem, hid⟩ := h.getMonitor_iff.mp hitem
    dsimp only
    split
    · exact .of_same h hposted (passes_drop hd rfl rfl rfl rfl rfl rfl) rfl rfl (fun _ h => h)
        fun _ h => h
    split
    · exact .refl h hposted
    rename_i hbusy
    have hidle : ∀ call ∈ s.calls, call.monitorId ≠ d.monitorId := by simpa using hbusy
    -- The event is put in, and a task is posted for it.
    have hkept : (s.write { item with evQueue := [d.tempEvent] }).Kept :=
      h.write hmem rfl rfl (Nat.le_refl 1) fun call hcall heq =>
        absurd (heq.trans hid) (hidle call hcall)
    have htasks : ({ s with tasks := s.tasks ++ [d.monitorId] } : JsInputMonitorManager).Posted
        fun _ => False := hposted.of_same rfl fun _ => List.mem_append_left _
    have hput : ({ s with tasks := s.tasks ++ [d.monitorId] }.write
        { item with evQueue := [d.tempEvent] }).Posted fun _ => False :=
      htasks.write fun _ _ => by simp [hid]
    split
    · rename_i hqueue
      exact ⟨⟨_, passes_push h hd hmem hid rfl rfl rfl rfl rfl
          (by rw [hqueue]; exact served_nil s.service)⟩,
        hkept.of_same rfl rfl fun _ => .inl, hput.of_same rfl fun _ h => h⟩
    · rename_i front tail hqueue
      have htail : tail = [] := h.tail_eq_nil hmem hqueue
      split
      · exact ⟨⟨_, passes_push h hd hmem hid rfl rfl rfl rfl rfl
            (by rw [hqueue, htail]; exact served_markProcessed s.service front.copy)⟩,
          hkept.of_same rfl rfl fun _ => .inl, hput.of_same rfl fun _ h => h⟩
      · exact .of_same h hposted (passes_drop hd rfl rfl rfl rfl rfl rfl) rfl rfl (fun _ h => h)
          fun _ => List.mem_append_left _

theorem consume_goes (h : s.Kept) (hposted : s.Posted fun _ => False) : Goes s s.consume := by
  unfold consume
  split
  · exact .refl h hposted
  · rename_i d rest hd
    split
    · exact onPointerEvent_goes h hposted hd
    · exact inputMonitor_goes h hposted hd

/-! ## The threads of the environments -/

theorem Posted.mono {exempt exempt' : Nat → Prop} (h : s.Posted exempt)
    (hexempt : ∀ id, exempt id → exempt' id) : s.Posted exempt' := fun item hitem hnot hne =>
  h item hitem (fun hid => hnot (hexempt _ hid)) hne

/-- The loop empties the queue of its monitor, so no task has to be posted for it. -/
theorem onPointerEventInJsThread_goes (h : s.Kept) (hposted : s.Posted fun other => other = id) :
    Goes s (s.onPointerEventInJsThread id) := by
  unfold onPointerEventInJsThread
  cases hitem : s.getMonitor id with
  | none =>
    exact ⟨⟨[], .refl s⟩, h, fun item hmem _ hne =>
      hposted item hmem (getMonitor_none hitem item hmem) hne⟩
  | some item =>
    obtain ⟨hmem, hid⟩ := h.getMonitor_iff.mp hitem
    have honly : ∀ other ∈ s.monitors, other.monitorId = id → other = item :=
      fun other hother heq =>
      Option.some.inj ((h.getMonitor_iff.mpr ⟨hother, heq⟩).symm.trans hitem)
    have hon : ¬ (!item.isMonitoring) = true := by simp [h.monitoring item hmem]
    dsimp only
    rw [if_neg hon]
    cases hqueue : item.evQueue with
    | nil =>
      refine ⟨⟨[], .refl s⟩, h, fun other hother _ hne =>
        hposted other hother (fun heq => hne ?_) hne⟩
      rw [honly other hother heq, hqueue]
    | cons front tail =>
      have htail : tail = [] := h.tail_eq_nil hmem hqueue
      have hkept : (s.write { item with evQueue := tail }).Kept :=
        h.write hmem rfl rfl (by simp [htail]) fun _ _ _ => htail
      have hput : (s.write { item with evQueue := tail }).Posted fun _ => False := by
        intro other hother _ hne
        rcases mem_replaceKey.mp hother with ⟨rfl, -⟩ | ⟨hother, hother'⟩
        · exact absurd htail hne
        · exact hposted other hother (fun heq => hother' (heq.trans hid.symm)) hne
      dsimp only
      split
      · refine ⟨⟨[], passes_call h hmem hqueue ⟨hid.symm, rfl⟩ rfl rfl rfl rfl rfl rfl⟩,
          hkept.of_same rfl rfl fun call hcall => ?_, hput.of_same rfl fun _ h => h⟩
        rcases List.mem_append.mp hcall with hcall | hcall
        · exact .inl hcall
        · refine .inr fun other hother heq => ?_
          rw [List.mem_singleton.mp hcall] at heq
          rcases mem_replaceKey.mp hother with ⟨rfl, -⟩ | ⟨-, hother'⟩
          · exact htail
          · exact absurd (heq.symm.trans hid.symm) hother'
      · exact ⟨⟨[front], passes_refuse h hmem hqueue rfl rfl rfl rfl rfl rfl⟩,
          hkept.of_same rfl rfl fun _ => .inl, hput.of_same rfl fun _ h => h⟩

theorem jsCallback_goes (h : s.Kept) (hposted : s.Posted fun _ => False) (task : Nat) :
    Goes s (s.jsCallback task) := by
  unfold jsCallback
  cases hget : s.tasks[task]? with
  | none => exact .refl h hposted
  | some id =>
    dsimp only
    split
    · exact .refl h hposted
    · obtain ⟨hlt, hid⟩ := List.getElem?_eq_some_iff.mp hget
      have hkept : ({ s with tasks := s.tasks.eraseIdx task } : JsInputMonitorManager).Kept :=
        h.of_same rfl rfl fun _ => .inl
      have hrest : ({ s with tasks := s.tasks.eraseIdx task } : JsInputMonitorManager).Posted
          fun other => other = id := by
        intro item hmem hother hne
        have htask := hposted item hmem (fun h => h) hne
        rw [← (List.getElem_cons_eraseIdx_perm hlt).mem_iff, hid] at htask
        exact (List.mem_cons.mp htask).resolve_left hother
      obtain ⟨⟨marked, hpasses⟩, hkept', hposted'⟩ := onPointerEventInJsThread_goes hkept hrest
      have hfirst : Passes s { s with tasks := s.tasks.eraseIdx task } [] :=
        passes_stay rfl rfl (fun _ => rfl) rfl rfl rfl (served_nil _)
      exact ⟨⟨_, hfirst.trans hpasses⟩, hkept', hposted'⟩

theorem markConsumed_goes (h : s.Kept) (hposted : s.Posted fun _ => False) (id : Nat)
    (eventId : Int32) : Goes s (s.markConsumed id eventId) := by
  unfold markConsumed
  cases hitem : s.getMonitor id with
  | none => exact .refl h hposted
  | some item =>
    obtain ⟨hmem, -⟩ := h.getMonitor_iff.mp hitem
    dsimp only
    split
    · exact .refl h hposted
    split
    · exact .refl h hposted
    obtain ⟨hkept, hwritten⟩ := settled_write h hposted hmem
      { item with monitor := { item.monitor with consumed := true } } rfl rfl rfl
    exact ⟨⟨[], passes_write h hmem
        { item with monitor := { item.monitor with consumed := true } } rfl rfl rfl rfl rfl rfl rfl
        rfl⟩,
      hkept.of_same rfl rfl fun _ => .inl, hwritten.of_same rfl fun _ h => h⟩

theorem callReturned_goes (h : s.Kept) (hposted : s.Posted fun _ => False) (index : Nat)
    (result : CallResult) : Goes s (s.callReturned index result) := by
  unfold callReturned
  cases hget : s.calls[index]? with
  | none => exact .refl h hposted
  | some call =>
    have hfewer : ∀ other ∈ s.calls.eraseIdx index, other ∈ s.calls := fun _ =>
      List.mem_of_mem_eraseIdx
    have hmark : Passes s ({ s with calls := s.calls.eraseIdx index }.markProcessed call.tempEvent)
        [call.tempEvent] :=
      passes_return hget rfl rfl rfl rfl (.inl ⟨rfl, rfl⟩)
        (served_markProcessed s.service call.tempEvent.copy)
    have hdrop : Passes s
        ({ s with calls := s.calls.eraseIdx index }.drop call.monitorId call.tempEvent) [] :=
      passes_return hget rfl rfl rfl rfl (.inr ⟨rfl, rfl⟩) (served_nil s.service)
    have hmarked := Goes.of_same h hposted hmark rfl rfl hfewer fun _ h => h
    have hdropped := Goes.of_same h hposted hdrop rfl rfl hfewer fun _ h => h
    have hgoOn : ∀ {t : JsInputMonitorManager}, Goes s t →
        Goes s (t.onPointerEventInJsThread call.monitorId) := fun ht =>
      ht.trans (onPointerEventInJsThread_goes ht.kept (ht.posted.mono fun _ => False.elim))
    cases result with
    | threw => exact hmarked
    | boolean value =>
      dsimp only
      cases call.typeName with
      | mouse => exact hgoOn hdropped
      | touch =>
        cases value with
        | false => exact hgoOn hmarked
        | true =>
          exact hgoOn (hmarked.trans (markConsumed_goes hmarked.kept hmarked.posted _ _))
    | other =>
      dsimp only
      cases call.typeName with
      | mouse => exact hgoOn hdropped
      | touch => exact hmarked

/-! ## Registration -/

theorem served_stops (items : List JsInputMonitor) (v : ConsumerService) :
    Served [] v (items.foldl stop v) := by
  induction items generalizing v with
  | nil => exact served_nil v
  | cons item items ih =>
    have hstop : Served [] v (stop v item) := by
      unfold stop
      split
      · exact served_nil v
      split
      · exact served_nil v
      · exact served_step v _ rfl trivial
    exact hstop.trans (ih (stop v item))

theorem stopAll_goes (h : s.Kept) (hposted : s.Posted fun _ => False)
    (gone : JsInputMonitor → Bool) : Goes s (s.stopAll gone) := by
  have hkept : (s.stopAll gone).Kept :=
    ⟨h.nodup.sublist (List.filter_sublist.map _),
      fun item hitem => h.lt item (List.mem_of_mem_filter hitem),
      fun item hitem => h.monitoring item (List.mem_of_mem_filter hitem),
      fun item hitem => h.few item (List.mem_of_mem_filter hitem),
      fun item hitem => h.free item (List.mem_of_mem_filter hitem)⟩
  have hwaiting : ∀ id, ((s.stopAll gone).waiting id).Sublist (s.waiting id) := fun id => by
    unfold waiting
    cases hitem : (s.stopAll gone).getMonitor id with
    | none => exact List.nil_sublist _
    | some item =>
      obtain ⟨hmem, hid⟩ := hkept.getMonitor_iff.mp hitem
      rw [h.getMonitor_iff.mpr ⟨List.mem_of_mem_filter hmem, hid⟩]
  refine ⟨⟨[], ⟨perm_of_countP fun p => ?_, fun id => ?_, served_stops _ _⟩⟩, hkept,
    fun item hitem => hposted item (List.mem_of_mem_filter hitem)⟩
  · have hsplit := ((List.filter_append_perm gone s.monitors).flatMap_right
      JsInputMonitor.evQueue).countP_eq p
    have hdropped : (s.stopAll gone).dropped.map Prod.snd
        = s.dropped.map Prod.snd ++ (s.monitors.filter gone).flatMap JsInputMonitor.evQueue := by
      simp [stopAll, List.map_flatMap, Function.comp_def]
    rw [List.flatMap_append, List.countP_append] at hsplit
    rw [List.nil_append, countP_unmarked, countP_unmarked, hdropped, List.countP_append]
    simp only [stopAll]
    omega
  · refine List.Sublist.append_right (List.Sublist.append_left ?_ _) _
    exact (hwaiting id).map _

theorem removeMonitor_goes (h : s.Kept) (hposted : s.Posted fun _ => False) (jsEnv : Nat)
    (typeName : MonitorType) (callback : Option Nat) :
    Goes s (s.removeMonitor jsEnv typeName callback) := by
  unfold removeMonitor
  split
  · exact stopAll_goes h hposted _
  · split
    · exact .refl h hposted
    · exact stopAll_goes h hposted _

theorem served_startMonitor (s : JsInputMonitorManager) (id : Nat) (initClient : Bool) (ret : Int) :
    Served [] s.service (s.startMonitor id initClient ret).2 := by
  unfold startMonitor
  split
  · exact served_nil s.service
  · refine served_step s.service (.addHandler .monitor id handleEventTypeAll ret) ?_ trivial
    dsimp only [ConsumerService.step]
    split <;> rfl

theorem addMonitor_goes (h : s.Kept) (hposted : s.Posted fun _ => False) (jsEnv : Nat)
    (typeName : MonitorType) (callback : Nat) (initClient : Bool) (ret : Int) :
    Goes s (s.addMonitor jsEnv typeName callback initClient ret) := by
  have hserved := served_startMonitor s s.nextId initClient ret
  unfold addMonitor
  split
  · exact .refl h hposted
  dsimp only
  split
  · exact ⟨⟨[], passes_stay rfl rfl (fun _ => rfl) rfl rfl rfl hserved⟩,
      ⟨h.nodup, fun item hitem => Nat.lt_succ_of_lt (h.lt item hitem), h.monitoring, h.few, h.free⟩,
      hposted⟩
  generalize hnew : ({ monitor := ⟨(s.startMonitor s.nextId initClient ret).1, false⟩, evQueue := []
                       receiver := callback, jsEnv, typeName, monitorId := s.nextId
                       isMonitoring := true } : JsInputMonitor) = new
  have hqueue : new.evQueue = [] := by rw [← hnew]
  have hid : new.monitorId = s.nextId := by rw [← hnew]
  have hmem : ∀ item ∈ s.monitors ++ [new], item ∈ s.monitors ∨ item = new := fun item hitem =>
    (List.mem_append.mp hitem).imp_right List.mem_singleton.mp
  refine ⟨⟨[], passes_stay rfl ?_ (fun id => ?_) rfl rfl rfl hserved⟩, ⟨?_, ?_, ?_, ?_, ?_⟩, ?_⟩
  · simp [hqueue]
  · unfold waiting getMonitor
    rw [List.find?_append]
    cases s.monitors.find? fun item => decide (item.monitorId = id) with
    | some item => rfl
    | none =>
      by_cases heq : s.nextId = id
      · simp [hid, heq, hqueue]
      · simp [hid, heq]
  · show ((s.monitors ++ [new]).map _).Nodup
    rw [List.map_append, List.map_singleton, List.nodup_append]
    refine ⟨h.nodup, List.nodup_singleton _, fun id hmem' id' hid' heq => ?_⟩
    obtain ⟨item, hitem, rfl⟩ := List.mem_map.mp hmem'
    rw [List.mem_singleton.mp hid', hid] at heq
    exact absurd (h.lt item hitem) (by omega)
  · intro item hitem
    rcases hmem item hitem with hitem | rfl
    · exact Nat.lt_succ_of_lt (h.lt item hitem)
    · exact hid ▸ Nat.lt_succ_self _
  · intro item hitem
    rcases hmem item hitem with hitem | rfl
    · exact h.monitoring item hitem
    · rw [← hnew]
  · intro item hitem
    rcases hmem item hitem with hitem | rfl
    · exact h.few item hitem
    · simp [hqueue]
  · intro item hitem call hcall heq
    rcases hmem item hitem with hitem | rfl
    · exact h.free item hitem call hcall heq
    · exact hqueue
  · intro item hitem _ hne
    rcases hmem item hitem with hitem | rfl
    · exact hposted item hitem (fun h => h) hne
    · exact absurd hqueue hne

/-! ## The invariant -/

/-- Where the copies are. -/
structure Accounted (s : JsInputMonitorManager) : Prop where
  nodup : (copies s.unmarked).Nodup
  known : ∀ e ∈ s.unmarked, ∃ copy, s.service.copies[e.copy]? = some copy ∧
    copy.eventId = e.event.id ∧ copy.callback = true
  rest : ∀ i copy, s.service.copies[i]? = some copy → copy.callback = true →
    i ∈ copies s.unmarked

/-- The copies for a monitor are in the order of their events. -/
def Ordered (s : JsInputMonitorManager) : Prop :=
  ∀ id, (s.line id).Pairwise (· < ·) ∧ ∀ i ∈ s.line id, i < s.service.copies.length

structure Sound (s : JsInputMonitorManager) : Prop where
  kept : s.Kept
  posted : s.Posted fun _ => False
  accounted : s.Accounted
  ordered : s.Ordered

theorem Passes.accounted {marked : List TempEvent} (hpasses : Passes s s' marked)
    (h : s.Accounted) : s'.Accounted := by
  have hperm : (copies s.unmarked).Perm (copies marked ++ copies s'.unmarked) := by
    have := hpasses.perm.map TempEvent.copy
    rwa [List.map_append] at this
  obtain ⟨-, hnodup, hapart⟩ := List.nodup_append.mp (hperm.nodup_iff.mp h.nodup)
  refine ⟨hnodup, fun e he => ?_, fun i copy hget hcallback => ?_⟩
  · obtain ⟨copy, hget, hid, hcallback⟩ :=
      h.known e (hpasses.perm.mem_iff.mpr (List.mem_append_right _ he))
    have hnot : e.copy ∉ copies marked := fun hmem =>
      hapart _ hmem _ (List.mem_map_of_mem he) rfl
    refine ⟨copy, ?_, hid, hcallback⟩
    rw [hpasses.served.copies, hget, Option.map_some, if_neg hnot]
  · rw [hpasses.served.copies] at hget
    obtain ⟨old, hold, rfl⟩ := Option.map_eq_some_iff.mp hget
    by_cases hi : i ∈ copies marked
    · simp [hi] at hcallback
    · rw [if_neg hi] at hcallback
      exact (List.mem_append.mp (hperm.mem_iff.mp (h.rest i old hold hcallback))).resolve_left hi

theorem Passes.ordered {marked : List TempEvent} (hpasses : Passes s s' marked)
    (h : s.Ordered) : s'.Ordered := by
  intro id
  refine ⟨(h id).1.sublist (hpasses.line id), fun i hi => ?_⟩
  have hlt := (h id).2 i ((hpasses.line id).subset hi)
  have hsome := hpasses.served.copies i
  rw [List.getElem?_eq_getElem hlt] at hsome
  exact (List.getElem?_eq_some_iff.mp hsome).1

theorem Goes.sound (h : Goes s s') (hs : s.Sound) : s'.Sound := by
  obtain ⟨marked, hpasses⟩ := h.passes
  exact ⟨h.kept, h.posted, hpasses.accounted hs.accounted, hpasses.ordered hs.ordered⟩

/-! ## An event that comes -/

/-- What is put on its way for an event. -/
def deliveriesOf (first : Nat) (event : PointerEvent) (consumers : List Handler) : List Delivery :=
  consumers.zipIdx.map fun consumer =>
    ⟨consumer.1.consumer, ⟨first + consumer.2, event⟩, false⟩

theorem deliveriesOf_copies (first : Nat) (event : PointerEvent) (consumers : List Handler) :
    (deliveriesOf first event consumers).map (fun d => d.tempEvent.copy)
      = List.range' first consumers.length := by
  rw [deliveriesOf, List.map_map]
  have hsnd : (consumers.zipIdx.map Prod.snd).map (first + ·)
      = List.range' first consumers.length := by
    rw [List.zipIdx_map_snd, List.map_add_range', Nat.add_zero]
  rw [← hsnd, List.map_map]
  rfl

theorem mem_deliveriesOf {first : Nat} {event : PointerEvent} {consumers : List Handler}
    {d : Delivery} (hd : d ∈ deliveriesOf first event consumers) :
    d.tempEvent.event = event ∧ first ≤ d.tempEvent.copy ∧
      d.tempEvent.copy < first + consumers.length := by
  have hcopy := List.mem_map_of_mem (f := fun d : Delivery => d.tempEvent.copy) hd
  rw [deliveriesOf_copies, List.mem_range'_1] at hcopy
  obtain ⟨consumer, -, rfl⟩ := List.mem_map.mp hd
  exact ⟨rfl, hcopy⟩

theorem onInputEvent_sound (hs : s.Sound) (event : PointerEvent) :
    (s.onInputEvent event).Sound := by
  unfold onInputEvent
  split
  · exact hs
  rename_i hidle
  have hidle : s.deliveries = [] := not_not.mp hidle
  generalize hconsumers : (s.service.manager.getConsumerInfos EventHandler.tokenHap
    event.sourceType event.id).1 = consumers
  dsimp only
  rw [← deliveriesOf]
  generalize hservice : s.service.onInputEvent event.sourceType event.id = service
  have hcopies : service.copies = s.service.copies ++
      consumers.map fun handler => ⟨event.id, event.sourceType, handler.handlerId, true⟩ := by
    rw [← hservice, ← hconsumers]
    rfl
  generalize hnew : deliveriesOf s.service.copies.length event consumers = new
  have hrange := deliveriesOf_copies s.service.copies.length event consumers
  rw [hnew] at hrange
  have hall : ({ s with service, deliveries := new } : JsInputMonitorManager).unmarked
      = new.map Delivery.tempEvent ++ s.unmarked := by
    simp [unmarked, held, hidle]
  have hold : ∀ i ∈ copies s.unmarked, i < s.service.copies.length := fun i hi => by
    obtain ⟨e, he, rfl⟩ := List.mem_map.mp hi
    obtain ⟨copy, hget, -⟩ := hs.accounted.known e he
    exact (List.getElem?_eq_some_iff.mp hget).1
  have hnewCopies : copies (new.map Delivery.tempEvent)
      = List.range' s.service.copies.length consumers.length := by
    rw [← hrange, copies, List.map_map]
    rfl
  refine ⟨hs.kept.of_same rfl rfl fun _ => .inl, hs.posted.of_same rfl fun _ h => h,
    ⟨?_, fun e he => ?_, fun i copy hget hcallback => ?_⟩, fun id => ⟨?_, fun i hi => ?_⟩⟩
  · rw [hall, copies, List.map_append, List.nodup_append]
    refine ⟨?_, hs.accounted.nodup, fun i hi j hj heq => ?_⟩
    · rw [← copies, hnewCopies]
      exact List.nodup_range'
    · rw [← copies, hnewCopies, List.mem_range'_1] at hi
      exact absurd (hold j hj) (by omega)
  · rw [hall] at he
    rcases List.mem_append.mp he with he | he
    · obtain ⟨d, hd, rfl⟩ := List.mem_map.mp he
      obtain ⟨hevent, hfirst, hlast⟩ := mem_deliveriesOf (hnew ▸ hd)
      have hlt : d.tempEvent.copy - s.service.copies.length < consumers.length := by omega
      refine ⟨⟨event.id, event.sourceType,
        (consumers[d.tempEvent.copy - s.service.copies.length]).handlerId, true⟩, ?_,
        by rw [hevent], rfl⟩
      show service.copies[d.tempEvent.copy]? = _
      rw [hcopies, List.getElem?_append_right hfirst, List.getElem?_map,
        List.getElem?_eq_getElem hlt]
      rfl
    · obtain ⟨copy, hget, hrest⟩ := hs.accounted.known e he
      refine ⟨copy, ?_, hrest⟩
      show service.copies[e.copy]? = _
      rw [hcopies, List.getElem?_append_left (hold _ (List.mem_map_of_mem he)), hget]
  · replace hget : service.copies[i]? = some copy := hget
    rw [hcopies] at hget
    rw [hall, copies, List.map_append, ← copies, hnewCopies, List.mem_append, List.mem_range'_1]
    by_cases hi : i < s.service.copies.length
    · rw [List.getElem?_append_left hi] at hget
      exact .inr (hs.accounted.rest i copy hget hcallback)
    · have hlt := (List.getElem?_eq_some_iff.mp hget).1
      rw [List.length_append, List.length_map] at hlt
      exact .inl ⟨by omega, hlt⟩
  · have hline := (hs.ordered id).1
    have hbefore := (hs.ordered id).2
    simp only [line, hidle, List.filter_nil, List.map_nil, List.append_nil] at hline hbefore
    refine List.pairwise_append.mpr ⟨hline, ?_, fun i hi j hj => ?_⟩
    · refine List.Pairwise.sublist (List.filter_sublist.map _) ?_
      rw [hrange]
      exact List.pairwise_lt_range'
    · obtain ⟨d, hd, rfl⟩ := List.mem_map.mp hj
      have hfirst := (mem_deliveriesOf (hnew ▸ List.mem_of_mem_filter hd)).2.1
      exact Nat.lt_of_lt_of_le (hbefore i hi) hfirst
  · have hbefore := (hs.ordered id).2
    simp only [line, hidle, List.filter_nil, List.map_nil, List.append_nil] at hbefore
    show i < service.copies.length
    rw [hcopies, List.length_append, List.length_map]
    rcases List.mem_append.mp hi with hi | hi
    · exact Nat.lt_of_lt_of_le (hbefore i hi) (Nat.le_add_right _ _)
    · obtain ⟨d, hd, rfl⟩ := List.mem_map.mp hi
      exact (mem_deliveriesOf (hnew ▸ List.mem_of_mem_filter hd)).2.2

/-! ## Runs -/

theorem create_sound : create.Sound where
  kept := ⟨List.nodup_nil, by simp [create], by simp [create], by simp [create], by simp [create]⟩
  posted := by simp [Posted, create]
  accounted := ⟨List.nodup_nil, by simp [unmarked, held, create],
    by simp [create, ConsumerService.create]⟩
  ordered := fun id => by simp [line, waiting, getMonitor, copies, create]

theorem step_goes (hs : s.Sound) {i : MonitorInput} (hi : ∀ event, i ≠ .onInputEvent event) :
    Goes s (s.step i) := by
  cases i with
  | addMonitor jsEnv typeName callback initClient ret =>
    exact addMonitor_goes hs.kept hs.posted jsEnv typeName callback initClient ret
  | removeMonitor jsEnv typeName callback =>
    exact removeMonitor_goes hs.kept hs.posted jsEnv typeName callback
  | removeEnv jsEnv => exact stopAll_goes hs.kept hs.posted _
  | onInputEvent event => exact absurd rfl (hi event)
  | consume => exact consume_goes hs.kept hs.posted
  | jsCallback task => exact jsCallback_goes hs.kept hs.posted task
  | callReturned call result => exact callReturned_goes hs.kept hs.posted call result

theorem step_sound (s : JsInputMonitorManager) (i : MonitorInput) (hs : s.Sound) :
    (s.step i).Sound := by
  by_cases hi : ∃ event, i = .onInputEvent event
  · obtain ⟨event, rfl⟩ := hi
    exact onInputEvent_sound hs event
  · exact (step_goes hs fun event heq => hi ⟨event, heq⟩).sound hs

/-- In every state of every run, a monitor keeps one event at most, and while it
keeps one a task is posted for it and its callback does not run. The events that
the callback was called with, the one that waits and those on their way are in the
order in which they came, and none is there twice. -/
theorem run_inOrder (inputs : List MonitorInput) :
    Always step (fun s =>
      (∀ item ∈ s.monitors, item.evQueue.length ≤ 1 ∧ (item.evQueue ≠ [] →
        item.monitorId ∈ s.tasks ∧ ∀ call ∈ s.calls, call.monitorId ≠ item.monitorId)) ∧
      ∀ id, (s.line id).Pairwise (· < ·)) create inputs := by
  refine (always_of_step step_sound inputs _ create_sound).mono fun s hs => ⟨fun item hitem => ?_,
    fun id => (hs.ordered id).1⟩
  refine ⟨hs.kept.few item hitem, fun hne => ⟨hs.posted item hitem (fun h => h) hne,
    fun call hcall heq => hne (hs.kept.free item hitem call hcall heq)⟩⟩

/-- An event has an id of its own. -/
def Fresh (s : JsInputMonitorManager) : MonitorInput → Prop
  | .onInputEvent event => event.id ∉ s.service.copies.map Copy.eventId
  | _ => True

theorem step_soundCounted (s : JsInputMonitorManager) (i : MonitorInput)
    (hs : s.Sound ∧ Counted s.service) (hfresh : s.Fresh i) :
    (s.step i).Sound ∧ Counted (s.step i).service := by
  refine ⟨step_sound s i hs.1, ?_⟩
  by_cases hi : ∃ event, i = .onInputEvent event
  · obtain ⟨event, rfl⟩ := hi
    show Counted (s.onInputEvent event).service
    unfold onInputEvent
    split
    · exact hs.2
    · exact hs.2.onInputEvent hfresh event.sourceType
  · obtain ⟨marked, hpasses⟩ := (step_goes hs.1 fun event heq => hi ⟨event, heq⟩).passes
    exact hpasses.served.counted hs.2

instance (s : JsInputMonitorManager) (i : MonitorInput) : Decidable (s.Fresh i) := by
  cases i <;> unfold Fresh <;> infer_instance

/-- Of a touch event that monitors were to get, the server is told once, as soon as
none of its copies is on its way, waits or is with a callback; and never, if a copy
was dropped. -/
def ToldOnce (s : JsInputMonitorManager) : Prop :=
  ∀ copy ∈ s.service.copies, copy.sourceType = sourceTypeTouchscreen →
    s.service.sent.count copy.eventId
      = if copy.eventId ∈ s.unmarked.map fun e => e.event.id then 0 else 1

/-- In every state of every run whose events have ids of their own. -/
theorem run_told (inputs : List MonitorInput) (hfresh : AllSteps step Fresh create inputs) :
    Always step ToldOnce create inputs := by
  refine (always_of_allSteps step_soundCounted inputs _ ⟨create_sound, create_counted⟩ hfresh).mono
    fun s ⟨hs, hcounted⟩ copy hcopy htouch => ?_
  rw [(hcounted.touch copy hcopy htouch).sent]
  have hpending : s.service.pending copy.eventId = 0 ↔
      copy.eventId ∉ s.unmarked.map fun e => e.event.id := by
    rw [ConsumerService.pending, List.countP_eq_zero]
    constructor
    · intro hnone hmem
      obtain ⟨e, he, hid⟩ := List.mem_map.mp hmem
      obtain ⟨other, hget, hother, hcallback⟩ := hs.accounted.known e he
      exact hnone other (List.mem_of_getElem? hget) (by simp [hother, hid, hcallback])
    · intro hnone other hother hpending
      obtain ⟨hid, hcallback⟩ : other.eventId = copy.eventId ∧ other.callback = true := by
        simpa using hpending
      obtain ⟨i, hlt, hget⟩ := List.mem_iff_getElem.mp hother
      have hget : s.service.copies[i]? = some other := List.getElem?_eq_some_iff.mpr ⟨hlt, hget⟩
      obtain ⟨e, he, hcopy⟩ := List.mem_map.mp (hs.accounted.rest i other hget hcallback)
      obtain ⟨same, hsame, heid, -⟩ := hs.accounted.known e he
      rw [hcopy, hget] at hsame
      obtain rfl := Option.some.inj hsame
      exact hnone (List.mem_map.mpr ⟨e, he, heid.symm.trans hid⟩)
  by_cases hmem : copy.eventId ∈ s.unmarked.map fun e => e.event.id
  · rw [if_pos hmem, if_neg fun hzero => hpending.mp hzero hmem]
  · rw [if_neg hmem, if_pos (hpending.mpr hmem)]

/-- One finger on the screen. -/
def touchEvent (eventId pointerAction : Int32) : PointerEvent :=
  ((((PointerEvent.create 0).setId eventId).setSourceType sourceTypeTouchscreen).setPointerId 0
    |>.setPointerAction pointerAction).addPointerItem { pointerId := 0, pressed := true }

/-- A finger goes down, and moves before the callback was called. -/
def droppedMove : List MonitorInput :=
  [.addMonitor 0 .touch 1 true retOk, .onInputEvent (touchEvent 5 pointerActionDown), .consume,
    .consume, .onInputEvent (touchEvent 6 pointerActionMove), .consume, .consume, .jsCallback 0,
    .callReturned 0 (.boolean false)]

/-- The server is told of the first event and will not be told of the second. -/
theorem run_told_droppedMove :
    (runFrom step create droppedMove).service.sent = [5] ∧
      (runFrom step create droppedMove).dropped.map (fun e => e.2.event.id) = [6] ∧
      Always step ToldOnce create droppedMove :=
  ⟨by decide +kernel, by decide +kernel, run_told droppedMove (by decide +kernel)⟩

end JsInputMonitorManager

end FtMmi.JsMonitor
