/-
FtMmi.JsMonitor.WaitingEvents — what becomes of the events that JavaScript
monitors get.

A monitor keeps one event at most. An event that comes while one waits takes
its place if a finger goes down or up, and is dropped otherwise.

`Kept` and `Posted` are the invariant of the queues and the tasks. `Passes`
says what a step does with the events of the process: it marks the copies of
some, and keeps the rest in their order.
-/
import FtMmi.JsMonitor.JsInputMonitor
import FtMmi.Lib.StepSystem

namespace FtMmi.JsMonitor

open FtMmi.Event
open FtMmi.InputHandler
open FtMmi.Lib
open FtMmi.WindowManager

namespace JsInputMonitorManager

variable {s s' s'' : JsInputMonitorManager} {id : Nat} {item : JsInputMonitor}

/-! ## The monitors -/

structure Kept (s : JsInputMonitorManager) : Prop where
  nodup : (s.monitors.map JsInputMonitor.monitorId).Nodup
  lt : ∀ item ∈ s.monitors, item.monitorId < s.nextId
  monitoring : ∀ item ∈ s.monitors, item.isMonitoring = true
  few : ∀ item ∈ s.monitors, item.evQueue.length ≤ 1
  /-- Nothing waits while the callback runs. -/
  free : ∀ item ∈ s.monitors, ∀ call ∈ s.calls, call.monitorId = item.monitorId →
    item.evQueue = []

/-- Where an event waits, a task is posted, but for the monitors exempted. -/
def Posted (s : JsInputMonitorManager) (exempt : Nat → Prop) : Prop :=
  ∀ item ∈ s.monitors, ¬ exempt item.monitorId → item.evQueue ≠ [] → item.monitorId ∈ s.tasks

theorem Kept.getMonitor_iff (h : s.Kept) :
    s.getMonitor id = some item ↔ item ∈ s.monitors ∧ item.monitorId = id :=
  find?_key_iff h.nodup

theorem Kept.tail_eq_nil {front : TempEvent} {tail : List TempEvent} (h : s.Kept)
    (hitem : item ∈ s.monitors) (hqueue : item.evQueue = front :: tail) : tail = [] := by
  have hfew := h.few item hitem
  rw [hqueue, List.length_cons] at hfew
  exact List.eq_nil_of_length_eq_zero (by omega)

theorem getMonitor_none (h : s.getMonitor id = none) (item : JsInputMonitor)
    (hitem : item ∈ s.monitors) : item.monitorId ≠ id := by
  simpa using List.find?_eq_none.mp h item hitem

theorem getMonitor_write (item : JsInputMonitor) (id : Nat) :
    (s.write item).getMonitor id
      = if id = item.monitorId then (s.getMonitor id).map fun _ => item else s.getMonitor id :=
  find?_replaceKey ..

/-- One monitor is written to. -/
theorem write_split (h : s.Kept) (hitem : item ∈ s.monitors) {item' : JsInputMonitor}
    (hid : item'.monitorId = item.monitorId) :
    ∃ before after, s.monitors = before ++ item :: after ∧
      (s.write item').monitors = before ++ item' :: after := by
  obtain ⟨before, after, hsplit⟩ := List.append_of_mem hitem
  refine ⟨before, after, hsplit, ?_⟩
  have hnodup := h.nodup
  rw [hsplit] at hnodup
  show replaceKey _ _ s.monitors = _
  rw [hsplit, replaceKey_append_cons hnodup hid]

theorem Kept.of_same (h : s.Kept) (hmonitors : s'.monitors = s.monitors)
    (hnext : s'.nextId = s.nextId)
    (hcalls : ∀ call ∈ s'.calls, call ∈ s.calls ∨ ∀ item ∈ s.monitors,
      call.monitorId = item.monitorId → item.evQueue = []) : s'.Kept := by
  refine ⟨hmonitors ▸ h.nodup, ?_, ?_, ?_, ?_⟩
  · rw [hmonitors, hnext]
    exact h.lt
  · rw [hmonitors]
    exact h.monitoring
  · rw [hmonitors]
    exact h.few
  · rw [hmonitors]
    intro item hitem call hcall heq
    rcases hcalls call hcall with hcall | hfree
    · exact h.free item hitem call hcall heq
    · exact hfree item hitem heq

theorem Posted.of_same {exempt : Nat → Prop} (h : s.Posted exempt)
    (hmonitors : s'.monitors = s.monitors) (htasks : ∀ id ∈ s.tasks, id ∈ s'.tasks) :
    s'.Posted exempt := fun item hitem hexempt hne =>
  htasks _ (h item (hmonitors ▸ hitem) hexempt hne)

theorem Posted.write {exempt : Nat → Prop} (h : s.Posted exempt)
    (hnew : ¬ exempt item.monitorId → item.evQueue ≠ [] → item.monitorId ∈ s.tasks) :
    (s.write item).Posted exempt := by
  intro other hother hexempt hne
  rcases mem_replaceKey.mp hother with ⟨rfl, -⟩ | ⟨hother, -⟩
  · exact hnew hexempt hne
  · exact h other hother hexempt hne

theorem Kept.write (h : s.Kept) (hitem : item ∈ s.monitors) {item' : JsInputMonitor}
    (hid : item'.monitorId = item.monitorId) (hmonitoring : item'.isMonitoring = item.isMonitoring)
    (hfew : item'.evQueue.length ≤ 1)
    (hfree : ∀ call ∈ s.calls, call.monitorId = item.monitorId → item'.evQueue = []) :
    (s.write item').Kept := by
  have hmem : ∀ other ∈ (s.write item').monitors,
      other = item' ∨ other ∈ s.monitors ∧ other.monitorId ≠ item'.monitorId := fun other hother =>
    (mem_replaceKey.mp hother).imp And.left fun h => h
  constructor
  · show (replaceKey _ _ s.monitors |>.map _).Nodup
    rw [replaceKey_keys]
    exact h.nodup
  · intro other hother
    rcases hmem other hother with rfl | ⟨hother, -⟩
    · exact hid ▸ h.lt item hitem
    · exact h.lt other hother
  · intro other hother
    rcases hmem other hother with rfl | ⟨hother, -⟩
    · exact hmonitoring.trans (h.monitoring item hitem)
    · exact h.monitoring other hother
  · intro other hother
    rcases hmem other hother with rfl | ⟨hother, -⟩
    · exact hfew
    · exact h.few other hother
  · intro other hother call hcall heq
    rcases hmem other hother with rfl | ⟨hother, -⟩
    · exact hfree call hcall (heq.trans hid)
    · exact h.free other hother call hcall heq

/-! ## The events of the process -/

/-- The events that the process holds. -/
def held (s : JsInputMonitorManager) : List TempEvent :=
  s.deliveries.map Delivery.tempEvent ++ s.monitors.flatMap JsInputMonitor.evQueue
    ++ s.calls.map Call.tempEvent

/-- The events that are not marked. -/
def unmarked (s : JsInputMonitorManager) : List TempEvent := s.held ++ s.dropped.map Prod.snd

def copies (events : List TempEvent) : List Nat := events.map TempEvent.copy

/-- The queue of the monitor with the id. -/
def waiting (s : JsInputMonitorManager) (id : Nat) : List TempEvent :=
  ((s.getMonitor id).map JsInputMonitor.evQueue).getD []

/-- The copies for the monitor with the id: those that its callback was called with,
those that wait, and those on their way. -/
def line (s : JsInputMonitorManager) (id : Nat) : List Nat :=
  ((s.called.filter fun call => call.monitorId = id).map fun call => call.tempEvent.copy)
    ++ copies (s.waiting id)
    ++ (s.deliveries.filter fun d => d.monitorId = id).map fun d => d.tempEvent.copy

/-- The copies with the indices have lost their callbacks, and the manager knows it. -/
structure Served (marked : List Nat) (v v' : ConsumerService) : Prop where
  copies : ∀ i : Nat, v'.copies[i]? = v.copies[i]?.map fun copy =>
    if i ∈ marked then { copy with callback := false } else copy
  counted : Counted v → Counted v'

theorem served_nil (v : ConsumerService) : Served [] v v := ⟨fun i => by simp, fun h => h⟩

theorem Served.trans {marked marked' : List Nat} {v v' v'' : ConsumerService}
    (h : Served marked v v') (h' : Served marked' v' v'') : Served (marked ++ marked') v v'' := by
  refine ⟨fun i => ?_, fun hv => h'.counted (h.counted hv)⟩
  rw [h'.copies i, h.copies i]
  cases v.copies[i]? with
  | none => rfl
  | some copy =>
    simp only [Option.map_some, List.mem_append]
    by_cases hi : i ∈ marked <;> by_cases hi' : i ∈ marked' <;> simp [hi, hi']

theorem served_markProcessed (v : ConsumerService) (index : Nat) :
    Served [index] v (v.markProcessed index) := by
  refine ⟨fun i => ?_, fun hv => hv.markProcessed index⟩
  unfold ConsumerService.markProcessed
  cases hget : v.copies[index]? with
  | none =>
    by_cases hi : i = index
    · simp [hi, hget]
    · simp [hi]
  | some copy =>
    by_cases hi : i = index
    · subst hi
      obtain ⟨hlt, hcopy⟩ := List.getElem?_eq_some_iff.mp hget
      cases hcallback : copy.callback with
      | false =>
        have hsame : ({ copy with callback := false } : Copy) = copy := by rw [← hcallback]
        simp [hget, hcallback, hsame]
      | true => simp [hcallback, hlt, hcopy]
    · cases hcallback : copy.callback with
      | false => simp [hcallback, hi]
      | true => simp [hcallback, hi, List.getElem?_set_ne (Ne.symm hi)]

/-- A step of the manager that hands no event out. -/
theorem served_step (v : ConsumerService) (i : ConsumerInput)
    (hcopies : (v.step i).copies = v.copies) (hfresh : v.Fresh i) : Served [] v (v.step i) :=
  ⟨fun k => by simp [hcopies], fun hv => step_counted v i hv hfresh⟩

/-- The process marks events, and keeps the rest in their order. -/
structure Passes (s s' : JsInputMonitorManager) (marked : List TempEvent) : Prop where
  perm : s.unmarked.Perm (marked ++ s'.unmarked)
  line : ∀ id, (s'.line id).Sublist (s.line id)
  served : Served (copies marked) s.service s'.service

theorem Passes.refl (s : JsInputMonitorManager) : Passes s s [] :=
  ⟨List.Perm.refl _, fun _ => List.Sublist.refl _, served_nil _⟩

theorem Passes.trans {marked marked' : List TempEvent} (h : Passes s s' marked)
    (h' : Passes s' s'' marked') : Passes s s'' (marked ++ marked') where
  perm := by
    rw [List.append_assoc]
    exact h.perm.trans (h'.perm.append_left marked)
  line id := (h'.line id).trans (h.line id)
  served := by
    rw [copies, List.map_append]
    exact h.served.trans h'.served

/-! ## One event -/

theorem perm_of_countP {xs ys : List TempEvent}
    (h : ∀ p : TempEvent → Bool, xs.countP p = ys.countP p) : xs.Perm ys := by
  classical
  exact List.perm_iff_count.mpr fun e => h fun other => other == e

theorem countP_unmarked (s : JsInputMonitorManager) (p : TempEvent → Bool) :
    s.unmarked.countP p = (s.deliveries.map Delivery.tempEvent).countP p
      + (s.monitors.flatMap JsInputMonitor.evQueue).countP p
      + (s.calls.map Call.tempEvent).countP p + (s.dropped.map Prod.snd).countP p := by
  simp only [unmarked, held, List.countP_append]

theorem waiting_of_monitors (h : s'.monitors = s.monitors) (id : Nat) :
    s'.waiting id = s.waiting id := by
  unfold waiting getMonitor
  rw [h]

theorem waiting_write (h : s.Kept) (hitem : item ∈ s.monitors) (item' : JsInputMonitor)
    (hid : item'.monitorId = item.monitorId) (id : Nat) :
    (s.write item').waiting id
      = if id = item.monitorId then item'.evQueue else s.waiting id := by
  unfold waiting
  rw [getMonitor_write, hid]
  by_cases heq : id = item.monitorId
  · rw [if_pos heq, if_pos heq, h.getMonitor_iff.mpr ⟨hitem, heq.symm⟩]
    rfl
  · rw [if_neg heq, if_neg heq]

theorem waiting_self (h : s.Kept) (hitem : item ∈ s.monitors) :
    s.waiting item.monitorId = item.evQueue := by
  unfold waiting
  rw [h.getMonitor_iff.mpr ⟨hitem, rfl⟩]
  rfl

variable {d : Delivery} {rest : List Delivery}

/-- The first event on its way is let go of. -/
theorem passes_drop (hd : s.deliveries = d :: rest) (hrest : s'.deliveries = rest)
    (hmonitors : s'.monitors = s.monitors) (hcalls : s'.calls = s.calls)
    (hcalled : s'.called = s.called)
    (hdropped : s'.dropped = s.dropped ++ [(d.monitorId, d.tempEvent)])
    (hservice : s'.service = s.service) : Passes s s' [] where
  perm := perm_of_countP fun p => by
    simp only [List.nil_append, countP_unmarked, hd, hrest, hmonitors, hcalls, hdropped,
      List.map_cons, List.map_append, List.map_nil, List.countP_append, List.countP_cons,
      List.countP_nil]
    omega
  line id := by
    simp only [line, waiting_of_monitors hmonitors, hd, hrest, hcalled]
    refine List.Sublist.append_left (List.Sublist.map _ ?_) _
    exact (List.sublist_cons_self d rest).filter _
  served := hservice ▸ served_nil s.service

/-- The first event on its way is marked. -/
theorem passes_mark (hd : s.deliveries = d :: rest) (hrest : s'.deliveries = rest)
    (hmonitors : s'.monitors = s.monitors) (hcalls : s'.calls = s.calls)
    (hcalled : s'.called = s.called) (hdropped : s'.dropped = s.dropped)
    (hservice : s'.service = s.service.markProcessed d.tempEvent.copy) :
    Passes s s' [d.tempEvent] where
  perm := perm_of_countP fun p => by
    simp only [List.countP_append, countP_unmarked, hd, hrest, hmonitors, hcalls, hdropped,
      List.map_cons, List.countP_cons, List.countP_nil]
    omega
  line id := by
    simp only [line, waiting_of_monitors hmonitors, hd, hrest, hcalled]
    refine List.Sublist.append_left (List.Sublist.map _ ?_) _
    exact (List.sublist_cons_self d rest).filter _
  served := hservice ▸ served_markProcessed s.service d.tempEvent.copy

/-- The events stay where they are. -/
theorem passes_stay
    (hdeliveries : s'.deliveries.map (fun d => (d.monitorId, d.tempEvent))
      = s.deliveries.map fun d => (d.monitorId, d.tempEvent))
    (hqueues : s'.monitors.flatMap JsInputMonitor.evQueue
      = s.monitors.flatMap JsInputMonitor.evQueue)
    (hwaiting : ∀ id, s'.waiting id = s.waiting id) (hcalls : s'.calls = s.calls)
    (hcalled : s'.called = s.called) (hdropped : s'.dropped = s.dropped)
    (hserved : Served [] s.service s'.service) : Passes s s' [] where
  perm := by
    have hevents := congrArg (List.map Prod.snd) hdeliveries
    simp only [List.map_map] at hevents
    rw [List.nil_append, unmarked, unmarked, held, held, hqueues, hcalls, hdropped]
    rw [show s'.deliveries.map Delivery.tempEvent = s.deliveries.map Delivery.tempEvent from
      hevents]
  line id := by
    have hevents := congrArg (fun ds => (ds.filter fun d => decide (d.1 = id)).map
      fun d : Nat × TempEvent => d.2.copy) hdeliveries
    simp only [List.filter_map, List.map_map] at hevents
    rw [line, line, hwaiting, hcalled]
    rw [show (s'.deliveries.filter fun d => decide (d.monitorId = id)).map
        (fun d => d.tempEvent.copy) = (s.deliveries.filter fun d => decide (d.monitorId = id)).map
        fun d => d.tempEvent.copy from hevents]
  served := hserved

theorem queues_write (h : s.Kept) (hitem : item ∈ s.monitors) (item' : JsInputMonitor)
    (hid : item'.monitorId = item.monitorId) (p : TempEvent → Bool) :
    ((s.write item').monitors.flatMap JsInputMonitor.evQueue).countP p + item.evQueue.countP p
      = (s.monitors.flatMap JsInputMonitor.evQueue).countP p + item'.evQueue.countP p := by
  obtain ⟨before, after, hsplit, hwritten⟩ := write_split h hitem hid
  rw [hwritten, hsplit]
  simp only [List.flatMap_append, List.flatMap_cons, List.countP_append]
  omega

/-- The first event on its way takes the place of those that wait. -/
theorem passes_push (h : s.Kept) (hd : s.deliveries = d :: rest) (hitem : item ∈ s.monitors)
    (hid : item.monitorId = d.monitorId) (hrest : s'.deliveries = rest)
    (hmonitors : s'.monitors = (s.write { item with evQueue := [d.tempEvent] }).monitors)
    (hcalls : s'.calls = s.calls) (hcalled : s'.called = s.called)
    (hdropped : s'.dropped = s.dropped)
    (hserved : Served (copies item.evQueue) s.service s'.service) :
    Passes s s' item.evQueue where
  perm := perm_of_countP fun p => by
    have hqueues := queues_write h hitem { item with evQueue := [d.tempEvent] } rfl p
    simp only [List.countP_append, countP_unmarked, hd, hrest, hmonitors, hcalls, hdropped,
      List.map_cons, List.countP_cons, List.countP_nil] at hqueues ⊢
    omega
  line id := by
    simp only [line, waiting_of_monitors hmonitors,
      waiting_write h hitem { item with evQueue := [d.tempEvent] } rfl, hd, hrest, hcalled]
    rw [List.append_assoc, List.append_assoc]
    refine List.Sublist.append_left ?_ _
    by_cases heq : id = item.monitorId
    · rw [if_pos heq, heq, waiting_self h hitem, List.filter_cons_of_pos (by simp [hid])]
      exact List.sublist_append_right _ _
    · rw [if_neg heq, List.filter_cons_of_neg (by simpa [hid] using Ne.symm heq)]
  served := hserved

variable {front : TempEvent} {queue : List TempEvent}

/-- The first event that waits is handed to the callback. -/
theorem passes_call (h : s.Kept) (hitem : item ∈ s.monitors)
    (hqueue : item.evQueue = front :: queue) {call : Call}
    (hcall : call.monitorId = item.monitorId ∧ call.tempEvent = front)
    (hdeliveries : s'.deliveries = s.deliveries)
    (hmonitors : s'.monitors = (s.write { item with evQueue := queue }).monitors)
    (hcalls : s'.calls = s.calls ++ [call]) (hcalled : s'.called = s.called ++ [call])
    (hdropped : s'.dropped = s.dropped) (hservice : s'.service = s.service) :
    Passes s s' [] where
  perm := perm_of_countP fun p => by
    have hqueues := queues_write h hitem { item with evQueue := queue } rfl p
    simp only [List.nil_append, List.countP_append, countP_unmarked, hdeliveries, hmonitors,
      hcalls, hdropped, hqueue, List.map_append, List.map_cons, List.map_nil, List.countP_cons,
      List.countP_nil, hcall.2] at hqueues ⊢
    omega
  line id := by
    simp only [line, waiting_of_monitors hmonitors,
      waiting_write h hitem { item with evQueue := queue } rfl, hdeliveries, hcalled,
      List.filter_append, List.map_append]
    by_cases heq : id = item.monitorId
    · rw [if_pos heq, heq, waiting_self h hitem, hqueue]
      simp [hcall, copies]
    · rw [if_neg heq, List.filter_cons_of_neg (by simpa [hcall.1] using Ne.symm heq)]
      simp
  served := hservice ▸ served_nil s.service

/-- The first event that waits is marked. -/
theorem passes_refuse (h : s.Kept) (hitem : item ∈ s.monitors)
    (hqueue : item.evQueue = front :: queue) (hdeliveries : s'.deliveries = s.deliveries)
    (hmonitors : s'.monitors = (s.write { item with evQueue := queue }).monitors)
    (hcalls : s'.calls = s.calls) (hcalled : s'.called = s.called)
    (hdropped : s'.dropped = s.dropped)
    (hservice : s'.service = s.service.markProcessed front.copy) : Passes s s' [front] where
  perm := perm_of_countP fun p => by
    have hqueues := queues_write h hitem { item with evQueue := queue } rfl p
    simp only [List.countP_append, countP_unmarked, hdeliveries, hmonitors, hcalls, hdropped,
      hqueue, List.countP_cons, List.countP_nil] at hqueues ⊢
    omega
  line id := by
    simp only [line, waiting_of_monitors hmonitors,
      waiting_write h hitem { item with evQueue := queue } rfl, hdeliveries, hcalled]
    by_cases heq : id = item.monitorId
    · rw [if_pos heq, heq, waiting_self h hitem, hqueue]
      refine List.Sublist.append_right (List.Sublist.append_left ?_ _) _
      exact List.sublist_cons_self _ _
    · rw [if_neg heq]
  served := hservice ▸ served_markProcessed s.service front.copy

/-- A call has returned: its event is marked, or let go of. -/
theorem passes_return {index : Nat} {call : Call} {marked : List TempEvent}
    (hget : s.calls[index]? = some call)
    (hdeliveries : s'.deliveries = s.deliveries) (hmonitors : s'.monitors = s.monitors)
    (hcalls : s'.calls = s.calls.eraseIdx index) (hcalled : s'.called = s.called)
    (hdropped : marked = [call.tempEvent] ∧ s'.dropped = s.dropped ∨
      marked = [] ∧ s'.dropped = s.dropped ++ [(call.monitorId, call.tempEvent)])
    (hserved : Served (copies marked) s.service s'.service) : Passes s s' marked where
  perm := perm_of_countP fun p => by
    obtain ⟨hlt, hcall⟩ := List.getElem?_eq_some_iff.mp hget
    have hperm := ((List.getElem_cons_eraseIdx_perm hlt).map Call.tempEvent).countP_eq p
    rw [hcall, List.map_cons, List.countP_cons] at hperm
    rcases hdropped with ⟨rfl, hdropped⟩ | ⟨rfl, hdropped⟩
    · simp only [List.countP_append, countP_unmarked, hdeliveries, hmonitors, hcalls, hdropped,
        List.countP_cons, List.countP_nil]
      omega
    · simp only [List.countP_append, countP_unmarked, hdeliveries, hmonitors, hcalls, hdropped,
        List.map_append, List.map_cons, List.map_nil, List.countP_cons, List.countP_nil]
      omega
  line id := by
    rw [line, line, waiting_of_monitors hmonitors, hdeliveries, hcalled]
  served := hserved

end JsInputMonitorManager

end FtMmi.JsMonitor
