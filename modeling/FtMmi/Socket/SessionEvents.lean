/-
FtMmi.Socket.SessionEvents — the queues of unacknowledged events of a
session (`events_` and `isAnrProcess_` of `UDSSession` in
`uds_session.cpp`).

An entry holds the id of a dispatched event, the time of the dispatch and
the id of the timer that watches it, or `-1`. `storedIn` is what a queue
knows of timers; its lemmas say what each operation does to that.
-/
import FtMmi.Util.Config

namespace FtMmi.Socket

/-! ## The queues -/

inductive ANREventType where
  | dispatch
  | monitor
  deriving DecidableEq, Repr

/-- The type a client's number stands for, if `events_` has a queue for it. -/
def ANREventType.ofInt : Int → Option ANREventType
  | 0 => some .dispatch
  | 1 => some .monitor
  | _ => none

/-- `INPUT_UI_TIMEOUT_TIME` -/
def inputUiTimeoutTime : Int := 5 * 1000000

structure EventTime where
  id : Int
  eventTime : Int
  timerId : Int
  deriving DecidableEq, Repr

structure SessionEvents where
  events : ANREventType → List EventTime
  isAnrProcess : ANREventType → Bool

namespace SessionEvents

/-- A new session. -/
def create : SessionEvents := ⟨fun _ => [], fun _ => false⟩

def setAnrStatus (s : SessionEvents) (type : ANREventType) (status : Bool) : SessionEvents :=
  { s with isAnrProcess := Function.update s.isAnrProcess type status }

def saveANREvent (s : SessionEvents) (type : ANREventType) (id time timerId : Int) :
    SessionEvents :=
  { s with events := Function.update s.events type (s.events type ++ [⟨id, time, timerId⟩]) }

/-- `GetTimerIds`: the timers of the queue, which no longer knows them. -/
def getTimerIds (s : SessionEvents) (type : ANREventType) : List Int × SessionEvents :=
  ((s.events type).map EventTime.timerId,
    { s with
      events := Function.update s.events type
        ((s.events type).map fun item => { item with timerId := -1 }) })

/-- What becomes of `isAnrProcess_` when `DelEvents` leaves `events`. -/
def statusAfter (status : Bool) (currentTime : Int) : List EventTime → Bool
  | [] => false
  | first :: _ =>
      match addInt64 first.eventTime inputUiTimeoutTime with
      | none => status
      | some endTime => if currentTime < endTime then false else status

/-- `DelEvents`: the entries up to the first one with a later id go. -/
def delEvents (s : SessionEvents) (eventType id currentTime : Int) : List Int × SessionEvents :=
  match ANREventType.ofInt eventType with
  | none => ([], s)
  | some type =>
      let gone := (s.events type).takeWhile fun item => item.id ≤ id
      let events := (s.events type).dropWhile fun item => item.id ≤ id
      if gone.length = 0 then ([], s)
      else
        (gone.map EventTime.timerId,
          { events := Function.update s.events type events
            isAnrProcess := Function.update s.isAnrProcess type
              (statusAfter (s.isAnrProcess type) currentTime events) })

end SessionEvents

/-! ## The timers a queue knows -/

/-- The timer an entry knows, with the id of its event. -/
def EventTime.stored (item : EventTime) : Option (Int × Int) :=
  if item.timerId = -1 then none else some (item.id, item.timerId)

def storedIn (events : List EventTime) : List (Int × Int) := events.filterMap EventTime.stored

theorem mem_storedIn {events : List EventTime} {id timerId : Int} :
    (id, timerId) ∈ storedIn events ↔
      timerId ≠ -1 ∧ ∃ item ∈ events, item.id = id ∧ item.timerId = timerId := by
  rw [storedIn, List.mem_filterMap]
  constructor
  · rintro ⟨item, hitem, hstored⟩
    unfold EventTime.stored at hstored
    split at hstored
    · cases hstored
    · rename_i hne
      cases hstored
      exact ⟨hne, item, hitem, rfl, rfl⟩
  · rintro ⟨hne, item, hitem, rfl, rfl⟩
    exact ⟨item, hitem, if_neg hne⟩

/-- The ids handed out, apart from `-1`, are those the entries know. -/
theorem timerIds_filter (events : List EventTime) :
    (events.map EventTime.timerId).filter (fun id => id ≠ -1)
      = (storedIn events).map Prod.snd := by
  induction events with
  | nil => rfl
  | cons item events ih =>
    rw [List.map_cons, storedIn]
    by_cases hne : item.timerId = -1
    · rw [List.filter_cons_of_neg (by simp [hne]), ih,
        List.filterMap_cons_none (by rw [EventTime.stored, if_pos hne])]
      rfl
    · rw [List.filter_cons_of_pos (by simp [hne]), ih,
        List.filterMap_cons_some (by rw [EventTime.stored, if_neg hne])]
      rfl

theorem storedIn_append (first second : List EventTime) :
    storedIn (first ++ second) = storedIn first ++ storedIn second := List.filterMap_append

/-- Entries that have forgotten their timers know none. -/
theorem storedIn_forgotten (events : List EventTime) :
    storedIn (events.map fun item => { item with timerId := -1 }) = [] := by
  rw [storedIn, List.filterMap_eq_nil_iff]
  intro item hitem
  obtain ⟨old, _, rfl⟩ := List.mem_map.mp hitem
  rfl

namespace SessionEvents

/-- What `DelEvents` hands out and what it leaves of the queues: nothing
happens, or one queue loses entries at its front. -/
theorem delEvents_cases (s : SessionEvents) (eventType id currentTime : Int) :
    s.delEvents eventType id currentTime = ([], s) ∨
    ∃ type gone events, s.events type = gone ++ events ∧
      (s.delEvents eventType id currentTime).1 = gone.map EventTime.timerId ∧
      (s.delEvents eventType id currentTime).2.events = Function.update s.events type events := by
  unfold delEvents
  split
  · exact .inl rfl
  · rename_i type _
    by_cases hnone : ((s.events type).takeWhile fun item => item.id ≤ id).length = 0
    · simp only [if_pos hnone]
      exact .inl trivial
    · simp only [if_neg hnone]
      exact .inr ⟨type, _, _, (List.takeWhile_append_dropWhile).symm, rfl, rfl⟩

end SessionEvents

end FtMmi.Socket
