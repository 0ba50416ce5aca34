/-
FtMmi.InputHandler.CappedHandlers — the handlers of the sessions as a map
from sessions to masks (`MonitorCollection` in `event_monitor_handler.cpp`,
`InterceptorCollection` in `event_interceptor_handler.cpp`).

The map says what the calls are for: a session is added if it has an entry
or there is room for one more. The collections look at their size before
they look for the session, so when they are full they also refuse a
session that only changes its mask. `keepsMap_iff` says that this is all
that keeps them from being the map.
-/
import FtMmi.InputHandler.HandlerMasks
import FtMmi.Lib.CappedMap

namespace FtMmi.InputHandler

open FtMmi.Lib

/-! ## Runs -/

/-- The monitors or the interceptors, and the map that the calls should make. -/
structure HandlerCollection (kind : HandlerKind) where
  handlers : List SessionHandler
  map : CappedMap Nat HandleEventType kind.limit

inductive CollectionCall where
  /-- `AddMonitor`, `AddInterceptor` -/
  | add (handler : SessionHandler)
  /-- `RemoveMonitor`, `RemoveInterceptor` -/
  | remove (handler : SessionHandler)
  | onSessionLost (session : Nat)

/-- What a call is to do. -/
def CollectionCall.mapAfter {limit : Nat} (map : CappedMap Nat HandleEventType limit) :
    CollectionCall → CappedMap Nat HandleEventType limit
  | .add handler => map.set handler.session handler.eventType
  | .remove handler =>
      if handler.eventType = handleEventTypeNone then map.erase handler.session
      else map.replace handler.session handler.eventType
  | .onSessionLost session => map.erase session

namespace HandlerCollection

variable {kind : HandlerKind}

def create (kind : HandlerKind) : HandlerCollection kind := ⟨[], .empty⟩

def step (s : HandlerCollection kind) (i : CollectionCall) : HandlerCollection kind where
  handlers :=
    match i with
    | .add handler => (addSessionHandler kind.limit s.handlers handler).2
    | .remove handler => removeSessionHandler s.handlers handler
    | .onSessionLost session => eraseSession s.handlers session
  map := i.mapAfter s.map

/-! ## The property and the condition -/

/-- The collection is the map. -/
def IsMap (s : HandlerCollection kind) : Prop :=
  Represents SessionHandler.session SessionHandler.eventType s.handlers s.map

/-- An addition fails precisely if it would have to create one entry too many. -/
def FailsWithoutRoom (s : HandlerCollection kind) : CollectionCall → Prop
  | .add handler =>
      (addSessionHandler kind.limit s.handlers handler).1 = retErr ↔
        ¬ s.map.Accepts handler.session
  | _ => True

/-- After a call the collection is the map, and the call fails only for want of room. -/
def KeepsMap (s : HandlerCollection kind) (i : CollectionCall) : Prop :=
  (s.step i).IsMap ∧ s.FailsWithoutRoom i

instance (s : HandlerCollection kind) : DecidablePred s.FailsWithoutRoom := fun
  | .add _ => inferInstanceAs (Decidable (_ ↔ _))
  | .remove _ | .onSessionLost _ => instDecidableTrue

/-- No session that has an entry is added when the collection is full. -/
def Fits (s : HandlerCollection kind) : CollectionCall → Prop
  | .add handler => (s.map.lookup handler.session).isSome → s.map.card < kind.limit
  | _ => True

/-! ## What a call does -/

namespace IsMap

variable {s : HandlerCollection kind}

/-- The entry that is found, as the map has it. -/
theorem findSession (h : s.IsMap) (session : Nat) :
    (findSession s.handlers session).map SessionHandler.eventType = s.map.lookup session :=
  h.lookup session

/-- A session is added when there is room. -/
theorem added (h : s.IsMap) (handler : SessionHandler) (hroom : s.handlers.length < kind.limit) :
    (addSessionHandler kind.limit s.handlers handler).1 = retOk ∧
      Represents SessionHandler.session SessionHandler.eventType
        (addSessionHandler kind.limit s.handlers handler).2
        (s.map.set handler.session handler.eventType) := by
  have haccepts : s.map.Accepts handler.session := .inr (h.length_eq ▸ hroom)
  have hlookup := CappedMap.lookup_set haccepts handler.eventType
  have hfind := h.findSession handler.session
  unfold addSessionHandler
  rw [if_neg (not_le.mpr hroom)]
  cases hfound : InputHandler.findSession s.handlers handler.session with
  | none =>
    refine ⟨rfl, h.push ?_ hlookup⟩
    intro hmem
    obtain ⟨other, hother, hsession⟩ := List.mem_map.mp hmem
    exact findSession_none hfound other hother hsession
  | some found =>
    rw [hfound, Option.map_some] at hfind
    dsimp only
    by_cases hsame : found.eventType = handler.eventType
    · -- The mask is the one that the session has.
      rw [if_pos hsame]
      refine ⟨rfl, h.congr fun session => ?_⟩
      rw [hlookup]
      by_cases heq : session = handler.session
      · rw [if_pos heq, heq, ← hfind, hsame]
      · rw [if_neg heq]
    · rw [if_neg hsame]
      exact ⟨rfl, h.replace handler hlookup⟩

/-- A full collection refuses every session. -/
theorem refused (h : s.IsMap) (handler : SessionHandler) (hfull : ¬ s.map.card < kind.limit) :
    addSessionHandler kind.limit s.handlers handler = (retErr, s.handlers) :=
  if_pos (h.length_eq ▸ not_lt.mp hfull)

theorem removed (h : s.IsMap) (handler : SessionHandler) :
    (s.step (.remove handler)).IsMap := by
  have hfind := h.findSession handler.session
  show Represents _ _ (removeSessionHandler s.handlers handler) (if handler.eventType
    = handleEventTypeNone then s.map.erase handler.session
    else s.map.replace handler.session handler.eventType)
  unfold removeSessionHandler
  cases hfound : InputHandler.findSession s.handlers handler.session with
  | none =>
    rw [hfound, Option.map_none] at hfind
    dsimp only
    split
    · refine h.congr fun session => ?_
      rw [CappedMap.lookup_erase]
      by_cases heq : session = handler.session
      · rw [if_pos heq, heq, hfind]
      · rw [if_neg heq]
    · rw [CappedMap.replace, ← hfind, Option.isSome_none, if_neg Bool.false_ne_true]
      exact h
  | some found =>
    rw [hfound, Option.map_some] at hfind
    dsimp only
    split
    · exact h.erase handler.session
    · have hthere : (s.map.lookup handler.session).isSome = true := by
        rw [← hfind]
        rfl
      rw [CappedMap.replace, if_pos hthere]
      exact h.replace handler (CappedMap.lookup_set (.inl hthere) handler.eventType)

/-- The call leaves the map, precisely if it meets the condition. -/
theorem keepsMap_iff (h : s.IsMap) (i : CollectionCall) : s.KeepsMap i ↔ s.Fits i := by
  cases i with
  | add handler =>
    by_cases hroom : s.map.card < kind.limit
    · obtain ⟨hok, hmap⟩ := h.added handler (h.length_eq.trans_lt hroom)
      have haccepts : s.map.Accepts handler.session := .inr hroom
      refine iff_of_true ⟨hmap, iff_of_false ?_ (not_not.mpr haccepts)⟩ fun _ => hroom
      rw [hok]
      decide
    · have hrefused := h.refused handler hroom
      simp only [KeepsMap, FailsWithoutRoom, Fits, hrefused, true_iff, hroom, imp_false]
      constructor
      · rintro ⟨_, hnot⟩ hthere
        exact hnot (.inl hthere)
      · intro hnew
        have hnot : ¬ s.map.Accepts handler.session := fun hor => hor.elim hnew hroom
        refine ⟨?_, hnot⟩
        show Represents _ _ (addSessionHandler kind.limit s.handlers handler).2
          (s.map.set handler.session handler.eventType)
        rw [hrefused, CappedMap.set_of_not hnot]
        exact h
  | remove handler => exact iff_of_true ⟨h.removed handler, trivial⟩ trivial
  | onSessionLost session => exact iff_of_true ⟨h.erase session, trivial⟩ trivial

end IsMap

/-! ## Every run -/

/-- In every run of either collection it is the map throughout, with no more
entries than there may be, and an addition fails precisely when it should,
if and only if no session with an entry is added while the collection is
full. -/
theorem cappedHandlers_iff (kind : HandlerKind) (is : List CollectionCall) :
    AllSteps step KeepsMap (create kind) is ↔ AllSteps step Fits (create kind) is := by
  have hany : AllSteps step (fun _ _ => True) (create kind) is :=
    @allSteps_of_step _ _ step (fun _ => True) _ (fun _ _ h => h) (fun _ _ _ => trivial) is _ trivial
  have hiff : ∀ (s : HandlerCollection kind) i, s.IsMap → True → (s.KeepsMap i ↔ s.Fits i) :=
    fun _ i h _ => h.keepsMap_iff i
  refine allSteps_iff_of_inv hiff (fun s i h _ hfits => ?_) is _ .nil hany
  exact ((h.keepsMap_iff i).mpr hfits).1

/-- A session for each entry that there may be. -/
def fullOfMonitors : List CollectionCall :=
  (List.range maxNInputMonitors).map fun session =>
    .add (.create .monitor handleEventTypeKey session)

/-- When all entries are taken, the first session asks for pointer events too. -/
theorem counterexample_cappedHandlers :
    ¬ AllSteps step KeepsMap (create .monitor)
      (fullOfMonitors ++ [CollectionCall.add (.create .monitor handleEventTypeAll 0)]) := by
  intro h
  have hfails := allSteps_of_allSteps (I := fun _ => True) (P := FailsWithoutRoom)
    (fun _ _ _ _ => trivial) (fun _ _ _ hkeeps => hkeeps.2) _ _ trivial h
  revert hfails
  decide +kernel

end HandlerCollection

end FtMmi.InputHandler
