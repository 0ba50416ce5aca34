/-
FtMmi.EventHandler.ANRManager — watching for applications that do not
respond (`ANRManager` in `anr_manager.cpp`).

For every event dispatched to an application a one-shot timer is added,
and its id is stored in the session's queue. The timers of all components
of the server share one `TimerManager`; a callback is known here by its
owner, which for a timer of this component is what its closure captures.

Sessions are known by the identity of the object. What is constant in a
session is an argument (`SessionInfo`), as is what the outside world
answers: the clock, and whether the notice could be sent.
-/
import FtMmi.Socket.SessionEvents
import FtMmi.Timer.TimerManager

namespace FtMmi.EventHandler

open FtMmi.Socket
open FtMmi.Timer

/-! ## State -/

/-- The constants of a session. -/
structure SessionInfo where
  pid : Int
  programName : String
  tokenType : Int

/-- `TokenType::TOKEN_HAP` -/
def tokenHap : Int := 0

/-- `FOUNDATION` -/
def foundation : String := "foundation"

def maxAnrTimerCount : Int := 50

/-- Who a timer belongs to. -/
inductive Owner where
  | anr (sess : Nat) (type : ANREventType) (id : Int)
  | other (component : Nat)
  deriving DecidableEq

structure ANRManager where
  /-- `TimerMgr` -/
  timers : TimerManager Owner
  sessions : Nat → SessionEvents
  anrNoticedPid : Int
  anrTimerCount : Int

namespace ANRManager

def create : ANRManager := ⟨.create, fun _ => .create, -1, 0⟩

/-! ## Operations -/

def setSession (s : ANRManager) (sess : Nat) (events : SessionEvents) : ANRManager :=
  { s with sessions := Function.update s.sessions sess events }

/-- The loop over timer ids taken from a session. -/
def removeIds (s : ANRManager) : List Int → ANRManager
  | [] => s
  | item :: ids =>
      if item ≠ -1 then
        removeIds
          { s with
            timers := (s.timers.removeTimer item).2
            anrTimerCount := s.anrTimerCount - 1 }
          ids
      else removeIds s ids

def markProcessed (s : ANRManager) (eventType eventId : Int) (sess : Nat) (currentTime : Int) :
    ANRManager :=
  let r := (s.sessions sess).delEvents eventType eventId currentTime
  (s.setSession sess r.2).removeIds r.1

/-- The timers of one queue of a session are removed. -/
def removeTimersOf (s : ANRManager) (type : ANREventType) (sess : Nat) : ANRManager :=
  let r := (s.sessions sess).getTimerIds type
  (s.setSession sess r.2).removeIds r.1

def removeTimers (s : ANRManager) (sess : Nat) : ANRManager :=
  (s.removeTimersOf .dispatch sess).removeTimersOf .monitor sess

def addTimer (info : Nat → SessionInfo) (s : ANRManager) (type : ANREventType)
    (id currentTime : Int) (sess : Nat) (nowTime : Int) : ANRManager :=
  if (info sess).tokenType ≠ tokenHap ∨ (info sess).programName = foundation then s
  else if maxAnrTimerCount ≤ s.anrTimerCount then s
  else
    let r := s.timers.addTimer nowTime inputUiTimeoutTime 1 (some (.anr sess type id))
    if r.1 < 0 then { s with timers := r.2 }
    else
      { (s.setSession sess ((s.sessions sess).saveANREvent type id currentTime r.1)) with
        timers := r.2
        anrTimerCount := s.anrTimerCount + 1 }

/-- The callback of a timer. The notice goes to the registered observer;
writing its four bytes does not fail, sending it may. -/
def onTimeout (s : ANRManager) (type : ANREventType) (sess : Nat) (sent : Bool) : ANRManager :=
  let s := s.setSession sess ((s.sessions sess).setAnrStatus type true)
  if s.anrNoticedPid < 0 then s
  else if !sent then s
  else s.removeTimersOf type sess

def onSessionLost (info : Nat → SessionInfo) (s : ANRManager) (sess : Nat) : ANRManager :=
  let s := if s.anrNoticedPid = (info sess).pid then { s with anrNoticedPid := -1 } else s
  s.removeTimers sess

def setANRNoticedPid (s : ANRManager) (pid : Int) : ANRManager := { s with anrNoticedPid := pid }

/-- One round of `ProcessTimers`. What the callback of another component
does comes after it, as events of their own. -/
def processNext (s : ANRManager) (nowTime : Int) (sent : Bool) : ANRManager :=
  let r := s.timers.processNext nowTime
  let s := { s with timers := r.2 }
  match r.1 with
  | .fired (.anr sess type _) => s.onTimeout type sess sent
  | .fired (.other _) => s
  | .idle => s
  | .dropped => s

end ANRManager

/-! ## Events -/

inductive ANREvent where
  | addTimer (type : ANREventType) (id currentTime : Int) (sess : Nat) (nowTime : Int)
  | markProcessed (eventType eventId : Int) (sess : Nat) (currentTime : Int)
  | sessionLost (sess : Nat)
  | setANRNoticedPid (pid : Int)
  | processNext (nowTime : Int) (sent : Bool)
  | otherAdd (component : Nat) (nowTime intervalMs repeatCount : Int)
  | otherRemove (timerId : Int)
  | otherReset (nowTime timerId : Int)

def anrStep (info : Nat → SessionInfo) (s : ANRManager) : ANREvent → ANRManager
  | .addTimer type id currentTime sess nowTime => s.addTimer info type id currentTime sess nowTime
  | .markProcessed eventType eventId sess currentTime =>
      s.markProcessed eventType eventId sess currentTime
  | .sessionLost sess => s.onSessionLost info sess
  | .setANRNoticedPid pid => s.setANRNoticedPid pid
  | .processNext nowTime sent => s.processNext nowTime sent
  | .otherAdd component nowTime intervalMs repeatCount =>
      { s with
        timers := (s.timers.addTimer nowTime intervalMs repeatCount (some (.other component))).2 }
  | .otherRemove timerId => { s with timers := (s.timers.removeTimer timerId).2 }
  | .otherReset nowTime timerId => { s with timers := (s.timers.resetTimer nowTime timerId).2 }

end FtMmi.EventHandler
