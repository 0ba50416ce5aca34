/-
FtMmi.KeySubscriber.SubscriptionBoard — subscriptions that do not see each
other.

What the handler is for: each subscription looks at an event on its own
and reacts to it (`Entry.reaction`). The `Board` holds the subscriptions
without an order. Its flag is up after an event that started a timer, and
down after one that only took timers back. The timers of other components
stand on it too, by number and not by id, and a subscription that waits
knows how many of them come before it.

An event is `Fair` to a board if the order in which the subscriptions are
visited makes no difference: it does not both start and take back timers,
there is a timer for everyone who asks, and nobody ends the loop.
-/
import FtMmi.KeySubscriber.TimerPlaces

namespace FtMmi.KeySubscriber

open FtMmi.Event
open FtMmi.Server
open FtMmi.Timer

/-! ## Reactions -/

/-- A subscription, with its timer and what it was notified of. -/
structure Entry where
  sess : Session
  id : Int32
  keyOption : KeyOption
  /-- Where the timer stands, and the event it was started with. -/
  pending : Option (Place × KeyEvent)
  received : List KeyEvent

inductive Reaction where
  | ignore
  | clear
  | notify
  | start (due : Int)
  /-- The loop over the subscribers ends. -/
  | leave
  deriving DecidableEq

namespace Reaction

def isStart : Reaction → Bool
  | .start _ => true
  | _ => false

/-- `hasEventExecuting` after the reaction. -/
def executing : Reaction → Bool → Bool
  | .clear, _ => false
  | .start _, _ => true
  | _, executing => executing

end Reaction

namespace Entry

def clearing (e : Entry) : Reaction := if e.pending.isSome then .clear else .ignore

/-- A timer that runs already, or is not wanted, or would never be due, is not
started. -/
def starting (nowTime : Int) (e : Entry) : Reaction :=
  if e.pending.isSome then .ignore
  else if e.keyOption.timerDuration ≤ 0 then .ignore
  else
    match addInt64 nowTime (TimerManager.boundedInterval e.keyOption.timerDuration.toInt) with
    | none => .ignore
    | some due => .start due

theorem starting_of_none {nowTime : Int} {e : Entry} {next : Option Int}
    (hpending : e.pending = none) (hduration : ¬ e.keyOption.timerDuration ≤ 0)
    (hnext : addInt64 nowTime (TimerManager.boundedInterval e.keyOption.timerDuration.toInt)
      = next) :
    e.starting nowTime = next.elim .ignore .start := by
  rw [starting, if_neg (by simp [hpending]), if_neg hduration, hnext]
  cases next <;> rfl

def onDown (nowTime : Int) (keyEvent : KeyEvent) (pressedKeys : List Int32) (e : Entry) :
    Reaction :=
  if !e.keyOption.isFinalKeyDown then .ignore
  else if keyEvent.keyCode ≠ e.keyOption.finalKey then e.clearing
  else if !KeySubscriberHandler.isPreKeysMatch e.keyOption.preKeys pressedKeys then e.clearing
  else if e.keyOption.finalKeyDownDuration ≤ 0 then .notify
  else e.starting nowTime

def onUpWithDelay (nowTime : Int) (e : Entry) : Reaction :=
  if e.keyOption.finalKeyUpDelay ≤ 0 then .notify else e.starting nowTime

def onUp (nowTime : Int) (keyEvent : KeyEvent) (pressedKeys : List Int32) (e : Entry) :
    Reaction :=
  if e.keyOption.isFinalKeyDown then e.clearing
  else if keyEvent.keyCode ≠ e.keyOption.finalKey then .ignore
  else if !KeySubscriberHandler.isPreKeysMatch e.keyOption.preKeys pressedKeys then .ignore
  else if !KeySubscriberHandler.isNotifyPowerKeySubscriber e.keyOption.finalKey pressedKeys then
    .ignore
  else if e.keyOption.finalKeyDownDuration ≤ 0 then e.onUpWithDelay nowTime
  else
    match keyEvent.getKeyItem keyEvent.keyCode with
    | none => .leave
    | some keyItem =>
        if e.keyOption.finalKeyDownDuration.toInt64 * 1000
            ≤ keyEvent.actionTime - keyItem.downTime then .ignore
        else e.onUpWithDelay nowTime

def reaction (nowTime : Int) (keyEvent : KeyEvent) (e : Entry) : Reaction :=
  let pressedKeys := keyEvent.getPressedKeys.erase keyEvent.keyCode
  if keyEvent.keyAction = keyActionDown then e.onDown nowTime keyEvent pressedKeys
  else if keyEvent.keyAction = keyActionUp then e.onUp nowTime keyEvent pressedKeys
  else if keyEvent.keyAction = keyActionCancel then e.clearing
  else .ignore

/-- A timer that is started stands behind the others that are due no later. -/
def perform (others : List (TimerItem Nat)) (keyEvent : KeyEvent) (e : Entry) : Reaction → Entry
  | .ignore => e
  | .clear => { e with pending := none }
  | .notify => { e with received := e.received ++ [keyEvent] }
  | .start due =>
      let place : Place := ⟨due, others.countP fun o => o.nextCallTime ≤ due⟩
      { e with pending := some (place, keyEvent.copy) }
  | .leave => e

/-- The timer is due, with none of the others before it, or not. -/
def expire (nowTime : Int) (e : Entry) : Entry :=
  match e.pending with
  | none => e
  | some (place, keyEvent) =>
      if place.ahead = 0 ∧ place.due ≤ nowTime then
        { e with pending := none, received := e.received ++ [keyEvent] }
      else e

/-- The timers of other components have changed. -/
def move (f : Place → Place) (e : Entry) : Entry :=
  { e with pending := e.pending.map fun (place, keyEvent) => (f place, keyEvent) }

theorem expire_of_not_due {nowTime : Int} {e : Entry}
    (h : ∀ place keyEvent, e.pending = some (place, keyEvent) →
      place.ahead ≠ 0 ∨ nowTime < place.due) : e.expire nowTime = e := by
  unfold expire
  split
  · rfl
  · rename_i place keyEvent hpending
    refine if_neg fun hdue => ?_
    rcases h place keyEvent hpending with hahead | hlate
    · exact hahead hdue.1
    · exact absurd hdue.2 (Int.not_le.mpr hlate)

theorem expire_of_due {nowTime : Int} {place : Place} {e : Entry} {keyEvent : KeyEvent}
    (h : e.pending = some (place, keyEvent)) (hahead : place.ahead = 0)
    (hdue : place.due ≤ nowTime) :
    e.expire nowTime = { e with pending := none, received := e.received ++ [keyEvent] } := by
  simp only [expire, h, if_pos (And.intro hahead hdue)]

@[simp] theorem expire_expire (nowTime : Int) (e : Entry) :
    (e.expire nowTime).expire nowTime = e.expire nowTime := by
  apply expire_of_not_due
  intro place keyEvent hpending
  cases he : e.pending with
  | none =>
    rw [expire, he] at hpending
    simp [he] at hpending
  | some p =>
    obtain ⟨place', keyEvent'⟩ := p
    by_cases hdue : place'.ahead = 0 ∧ place'.due ≤ nowTime
    · rw [expire_of_due he hdue.1 hdue.2] at hpending
      cases hpending
    · simp only [expire, he, if_neg hdue, Option.some.injEq, Prod.mk.injEq] at hpending
      rw [← hpending.1]
      by_cases hahead : place'.ahead = 0
      · exact .inr (not_le.mp fun hle => hdue ⟨hahead, hle⟩)
      · exact .inl hahead

end Entry

/-! ## The board -/

structure Board where
  entries : Multiset Entry
  executing : Bool
  keyEvent : Option KeyEvent
  /-- The timers of other components, in the order of the list. -/
  others : List (TimerItem Nat)
  /-- How many timers the others have asked for. -/
  asked : Nat

/-- Key events, timers that are due, and what other components do to timers. They
name a timer by the id they were given for their timer with the number. -/
inductive SubscriptionInput where
  | keyEvent (nowTime : Int) (keyEvent : KeyEvent)
  | processTimers (nowTime : Int)
  | otherAdd (nowTime intervalMs repeatCount : Int)
  | otherRemove (number : Nat)
  | otherReset (nowTime : Int) (number : Nat)

namespace Board

def isRepeatedKeyEvent (b : Board) (keyEvent : KeyEvent) : Bool :=
  { KeySubscriberHandler.create with
    hasEventExecuting := b.executing, keyEvent := b.keyEvent }.isRepeatedKeyEvent keyEvent

def reactions (b : Board) (nowTime : Int) (keyEvent : KeyEvent) : Multiset Reaction :=
  b.entries.map (Entry.reaction nowTime keyEvent)

/-- The flag before the loop. -/
def openFlag (executing : Bool) (keyEvent : KeyEvent) : Bool :=
  if keyEvent.keyAction = keyActionUp ∨ keyEvent.keyAction = keyActionCancel then false
  else executing

def starts (reactions : Multiset Reaction) : Nat := reactions.countP fun r => r.isStart

/-- The flag after reactions in whatever order. -/
def flagAfter (executing : Bool) (reactions : Multiset Reaction) : Bool :=
  if 0 < starts reactions then true
  else if .clear ∈ reactions then false
  else executing

def timerCount (b : Board) : Nat := b.entries.countP fun e => e.pending.isSome

/-- A timer of another component is put in. -/
def insertOther (b : Board) (o : TimerItem Nat) : Board :=
  { b with
    entries := b.entries.map (Entry.move (Place.inserted o.nextCallTime))
    others := insertTimer o b.others }

/-- The timer with the number is taken out, if it is there. -/
def removeOther (b : Board) (number : Nat) : Board :=
  { b with
    entries := b.entries.map (Entry.move (Place.removed b.others number))
    others := b.others.filter fun o => o.callback ≠ number }

def addOther (b : Board) (nowTime intervalMs repeatCount : Int) : Board :=
  let intervalMs := TimerManager.boundedInterval intervalMs
  if maxTimerCount ≤ b.others.length + b.timerCount then b
  else
    match addInt64 nowTime intervalMs with
    | none => b
    | some nextCallTime => b.insertOther ⟨0, intervalMs, repeatCount, 0, nextCallTime, b.asked⟩

def resetOther (b : Board) (nowTime : Int) (number : Nat) : Board :=
  match b.others.find? fun o => o.callback = number with
  | none => b
  | some o =>
      match addInt64 nowTime o.intervalMs with
      | none => b.removeOther number
      | some nextCallTime =>
          (b.removeOther number).insertOther { o with nextCallTime, callbackCount := 0 }

/-- The first of the others is due. -/
def callOther (b : Board) (nowTime : Int) (o : TimerItem Nat) : Board :=
  let callbackCount := o.callbackCount + 1
  if 1 ≤ o.repeatCount ∧ o.repeatCount ≤ callbackCount then b.removeOther o.callback
  else
    match addInt64 nowTime o.intervalMs with
    | none => b.removeOther o.callback
    | some nextCallTime =>
        (b.removeOther o.callback).insertOther { o with callbackCount, nextCallTime }

/-- Who is due is notified. -/
def expire (b : Board) (nowTime : Int) : Board :=
  { b with entries := b.entries.map (Entry.expire nowTime) }

/-- Who is due is notified, up to the first timer of another component that is due,
and that timer is called. -/
def processTimers (b : Board) (nowTime : Int) : Board :=
  match b.others with
  | [] => b.expire nowTime
  | o :: _ =>
      if nowTime < o.nextCallTime then b.expire nowTime
      else (b.expire nowTime).callOther nowTime o

def step (b : Board) : SubscriptionInput → Board
  | .keyEvent nowTime keyEvent =>
      if b.isRepeatedKeyEvent keyEvent then b
      else
        { b with
          entries := b.entries.map fun e =>
            e.perform b.others keyEvent (e.reaction nowTime keyEvent)
          executing := flagAfter (openFlag b.executing keyEvent) (b.reactions nowTime keyEvent)
          keyEvent := some keyEvent.copy }
  | .processTimers nowTime => b.processTimers nowTime
  | .otherAdd nowTime intervalMs repeatCount =>
      { b.addOther nowTime intervalMs repeatCount with asked := b.asked + 1 }
  | .otherRemove number => b.removeOther number
  | .otherReset nowTime number => b.resetOther nowTime number

/-- The order in which the subscriptions are visited does not matter. -/
def Fair (b : Board) : SubscriptionInput → Prop
  | .keyEvent nowTime keyEvent =>
      b.isRepeatedKeyEvent keyEvent = true ∨
        .leave ∉ b.reactions nowTime keyEvent ∧
        (.clear ∉ b.reactions nowTime keyEvent ∨
          starts (b.reactions nowTime keyEvent) = 0) ∧
        b.others.length + b.timerCount + starts (b.reactions nowTime keyEvent) ≤ maxTimerCount
  | _ => True

instance (b : Board) (i : SubscriptionInput) : Decidable (b.Fair i) := by
  cases i <;> unfold Fair <;> infer_instance

@[simp] theorem starts_zero : starts 0 = 0 := rfl

@[simp] theorem starts_cons (r : Reaction) (reactions : List Reaction) :
    starts (r :: reactions : List Reaction)
      = starts reactions + if r.isStart = true then 1 else 0 := by
  simp only [starts, Multiset.coe_countP, List.countP_cons, decide_eq_true_eq]

/-- Reactions one after the other, if they do not both start and take back
timers. -/
theorem flagAfter_coe (executing : Bool) (reactions : List Reaction)
    (h : .clear ∉ reactions ∨ starts reactions = 0) :
    flagAfter executing reactions
      = reactions.foldl (fun executing r => r.executing executing) executing := by
  induction reactions generalizing executing with
  | nil => simp [flagAfter]
  | cons r reactions ih =>
    have hrest : .clear ∉ reactions ∨ starts reactions = 0 := by
      rcases h with h | h
      · exact .inl fun hmem => h (List.mem_cons_of_mem r hmem)
      · rw [starts_cons] at h
        exact .inr (by omega)
    rw [List.foldl_cons, ← ih _ hrest]
    cases r with
    | clear =>
      have hnone := h.resolve_left fun hnot => hnot List.mem_cons_self
      rw [starts_cons] at hnone
      simp [flagAfter, Reaction.isStart, Reaction.executing, (Nat.add_eq_zero_iff.mp hnone).1]
    | start due =>
      have hno := h.resolve_right fun hnot => by simp [Reaction.isStart] at hnot
      simp only [List.mem_cons, not_or] at hno
      simp [flagAfter, Reaction.isStart, Reaction.executing, hno.2]
    | _ => simp [flagAfter, Reaction.isStart, Reaction.executing]

end Board

end FtMmi.KeySubscriber
