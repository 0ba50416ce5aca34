/-
FtMmi.Client.ListenerRegistration — the two listener lists of a client
process against what the server has registered.

The server is asked for the first listener and told when the last is gone.
Both functions edit the list and the flag before they call it and keep the
edit when the call fails: the next listener is then taken in without a
call. What a run has to avoid is exactly a failing call, `Answered`.
-/
import FtMmi.Client.InputManagerImpl

namespace FtMmi.Client

open FtMmi.InputHandler
open FtMmi.Lib

/-! ## One list and its server -/

/-- The listeners of one kind, whether the server has this process registered
for it, and the listeners whose registration succeeded and that have not
been unregistered. -/
structure RegisteredListeners where
  process : ListeningProcess
  onServer : Bool
  /-- For the theorems only. -/
  accepted : List Nat

namespace RegisteredListeners

def create : RegisteredListeners := ⟨.create, false, []⟩

/-- Registering asks the server. -/
def asksFor (s : ListeningProcess) (listener : Nat) : Bool :=
  listener ∉ s.listeners && !s.isListeningProcess

/-- Unregistering tells the server. -/
def tells (s : ListeningProcess) (listener : Option Nat) : Bool :=
  s.isListeningProcess && (listener.elim [] s.listeners.erase).isEmpty

/-- A call to register that returned and left the process as `r` says. -/
def registered (s : RegisteredListeners) (r : Int × ListeningProcess) (listener : Nat)
    (answer : Int) : Int × RegisteredListeners :=
  (r.1, {
    process := r.2
    onServer := s.onServer || (asksFor s.process listener && decide (answer = retOk))
    accepted := if r.1 = retOk then s.accepted ++ [listener] else s.accepted })

def unregistered (s : RegisteredListeners) (r : Int × ListeningProcess) (listener : Option Nat)
    (answer : Int) : Int × RegisteredListeners :=
  (r.1, {
    process := r.2
    onServer := s.onServer && !(tells s.process listener && decide (answer = retOk))
    accepted := if r.1 = retOk then listener.elim [] s.accepted.erase else s.accepted })

end RegisteredListeners

/-! ## The client -/

structure ListenerClient where
  inputDevices : RegisteredListeners
  cooperation : RegisteredListeners

/-- The calls, each with what the server answers if it is called. -/
inductive ListenerCall where
  | registerDevListener (type : String) (listener : Nat) (answer : Int)
  | unregisterDevListener (type : String) (listener : Option Nat) (answer : Int)
  | registerCooperateListener (listener : Nat) (answer : Int)
  | unregisterCooperateListener (listener : Option Nat) (answer : Int)

namespace ListenerClient

def create : ListenerClient := ⟨.create, .create⟩

/-- What a call returns, and the state after it. A `type` other than
`"change"` ends it at once. -/
def call (s : ListenerClient) : ListenerCall → Int × ListenerClient
  | .registerDevListener type listener answer =>
      if type ≠ changedType then (retErr, s)
      else
        let r := s.inputDevices.registered
          (registerDevListener s.inputDevices.process type listener answer) listener answer
        (r.1, { s with inputDevices := r.2 })
  | .unregisterDevListener type listener answer =>
      if type ≠ changedType then (retErr, s)
      else
        let r := s.inputDevices.unregistered
          (unregisterDevListener s.inputDevices.process type listener answer) listener answer
        (r.1, { s with inputDevices := r.2 })
  | .registerCooperateListener listener answer =>
      let r := s.cooperation.registered
        (registerCooperateListener s.cooperation.process listener answer) listener answer
      (r.1, { s with cooperation := r.2 })
  | .unregisterCooperateListener listener answer =>
      let r := s.cooperation.unregistered
        (unregisterCooperateListener s.cooperation.process listener answer) listener answer
      (r.1, { s with cooperation := r.2 })

def step (s : ListenerClient) (c : ListenerCall) : ListenerClient := (s.call c).2

end ListenerClient

/-! ## One call on one list -/

namespace RegisteredListeners

/-- An error leaves the process as it was, and while there is an accepted
listener the server has the process. -/
structure AtomicTo (s : RegisteredListeners) (r : Int × RegisteredListeners) : Prop where
  kept : r.1 ≠ retOk → r.2.process = s.process
  served : r.2.accepted ≠ [] → r.2.onServer = true

/-- The list is of the accepted listeners, and the server is asked exactly
while there are some. -/
structure InStep (s : RegisteredListeners) : Prop where
  accepted : s.accepted = s.process.listeners
  server : s.onServer = s.process.isListeningProcess
  listening : s.process.isListeningProcess = !s.process.listeners.isEmpty

theorem create_inStep : create.InStep := ⟨rfl, rfl, rfl⟩

theorem InStep.served {s : RegisteredListeners} (hs : s.InStep) (h : s.accepted ≠ []) :
    s.onServer = true := by
  rw [hs.server, hs.listening, ← hs.accepted]
  simpa using h

theorem InStep.atomicTo_self {s : RegisteredListeners} (hs : s.InStep) (ret : Int) :
    AtomicTo s (ret, s) := ⟨fun _ => rfl, hs.served⟩

theorem retErr_ne_retOk : retErr ≠ retOk := by decide

/-- The three ways a call to register goes: the listener is there already,
the process is listening, or the server is asked. -/
theorem register_cases (s : RegisteredListeners) (listener : Nat) (answer : Int) :
    (asksFor s.process listener = false ∧
      s.registered (s.process.register listener answer) listener answer = (retErr, s)) ∨
    (asksFor s.process listener = false ∧
      s.registered (s.process.register listener answer) listener answer = (retOk,
        { process := { s.process with listeners := s.process.listeners ++ [listener] }
          onServer := s.onServer
          accepted := s.accepted ++ [listener] }) ∧ s.process.isListeningProcess = true) ∨
    (asksFor s.process listener = true ∧
      s.registered (s.process.register listener answer) listener answer = (answer,
        { process := ⟨s.process.listeners ++ [listener], true⟩
          onServer := s.onServer || decide (answer = retOk)
          accepted := if answer = retOk then s.accepted ++ [listener] else s.accepted })) := by
  by_cases hmem : listener ∈ s.process.listeners
  · left
    simp [asksFor, registered, ListeningProcess.register, hmem, retErr_ne_retOk]
  · right
    cases hflag : s.process.isListeningProcess with
    | true =>
      left
      simp [asksFor, registered, ListeningProcess.register, hmem, hflag]
    | false =>
      right
      simp [asksFor, registered, ListeningProcess.register, hmem, hflag]

theorem register_inStep {s : RegisteredListeners} (hs : s.InStep) {listener : Nat} {answer : Int}
    (h : asksFor s.process listener = true → answer = retOk) :
    (s.registered (s.process.register listener answer) listener answer).2.InStep := by
  rcases register_cases s listener answer with ⟨_, heq⟩ | ⟨_, heq, hflag⟩ | ⟨hasks, heq⟩
  · rw [heq]
    exact hs
  · rw [heq]
    exact ⟨by simp [hs.accepted], hs.server, by simp [hflag]⟩
  · rw [heq, h hasks]
    exact ⟨by simp [hs.accepted], by simp, by simp⟩

/-- Registering is atomic precisely if the server, when it is asked, takes
the process in. -/
theorem register_atomicTo_iff {s : RegisteredListeners} (hs : s.InStep) {listener : Nat}
    {answer : Int} :
    s.AtomicTo (s.registered (s.process.register listener answer) listener answer) ↔
      (asksFor s.process listener = true → answer = retOk) := by
  constructor
  · intro h hasks
    by_contra hfailed
    rcases register_cases s listener answer with ⟨hnot, _⟩ | ⟨hnot, _⟩ | ⟨_, heq⟩
    · rw [hnot] at hasks
      cases hasks
    · rw [hnot] at hasks
      cases hasks
    · rw [heq] at h
      have hlisteners := congrArg ListeningProcess.listeners (h.kept hfailed)
      simp at hlisteners
  · intro h
    refine ⟨?_, (register_inStep hs h).served⟩
    rcases register_cases s listener answer with ⟨_, heq⟩ | ⟨_, heq, _⟩ | ⟨hasks, heq⟩
    · rw [heq]
      exact fun _ => rfl
    · rw [heq]
      exact fun hne => absurd rfl hne
    · rw [heq]
      exact fun hne => absurd (h hasks) hne

/-- The two ways a call to unregister goes. -/
theorem unregister_cases (s : RegisteredListeners) (listener : Option Nat) (answer : Int) :
    (tells s.process listener = false ∧
      s.unregistered (s.process.unregister listener answer) listener answer = (retOk,
        { process := { s.process with listeners := listener.elim [] s.process.listeners.erase }
          onServer := s.onServer
          accepted := listener.elim [] s.accepted.erase })) ∨
    (tells s.process listener = true ∧
      s.unregistered (s.process.unregister listener answer) listener answer = (answer,
        { process := ⟨listener.elim [] s.process.listeners.erase, false⟩
          onServer := s.onServer && !decide (answer = retOk)
          accepted := if answer = retOk then listener.elim [] s.accepted.erase
            else s.accepted })) := by
  cases htells : tells s.process listener with
  | false =>
    have hunfolded := htells
    unfold tells at hunfolded
    left
    simp [unregistered, ListeningProcess.unregister, htells, hunfolded]
  | true =>
    have hunfolded := htells
    unfold tells at hunfolded
    right
    simp [unregistered, ListeningProcess.unregister, htells, hunfolded]

theorem unregister_inStep {s : RegisteredListeners} (hs : s.InStep) {listener : Option Nat}
    {answer : Int} (h : tells s.process listener = true → answer = retOk) :
    (s.unregistered (s.process.unregister listener answer) listener answer).2.InStep := by
  rcases unregister_cases s listener answer with ⟨hnot, heq⟩ | ⟨htells, heq⟩
  · rw [heq]
    refine ⟨by simp [hs.accepted], hs.server, ?_⟩
    show s.process.isListeningProcess = !(listener.elim [] s.process.listeners.erase).isEmpty
    cases hflag : s.process.isListeningProcess with
    | true => simpa [tells, hflag] using hnot
    | false =>
      have hempty : s.process.listeners = [] := by
        simpa [hflag] using hs.listening
      cases listener <;> simp [hempty]
  · rw [heq, h htells]
    have hempty : (listener.elim [] s.process.listeners.erase).isEmpty = true := by
      simp only [tells, Bool.and_eq_true] at htells
      exact htells.2
    exact ⟨by simp [hs.accepted], by simp, by simp [hempty]⟩

theorem unregister_atomicTo_iff {s : RegisteredListeners} (hs : s.InStep) {listener : Option Nat}
    {answer : Int} :
    s.AtomicTo (s.unregistered (s.process.unregister listener answer) listener answer) ↔
      (tells s.process listener = true → answer = retOk) := by
  constructor
  · intro h htells
    by_contra hfailed
    rcases unregister_cases s listener answer with ⟨hnot, _⟩ | ⟨_, heq⟩
    · rw [hnot] at htells
      cases htells
    · rw [heq] at h
      have hflag := congrArg ListeningProcess.isListeningProcess (h.kept hfailed)
      have hwas : s.process.isListeningProcess = true := by
        simp only [tells, Bool.and_eq_true] at htells
        exact htells.1
      rw [hwas] at hflag
      cases hflag
  · intro h
    refine ⟨?_, (unregister_inStep hs h).served⟩
    rcases unregister_cases s listener answer with ⟨_, heq⟩ | ⟨htells, heq⟩
    · rw [heq]
      exact fun hne => absurd rfl hne
    · rw [heq]
      exact fun hne => absurd (h htells) hne

end RegisteredListeners

/-! ## Every run -/

namespace ListenerClient

/-- What holds of a call, for both lists. -/
structure AtomicCall (s : ListenerClient) (c : ListenerCall) : Prop where
  inputDevices : s.inputDevices.AtomicTo ((s.call c).1, (s.step c).inputDevices)
  cooperation : s.cooperation.AtomicTo ((s.call c).1, (s.step c).cooperation)

/-- The server, if it is called, does what it is asked. -/
def Answered (s : ListenerClient) : ListenerCall → Prop
  | .registerDevListener type listener answer => type = changedType →
      RegisteredListeners.asksFor s.inputDevices.process listener = true → answer = retOk
  | .unregisterDevListener type listener answer => type = changedType →
      RegisteredListeners.tells s.inputDevices.process listener = true → answer = retOk
  | .registerCooperateListener listener answer =>
      RegisteredListeners.asksFor s.cooperation.process listener = true → answer = retOk
  | .unregisterCooperateListener listener answer =>
      RegisteredListeners.tells s.cooperation.process listener = true → answer = retOk

structure InStep (s : ListenerClient) : Prop where
  inputDevices : s.inputDevices.InStep
  cooperation : s.cooperation.InStep

theorem create_inStep : create.InStep :=
  ⟨RegisteredListeners.create_inStep, RegisteredListeners.create_inStep⟩

theorem registerDevListener_changed (s : ListeningProcess) (listener : Nat) (answer : Int) :
    registerDevListener s changedType listener answer = s.register listener answer := rfl

theorem unregisterDevListener_changed (s : ListeningProcess) (listener : Option Nat)
    (answer : Int) :
    unregisterDevListener s changedType listener answer = s.unregister listener answer := rfl

/-- The list a call is not about stays, whatever the call returns. -/
theorem atomicCall_inputDevices_iff {s : ListenerClient} (hs : s.InStep) {c : ListenerCall}
    {r : Int × RegisteredListeners}
    (hcall : s.call c = (r.1, { s with inputDevices := r.2 })) :
    s.AtomicCall c ↔ s.inputDevices.AtomicTo r := by
  constructor
  · intro h
    have hinput := h.inputDevices
    rw [step, hcall] at hinput
    exact hinput
  · intro h
    refine ⟨?_, ?_⟩
    · rw [step, hcall]
      exact h
    · rw [step, hcall]
      exact hs.cooperation.atomicTo_self r.1

theorem atomicCall_cooperation_iff {s : ListenerClient} (hs : s.InStep) {c : ListenerCall}
    {r : Int × RegisteredListeners}
    (hcall : s.call c = (r.1, { s with cooperation := r.2 })) :
    s.AtomicCall c ↔ s.cooperation.AtomicTo r := by
  constructor
  · intro h
    have hcooperation := h.cooperation
    rw [step, hcall] at hcooperation
    exact hcooperation
  · intro h
    refine ⟨?_, ?_⟩
    · rw [step, hcall]
      exact hs.inputDevices.atomicTo_self r.1
    · rw [step, hcall]
      exact h

/-- A call of another type does nothing. -/
theorem atomicCall_of_refused {s : ListenerClient} (hs : s.InStep) {c : ListenerCall}
    (hcall : s.call c = (retErr, s)) : s.AtomicCall c := by
  refine ⟨?_, ?_⟩
  · rw [step, hcall]
    exact hs.inputDevices.atomicTo_self retErr
  · rw [step, hcall]
    exact hs.cooperation.atomicTo_self retErr

/-- The step. -/
theorem atomicCall_iff {s : ListenerClient} (hs : s.InStep) (c : ListenerCall) :
    s.AtomicCall c ↔ s.Answered c := by
  cases c with
  | registerDevListener type listener answer =>
    by_cases htype : type = changedType
    · subst htype
      rw [atomicCall_inputDevices_iff hs rfl, registerDevListener_changed,
        RegisteredListeners.register_atomicTo_iff hs.inputDevices]
      simp [Answered]
    · have hcall : s.call (.registerDevListener type listener answer) = (retErr, s) :=
        if_pos htype
      exact ⟨fun _ heq => absurd heq htype, fun _ => atomicCall_of_refused hs hcall⟩
  | unregisterDevListener type listener answer =>
    by_cases htype : type = changedType
    · subst htype
      rw [atomicCall_inputDevices_iff hs rfl, unregisterDevListener_changed,
        RegisteredListeners.unregister_atomicTo_iff hs.inputDevices]
      simp [Answered]
    · have hcall : s.call (.unregisterDevListener type listener answer) = (retErr, s) :=
        if_pos htype
      exact ⟨fun _ heq => absurd heq htype, fun _ => atomicCall_of_refused hs hcall⟩
  | registerCooperateListener listener answer =>
    rw [atomicCall_cooperation_iff hs rfl]
    exact RegisteredListeners.register_atomicTo_iff hs.cooperation
  | unregisterCooperateListener listener answer =>
    rw [atomicCall_cooperation_iff hs rfl]
    exact RegisteredListeners.unregister_atomicTo_iff hs.cooperation

theorem step_inStep {s : ListenerClient} (hs : s.InStep) {c : ListenerCall} (h : s.Answered c) :
    (s.step c).InStep := by
  cases c with
  | registerDevListener type listener answer =>
    by_cases htype : type = changedType
    · subst htype
      exact ⟨RegisteredListeners.register_inStep hs.inputDevices (h rfl), hs.cooperation⟩
    · rw [step, show s.call (.registerDevListener type listener answer) = (retErr, s) from
        if_pos htype]
      exact hs
  | unregisterDevListener type listener answer =>
    by_cases htype : type = changedType
    · subst htype
      exact ⟨RegisteredListeners.unregister_inStep hs.inputDevices (h rfl), hs.cooperation⟩
    · rw [step, show s.call (.unregisterDevListener type listener answer) = (retErr, s) from
        if_pos htype]
      exact hs
  | registerCooperateListener listener answer =>
    exact ⟨hs.inputDevices, RegisteredListeners.register_inStep hs.cooperation h⟩
  | unregisterCooperateListener listener answer =>
    exact ⟨hs.inputDevices, RegisteredListeners.unregister_inStep hs.cooperation h⟩

/-- In every run every call is atomic precisely if the server does what it
is asked in each of its calls. -/
theorem atomicCalls_iff (cs : List ListenerCall) :
    AllSteps step AtomicCall create cs ↔ AllSteps step Answered create cs := by
  have hanyCall : AllSteps step (fun _ _ => True) create cs :=
    @allSteps_of_step _ _ step (fun _ => True) _ (fun _ _ _ => trivial) (fun _ _ _ => trivial)
      cs create trivial
  refine allSteps_iff_of_inv (fun (s : ListenerClient) c (hs : s.InStep) _ => ?_)
    (fun s c hs _ hc => ?_) cs create create_inStep hanyCall
  · exact atomicCall_iff hs c
  · exact step_inStep hs hc

end ListenerClient

/-! ## A server that fails -/

/-- The server fails the first listener's registration, and the second one's
returns success without a call: it is in the list and never called. -/
theorem counterexample_atomicCalls :
    ¬ AllSteps ListenerClient.step ListenerClient.AtomicCall .create
      [.registerDevListener changedType 1 retErr, .registerDevListener changedType 2 retOk] := by
  rintro ⟨_, hsecond, _⟩
  have hserved := hsecond.inputDevices.served
  revert hserved
  decide +kernel

end FtMmi.Client
