/-
FtMmi.KeyCommand.ClaimedKeys — what a completed sequence does about its keys.

A key may have an action of its own that waits: a subscriber's timer, or
the delay of a special key. Claiming the key cancels them by what the
subscribers and the lists of the special keys say, so every timer that runs
must be entered there (`Listed`). A launch without start delay clears the
keys before they are claimed.

The callback of a special key takes the front entry off its list, which
need not be its own.
-/
import FtMmi.KeyCommand.AddedTimers
import FtMmi.KeyCommand.SpecialKeyRecord

namespace FtMmi.KeyCommand

open FtMmi.Event
open FtMmi.EventHandler
open FtMmi.Lib
open FtMmi.Timer

/-! ## Timers that launch -/

/-- The timer launches an ability. -/
def Launches (closure : TimerClosure) : Prop :=
  (∃ shortcutKey, closure = .shortcut shortcutKey) ∨ ∃ sequence, closure = .sequence sequence

/-! ## What waits for a key -/

/-- No action of the key alone waits. -/
structure Quiet (s : KeyCommandHandler) (keyCode : Int32) : Prop where
  subscribers : ∀ item ∈ s.subscribers, item.finalKey ≠ keyCode
  subscriber : ∀ t ∈ s.timers.timers, ∀ ref, t.callback ≠ .subscriber ref keyCode
  delays : s.specialTimers keyCode = none
  special : ∀ t ∈ s.timers.timers, ∀ keyEvent, t.callback = .special keyEvent →
    keyEvent.keyCode ≠ keyCode

/-- The action that a key was last typed with. -/
def lastAction (keys : List SequenceKey) (keyCode : Int32) : Option Int32 :=
  (keys.reverse.find? fun key => key.keyCode = keyCode).map SequenceKey.keyAction

/-- The record says of a special key that it is held down, as it was last typed. -/
def RecordFits (s : KeyCommandHandler) (keys : List SequenceKey) (keyCode : Int32) : Prop :=
  isSpecialType keyCode .keyDownAction = true →
    (lastAction keys keyCode = some keyActionDown → (s.specialKeys keyCode).isSome = true) ∧
      (lastAction keys keyCode = some keyActionUp → s.specialKeys keyCode = none)

/-- What runs is entered, and runs once. -/
structure Listed (s : KeyCommandHandler) : Prop where
  once : ∀ t ∈ s.timers.timers, (∀ component, t.callback ≠ .other component) →
    t.repeatCount = 1 ∧ 0 ≤ t.callbackCount
  refs : (s.subscribers.map SubscriberTimer.ref).Nodup
  subscriber : ∀ t ∈ s.timers.timers, ∀ ref keyCode, t.callback = .subscriber ref keyCode →
    ⟨ref, keyCode, t.id⟩ ∈ s.subscribers
  special : ∀ t ∈ s.timers.timers, ∀ keyEvent, t.callback = .special keyEvent →
    ∃ timerIds, s.specialTimers keyEvent.keyCode = some timerIds ∧ t.id ∈ timerIds

theorem Launches.not_subscriber {closure : TimerClosure} (h : Launches closure) {ref : Nat}
    {keyCode : Int32} : closure ≠ .subscriber ref keyCode := by
  rintro rfl
  rcases h with ⟨_, h⟩ | ⟨_, h⟩ <;> cases h

theorem Launches.not_special {closure : TimerClosure} (h : Launches closure) {keyEvent : KeyEvent} :
    closure ≠ .special keyEvent := by
  rintro rfl
  rcases h with ⟨_, h⟩ | ⟨_, h⟩ <;> cases h

variable {s t : KeyCommandHandler}

/-- The entries are as they were, and only timers that launch are new. -/
structure SameEntries (s t : KeyCommandHandler) : Prop where
  subscribers : t.subscribers = s.subscribers
  specialTimers : t.specialTimers = s.specialTimers
  timers : AddsOnly Launches s.timers t.timers

theorem Quiet.of_same {keyCode : Int32} (h : Quiet s keyCode) (hsame : SameEntries s t) : Quiet t keyCode where
  subscribers := hsame.subscribers ▸ h.subscribers
  delays := hsame.specialTimers ▸ h.delays
  subscriber timer htimer ref := by
    rcases hsame.timers timer htimer with hold | ⟨hnew, _⟩
    · exact h.subscriber timer hold ref
    · exact hnew.not_subscriber
  special timer htimer keyEvent hcallback := by
    rcases hsame.timers timer htimer with hold | ⟨hnew, _⟩
    · exact h.special timer hold keyEvent hcallback
    · exact absurd hcallback hnew.not_special

theorem Listed.of_same (h : Listed s) (hsame : SameEntries s t) : Listed t where
  once timer htimer hown := by
    rcases hsame.timers timer htimer with hold | ⟨_, hrepeat, hcount⟩
    · exact h.once timer hold hown
    · exact ⟨hrepeat, hcount.ge⟩
  refs := hsame.subscribers ▸ h.refs
  subscriber timer htimer ref keyCode hcallback := by
    rcases hsame.timers timer htimer with hold | ⟨hnew, _⟩
    · exact hsame.subscribers ▸ h.subscriber timer hold ref keyCode hcallback
    · exact absurd hcallback hnew.not_subscriber
  special timer htimer keyEvent hcallback := by
    rcases hsame.timers timer htimer with hold | ⟨hnew, _⟩
    · exact hsame.specialTimers ▸ h.special timer hold keyEvent hcallback
    · exact absurd hcallback hnew.not_special

/-! ## A key is claimed -/

/-- The timers left, and the entries, when a key is claimed. -/
theorem claimKey_cases (s : KeyCommandHandler) (item : SequenceKey) :
    (∀ t ∈ (s.claimKey item).timers.timers, t ∈ s.timers.timers ∧
      (∀ entry ∈ s.subscribers, entry.finalKey = item.keyCode → t.id ≠ entry.timerId) ∧
      ∀ timerIds, s.specialTimers item.keyCode = some timerIds → t.id ∉ timerIds) ∧
    (s.claimKey item).subscribers = s.subscribers.filter (fun entry => entry.finalKey ≠ item.keyCode) ∧
    (s.claimKey item).specialTimers = Function.update s.specialTimers item.keyCode none := by
  obtain ⟨specialKeys, hspecial⟩ : ∃ specialKeys, (if isSpecialType item.keyCode .keyDownAction then
      s.handleSpecialKeys item.keyCode item.keyAction else s) = { s with specialKeys } := by
    split
    · exact s.handleSpecialKeys_frame item.keyCode item.keyAction
    · exact ⟨s.specialKeys, rfl⟩
  have hremoved : ∀ t ∈ (s.removeSubscriberKeyUpTimer item.keyCode).timers.timers,
      t ∈ s.timers.timers ∧
        ∀ entry ∈ s.subscribers, entry.finalKey = item.keyCode → t.id ≠ entry.timerId := by
    intro t ht
    rw [KeyCommandHandler.removeSubscriberKeyUpTimer, TimerManager.foldl_removeTimer_timers,
      List.mem_filter] at ht
    refine ⟨ht.1, fun entry hentry hkey hid => ?_⟩
    have hnot := of_decide_eq_true ht.2
    refine hnot (List.mem_map.mpr ⟨entry, ?_, hid.symm⟩)
    exact List.mem_filter.mpr ⟨hentry, decide_eq_true hkey⟩
  unfold KeyCommandHandler.claimKey
  dsimp only
  rw [hspecial]
  have hsame : ∃ subscribers timers, ({ s with specialKeys }.removeSubscriberKeyUpTimer item.keyCode)
      = { s with specialKeys, subscribers, timers } ∧
        subscribers = s.subscribers.filter (fun entry => entry.finalKey ≠ item.keyCode) ∧
        timers = (s.removeSubscriberKeyUpTimer item.keyCode).timers := ⟨_, _, rfl, rfl, rfl⟩
  obtain ⟨subscribers, timers, heq, hsubscribers, htimers⟩ := hsame
  rw [heq]
  rw [← htimers] at hremoved
  unfold KeyCommandHandler.removeSubscribedTimer
  dsimp only
  cases hlist : s.specialTimers item.keyCode with
  | none =>
    dsimp only
    refine ⟨fun t ht => ⟨(hremoved t ht).1, (hremoved t ht).2, by simp⟩, hsubscribers, ?_⟩
    rw [← hlist, Function.update_eq_self]
  | some timerIds =>
    dsimp only
    refine ⟨fun t ht => ?_, hsubscribers, rfl⟩
    rw [TimerManager.foldl_removeTimer_timers, List.mem_filter] at ht
    refine ⟨(hremoved t ht.1).1, (hremoved t ht.1).2, fun timerIds' hids hmem => ?_⟩
    obtain rfl := Option.some.inj hids
    have hnot := of_decide_eq_true ht.2
    rw [List.map_id''] at hnot
    · exact hnot hmem
    · exact fun _ => rfl

theorem Listed.claimKey_quiet (h : Listed s) (item : SequenceKey) :
    Quiet (s.claimKey item) item.keyCode := by
  obtain ⟨htimers, hsubscribers, hspecial⟩ := claimKey_cases s item
  refine ⟨fun entry hentry => ?_, fun t ht ref hcallback => ?_, ?_, fun t ht keyEvent hcallback hcode => ?_⟩
  · rw [hsubscribers] at hentry
    exact of_decide_eq_true (List.mem_filter.mp hentry).2
  · obtain ⟨hold, hnot, _⟩ := htimers t ht
    exact hnot _ (h.subscriber t hold ref item.keyCode hcallback) rfl rfl
  · rw [hspecial, Function.update_self]
  · obtain ⟨hold, _, hnot⟩ := htimers t ht
    obtain ⟨timerIds, hlist, hmem⟩ := h.special t hold keyEvent hcallback
    exact hnot timerIds (hcode ▸ hlist) hmem

theorem Quiet.claimKey {keyCode : Int32} (h : Quiet s keyCode) (item : SequenceKey) :
    Quiet (s.claimKey item) keyCode := by
  obtain ⟨htimers, hsubscribers, hspecial⟩ := claimKey_cases s item
  refine ⟨fun entry hentry => ?_, fun t ht => h.subscriber t (htimers t ht).1, ?_,
    fun t ht => h.special t (htimers t ht).1⟩
  · rw [hsubscribers] at hentry
    exact h.subscribers entry (List.mem_of_mem_filter hentry)
  · rw [hspecial]
    by_cases hcode : keyCode = item.keyCode
    · rw [hcode, Function.update_self]
    · rw [Function.update_of_ne hcode]
      exact h.delays

theorem Listed.claimKey (h : Listed s) (item : SequenceKey) : Listed (s.claimKey item) := by
  have hquiet := h.claimKey_quiet item
  obtain ⟨htimers, hsubscribers, hspecial⟩ := claimKey_cases s item
  refine ⟨fun t ht => h.once t (htimers t ht).1, ?_, fun t ht ref keyCode hcallback => ?_,
    fun t ht keyEvent hcallback => ?_⟩
  · rw [hsubscribers]
    exact h.refs.sublist (List.filter_sublist.map _)
  · rw [hsubscribers]
    refine List.mem_filter.mpr ⟨h.subscriber t (htimers t ht).1 ref keyCode hcallback, ?_⟩
    refine decide_eq_true fun hcode => ?_
    exact hquiet.subscriber t ht ref (hcallback.trans (congrArg _ hcode))
  · have hcode := hquiet.special t ht keyEvent hcallback
    obtain ⟨timerIds, hlist, hmem⟩ := h.special t (htimers t ht).1 keyEvent hcallback
    exact ⟨timerIds, by rw [hspecial, Function.update_of_ne hcode, hlist], hmem⟩

/-- Every key claimed is quiet in the end. -/
theorem foldl_claimKey_quiet (h : Listed s) (items : List SequenceKey) :
    Listed (items.foldl KeyCommandHandler.claimKey s) ∧
      ∀ item ∈ items, Quiet (items.foldl KeyCommandHandler.claimKey s) item.keyCode := by
  induction items using List.reverseRecOn with
  | nil => exact ⟨h, fun _ h => nomatch h⟩
  | append_singleton items last ih =>
    obtain ⟨hlisted, hquiet⟩ := ih
    rw [List.foldl_append, List.foldl_cons, List.foldl_nil]
    refine ⟨hlisted.claimKey last, fun item hitem => ?_⟩
    rcases List.mem_append.mp hitem with hitem | hitem
    · exact (hquiet item hitem).claimKey last
    · rw [List.mem_singleton.mp hitem]
      exact hlisted.claimKey_quiet last

/-- The record follows the last action of a key. -/
theorem foldl_claimKey_record (s : KeyCommandHandler) (items : List SequenceKey) {keyCode : Int32}
    (hspecial : isSpecialType keyCode .keyDownAction = true) :
    (lastAction items keyCode = some keyActionDown →
        ((items.foldl KeyCommandHandler.claimKey s).specialKeys keyCode).isSome = true) ∧
      (lastAction items keyCode = some keyActionUp →
        (items.foldl KeyCommandHandler.claimKey s).specialKeys keyCode = none) := by
  induction items using List.reverseRecOn with
  | nil => exact ⟨(fun h => nomatch h), (fun h => nomatch h)⟩
  | append_singleton items last ih =>
    rw [List.foldl_append, List.foldl_cons, List.foldl_nil, KeyCommandHandler.claimKey_specialKeys]
    simp only [lastAction, List.reverse_append, List.reverse_singleton, List.singleton_append,
      List.find?_cons]
    by_cases hcode : last.keyCode = keyCode
    · simp only [hcode, decide_true, Option.map_some, Option.some.injEq, hspecial, if_true]
      constructor
      · intro hdown
        rw [hdown]
        exact KeyCommandHandler.handleSpecialKeys_down _ _
      · intro hup
        rw [hup]
        exact KeyCommandHandler.handleSpecialKeys_up _ _
    · simp only [hcode, decide_false]
      have hother : (if isSpecialType last.keyCode .keyDownAction then
          ((items.foldl KeyCommandHandler.claimKey s).handleSpecialKeys last.keyCode
            last.keyAction).specialKeys
          else (items.foldl KeyCommandHandler.claimKey s).specialKeys) keyCode
            = (items.foldl KeyCommandHandler.claimKey s).specialKeys keyCode := by
        split
        · exact KeyCommandHandler.handleSpecialKeys_other _ (Ne.symm hcode) _
        · rfl
      rw [hother]
      exact ih

/-! ## The entries in a run -/

theorem sameEntries_handleShortKeys (s : KeyCommandHandler) (nowTime : Int) (keyEvent : KeyEvent) :
    SameEntries s (s.handleShortKeys nowTime keyEvent).2 := by
  have hadds := (s.handleShortKeys_adds nowTime keyEvent).mono (Q := Launches) fun _ h => .inl h
  obtain ⟨_, _, _, _, heq⟩ := s.handleShortKeys_frame nowTime keyEvent
  rw [heq] at hadds ⊢
  exact ⟨rfl, rfl, hadds⟩

theorem sameEntries_addSequenceKey (s : KeyCommandHandler) (keyEvent : KeyEvent) :
    SameEntries s (s.addSequenceKey keyEvent).2 := by
  have hremoves := s.addSequenceKey_removes keyEvent
  obtain ⟨_, _, _, heq⟩ := s.addSequenceKey_frame keyEvent
  rw [heq] at hremoves ⊢
  exact ⟨rfl, rfl, .of_subset hremoves⟩

theorem sameEntries_looped {start : KeyCommandHandler} {keyEvent : KeyEvent}
    (hstart : s.loopStart keyEvent = some start) (nowTime : Int) :
    SameEntries s (start.pass nowTime).state := by
  have hremoves := KeyCommandHandler.loopStart_removes hstart
  have hadds := (forCandidates_adds nowTime start.filterSequences 0 start).mono (Q := Launches)
    fun _ ⟨sequence, _, heq, _⟩ => .inr ⟨sequence, heq⟩
  obtain ⟨_, _, _, heq⟩ := KeyCommandHandler.loopStart_frame hstart
  obtain ⟨_, _, _, _, hstate⟩ := pass_frame start nowTime
  refine ⟨?_, ?_, AddsOnly.trans (.of_subset hremoves) hadds⟩
  · rw [hstate, heq]
  · rw [hstate, heq]

theorem Listed.handleSequences (h : Listed s) (nowTime : Int) (keyEvent : KeyEvent) :
    Listed (s.handleSequences nowTime keyEvent).2 := by
  have hlooped : ∀ {start looped}, s.loopStart keyEvent = some start →
      looped = (start.pass nowTime).state → Listed looped := by
    rintro start _ hstart rfl
    exact h.of_same (sameEntries_looped hstart nowTime)
  have houtcome := handleSequences_outcome s nowTime keyEvent
  generalize s.handleSequences nowTime keyEvent = r at houtcome ⊢
  cases houtcome with
  | refused _ =>
    dsimp only
    split
    · exact h
    · exact h.of_same (sameEntries_addSequenceKey s keyEvent)
  | atOnce _ hstart _ looped heq _ _ =>
    have hlisted : Listed looped := hlooped hstart heq
    exact hlisted.of_same ⟨rfl, rfl, .refl _⟩
  | later start hstart _ _ looped heq _ =>
    have hlisted : Listed looped := hlooped hstart heq
    exact (foldl_claimKey_quiet hlisted start.keys).1.of_same ⟨rfl, rfl, .refl _⟩
  | none _ hstart _ _ looped heq _ =>
    have hlisted : Listed looped := hlooped hstart heq
    exact hlisted.of_same ⟨rfl, rfl, .refl _⟩

theorem Listed.delaySpecialKey (h : Listed s) (nowTime : Int) (key : KeyEvent) :
    Listed (s.delaySpecialKey nowTime key).2 := by
  have hmem : ∀ t ∈ (s.addTimer nowTime specialKeyDownDelay (.special key.copy)).2.timers.timers,
      t ∈ s.timers.timers ∨ (t.callback = .special key.copy ∧ t.repeatCount = 1 ∧
        t.callbackCount = 0 ∧ t.id = (s.addTimer nowTime specialKeyDownDelay (.special key.copy)).1) := by
    intro t ht
    rcases TimerManager.mem_addTimer ht with hold | ⟨hcallback, hrepeat, hcount, hid, _⟩
    · exact .inl hold
    · exact .inr ⟨hcallback, hrepeat, hcount, hid⟩
  unfold KeyCommandHandler.delaySpecialKey
  dsimp only
  split
  · rename_i hneg
    rw [s.addTimer_failed hneg]
    exact h
  · refine ⟨fun t ht hown => ?_, h.refs, fun t ht ref keyCode hcallback => ?_,
      fun t ht keyEvent hcallback => ?_⟩
    · rcases hmem t ht with hold | ⟨_, hrepeat, hcount, _⟩
      · exact h.once t hold hown
      · exact ⟨hrepeat, hcount.ge⟩
    · rcases hmem t ht with hold | ⟨hnew, _⟩
      · exact h.subscriber t hold ref keyCode hcallback
      · cases hnew.symm.trans hcallback
    · by_cases hcode : keyEvent.keyCode = key.keyCode
      · refine ⟨_, by rw [hcode]; exact Function.update_self _ _ _, ?_⟩
        rcases hmem t ht with hold | ⟨_, _, _, hid⟩
        · obtain ⟨timerIds, hlist, hmemId⟩ := h.special t hold keyEvent hcallback
          refine List.mem_append_left _ ?_
          show t.id ∈ (s.specialTimers key.keyCode).getD []
          rw [← hcode, hlist]
          exact hmemId
        · exact List.mem_append_right _ (List.mem_singleton.mpr hid)
      · rcases hmem t ht with hold | ⟨hnew, _⟩
        · obtain ⟨timerIds, hlist, hmemId⟩ := h.special t hold keyEvent hcallback
          exact ⟨timerIds, (Function.update_of_ne hcode _ _).trans hlist, hmemId⟩
        · obtain rfl := TimerClosure.special.inj (hnew.symm.trans hcallback)
          exact absurd rfl hcode

/-- The same entries, for timers that were there before. -/
theorem Listed.of_descends (h : Listed s) {timers : TimerManager TimerClosure}
    (hdescends : s.timers.Descends timers) : Listed { s with timers } where
  once t' ht' hown := by
    obtain ⟨t, ht, _, hcallback, hrepeat, hcount⟩ := hdescends t' ht'
    obtain ⟨honce, hpos⟩ := h.once t ht (hcallback ▸ hown)
    exact ⟨hrepeat.trans honce, hcount hpos⟩
  refs := h.refs
  subscriber t' ht' ref keyCode hsubscriber := by
    obtain ⟨t, ht, hid, hcallback, _⟩ := hdescends t' ht'
    rw [hid]
    exact h.subscriber t ht ref keyCode (hcallback.symm.trans hsubscriber)
  special t' ht' keyEvent hspecial := by
    obtain ⟨t, ht, hid, hcallback, _⟩ := hdescends t' ht'
    rw [hid]
    exact h.special t ht keyEvent (hcallback.symm.trans hspecial)

/-- When the delay of a special key is over, the front entry of its list is not needed for
another timer. -/
def PopsOwn (s : KeyCommandHandler) : KeyCommandInput → Prop
  | .processNext nowTime =>
      ∀ t ∈ s.timers.timers.head?, t.nextCallTime ≤ nowTime →
        ∀ keyEvent, t.callback = .special keyEvent →
          ∀ other ∈ s.timers.timers.tail, ∀ keyEvent', other.callback = .special keyEvent' →
            keyEvent'.keyCode = keyEvent.keyCode →
              ∀ timerIds ∈ s.specialTimers keyEvent.keyCode, other.id ∈ timerIds.tail
  | _ => True

theorem Listed.processNext (h : Listed s) {nowTime : Int} (hpops : PopsOwn s (.processNext nowTime)) :
    Listed (s.processNext nowTime) := by
  have hdescends := h.of_descends (s.timers.processNext_descends nowTime)
  unfold KeyCommandHandler.processNext
  dsimp only
  cases hfired : (s.timers.processNext nowTime).1 with
  | idle => exact hdescends
  | dropped => exact hdescends
  | fired closure =>
    -- A timer of the handler runs once, and the others are those behind it.
    have hgone : (∀ component, closure ≠ .other component) →
        ∃ t rest, s.timers.timers = t :: rest ∧ t.nextCallTime ≤ nowTime ∧ t.callback = closure ∧
          (s.timers.processNext nowTime).2.timers = rest := by
      intro hown
      rcases s.timers.processNext_cases nowTime with
        ⟨_, hidle⟩ | ⟨t, rest, htimers, hdue, ⟨_, _, hthis, hrest⟩ | ⟨_, hdropped, _⟩ |
          ⟨hmore, hthis, _⟩⟩
      · rw [hidle] at hfired
        cases hfired
      · exact ⟨t, rest, htimers, hdue, Processed.fired.inj (hthis.symm.trans hfired), hrest⟩
      · cases hdropped.symm.trans hfired
      · have hcallback := Processed.fired.inj (hthis.symm.trans hfired)
        have hmem : t ∈ s.timers.timers := by
          rw [htimers]
          exact List.mem_cons_self
        obtain ⟨honce, hpos⟩ := h.once t hmem (hcallback ▸ hown)
        exact absurd ⟨by omega, by omega⟩ hmore
    cases closure with
    | shortcut _ => exact hdescends.of_same ⟨rfl, rfl, .refl _⟩
    | sequence _ => exact hdescends.of_same ⟨rfl, rfl, .refl _⟩
    | other _ => exact hdescends
    | special keyEvent =>
      obtain ⟨t, rest, htimers, hdue, hcallback, hrest⟩ := hgone fun _ heq => nomatch heq
      refine ⟨hdescends.once, hdescends.refs, hdescends.subscriber, fun other hother keyEvent' hspecial => ?_⟩
      obtain ⟨timerIds, hlist, hmemId⟩ := hdescends.special other hother keyEvent' hspecial
      have hlist : s.specialTimers keyEvent'.keyCode = some timerIds := hlist
      by_cases hcode : keyEvent'.keyCode = keyEvent.keyCode
      · rw [hcode] at hlist
        refine ⟨timerIds.tail, ?_, ?_⟩
        · show Function.update s.specialTimers keyEvent.keyCode _ keyEvent'.keyCode = _
          rw [hcode, Function.update_self, hlist]
          rfl
        · have hother : other ∈ (s.timers.processNext nowTime).2.timers := hother
          rw [hrest] at hother
          exact hpops t (by rw [htimers]; rfl) hdue keyEvent hcallback other
            (by rw [htimers]; exact hother) keyEvent' hspecial hcode timerIds hlist
      · exact ⟨timerIds, (Function.update_of_ne hcode _ _).trans hlist, hmemId⟩
    | subscriber ref keyCode =>
      obtain ⟨t, rest, htimers, _, hcallback, hrest⟩ := hgone fun _ heq => nomatch heq
      have hnodup := s.timers.nodup
      rw [htimers, List.map_cons, List.nodup_cons] at hnodup
      have hentry := h.subscriber t (by rw [htimers]; exact List.mem_cons_self) ref keyCode hcallback
      refine ⟨hdescends.once, h.refs.sublist (List.filter_sublist.map _),
        fun other hother ref' keyCode' hsubscriber => ?_, hdescends.special⟩
      have hentry' := hdescends.subscriber other hother ref' keyCode' hsubscriber
      refine List.mem_filter.mpr ⟨hentry', decide_eq_true ?_⟩
      rintro rfl
      -- The timer has the entry of the one that is over, and so its id.
      have hsame := List.inj_on_of_nodup_map h.refs hentry' hentry rfl
      have hid : other.id = t.id := congrArg SubscriberTimer.timerId hsame
      have hother : other ∈ (s.timers.processNext nowTime).2.timers := hother
      rw [hrest] at hother
      exact hnodup.1 (hid ▸ List.mem_map_of_mem hother)

theorem Listed.addSubscriberTimer (h : Listed s) (ref : Nat) (finalKey : Int32)
    (nowTime duration : Int) : Listed (s.addSubscriberTimer ref finalKey nowTime duration) := by
  unfold KeyCommandHandler.addSubscriberTimer
  split
  · exact h
  rename_i hfree
  have hfree : ref ∉ s.subscribers.map SubscriberTimer.ref := by
    intro hmem
    obtain ⟨item, hitem, heq⟩ := List.mem_map.mp hmem
    exact hfree (List.any_eq_true.mpr ⟨item, hitem, decide_eq_true heq⟩)
  dsimp only [KeyCommandHandler.addTimer]
  rcases s.timers.addTimer_cases nowTime duration 1 (TimerClosure.subscriber ref finalKey) with
    ⟨hid, hsame⟩ | ⟨new, hcallback, hrepeat, hcount, hpos, _, hid, hperm⟩
  · rw [hid, hsame, if_pos (by decide)]
    exact h
  · rw [hid, if_neg (by omega)]
    have hmem : ∀ t, t ∈ (s.timers.addTimer nowTime duration 1
        (some (TimerClosure.subscriber ref finalKey))).2.timers ↔ t = new ∨ t ∈ s.timers.timers := by
      intro t
      rw [hperm.mem_iff, List.mem_cons]
    refine ⟨fun t ht hown => ?_, ?_, fun t ht ref' keyCode hsubscriber => ?_,
      fun t ht keyEvent hspecial => ?_⟩
    · rcases (hmem t).mp ht with rfl | hold
      · exact ⟨hrepeat, hcount.ge⟩
      · exact h.once t hold hown
    · rw [List.map_append, List.nodup_append]
      refine ⟨h.refs, List.nodup_singleton _, fun a ha b hb => ?_⟩
      rw [List.mem_singleton.mp hb]
      rintro rfl
      exact hfree ha
    · rcases (hmem t).mp ht with rfl | hold
      · obtain ⟨rfl, rfl⟩ := TimerClosure.subscriber.inj (hsubscriber.symm.trans hcallback)
        exact List.mem_append_right _ List.mem_cons_self
      · exact List.mem_append_left _ (h.subscriber t hold ref' keyCode hsubscriber)
    · rcases (hmem t).mp ht with rfl | hold
      · cases hcallback.symm.trans hspecial
      · exact h.special t hold keyEvent hspecial

theorem Listed.clearSubscriberTimer (h : Listed s) (ref : Nat) :
    Listed (s.clearSubscriberTimer ref) := by
  unfold KeyCommandHandler.clearSubscriberTimer
  split
  · exact h
  · rename_i item hfound
    have hremoved := h.of_descends (s.timers.removeTimer_descends item.timerId)
    refine ⟨hremoved.once, h.refs.sublist (List.filter_sublist.map _),
      fun t ht ref' keyCode hsubscriber => ?_, hremoved.special⟩
    have hentry := hremoved.subscriber t ht ref' keyCode hsubscriber
    refine List.mem_filter.mpr ⟨hentry, decide_eq_true ?_⟩
    rintro rfl
    have href : item.ref = ref' := by simpa using List.find?_some hfound
    have hsame := List.inj_on_of_nodup_map h.refs hentry (List.mem_of_find?_eq_some hfound) href.symm
    have ht : t ∈ (s.timers.removeTimer item.timerId).2.timers := ht
    rw [TimerManager.removeTimer_timers, List.mem_filter] at ht
    exact of_decide_eq_true ht.2 (congrArg SubscriberTimer.timerId hsame)

theorem Listed.step (h : Listed s) (i : KeyCommandInput) (hpops : PopsOwn s i) :
    Listed (keyCommandStep s i) := by
  cases i with
  | key keyEvent nowTime =>
    have hafter := (h.of_same (sameEntries_handleShortKeys s nowTime keyEvent)).handleSequences
      nowTime keyEvent
    simp only [keyCommandStep, KeyCommandHandler.onHandleEvent]
    generalize (s.handleShortKeys nowTime keyEvent).2.handleSequences nowTime keyEvent = r
      at hafter ⊢
    split
    · exact hafter
    split
    · obtain ⟨_, heq⟩ := r.2.handleSpecialKeys_frame keyEvent.keyCode keyEvent.action
      rw [heq]
      exact hafter.of_same ⟨rfl, rfl, .refl _⟩
    split
    · exact hafter.delaySpecialKey nowTime keyEvent
    · exact hafter
  | processNext nowTime => exact h.processNext hpops
  | addSubscriberTimer ref finalKey nowTime duration =>
    exact h.addSubscriberTimer ref finalKey nowTime duration
  | clearSubscriberTimer ref => exact h.clearSubscriberTimer ref
  | otherAdd component nowTime intervalMs repeatCount =>
    have hmem : ∀ t ∈ (s.timers.addTimer nowTime intervalMs repeatCount
        (some (TimerClosure.other component))).2.timers,
        t ∈ s.timers.timers ∨ t.callback = .other component := by
      intro t ht
      rcases TimerManager.mem_addTimer ht with hold | ⟨hcallback, _⟩
      · exact .inl hold
      · exact .inr hcallback
    refine ⟨fun t ht hown => ?_, h.refs, fun t ht ref keyCode hsubscriber => ?_,
      fun t ht keyEvent hspecial => ?_⟩
    · rcases hmem t ht with hold | hother
      · exact h.once t hold hown
      · exact absurd hother (hown component)
    · rcases hmem t ht with hold | hother
      · exact h.subscriber t hold ref keyCode hsubscriber
      · cases hother.symm.trans hsubscriber
    · rcases hmem t ht with hold | hother
      · exact h.special t hold keyEvent hspecial
      · cases hother.symm.trans hspecial
  | otherRemove timerId => exact h.of_descends (s.timers.removeTimer_descends timerId)
  | otherReset nowTime timerId => exact h.of_descends (s.timers.resetTimer_descends nowTime timerId)

/-! ## Completed sequences -/

/-- The special-key record is settled, and nothing waits for the key alone. -/
def Settled (s : KeyCommandHandler) (keys : List SequenceKey) (keyCode : Int32) : Prop :=
  RecordFits s keys keyCode ∧ Quiet s keyCode

/-- When a completed sequence is reported, all its keys are settled. -/
def Claimed (s : KeyCommandHandler) : KeyCommandInput → Prop
  | .key keyEvent nowTime =>
      ((s.handleShortKeys nowTime keyEvent).2.handleSequences nowTime keyEvent).1 = true →
        ∀ start ∈ (s.handleShortKeys nowTime keyEvent).2.loopStart keyEvent,
          ∀ sequence ∈ start.filterSequences, completes start.keys sequence = true →
            ∀ key ∈ sequence.sequenceKeys,
              Settled (keyCommandStep s (.key keyEvent nowTime)) sequence.sequenceKeys key.keyCode
  | _ => True

/-- No sequence without start delay is completed, or the keys of those completed are settled
before. -/
def Claims (s : KeyCommandHandler) : KeyCommandInput → Prop
  | .key keyEvent nowTime =>
      NoneAtOnce (s.handleShortKeys nowTime keyEvent).2 keyEvent ∨
        ∀ start ∈ (s.handleShortKeys nowTime keyEvent).2.loopStart keyEvent,
          ∀ sequence ∈ start.filterSequences, completes start.keys sequence = true →
            ∀ key ∈ sequence.sequenceKeys, Settled s sequence.sequenceKeys key.keyCode
  | _ => True

theorem lastAction_congr {keys keys' : List SequenceKey}
    (h : keys.map (fun key => (key.keyCode, key.keyAction))
      = keys'.map fun key => (key.keyCode, key.keyAction)) (keyCode : Int32) :
    lastAction keys keyCode = lastAction keys' keyCode := by
  have hmap : ∀ keys : List SequenceKey, lastAction keys keyCode
      = ((keys.map fun key => (key.keyCode, key.keyAction)).reverse.find?
          fun key => key.1 = keyCode).map Prod.snd := by
    intro keys
    rw [← List.map_reverse, List.find?_map, Option.map_map]
    rfl
  rw [hmap, hmap, h]

theorem Settled.of_same {keys : List SequenceKey} {keyCode : Int32} (h : Settled s keys keyCode)
    (hsame : SameEntries s t) (hspecial : t.specialKeys = s.specialKeys) : Settled t keys keyCode := by
  refine ⟨fun hcode => ?_, h.2.of_same hsame⟩
  rw [hspecial]
  exact h.1 hcode

/-- The keys typed are claimed, and they are those of the sequence. -/
theorem settled_of_completes (h : Listed s) {keys : List SequenceKey} {sequence : Sequence}
    (hcompletes : completes keys sequence = true) {key : SequenceKey}
    (hkey : key ∈ sequence.sequenceKeys) :
    Settled (keys.foldl KeyCommandHandler.claimKey s) sequence.sequenceKeys key.keyCode := by
  have hsame := completes_same hcompletes
  have hmem : (key.keyCode, key.keyAction)
      ∈ keys.map fun key => (key.keyCode, key.keyAction) := by
    rw [hsame]
    exact List.mem_map_of_mem hkey
  obtain ⟨typed, htyped, heq⟩ := List.mem_map.mp hmem
  have hcode : typed.keyCode = key.keyCode := congrArg Prod.fst heq
  constructor
  · intro hspecial
    rw [← lastAction_congr hsame]
    exact foldl_claimKey_record s keys hspecial
  · rw [← hcode]
    exact (foldl_claimKey_quiet h keys).2 typed htyped

theorem claimed_of_claims (h : Listed s) (i : KeyCommandInput) (hclaims : Claims s i) :
    Claimed s i := by
  cases i with
  | key keyEvent nowTime =>
    intro hreport start hstart sequence hsequence hcompletes key hkey
    have hshort := sameEntries_handleShortKeys s nowTime keyEvent
    have hspecial : (s.handleShortKeys nowTime keyEvent).2.specialKeys = s.specialKeys := by
      obtain ⟨_, _, _, _, heq⟩ := s.handleShortKeys_frame nowTime keyEvent
      rw [heq]
    have hlisted := h.of_same hshort
    -- The event goes no further.
    have hafter : keyCommandStep s (.key keyEvent nowTime)
        = ((s.handleShortKeys nowTime keyEvent).2.handleSequences nowTime keyEvent).2 := by
      simp only [keyCommandStep, KeyCommandHandler.onHandleEvent, hreport, Bool.true_or, if_true]
    rw [hafter]
    simp only [Claims] at hclaims
    generalize (s.handleShortKeys nowTime keyEvent).2 = short
      at hstart hreport hclaims hshort hspecial hlisted ⊢
    have houtcome := handleSequences_outcome short nowTime keyEvent
    generalize short.handleSequences nowTime keyEvent = r at hreport houtcome ⊢
    cases houtcome with
    | refused _ => cases hreport
    | atOnce start' hstart' honce looped hlooped _ _ =>
      have hsettled := hclaims.resolve_left honce start hstart sequence hsequence hcompletes key hkey
      obtain rfl := Option.some.inj (hstart.symm.trans hstart')
      have hloopedSame := sameEntries_looped hstart nowTime
      have hloopedSpecial := looped_specialKeys hstart nowTime
      rw [← hlooped] at hloopedSame hloopedSpecial
      exact ((hsettled.of_same hshort hspecial).of_same hloopedSame hloopedSpecial).of_same
        (t := { looped with filterSequences := _ }) ⟨rfl, rfl, .refl _⟩ rfl
    | later start' hstart' _ _ looped hlooped _ =>
      obtain rfl := Option.some.inj (hstart.symm.trans hstart')
      have hbefore := hlisted.of_same (sameEntries_looped hstart nowTime)
      rw [← hlooped] at hbefore
      exact (settled_of_completes hbefore hcompletes hkey).of_same ⟨rfl, rfl, .refl _⟩ rfl
    | none _ _ _ _ _ _ _ => cases hreport
  | processNext _ => trivial
  | addSubscriberTimer _ _ _ _ => trivial
  | clearSubscriberTimer _ => trivial
  | otherAdd _ _ _ _ => trivial
  | otherRemove _ => trivial
  | otherReset _ _ => trivial

theorem create_listed (config : Config) : Listed (.create config) where
  once _ h := nomatch h
  refs := List.nodup_nil
  subscriber _ h := nomatch h
  special _ h := nomatch h

/-- In a run whose steps all meet the conditions, every sequence reported as completed has
claimed all its keys. -/
theorem run_claimed (config : Config) (is : List KeyCommandInput)
    (h : AllSteps keyCommandStep (fun s i => PopsOwn s i ∧ Claims s i) (.create config) is) :
    AllSteps keyCommandStep Claimed (.create config) is :=
  allSteps_of_allSteps (fun _ i hlisted hc => hlisted.step i hc.1)
    (fun _ i hlisted hc => claimed_of_claims hlisted i hc.2) is _ (create_listed config) h

/-- The volume is raised, and the key let go. -/
def tapVolumeUp : Sequence where
  sequenceKeys := [{ keyCode := keyCodeVolumeUp, keyAction := keyActionDown },
    { keyCode := keyCodeVolumeUp, keyAction := keyActionUp }]

def tapLaunches (sequence : Sequence) (h : Configured sequence) : Config where
  shortcuts := []
  sequences := [sequence]
  configured _ hmem := List.mem_singleton.mp hmem ▸ h

/-- A release as the normaliser reports it. -/
def released (keyCode : Int32) (time : Int64) : KeyEvent :=
  { injectedRelease keyCode time with action := keyActionUp }

def tap : List KeyCommandInput :=
  [.key (pressed keyCodeVolumeUp 1) 0, .key (released keyCodeVolumeUp 2) 0]

/-- With a start delay the delay of the press is cancelled. -/
theorem run_claimed_tap :
    AllSteps keyCommandStep Claimed
      (.create (tapLaunches { tapVolumeUp with abilityStartDelay := 100000 }
        ⟨rfl, by simp [tapVolumeUp], by decide, rfl⟩)) tap :=
  run_claimed _ tap ⟨⟨trivial, .inl (by decide +kernel)⟩, ⟨trivial, .inl (by decide +kernel)⟩, trivial⟩

/-- Without one the delay of the press goes on. -/
theorem counterexample_claimed :
    ¬ ∀ (config : Config) (is : List KeyCommandInput),
      AllSteps keyCommandStep Claimed (.create config) is := by
  intro h
  have hclaimed := (h (tapLaunches tapVolumeUp ⟨rfl, by simp [tapVolumeUp], le_rfl, rfl⟩) tap).2.1
    (by decide +kernel) (Option.get _ (by decide +kernel)) (Option.get_mem _) tapVolumeUp
    (by decide +kernel) (by decide +kernel)
    { keyCode := keyCodeVolumeUp, keyAction := keyActionUp } (by decide)
  have hdelays := hclaimed.2.delays
  revert hdelays
  decide +kernel

end FtMmi.KeyCommand
