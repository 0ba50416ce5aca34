/-
FtMmi.EventHandler.KeyEventNormalize — turning the key reports of the
keyboards into one `KeyEvent` (`key_event_normalize.cpp`,
`key_unicode_transformation.cpp`).

There is a single `KeyEvent` for all keyboards. Its items are the keys
held down and, after a release, the key released, which stays until the
next report. `Bookkept` says so against the reports themselves, `Held`,
and `normalize_bookkept` is the step: whatever the report.

The device id and the key code of a report are what the device manager
and the key map make of it; the event id and the clock reading are
arguments. Null checks are left out.
-/
import FtMmi.Event.KeyEvent

namespace FtMmi.EventHandler

open FtMmi.Event

/-! ## Unicode -/

/-- `KEY_UNICODE_TRANSFORMATION`: the key code, the original and the
transitioned character. -/
def keyUnicodeTransformation : List (Int32 × UInt32 × UInt32) :=
  [(2017, 0x0061, 0x0041), (2018, 0x0062, 0x0042), (2019, 0x0063, 0x0043), (2020, 0x0064, 0x0044),
   (2021, 0x0065, 0x0045), (2022, 0x0066, 0x0046), (2023, 0x0067, 0x0047), (2024, 0x0068, 0x0048),
   (2025, 0x0069, 0x0049), (2026, 0x006A, 0x004A), (2027, 0x006B, 0x004B), (2028, 0x006C, 0x004C),
   (2029, 0x006D, 0x004D), (2030, 0x006E, 0x004E), (2031, 0x006F, 0x004F), (2032, 0x0070, 0x0050),
   (2033, 0x0071, 0x0051), (2034, 0x0072, 0x0052), (2035, 0x0073, 0x0053), (2036, 0x0074, 0x0054),
   (2037, 0x0075, 0x0055), (2038, 0x0076, 0x0056), (2039, 0x0077, 0x0057), (2040, 0x0078, 0x0058),
   (2041, 0x0079, 0x0059), (2042, 0x007A, 0x005A), (2000, 0x0030, 0x0029), (2001, 0x0031, 0x0021),
   (2002, 0x0032, 0x0040), (2003, 0x0033, 0x0023), (2004, 0x0034, 0x0024), (2005, 0x0035, 0x0025),
   (2006, 0x0036, 0x005E), (2007, 0x0037, 0x0026), (2008, 0x0038, 0x002A), (2009, 0x0039, 0x0028),
   (2056, 0x0060, 0x007E), (2057, 0x002D, 0x005F), (2058, 0x002B, 0x003D), (2059, 0x005B, 0x007B),
   (2060, 0x005D, 0x007D), (2061, 0x005C, 0x007C), (2062, 0x003B, 0x003A), (2063, 0x0027, 0x0022),
   (2064, 0x002F, 0x003F), (2043, 0x002C, 0x003C), (2044, 0x002E, 0x003E), (2103, 0x0030, 0x0000),
   (2104, 0x0031, 0x0000), (2105, 0x0032, 0x0000), (2106, 0x0033, 0x0000), (2107, 0x0034, 0x0000),
   (2108, 0x0035, 0x0000), (2109, 0x0036, 0x0000), (2110, 0x0037, 0x0000), (2111, 0x0038, 0x0000),
   (2112, 0x0039, 0x0000), (2113, 0x002F, 0x0000), (2114, 0x0038, 0x0000), (2115, 0x002D, 0x0000),
   (2116, 0x002B, 0x0000), (2117, 0x002E, 0x0000)]

def hosKeyA : Int32 := 2017

def hosKeyZ : Int32 := 2042

def hosKeyShiftLeft : Int32 := 2047

def hosKeyShiftRight : Int32 := 2048

def defaultUnicode : UInt32 := 0

def isShiftPressed (keyEvent : KeyEvent) : Bool :=
  keyEvent.getPressedKeys.any fun key => key = hosKeyShiftLeft ∨ key = hosKeyShiftRight

def keyCodeToUnicode (keyCode : Int32) (keyEvent : KeyEvent) : UInt32 :=
  match keyUnicodeTransformation.lookup keyCode with
  | none => defaultUnicode
  | some (original, transitioned) =>
      let isCapsEnable := keyEvent.getFunctionKey .capsLock
      let isShiftPress := isShiftPressed keyEvent
      if hosKeyA ≤ keyCode ∧ keyCode ≤ hosKeyZ then
        if isCapsEnable != isShiftPress then transitioned else original
      else if isShiftPress then transitioned
      else original

/-! ## Normalize -/

/-- A key report of `libinput`. -/
structure KeyReport where
  deviceId : Int32
  keyCode : Int32
  pressed : Bool
  deriving DecidableEq, Repr

/-- The item released by the event before is removed only now. -/
def removePreUpKeyItem (keyEvent : KeyEvent) : KeyEvent :=
  if keyEvent.action = keyActionUp then
    match keyEvent.getKeyItem keyEvent.keyCode with
    | some preUpKeyItem => keyEvent.removeReleasedKeyItems preUpKeyItem
    | none => keyEvent
  else keyEvent

def KeyReport.keyAction (report : KeyReport) : Int32 :=
  if report.pressed then keyActionDown else keyActionUp

def setReport (report : KeyReport) (time : Int64) (keyEvent : KeyEvent) : KeyEvent :=
  { keyEvent with
    actionTime := time
    action := report.keyAction
    deviceId := report.deviceId
    keyCode := report.keyCode
    keyAction := report.keyAction
    actionStartTime := if keyEvent.getPressedKeys.isEmpty then time else keyEvent.actionStartTime }

def setUpFunctionKey (keyCode : Int32) (keyEvent : KeyEvent) : KeyEvent :=
  match KeyEvent.transitionFunctionKey keyCode with
  | some funcKey => keyEvent.setFunctionKey funcKey true
  | none => keyEvent

/-- The time a key went down, if it is among the items. -/
def downTimeOf (keyEvent : KeyEvent) (keyCode : Int32) (time : Int64) : Int64 :=
  match keyEvent.getKeyItem keyCode with
  | some pressedKeyItem => pressedKeyItem.downTime
  | none => time

def normalize (report : KeyReport) (id : Int32) (time : Int64) (keyEvent : KeyEvent) : KeyEvent :=
  let keyEvent := { keyEvent with id := id }
  let keyEvent := setReport report time (removePreUpKeyItem keyEvent)
  let item : KeyItem :=
    { pressed := report.pressed
      deviceId := report.deviceId
      keyCode := report.keyCode
      downTime := time
      unicode := keyCodeToUnicode report.keyCode keyEvent }
  if report.pressed then keyEvent.addPressedKeyItems item
  else
    let keyEvent := setUpFunctionKey report.keyCode keyEvent
    let item := { item with downTime := downTimeOf keyEvent report.keyCode time }
    (keyEvent.removeReleasedKeyItems item).addPressedKeyItems item

/-! ## The keys held down, from the reports alone -/

/-- For each key whose latest report was a press, when it went down. -/
abbrev Held := Int32 → Option Int64

/-- A press of a key that is down already does not count. -/
def Held.record (held : Held) (report : KeyReport) (time : Int64) : Held :=
  Function.update held report.keyCode
    (if report.pressed then some ((held report.keyCode).getD time) else none)

/-- The pressed ones of the items are the keys held down. -/
def Lists (items : List KeyItem) (held : Held) : Prop :=
  ∀ code time, held code = some time ↔
    ∃ item ∈ items, item.pressed = true ∧ item.keyCode = code ∧ item.downTime = time

theorem Lists.filter {items : List KeyItem} {held : Held} (h : Lists items held) :
    Lists (items.filter KeyItem.pressed) held := by
  intro code time
  rw [h code time]
  constructor
  · rintro ⟨item, hmem, hp, hrest⟩
    exact ⟨item, List.mem_filter.mpr ⟨hmem, hp⟩, hp, hrest⟩
  · rintro ⟨item, hmem, hrest⟩
    exact ⟨item, (List.mem_filter.mp hmem).1, hrest⟩

theorem Lists.add {items : List KeyItem} {held : Held} {item : KeyItem} (h : Lists items held)
    (hp : item.pressed = true) (hnone : held item.keyCode = none) :
    Lists (items ++ [item]) (Function.update held item.keyCode (some item.downTime)) := by
  intro code time
  by_cases hcode : code = item.keyCode
  · subst hcode
    rw [Function.update_self]
    constructor
    · intro hsome
      exact ⟨item, by simp, hp, rfl, Option.some.inj hsome⟩
    · rintro ⟨i, hmem, hip, hic, rfl⟩
      rcases List.mem_append.mp hmem with hi | hi
      · have hheld := (h item.keyCode i.downTime).mpr ⟨i, hi, hip, hic, rfl⟩
        rw [hnone] at hheld
        cases hheld
      · rw [List.mem_singleton.mp hi]
  · rw [Function.update_of_ne hcode, h code time]
    constructor
    · rintro ⟨i, hmem, hrest⟩
      exact ⟨i, List.mem_append_left _ hmem, hrest⟩
    · rintro ⟨i, hmem, hip, rfl, hit⟩
      rcases List.mem_append.mp hmem with hi | hi
      · exact ⟨i, hi, hip, rfl, hit⟩
      · exact absurd (congrArg KeyItem.keyCode (List.mem_singleton.mp hi)) hcode

theorem Lists.remove {items : List KeyItem} {held : Held} (h : Lists items held) (keyCode : Int32) :
    Lists (items.filter fun i => i.keyCode ≠ keyCode) (Function.update held keyCode none) := by
  intro code time
  by_cases hcode : code = keyCode
  · subst hcode
    rw [Function.update_self]
    simp +contextual
  · rw [Function.update_of_ne hcode, h code time]
    constructor
    · rintro ⟨i, hmem, hip, rfl, hit⟩
      exact ⟨i, List.mem_filter.mpr ⟨hmem, decide_eq_true hcode⟩, hip, rfl, hit⟩
    · rintro ⟨i, hmem, hrest⟩
      exact ⟨i, (List.mem_filter.mp hmem).1, hrest⟩

theorem Lists.addReleased {items : List KeyItem} {held : Held} {item : KeyItem}
    (h : Lists items held) (hp : item.pressed = false) : Lists (items ++ [item]) held := by
  intro code time
  rw [h code time]
  simp [hp]

/-- The event between two reports: its pressed items are the keys held
down, and there may be one more, the key just released. -/
structure Bookkept (held : Held) (keyEvent : KeyEvent) : Prop where
  nodup : (keyEvent.keys.map KeyItem.keyCode).Nodup
  pressed : Lists keyEvent.keys held
  released : ∀ item ∈ keyEvent.keys, item.pressed = false →
    keyEvent.action = keyActionUp ∧ item.keyCode = keyEvent.keyCode
  up : keyEvent.action = keyActionUp → held keyEvent.keyCode = none

theorem create_bookkept (now : Int64) : Bookkept (fun _ => none) (KeyEvent.create now) where
  nodup := List.nodup_nil
  pressed := by simp [Lists, KeyEvent.create]
  released := by simp [KeyEvent.create]
  up := fun _ => rfl

namespace Bookkept

variable {held : Held} {keyEvent : KeyEvent}

theorem held_of_mem (h : Bookkept held keyEvent) {item : KeyItem} (hmem : item ∈ keyEvent.keys)
    (hpressed : item.pressed = true) : held item.keyCode = some item.downTime :=
  (h.pressed _ _).mpr ⟨item, hmem, hpressed, rfl, rfl⟩

/-- Of the items, those that stay for the next report are the pressed ones. -/
theorem removePreUpKeyItem_keys (h : Bookkept held keyEvent) :
    (removePreUpKeyItem keyEvent).keys = keyEvent.keys.filter KeyItem.pressed := by
  have hpressed : ∀ item ∈ keyEvent.keys,
      (keyEvent.action = keyActionUp → item.keyCode ≠ keyEvent.keyCode) → item.pressed = true := by
    intro item hmem hne
    by_contra hnot
    obtain ⟨hup, hcode⟩ := h.released item hmem (by simpa using hnot)
    exact hne hup hcode
  unfold removePreUpKeyItem
  split
  · rename_i hup
    have hnone := h.up hup
    cases hitem : keyEvent.getKeyItem keyEvent.keyCode with
    | none =>
      have habsent := List.find?_eq_none.mp hitem
      exact (List.filter_eq_self.mpr fun item hmem =>
        hpressed item hmem fun _ hcode => habsent item hmem (by simpa using hcode)).symm
    | some preUpKeyItem =>
      have hcode : preUpKeyItem.keyCode = keyEvent.keyCode := by
        simpa using List.find?_some hitem
      show keyEvent.keys.filter (fun item => item.keyCode ≠ preUpKeyItem.keyCode) = _
      rw [hcode]
      refine List.filter_congr fun item hmem => ?_
      cases hp : item.pressed with
      | true =>
        have hheld := h.held_of_mem hmem hp
        refine decide_eq_true fun heq => ?_
        rw [heq, hnone] at hheld
        cases hheld
      | false => exact decide_eq_false fun hne => hne (h.released item hmem hp).2
  · rename_i hnot
    exact (List.filter_eq_self.mpr fun item hmem => hpressed item hmem fun hup => absurd hup hnot).symm

end Bookkept

/-! ## One report -/

@[simp] theorem setReport_keys (report : KeyReport) (time : Int64) (keyEvent : KeyEvent) :
    (setReport report time keyEvent).keys = keyEvent.keys := rfl

@[simp] theorem setUpFunctionKey_keys (keyCode : Int32) (keyEvent : KeyEvent) :
    (setUpFunctionKey keyCode keyEvent).keys = keyEvent.keys := by
  unfold setUpFunctionKey
  split
  · exact KeyEvent.setFunctionKey_keys _ _ _
  · rfl

/-- What every part of `Normalize` behind `setReport` leaves alone. -/
def header (keyEvent : KeyEvent) : InputEvent eventTypeKey × Int32 × Int32 :=
  (keyEvent.toInputEvent, keyEvent.keyCode, keyEvent.keyAction)

theorem header_setUpFunctionKey (keyCode : Int32) (keyEvent : KeyEvent) :
    header (setUpFunctionKey keyCode keyEvent) = header keyEvent := by
  unfold setUpFunctionKey
  split
  · rename_i funcKey _
    cases funcKey <;> rfl
  · rfl

theorem header_addPressedKeyItems (keyEvent : KeyEvent) (item : KeyItem) :
    header (keyEvent.addPressedKeyItems item) = header keyEvent := by
  unfold KeyEvent.addPressedKeyItems
  split <;> rfl

theorem normalize_header (report : KeyReport) (id : Int32) (time : Int64) (keyEvent : KeyEvent) :
    header (normalize report id time keyEvent)
      = header (setReport report time (removePreUpKeyItem { keyEvent with id := id })) := by
  simp only [normalize]
  split
  · rw [header_addPressedKeyItems]
  · rw [header_addPressedKeyItems]
    exact header_setUpFunctionKey _ _

theorem normalize_keyCode (report : KeyReport) (id : Int32) (time : Int64) (keyEvent : KeyEvent) :
    (normalize report id time keyEvent).keyCode = report.keyCode :=
  congrArg (fun h => h.2.1) (normalize_header report id time keyEvent)

theorem normalize_keyAction (report : KeyReport) (id : Int32) (time : Int64)
    (keyEvent : KeyEvent) : (normalize report id time keyEvent).keyAction = report.keyAction :=
  congrArg (fun h => h.2.2) (normalize_header report id time keyEvent)

theorem normalize_action (report : KeyReport) (id : Int32) (time : Int64) (keyEvent : KeyEvent) :
    (normalize report id time keyEvent).action = report.keyAction :=
  congrArg (fun h => h.1.action) (normalize_header report id time keyEvent)

theorem normalize_deviceId (report : KeyReport) (id : Int32) (time : Int64)
    (keyEvent : KeyEvent) : (normalize report id time keyEvent).deviceId = report.deviceId :=
  congrArg (fun h => h.1.deviceId) (normalize_header report id time keyEvent)

theorem keyAction_eq_down_iff (report : KeyReport) :
    report.keyAction = keyActionDown ↔ report.pressed = true := by
  unfold KeyReport.keyAction
  cases report.pressed <;> decide

theorem keyAction_eq_up_iff (report : KeyReport) :
    report.keyAction = keyActionUp ↔ report.pressed = false := by
  unfold KeyReport.keyAction
  cases report.pressed <;> decide

namespace Bookkept

variable {held : Held} {keyEvent : KeyEvent}

theorem mem_pressed_iff (h : Bookkept held keyEvent) {items : List KeyItem} {code : Int32}
    (hitems : items = keyEvent.keys.filter KeyItem.pressed) :
    (∃ item ∈ items, item.pressed = true ∧ item.keyCode = code) ↔ (held code).isSome = true := by
  rw [Option.isSome_iff_exists, hitems]
  constructor
  · rintro ⟨item, hmem, hp, rfl⟩
    exact ⟨_, h.held_of_mem (List.mem_filter.mp hmem).1 hp⟩
  · rintro ⟨time, hheld⟩
    obtain ⟨item, hmem, hp, hcode, _⟩ := (h.pressed code time).mp hheld
    exact ⟨item, List.mem_filter.mpr ⟨hmem, hp⟩, hp, hcode⟩

/-- A press of a key that is not down adds an item for it. -/
theorem normalize_keys_down (h : Bookkept held keyEvent) (report : KeyReport) (id : Int32)
    (time : Int64) (hdown : report.pressed = true) :
    ∃ item : KeyItem, item.pressed = true ∧ item.keyCode = report.keyCode ∧
      item.downTime = time ∧ (normalize report id time keyEvent).keys =
        if (held report.keyCode).isSome = true then keyEvent.keys.filter KeyItem.pressed
        else keyEvent.keys.filter KeyItem.pressed ++ [item] := by
  set stay := removePreUpKeyItem { keyEvent with id := id } with hstay
  have hid : Bookkept held { keyEvent with id := id } := ⟨h.1, h.2, h.3, h.4⟩
  have hkeys : stay.keys = keyEvent.keys.filter KeyItem.pressed := hid.removePreUpKeyItem_keys
  refine ⟨⟨true, report.deviceId, report.keyCode, time,
    keyCodeToUnicode report.keyCode (setReport report time stay)⟩, rfl, rfl, rfl, ?_⟩
  simp only [normalize, hdown, if_true, KeyEvent.addPressedKeyItems, ← hstay]
  rw [← hkeys]
  have hmem : report.keyCode ∈ (setReport report time stay).getPressedKeys ↔
      (held report.keyCode).isSome = true := by
    rw [KeyEvent.mem_getPressedKeys, setReport_keys]
    exact h.mem_pressed_iff hkeys
  simp only [hmem]
  split <;> rfl

theorem downTimeOf_eq (h : Bookkept held keyEvent) {stay : KeyEvent} (code : Int32) (time : Int64)
    (hkeys : stay.keys = keyEvent.keys.filter KeyItem.pressed) :
    downTimeOf stay code time = (held code).getD time := by
  unfold downTimeOf
  cases hitem : stay.getKeyItem code with
  | none =>
    have habsent := List.find?_eq_none.mp hitem
    cases hheld : held code with
    | none => rfl
    | some t =>
      obtain ⟨item, hmem, _, hcode⟩ := (h.mem_pressed_iff hkeys).mpr (by rw [hheld]; rfl)
      exact absurd (decide_eq_true hcode) (habsent item hmem)
  | some item =>
    have hmem := List.mem_of_find?_eq_some hitem
    have hcode : item.keyCode = code := by simpa using List.find?_some hitem
    rw [hkeys, List.mem_filter] at hmem
    rw [← hcode, h.held_of_mem hmem.1 hmem.2]
    rfl

/-- A release leaves an item for the key, with the time it went down. -/
theorem normalize_keys_up (h : Bookkept held keyEvent) (report : KeyReport) (id : Int32)
    (time : Int64) (hup : report.pressed = false) :
    ∃ item : KeyItem, item.pressed = false ∧ item.keyCode = report.keyCode ∧
      item.downTime = (held report.keyCode).getD time ∧
      (normalize report id time keyEvent).keys =
        (keyEvent.keys.filter KeyItem.pressed).filter (fun i => i.keyCode ≠ report.keyCode)
          ++ [item] := by
  set stay := removePreUpKeyItem { keyEvent with id := id } with hstay
  have hid : Bookkept held { keyEvent with id := id } := ⟨h.1, h.2, h.3, h.4⟩
  have hkeys : stay.keys = keyEvent.keys.filter KeyItem.pressed := hid.removePreUpKeyItem_keys
  set marked := setUpFunctionKey report.keyCode (setReport report time stay) with hmarked
  have hkeys' : marked.keys = keyEvent.keys.filter KeyItem.pressed := by
    rw [hmarked, setUpFunctionKey_keys, setReport_keys, hkeys]
  refine ⟨⟨false, report.deviceId, report.keyCode, downTimeOf marked report.keyCode time,
    keyCodeToUnicode report.keyCode (setReport report time stay)⟩, rfl, rfl,
    h.downTimeOf_eq report.keyCode time hkeys', ?_⟩
  simp only [normalize, hup, Bool.false_eq_true, if_false, KeyEvent.addPressedKeyItems, ← hstay,
    ← hmarked]
  rw [if_neg, KeyEvent.addKeyItem_keys, KeyEvent.removeReleasedKeyItems_keys, hkeys']
  -- The items with the key's code are gone, so it is not pressed twice.
  rw [KeyEvent.mem_getPressedKeys]
  rintro ⟨item, hmem, _, hcode⟩
  rw [KeyEvent.removeReleasedKeyItems_keys, List.mem_filter] at hmem
  exact of_decide_eq_true hmem.2 hcode

end Bookkept

/-! ## The invariant -/

/-- What a listener may rely on when it gets the event made of a report. -/
structure ListsHeldKeys (held : Held) (report : KeyReport) (time : Int64) (keyEvent : KeyEvent) :
    Prop where
  distinct : (keyEvent.keys.map KeyItem.keyCode).Nodup
  pressed : ∀ code, code ∈ keyEvent.getPressedKeys ↔ (held.record report time code).isSome = true
  released : report.pressed = false → ∃ item,
    keyEvent.keys.filter (fun i => !i.pressed) = [item] ∧ item.keyCode = report.keyCode ∧
      ∀ downTime, held report.keyCode = some downTime → item.downTime = downTime

variable {held : Held} {keyEvent : KeyEvent}

/-- An item for a key that has none is added. -/
theorem nodup_append_item {items : List KeyItem} {item : KeyItem}
    (h : (items.map KeyItem.keyCode).Nodup) (hfresh : ∀ i ∈ items, i.keyCode ≠ item.keyCode) :
    ((items ++ [item]).map KeyItem.keyCode).Nodup := by
  have hperm := (List.perm_append_singleton item items).map KeyItem.keyCode
  refine hperm.nodup_iff.mpr (List.nodup_cons.mpr ⟨fun hmem => ?_, h⟩)
  obtain ⟨i, hi, heq⟩ := List.mem_map.mp hmem
  exact hfresh i hi heq

theorem Bookkept.nodup_filter (h : Bookkept held keyEvent) :
    ((keyEvent.keys.filter KeyItem.pressed).map KeyItem.keyCode).Nodup :=
  h.nodup.sublist (List.filter_sublist.map KeyItem.keyCode)

theorem Bookkept.normalize_down (h : Bookkept held keyEvent) (report : KeyReport) (id : Int32)
    (time : Int64) (hdown : report.pressed = true) :
    Bookkept (held.record report time) (normalize report id time keyEvent) := by
  obtain ⟨item, hp, hcode, htime, hkeys⟩ := h.normalize_keys_down report id time hdown
  have hnotup : (normalize report id time keyEvent).action ≠ keyActionUp := by
    rw [normalize_action, ne_eq, keyAction_eq_up_iff, hdown]
    decide
  have hrec : held.record report time
      = Function.update held report.keyCode (some ((held report.keyCode).getD time)) := by
    rw [Held.record, hdown, if_pos rfl]
  cases hbefore : held report.keyCode with
  | some t =>
    -- The key was down already: nothing changes.
    rw [hbefore, Option.isSome_some, if_pos rfl] at hkeys
    have hsame : held.record report time = held := by
      rw [hrec, hbefore, Option.getD_some, ← hbefore]
      exact Function.update_eq_self _ _
    rw [hsame]
    refine ⟨?_, ?_, fun i hi hip => ?_, fun hup => absurd hup hnotup⟩
    · rw [hkeys]
      exact h.nodup_filter
    · rw [hkeys]
      exact h.pressed.filter
    · rw [hkeys] at hi
      rw [(List.mem_filter.mp hi).2] at hip
      cases hip
  | none =>
    rw [hbefore, Option.isSome_none, if_neg Bool.false_ne_true] at hkeys
    rw [hbefore, Option.getD_none, ← hcode, ← htime] at hrec
    rw [← hcode] at hbefore
    refine ⟨?_, ?_, fun i hi hip => ?_, fun hup => absurd hup hnotup⟩
    · rw [hkeys]
      refine nodup_append_item h.nodup_filter fun i hi heq => ?_
      have hheld := h.held_of_mem (List.mem_filter.mp hi).1 (List.mem_filter.mp hi).2
      rw [heq, hbefore] at hheld
      cases hheld
    · rw [hkeys, ← htime, hrec]
      exact h.pressed.filter.add hp hbefore
    · rw [hkeys] at hi
      rcases List.mem_append.mp hi with hi | hi
      · rw [(List.mem_filter.mp hi).2] at hip
        cases hip
      · rw [List.mem_singleton.mp hi, hp] at hip
        cases hip

theorem Bookkept.normalize_up (h : Bookkept held keyEvent) (report : KeyReport) (id : Int32)
    (time : Int64) (hup : report.pressed = false) :
    Bookkept (held.record report time) (normalize report id time keyEvent) := by
  obtain ⟨item, hp, hcode, -, hkeys⟩ := h.normalize_keys_up report id time hup
  have hrec : held.record report time = Function.update held report.keyCode none := by
    rw [Held.record, hup, if_neg Bool.false_ne_true]
  have haction : (normalize report id time keyEvent).action = keyActionUp := by
    rw [normalize_action, keyAction_eq_up_iff, hup]
  refine ⟨?_, ?_, fun i hi hip => ⟨haction, ?_⟩, fun _ => ?_⟩
  · rw [hkeys]
    refine nodup_append_item (h.nodup_filter.sublist (List.filter_sublist.map _)) fun i hi heq => ?_
    exact of_decide_eq_true (List.mem_filter.mp hi).2 (heq.trans hcode)
  · rw [hkeys, hrec]
    exact (h.pressed.filter.remove report.keyCode).addReleased hp
  · rw [normalize_keyCode]
    rw [hkeys] at hi
    rcases List.mem_append.mp hi with hi | hi
    · rw [(List.mem_filter.mp (List.mem_filter.mp hi).1).2] at hip
      cases hip
    · rw [List.mem_singleton.mp hi, hcode]
  · rw [normalize_keyCode, hrec, Function.update_self]

/-- The step, whatever the report. -/
theorem Bookkept.normalize (h : Bookkept held keyEvent) (report : KeyReport) (id : Int32)
    (time : Int64) : Bookkept (held.record report time) (normalize report id time keyEvent) := by
  cases hp : report.pressed with
  | true => exact h.normalize_down report id time hp
  | false => exact h.normalize_up report id time hp

theorem Bookkept.listsHeldKeys (h : Bookkept held keyEvent) (report : KeyReport) (id : Int32)
    (time : Int64) :
    ListsHeldKeys held report time (EventHandler.normalize report id time keyEvent) := by
  have hafter := h.normalize report id time
  refine ⟨hafter.nodup, fun code => ?_, fun hup => ?_⟩
  · rw [KeyEvent.mem_getPressedKeys, Option.isSome_iff_exists]
    constructor
    · rintro ⟨item, hmem, hp, rfl⟩
      exact ⟨_, hafter.held_of_mem hmem hp⟩
    · rintro ⟨t, hheld⟩
      obtain ⟨item, hmem, hp, hcode, -⟩ := (hafter.pressed code t).mp hheld
      exact ⟨item, hmem, hp, hcode⟩
  · obtain ⟨item, hp, hcode, htime, hkeys⟩ := h.normalize_keys_up report id time hup
    refine ⟨item, ?_, hcode, fun downTime hheld => ?_⟩
    · have hnone : ((keyEvent.keys.filter KeyItem.pressed).filter
          fun i => i.keyCode ≠ report.keyCode).filter (fun i => !i.pressed) = [] := by
        rw [List.filter_eq_nil_iff]
        intro i hi
        simp [(List.mem_filter.mp (List.mem_filter.mp hi).1).2]
      rw [hkeys, List.filter_append, hnone, List.nil_append, List.filter_singleton, hp]
      rfl
    · rw [htime, hheld, Option.getD_some]

end FtMmi.EventHandler
