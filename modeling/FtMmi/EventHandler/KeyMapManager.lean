/-
FtMmi.EventHandler.KeyMapManager — the key tables of the devices
(`KeyMapManager` in `key_map_manager.cpp`), and the keys a device is said
to support (`SupportKeys` in `input_device_manager.cpp`).

The key of a code is looked up in the table of the device, then in the
default one, then in the table of all codes: the first that has the code
counts. The codes of a key are those of the first table that is there,
whether or not it has them all. `Agrees` says when that makes no
difference.
-/
import FtMmi.Device.InputDeviceManager
import FtMmi.EventHandler.KeyEventValueTransformation

namespace FtMmi.EventHandler

open FtMmi.Device

abbrev KeyTable := Std.TreeMap Int32 Int32

structure KeyMapManager where
  /-- `configKeyValue_`: device id to Linux code to key. -/
  configKeyValue : Std.TreeMap Int32 KeyTable

def defaultKeyId : Int32 := -1

namespace KeyMapManager

def transferDefaultKeyValue (m : KeyMapManager) (inputKey : Int32) : Int32 :=
  match m.configKeyValue[defaultKeyId]? with
  | some keys => (keys[inputKey]?).getD (transferKeyValue inputKey)
  | none => transferKeyValue inputKey

/-- `TransferDeviceKeyValue`; there is no device for the null pointer. -/
def transferDeviceKeyValue (m : KeyMapManager) (devices : InputDeviceManager)
    (device : Option Nat) (inputKey : Int32) : Int32 :=
  match device with
  | none => m.transferDefaultKeyValue inputKey
  | some device =>
      match m.configKeyValue[findInputDeviceId devices device]? with
      | some keys => (keys[inputKey]?).getD (m.transferDefaultKeyValue inputKey)
      | none => m.transferDefaultKeyValue inputKey

/-- The loop over a table that picks the codes of a key. -/
def codesOf (keys : KeyTable) (keyCode : Int32) : List Int32 :=
  (keys.toList.filter fun it => it.2 = keyCode).map Prod.fst

def inputTransferKeyValue (m : KeyMapManager) (deviceId keyCode : Int32) : List Int32 :=
  match m.configKeyValue[deviceId]? with
  | some keys => codesOf keys keyCode
  | none =>
      match m.configKeyValue[defaultKeyId]? with
      | some keys => codesOf keys keyCode
      | none => [inputTransformationKeyValue keyCode]

/-- The loop over the codes of a key in `SupportKeys`. -/
def supportsKey (m : KeyMapManager) (deviceId item : Int32) : Bool :=
  (m.inputTransferKeyValue deviceId item).foldl (fun ret _ => ret || true) false

/-- `SupportKeys`: what is appended to `keystroke`, if the device is there. -/
def supportKeys (m : KeyMapManager) (devices : InputDeviceManager) (deviceId : Int32)
    (keyCodes : List Int32) : Option (List Bool) :=
  if (devices.inputDevice.find? fun item => item.1 = deviceId).isSome then
    some (keyCodes.map fun item => m.supportsKey deviceId item)
  else none

/-! ## When the tables agree -/

/-- The default table has the key for the code, or leaves the code to the
table of all codes. -/
def DefaultYields (m : KeyMapManager) (code key : Int32) : Prop :=
  match m.configKeyValue[defaultKeyId]? with
  | some keys => keys[code]? = some key ∨ (keys[code]? = none ∧ Yields code key)
  | none => Yields code key

/-- The table that is read for the codes of a key has the code, or none behind
it makes the key of it. -/
def Agrees (m : KeyMapManager) (deviceId code key : Int32) : Prop :=
  match m.configKeyValue[deviceId]? with
  | some keys => code ∈ keys ∨ ¬ m.DefaultYields code key
  | none =>
      match m.configKeyValue[defaultKeyId]? with
      | some keys => code ∈ keys ∨ ¬ Yields code key
      | none => RoundTrips code key

theorem mem_codesOf {keys : KeyTable} {code key : Int32} :
    code ∈ codesOf keys key ↔ keys[code]? = some key := by
  simp [codesOf, Std.TreeMap.mem_toList_iff_getElem?_eq_some]

theorem transferDefaultKeyValue_eq_iff {m : KeyMapManager} {code key : Int32} :
    m.transferDefaultKeyValue code = key ↔ m.DefaultYields code key := by
  unfold transferDefaultKeyValue DefaultYields
  cases hdefault : m.configKeyValue[defaultKeyId]? with
  | none =>
    simp only
    exact transferKeyValue_eq_iff
  | some keys =>
    simp only
    rw [← transferKeyValue_eq_iff]
    cases hcode : keys[code]? with
    | none => simp
    | some value => simp

/-- One table against what is behind it. -/
theorem codesOf_agrees_iff {keys : KeyTable} {code key other : Int32} {Behind : Prop}
    (h : other = key ↔ Behind) :
    (code ∈ codesOf keys key ↔ (keys[code]?).getD other = key) ↔ (code ∈ keys ∨ ¬ Behind) := by
  rw [mem_codesOf, Std.TreeMap.mem_iff_isSome_getElem?]
  cases hcode : keys[code]? with
  | none => simp [h]
  | some value => simp

theorem inputTransferKeyValue_agrees_iff (m : KeyMapManager) (devices : InputDeviceManager)
    (device : Nat) (code key : Int32) :
    (code ∈ m.inputTransferKeyValue (findInputDeviceId devices device) key ↔
        m.transferDeviceKeyValue devices (some device) code = key) ↔
      m.Agrees (findInputDeviceId devices device) code key := by
  unfold inputTransferKeyValue transferDeviceKeyValue Agrees
  cases hdevice : m.configKeyValue[findInputDeviceId devices device]? with
  | some keys =>
    simp only [hdevice]
    exact codesOf_agrees_iff transferDefaultKeyValue_eq_iff
  | none =>
    unfold transferDefaultKeyValue
    cases hdefault : m.configKeyValue[defaultKeyId]? with
    | some keys =>
      simp only [hdevice]
      exact codesOf_agrees_iff transferKeyValue_eq_iff
    | none =>
      simp only [hdevice, List.mem_singleton]
      rw [← roundTrip_iff, eq_comm]

theorem supportsKey_iff {m : KeyMapManager} {deviceId item : Int32} :
    m.supportsKey deviceId item = true ↔ ∃ code, code ∈ m.inputTransferKeyValue deviceId item := by
  unfold supportsKey
  cases m.inputTransferKeyValue deviceId item with
  | nil => simp
  | cons code codes =>
    have htrue : ∀ codes : List Int32, codes.foldl (fun ret _ => ret || true) true = true := by
      intro codes
      induction codes with
      | nil => rfl
      | cons code codes ih => exact ih
    refine iff_of_true (htrue codes) ⟨code, List.mem_cons_self⟩

/-- A code is among those of a key, if the key is that of the code, precisely
where the tables agree; and a device is said to support a key that they agree
about if it has a code with it. -/
theorem keyMaps_agree_iff (m : KeyMapManager) (devices : InputDeviceManager) (device : Nat)
    (key : Int32) :
    (∀ code, (code ∈ m.inputTransferKeyValue (findInputDeviceId devices device) key ↔
        m.transferDeviceKeyValue devices (some device) code = key) ↔
      m.Agrees (findInputDeviceId devices device) code key) ∧
    ((∀ code, m.Agrees (findInputDeviceId devices device) code key) →
      (m.supportsKey (findInputDeviceId devices device) key = true ↔
        ∃ code, m.transferDeviceKeyValue devices (some device) code = key)) := by
  constructor
  · intro code
    exact inputTransferKeyValue_agrees_iff m devices device code key
  · intro hagrees
    rw [supportsKey_iff]
    refine exists_congr fun code => ?_
    exact (inputTransferKeyValue_agrees_iff m devices device code key).mpr (hagrees code)

/-- A keyboard with a table of one code, which still has its other keys. -/
def oneCode : KeyMapManager where
  configKeyValue := (∅ : Std.TreeMap Int32 KeyTable).insert 3 ((∅ : KeyTable).insert 183 2837)

theorem counterexample_keyMaps_agree :
    ¬ ∀ (m : KeyMapManager) (devices : InputDeviceManager) (device : Nat) (code key : Int32),
      code ∈ m.inputTransferKeyValue (findInputDeviceId devices device) key ↔
        m.transferDeviceKeyValue devices (some device) code = key := by
  intro h
  have hid : findInputDeviceId ⟨[(3, 7)], []⟩ 7 = 3 := by decide +kernel
  have hagrees := (inputTransferKeyValue_agrees_iff oneCode ⟨[(3, 7)], []⟩ 7 30 2017).mp
    (h oneCode ⟨[(3, 7)], []⟩ 7 30 2017)
  have hkey : oneCode.DefaultYields 30 2017 := by
    have hdefault : oneCode.configKeyValue[defaultKeyId]? = none := by
      simp [oneCode, defaultKeyId]
    unfold DefaultYields
    rw [hdefault]
    exact .inl (by unfold IsFirst; decide +kernel)
  rw [hid] at hagrees
  have htable : oneCode.configKeyValue[(3 : Int32)]? = some ((∅ : KeyTable).insert 183 2837) := by
    simp [oneCode]
  unfold Agrees at hagrees
  rw [htable] at hagrees
  simp [hkey] at hagrees

end KeyMapManager

end FtMmi.EventHandler
