/-
FtMmi.KeySubscriber.KeyOptionParcel — `WriteToParcel` and `ReadFromParcel`
of a key option (`key_option.cpp`).

The set of pre-keys is written in ascending order, behind its size. Both
functions refuse more than `PRE_KEYS_MAX_SIZE` pre-keys.
-/
import FtMmi.Event.ParcelTransport
import FtMmi.KeySubscriber.KeySubscriberHandler

namespace FtMmi.KeySubscriber

open FtMmi.Event
open FtMmi.Lib.TypedQueue

/-! ## The two functions -/

instance transInt32 : IsTrans Int32 (· ≤ ·) := ⟨fun _ _ _ => Int32.le_trans⟩

def preKeysMaxSize : Nat := 3

namespace KeyOption

/-- A new option. -/
def create : KeyOption where
  preKeys := ∅
  finalKey := -1
  isFinalKeyDown := false
  finalKeyDownDuration := 0
  finalKeyUpDelay := 0

def writeToParcel (accepts : List ParcelValue → ParcelValue → Bool) (keyOption : KeyOption) :
    ParcelM Unit :=
  if preKeysMaxSize < keyOption.preKeys.card then failure
  else do
    enqueue accepts (.int32 (Int32.ofNat keyOption.preKeys.card))
    forM keyOption.preKeys.sort fun i => enqueue accepts (.int32 i)
    enqueue accepts (.int32 keyOption.finalKey)
    enqueue accepts (.bool keyOption.isFinalKeyDown)
    enqueue accepts (.int32 keyOption.finalKeyDownDuration)
    enqueue accepts (.int32 keyOption.finalKeyUpDelay)

/-- The loop over the pre-keys. -/
def readPreKeys : Nat → KeyOption → ParcelM KeyOption
  | 0, keyOption => pure keyOption
  | n + 1, keyOption => do
      let keyValue ← readInt32
      readPreKeys n { keyOption with preKeys := insert keyValue keyOption.preKeys }

/-- What follows the size. -/
def readRest (preKeysSize : Int32) (keyOption : KeyOption) : ParcelM KeyOption :=
  if preKeysSize < 0 then failure
  else if (preKeysMaxSize : Int) < preKeysSize.toInt then failure
  else do
    let keyOption ← readPreKeys preKeysSize.toInt.toNat keyOption
    let finalKey ← readInt32
    let isFinalKeyDown ← readBool
    let finalKeyDownDuration ← readInt32
    let finalKeyUpDelay ← readInt32
    pure { keyOption with finalKey, isFinalKeyDown, finalKeyDownDuration, finalKeyUpDelay }

def readFromParcel (keyOption : KeyOption) : ParcelM KeyOption := do
  let preKeysSize ← readInt32
  keyOption.readRest preKeysSize

/-! ## The values of an option -/

def values (keyOption : KeyOption) : List ParcelValue :=
  [ParcelValue.int32 (Int32.ofNat keyOption.preKeys.card)] ++
    (keyOption.preKeys.sort.flatMap (fun i => [ParcelValue.int32 i]) ++
      [ParcelValue.int32 keyOption.finalKey, ParcelValue.bool keyOption.isFinalKeyDown,
        ParcelValue.int32 keyOption.finalKeyDownDuration,
        ParcelValue.int32 keyOption.finalKeyUpDelay])

variable {accepts : List ParcelValue → ParcelValue → Bool}

theorem writeToParcel_of_many {keyOption : KeyOption}
    (h : preKeysMaxSize < keyOption.preKeys.card) (before : List ParcelValue) :
    keyOption.writeToParcel accepts before = none := by
  rw [writeToParcel, if_pos h]
  rfl

theorem writeToParcel_writes (keyOption : KeyOption) :
    Writes (keyOption.writeToParcel accepts) keyOption.values := by
  unfold writeToParcel
  split
  · exact Writes.failure _
  · exact (Writes.enqueue accepts _).bind fun _ =>
      (Writes.forM (fun i => Writes.enqueue accepts (.int32 i)) _).bind fun _ =>
      (Writes.enqueue accepts _).bind fun _ => (Writes.enqueue accepts _).bind fun _ =>
      (Writes.enqueue accepts _).bind fun _ => Writes.enqueue accepts _

theorem writeToParcel_accepted {keyOption : KeyOption}
    (h : keyOption.preKeys.card ≤ preKeysMaxSize) :
    Accepted (keyOption.writeToParcel fun _ _ => true) := by
  rw [writeToParcel, if_neg (by omega)]
  exact (Accepted.enqueue _).bind fun _ =>
    (Accepted.forM (fun i => Accepted.enqueue (ParcelValue.int32 i)) _).bind fun _ =>
    (Accepted.enqueue _).bind fun _ => (Accepted.enqueue _).bind fun _ =>
    (Accepted.enqueue _).bind fun _ => Accepted.enqueue _

/-- The keys read are put into the set. -/
theorem readPreKeys_reads (keys : List Int32) :
    ∀ keyOption : KeyOption,
      Reads (readPreKeys keys.length keyOption) (keys.flatMap fun i => [ParcelValue.int32 i])
        { keyOption with preKeys := keys.toFinset ∪ keyOption.preKeys } := by
  induction keys with
  | nil =>
    intro keyOption
    simpa [readPreKeys] using Reads.pure keyOption
  | cons key keys ih =>
    intro keyOption
    have hrest := ih { keyOption with preKeys := insert key keyOption.preKeys }
    have hset : keys.toFinset ∪ insert key keyOption.preKeys
        = (key :: keys).toFinset ∪ keyOption.preKeys := by simp
    simp only [hset] at hrest
    exact (readInt32_reads key).bind hrest

/-- An option small enough for a parcel is read back from its values. -/
theorem readFromParcel_reads {keyOption : KeyOption}
    (h : keyOption.preKeys.card ≤ preKeysMaxSize) :
    Reads create.readFromParcel keyOption.values keyOption := by
  have hsize : (Int32.ofNat keyOption.preKeys.card).toInt = keyOption.preKeys.card :=
    count_toInt (Nat.le_trans h (by decide))
  have hnonneg : ¬ Int32.ofNat keyOption.preKeys.card < 0 := by
    rw [Int32.lt_iff_toInt_lt, hsize]
    simp
  have hkeys := readPreKeys_reads keyOption.preKeys.sort create
  have hset : keyOption.preKeys.sort.toFinset ∪ create.preKeys = keyOption.preKeys := by
    rw [Finset.sort_toFinset]
    simp [create]
  rw [hset, Finset.length_sort] at hkeys
  refine (readInt32_reads _).bind ?_
  rw [readRest, if_neg hnonneg, hsize, if_neg (by omega), Int.toNat_natCast]
  exact hkeys.bind <| (readInt32_reads keyOption.finalKey).bind <|
    (readBool_reads keyOption.isFinalKeyDown).bind <|
    (readInt32_reads keyOption.finalKeyDownDuration).bind <|
    (readInt32_reads keyOption.finalKeyUpDelay).bind <| Reads.pure _

/-! ## Survival -/

/-- Written to a parcel that takes everything, the option is read back as it
was. -/
def Survives (keyOption : KeyOption) : Prop :=
  ∃ parcel, keyOption.writeToParcel (fun _ _ => true) [] = some ((), parcel) ∧
    create.readFromParcel parcel = some (keyOption, [])

theorem survives_iff (keyOption : KeyOption) :
    keyOption.Survives ↔ keyOption.preKeys.card ≤ preKeysMaxSize := by
  constructor
  · rintro ⟨parcel, hwrite, _⟩
    by_contra hmany
    rw [writeToParcel_of_many (by omega)] at hwrite
    cases hwrite
  · intro h
    obtain ⟨⟨⟨⟩, parcel⟩, hwrite⟩ := Option.isSome_iff_exists.mp (writeToParcel_accepted h [])
    have hparcel := writeToParcel_writes keyOption [] () parcel hwrite
    refine ⟨parcel, hwrite, ?_⟩
    have hread := readFromParcel_reads h []
    rwa [List.append_nil, ← List.nil_append keyOption.values, ← hparcel] at hread

end KeyOption

end FtMmi.KeySubscriber
