/-
FtMmi.Util.NumberText — texts that are numbers (`IsNum` of `util.h`, and
`stoi` of the standard library).

`IsNum` reads a `double`, so that it also takes fractions, exponents and
numbers no `int` holds. `stoi` reads an integer from the front of the text
and throws if there is none or if it is too large. On the decimal integers
of 32 bits they agree (`isNum_of_isInt32`, `stoi_of_isInt32`).

Texts are bytes. The forms of a `double` are those of the decimal notation,
as `strtod` and the extraction of `<istream>` take them in the C locale.
-/
import Mathlib

namespace FtMmi

/-- `isspace`: blank, tab, line feed, vertical tab, form feed and carriage
return. -/
def isSpace (c : UInt8) : Bool := c = 32 || (9 ≤ c && c ≤ 13)

def isDigit (c : UInt8) : Bool := 48 ≤ c && c ≤ 57

/-- `+` or `-` -/
def isSign (c : UInt8) : Bool := c = 43 || c = 45

def numeral (digits : List UInt8) : Nat := digits.foldl (fun n c => 10 * n + (c.toNat - 48)) 0

def dropSign : List UInt8 → List UInt8
  | [] => []
  | c :: rest => if isSign c then rest else c :: rest

/-- The integer a text of digits with or without a sign stands for. -/
def intValue (text digits : List UInt8) : Int :=
  if text.head? = some 45 then -(numeral digits : Int) else numeral digits

/-- `stoi`; there is no result when it throws. -/
def stoi (str : List UInt8) : Option Int32 :=
  let str := str.dropWhile isSpace
  let digits := (dropSign str).takeWhile isDigit
  let n := intValue str digits
  if digits = [] then none
  else if -2 ^ 31 ≤ n ∧ n < 2 ^ 31 then some (Int32.ofInt n)
  else none

/-- Half a unit in the last place above the largest `double`: what is less
does not overflow. -/
def doubleLimit : Nat := 2 ^ 1024 - 2 ^ 970

/-- `digits` times 10 to the power of `exponent`. -/
def fitsDouble (digits : List UInt8) (exponent : Int) : Bool :=
  if 0 ≤ exponent then numeral digits * 10 ^ exponent.toNat < doubleLimit
  else numeral digits < doubleLimit * 10 ^ (-exponent).toNat

/-- The digits behind the decimal point, if there is one, and the rest. -/
def fractionPart : List UInt8 → List UInt8 × List UInt8
  | 46 :: rest => (rest.takeWhile isDigit, rest.dropWhile isDigit)
  | rest => ([], rest)

/-- `IsNum` -/
def isNum (str : List UInt8) : Bool :=
  let str := dropSign (str.dropWhile isSpace)
  let whole := str.takeWhile isDigit
  let (fraction, rest) := fractionPart (str.dropWhile isDigit)
  let digits := whole ++ fraction
  !digits.isEmpty &&
    match rest with
    | [] => fitsDouble digits (-fraction.length)
    | e :: rest =>
        let power := dropSign rest
        (e = 101 || e = 69) && !power.isEmpty && power.all isDigit &&
          fitsDouble digits (intValue rest power - fraction.length)

/-! ## Decimal integers of 32 bits -/

/-- Digits, with or without a sign, for an integer of 32 bits. -/
structure IsInt32 (text : List UInt8) : Prop where
  nonempty : dropSign text ≠ []
  digits : ∀ c ∈ dropSign text, isDigit c = true
  lower : -2 ^ 31 ≤ intValue text (dropSign text)
  upper : intValue text (dropSign text) < 2 ^ 31

theorem not_isSpace_of_isDigit {c : UInt8} (h : isDigit c = true) : isSpace c = false := by
  obtain ⟨hlower, -⟩ : 48 ≤ c ∧ c ≤ 57 := by simpa [isDigit] using h
  have hle : 48 ≤ c.toNat := UInt8.le_iff_toNat_le.mp hlower
  have hblank : c ≠ 32 := by
    rintro rfl
    exact absurd hle (by decide)
  have hcontrol : ¬ c ≤ 13 := by
    intro hc
    have : c.toNat ≤ 13 := UInt8.le_iff_toNat_le.mp hc
    omega
  simp [isSpace, hblank, hcontrol]

theorem not_isSpace_of_isSign {c : UInt8} (h : isSign c = true) : isSpace c = false := by
  simp only [isSign, Bool.or_eq_true, decide_eq_true_eq] at h
  rcases h with rfl | rfl <;> rfl

/-- There is no space before a sign or digit. -/
theorem IsInt32.dropWhile_isSpace {text : List UInt8} (h : IsInt32 text) :
    text.dropWhile isSpace = text := by
  cases text with
  | nil => rfl
  | cons c rest =>
    have hspace : isSpace c = false := by
      by_cases hsign : isSign c = true
      · exact not_isSpace_of_isSign hsign
      · refine not_isSpace_of_isDigit (h.digits c ?_)
        rw [dropSign, if_neg hsign]
        exact List.mem_cons_self
    rw [List.dropWhile_cons_of_neg (by simp [hspace])]

theorem IsInt32.takeWhile_isDigit {text : List UInt8} (h : IsInt32 text) :
    (dropSign text).takeWhile isDigit = dropSign text :=
  List.takeWhile_eq_self_iff.mpr h.digits

theorem IsInt32.dropWhile_isDigit {text : List UInt8} (h : IsInt32 text) :
    (dropSign text).dropWhile isDigit = [] := List.dropWhile_eq_nil_iff.mpr h.digits

theorem stoi_of_isInt32 {text : List UInt8} (h : IsInt32 text) :
    stoi text = some (Int32.ofInt (intValue text (dropSign text))) := by
  unfold stoi
  simp only [h.dropWhile_isSpace, h.takeWhile_isDigit]
  rw [if_neg h.nonempty, if_pos ⟨h.lower, h.upper⟩]

theorem IsInt32.numeral_le {text : List UInt8} (h : IsInt32 text) :
    numeral (dropSign text) ≤ 2 ^ 31 := by
  have hlower := h.lower
  have hupper := h.upper
  by_cases hminus : text.head? = some 45
  · simp only [intValue, if_pos hminus] at hlower
    omega
  · simp only [intValue, if_neg hminus] at hupper
    omega

theorem isNum_of_isInt32 {text : List UInt8} (h : IsInt32 text) : isNum text = true := by
  have hfits : fitsDouble (dropSign text) 0 = true := by
    have hle := h.numeral_le
    have hlimit : 2 ^ 31 < doubleLimit := by decide +kernel
    simpa [fitsDouble] using lt_of_le_of_lt hle hlimit
  unfold isNum
  simp only [h.dropWhile_isSpace, h.takeWhile_isDigit, h.dropWhile_isDigit, fractionPart]
  simpa [h.nonempty] using hfits

end FtMmi
