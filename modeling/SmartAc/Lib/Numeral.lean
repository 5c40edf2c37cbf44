import Mathlib.Algebra.Order.Ring.Rat
import Mathlib.Data.List.Induction
import Mathlib.Tactic.Common

/-!
# Reading numerals

A strict reader of ASCII numerals: digits of the base only, at least one of them. `parse` reads a
natural number in a base up to 16, `parseDecimal` a decimal fraction with a sign and a point. Two
kinds of numeral are shown to read back: those of `Nat.toDigits 10`, without leading zeros, and those
of a fixed width (`fixedWidth`), which cut the number off.
-/

namespace Numeral

/-! ## The reader -/

/-- The digits in the order of their values. -/
def alphabet : List Char := ['0', '1', '2', '3', '4', '5', '6', '7', '8', '9', 'A', 'B', 'C', 'D', 'E', 'F']

def digit (d : Nat) : Char := alphabet.getD d '0'

/-- The value of a digit; `none` if `c` is none of the base. -/
def digitValue (base : Nat) (c : Char) : Option Nat := (alphabet.idxOf? c).filter (· < base)

/-- One more digit at the end. -/
def readDigit (base : Nat) (value : Option Nat) (c : Char) : Option Nat :=
  value.bind fun n => (digitValue base c).map fun d => base * n + d

/-- The value of a possibly empty text of digits. -/
def digits (base : Nat) (text : List Char) : Option Nat := text.foldl (readDigit base) (some 0)

def parse (base : Nat) (text : List Char) : Option Nat := if text = [] then none else digits base text

/-- A whole part, a point and a fraction. -/
def parseUnsigned (text : List Char) : Option Rat :=
  match text.dropWhile (· != '.') with
  | [] => none
  | _ :: fraction =>
    (parse 10 (text.takeWhile (· != '.'))).bind fun w =>
      (parse 10 fraction).map fun f => (w : Rat) + f / 10 ^ fraction.length

/-- The same with a minus sign in front, or none. -/
def parseDecimal (text : List Char) : Option Rat :=
  if text.head? = some '-' then (parseUnsigned text.tail).map (-·) else parseUnsigned text

theorem digitValue_digit {base d : Nat} (hbase : base ≤ 16) (hd : d < base) :
    digitValue base (digit d) = some d := by
  have hall : ∀ d < 16, alphabet.idxOf? (digit d) = some d := by decide
  rw [digitValue, hall d (by omega), Option.filter_some, if_pos (by simpa using hd)]

theorem digits_snoc (base : Nat) (text : List Char) (c : Char) :
    digits base (text ++ [c]) = readDigit base (digits base text) c := by
  rw [digits, List.foldl_append]
  rfl

/-- A text that has a value holds digits only. -/
theorem digit_of_mem {base n : Nat} {text : List Char} (h : digits base text = some n) :
    ∀ c ∈ text, (digitValue base c).isSome = true := by
  induction text using List.reverseRecOn generalizing n with
  | nil => nofun
  | append_singleton text last ih =>
    rw [digits_snoc, readDigit] at h
    obtain ⟨m, hm, hlast⟩ := Option.bind_eq_some_iff.1 h
    obtain ⟨d, hd, -⟩ := Option.map_eq_some_iff.1 hlast
    intro c hc
    rcases List.mem_append.1 hc with hc | hc
    · exact ih hm c hc
    · rw [List.mem_singleton.1 hc, hd]
      rfl

theorem digits_of_parse {base n : Nat} {text : List Char} (h : parse base text = some n) :
    digits base text = some n := by
  rw [parse] at h
  split at h
  · cases h
  · exact h

/-! ## Canonical numerals -/

/-- The decimal numeral of `n` reads back as `n`. -/
theorem digits_toDigits (n : Nat) : digits 10 (Nat.toDigits 10 n) = some n := by
  have hdigit : ∀ d < 10, d.digitChar = digit d := by decide
  induction n using Nat.strongRecOn with
  | ind n ih =>
    rw [Nat.toDigits_eq_if (by decide)]
    split
    case isTrue hlt =>
      change readDigit 10 (some 0) _ = _
      rw [hdigit n hlt, readDigit, Option.bind_some, digitValue_digit (by decide) hlt, Option.map_some]
      rw [Nat.mul_zero, Nat.zero_add]
    case isFalse hle =>
      have hmod : n % 10 < 10 := Nat.mod_lt n (by decide)
      rw [digits_snoc, ih (n / 10) (by omega), hdigit _ hmod, readDigit, Option.bind_some,
        digitValue_digit (by decide) hmod, Option.map_some, Nat.div_add_mod]

theorem parse_toDigits (n : Nat) : parse 10 (Nat.toDigits 10 n) = some n := by
  rw [parse, if_neg Nat.toDigits_ne_nil, digits_toDigits]

/-- Only `0` begins with a zero. -/
theorem head_toDigits {n : Nat} (hpos : 0 < n) : (Nat.toDigits 10 n).head? ≠ some '0' := by
  induction n using Nat.strongRecOn with
  | ind n ih =>
    rw [Nat.toDigits_eq_if (by decide)]
    split
    case isTrue hlt =>
      have hall : ∀ d < 10, 0 < d → [d.digitChar].head? ≠ some '0' := by decide
      exact hall n hlt hpos
    case isFalse hle =>
      have hne := ih (n / 10) (by omega) (by omega)
      rw [List.head?_append]
      cases hhead : (Nat.toDigits 10 (n / 10)).head? with
      | none => exact absurd (List.head?_eq_none_iff.1 hhead) Nat.toDigits_ne_nil
      | some c => rwa [hhead] at hne

/-! ## Numerals of a fixed width -/

/-- The last `width` digits of `n`, zero padded. -/
def fixedWidth (base : Nat) : Nat → Nat → List Char
  | 0, _ => []
  | width + 1, n => fixedWidth base width (n / base) ++ [digit (n % base)]

@[simp] theorem length_fixedWidth (base width n : Nat) : (fixedWidth base width n).length = width := by
  induction width generalizing n with
  | zero => rfl
  | succ width ih => rw [fixedWidth, List.length_append, ih, List.length_singleton]

theorem digits_fixedWidth {base : Nat} (hpos : 0 < base) (hbase : base ≤ 16) (width n : Nat) :
    digits base (fixedWidth base width n) = some (n % base ^ width) := by
  induction width generalizing n with
  | zero =>
    rw [Nat.pow_zero, Nat.mod_one]
    rfl
  | succ width ih =>
    rw [fixedWidth, digits_snoc, ih, readDigit, Option.bind_some,
      digitValue_digit hbase (Nat.mod_lt n hpos), Option.map_some, Nat.pow_succ', Nat.mod_mul, Nat.add_comm]

/-! ## Decimal fractions -/

/-- A character that is no digit is not in a numeral. -/
theorem ne_of_mem_parse {text : List Char} {n : Nat} (h : parse 10 text = some n) {c other : Char}
    (hc : c ∈ text) (hother : digitValue 10 other = none) : c ≠ other := by
  have hsome := digit_of_mem (digits_of_parse h) c hc
  rintro rfl
  rw [hother] at hsome
  cases hsome

/-- Two numerals around a point. -/
theorem parseUnsigned_point {whole fraction : List Char} {w f : Nat} (hw : parse 10 whole = some w)
    (hf : parse 10 fraction = some f) :
    parseUnsigned (whole ++ '.' :: fraction) = some ((w : Rat) + f / 10 ^ fraction.length) := by
  have hdigits : ∀ c ∈ whole, (c != '.') = true := fun c hc =>
    bne_iff_ne.2 (ne_of_mem_parse hw hc (by decide))
  have hpoint : ('.' != '.') = false := by decide
  rw [parseUnsigned, List.dropWhile_append_of_pos hdigits, List.takeWhile_append_of_pos hdigits,
    List.dropWhile_cons, List.takeWhile_cons, hpoint]
  simp [hw, hf]

/-- The same with a sign. -/
theorem parseDecimal_point {whole fraction : List Char} {w f : Nat} (hw : parse 10 whole = some w)
    (hf : parse 10 fraction = some f) :
    parseDecimal (whole ++ '.' :: fraction) = some ((w : Rat) + f / 10 ^ fraction.length) ∧
      parseDecimal ('-' :: (whole ++ '.' :: fraction)) = some (-((w : Rat) + f / 10 ^ fraction.length)) := by
  constructor
  · have hhead : (whole ++ '.' :: fraction).head? ≠ some '-' := by
      cases whole with
      | nil => cases hw
      | cons c rest =>
        rw [List.cons_append, List.head?_cons]
        exact fun h => ne_of_mem_parse hw List.mem_cons_self (by decide) (Option.some.inj h)
    rw [parseDecimal, if_neg hhead, parseUnsigned_point hw hf]
  · rw [parseDecimal, List.head?_cons, if_pos rfl, List.tail_cons, parseUnsigned_point hw hf, Option.map_some]

end Numeral
