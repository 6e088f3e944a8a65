import Catena.PyText
import Mathlib

/-!
# Java texts and long integers

The parts of the Java library that the Keycloak provider computes with: the
trimming and measuring of strings, the reading and writing of a `long`, and
its wrap-around at 64 bits.
-/

namespace Catena

namespace JavaLang

/-- A Java string, as its characters. -/
abbrev Text := List Char

/-- `String.trim`: both ends lose their characters up to the space. -/
def trim (text : Text) : Text :=
  PyText.stripChars (fun character => character.toNat ≤ 0x20) text

/-- `String.length` counts UTF-16 units. -/
def length (text : Text) : Nat :=
  (text.map fun character => if 0xFFFF < character.toNat then 2 else 1).sum

/-- `Character.isWhitespace`: Unicode spaces but the unbreakable ones, and the
control characters that separate. -/
def isWhitespace (character : Char) : Bool :=
  let point := character.toNat
  (0x09 ≤ point && point ≤ 0x0D) || (0x1C ≤ point && point ≤ 0x20) ||
    point == 0x1680 || (0x2000 ≤ point && point ≤ 0x2006) ||
    (0x2008 ≤ point && point ≤ 0x200A) || point == 0x2028 ||
    point == 0x2029 || point == 0x205F || point == 0x3000

def isBlank (text : Text) : Bool :=
  text.all isWhitespace

/-- The values of a `long`. -/
def IsLong (number : Int) : Prop :=
  -2 ^ 63 ≤ number ∧ number < 2 ^ 63

instance (number : Int) : Decidable (IsLong number) :=
  inferInstanceAs (Decidable (_ ∧ _))

/-- The `long` an operation on longs leaves of its exact result. -/
def long (number : Int) : Int :=
  number.bmod (2 ^ 64)

theorem long_of_isLong {number : Int} (range : IsLong number) :
    long number = number := by
  unfold long
  unfold IsLong at range
  rw [Int.bmod_def]
  split <;> omega

/-- Two longs are subtracted exactly where the difference is itself a long. -/
theorem long_long_sub (first second : Int) :
    long (long first - second) = long (first - second) :=
  Int.bmod_sub_bmod

/-- `Long.toString`. -/
def toText (number : Int) : Text :=
  if number < 0 then '-' :: Nat.toDigits 10 number.natAbs
  else Nat.toDigits 10 number.natAbs

/-- The digits `Long.parseLong` reads after an optional sign. -/
def digits? (text : Text) : Option Nat :=
  if text ≠ [] ∧ text.all Char.isDigit then some (Nat.ofDigitChars 10 text 0)
  else none

/-- `Long.parseLong`, with `none` for a `NumberFormatException`. -/
def parseLong (text : Text) : Option Int :=
  let number : Option Int :=
    match text with
    | '-' :: rest => (digits? rest).map fun value => -(value : Int)
    | '+' :: rest => (digits? rest).map fun value => (value : Int)
    | _ => (digits? text).map fun value => (value : Int)
  number.filter fun value => decide (IsLong value)

theorem digits?_toDigits (number : Nat) :
    digits? (Nat.toDigits 10 number) = some number := by
  have nonempty : Nat.toDigits 10 number ≠ [] := Nat.toDigits_ne_nil
  have allDigits : (Nat.toDigits 10 number).all Char.isDigit = true := by
    rw [List.all_eq_true]
    intro character member
    exact Nat.isDigit_of_mem_toDigits (by decide) (by decide) member
  unfold digits?
  rw [if_pos ⟨nonempty, allDigits⟩, Nat.ofDigitChars_ten_toDigits]

/-- A long is read back from its own text. -/
theorem parseLong_toText {number : Int} (range : IsLong number) :
    parseLong (toText number) = some number := by
  unfold toText
  split
  case isTrue negative =>
    obtain ⟨natural, rfl⟩ : ∃ natural : Nat, number = -(natural : Int) :=
      ⟨number.natAbs, by omega⟩
    simp [parseLong, digits?_toDigits, range]
  case isFalse notNegative =>
    have value : ((number.natAbs : Nat) : Int) = number := by omega
    have plain : ∀ rest sign, sign ≠ '-' → sign ≠ '+' → sign :: rest = Nat.toDigits 10 number.natAbs →
        parseLong (sign :: rest) = some number := by
      intro rest sign notMinus notPlus same
      have read := digits?_toDigits number.natAbs
      rw [← same] at read
      unfold parseLong
      split
      case h_1 other shape =>
        injection shape with head
        exact absurd head notMinus
      case h_2 other shape =>
        injection shape with head
        exact absurd head notPlus
      case h_3 => simp [read, value, range]
    cases shape : Nat.toDigits 10 number.natAbs with
    | nil => exact absurd shape Nat.toDigits_ne_nil
    | cons sign rest =>
      have digit : sign.isDigit = true := by
        apply Nat.isDigit_of_mem_toDigits (b := 10) (n := number.natAbs) (by decide) (by decide)
        simp [shape]
      apply plain rest sign
      · intro same
        subst same
        exact absurd digit (by decide)
      · intro same
        subst same
        exact absurd digit (by decide)
      · exact shape.symm

example : trim " a b\t".toList = "a b".toList := by decide

end JavaLang

end Catena
