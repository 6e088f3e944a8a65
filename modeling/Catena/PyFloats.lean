import Catena.PyJson
import Catena.PyTextForms
import Mathlib

/-!
# Python floats

A `float` is a binary64 number.  A decimal text or an exact product becomes
the nearest one, ties to even, so the integers below 2 ^ 53 are kept and later
ones may move.
-/

/-- The nearest integer, ties to even. -/
def roundHalfEven (value : ℚ) : Int :=
  let low := ⌊value⌋
  if value - low < 1 / 2 then low
  else if 1 / 2 < value - low then low + 1
  else if low % 2 = 0 then low
  else low + 1

@[simp]
theorem roundHalfEven_intCast (number : Int) : roundHalfEven (number : ℚ) = number := by
  simp [roundHalfEven]

/-- The distance of the binary64 numbers next to `value`: 53 binary digits,
and no finer than 2 ^ -1074. -/
def floatStep (value : ℚ) : ℚ :=
  2 ^ max (-1074) (Int.log 2 |value| - 52)

theorem floatStep_pos (value : ℚ) : 0 < floatStep value := by
  exact zpow_pos (by norm_num) _

namespace PyFloat

/-- The binary64 number nearest to `value`. -/
def nearest (value : ℚ) : PyFloat :=
  let rounded := roundHalfEven (value / floatStep value) * floatStep value
  if 2 ^ 1024 ≤ rounded then .inf
  else if rounded ≤ -2 ^ 1024 then .negInf
  else .finite rounded

theorem nearest_of_steps {value : ℚ} {steps : Int}
    (whole : value = steps * floatStep value) (low : -2 ^ 1024 < value)
    (high : value < 2 ^ 1024) : nearest value = .finite value := by
  have quotient : value / floatStep value = steps :=
    (div_eq_iff (floatStep_pos value).ne').mpr whole
  have rounded : (roundHalfEven (value / floatStep value) : ℚ) * floatStep value = value := by
    rw [quotient, roundHalfEven_intCast]
    exact whole.symm
  simp only [nearest, rounded]
  rw [if_neg (not_le.mpr high), if_neg (not_le.mpr low)]

/-- Every integer below 2 ^ 53 is a binary64 number. -/
theorem nearest_intCast {number : Int} (small : |number| < 2 ^ 53) :
    nearest (number : ℚ) = .finite number := by
  have smallRat : |(number : ℚ)| < 2 ^ 53 := by exact_mod_cast small
  have exponent : Int.log 2 |(number : ℚ)| - 52 ≤ 0 := by
    by_cases zero : number = 0
    · simp [zero]
    · have positive : 0 < |(number : ℚ)| := by simpa using zero
      have below : Int.log 2 |(number : ℚ)| < 53 := by
        rw [← Int.lt_zpow_iff_log_lt (by norm_num) positive]
        exact_mod_cast smallRat
      omega
  obtain ⟨places, step⟩ : ∃ places : Nat, floatStep (number : ℚ) = (2 ^ places)⁻¹ := by
    have upper : max (-1074) (Int.log 2 |(number : ℚ)| - 52) ≤ 0 := by omega
    obtain ⟨places, same⟩ := Int.eq_ofNat_of_zero_le (neg_nonneg.mpr upper)
    use places
    rw [floatStep, ← neg_neg (max (-1074) (Int.log 2 |(number : ℚ)| - 52)), same, zpow_neg]
    rfl
  have bounds := abs_lt.mp smallRat
  have largest : (2 : ℚ) ^ 53 ≤ 2 ^ 1024 :=
    pow_le_pow_right₀ (by norm_num) (by norm_num)
  apply @nearest_of_steps _ (number * 2 ^ places)
  · rw [step]
    push_cast
    field_simp
  · exact (neg_le_neg largest).trans_lt bounds.1
  · exact bounds.2.trans_le largest

/-- `value * factor`, for a positive `int` that is a binary64 number. -/
def scale : PyFloat → Nat → PyFloat
  | finite value, factor => nearest (value * factor)
  | other, _ => other

/-- `-value`. -/
def negate : PyFloat → PyFloat
  | finite value => if value = 0 then negZero else finite (-value)
  | negZero => finite 0
  | inf => negInf
  | negInf => inf
  | nan => nan

end PyFloat

namespace PyText

/-- The number that digits around a decimal point stand for. -/
def decimal (text : List Char) : Option ℚ :=
  match partition '.' text with
  | none => (intDigits text).map fun digits => (digitsValue 10 decimalDigit digits : ℚ)
  | some ([], []) => none
  | some ([], fraction) => (intDigits fraction).map fun digits =>
      (digitsValue 10 decimalDigit digits : ℚ) / 10 ^ digits.length
  | some (whole, []) => (intDigits whole).map fun digits =>
      (digitsValue 10 decimalDigit digits : ℚ)
  | some (whole, fraction) => do
      let front ← intDigits whole
      let back ← intDigits fraction
      some ((digitsValue 10 decimalDigit (front ++ back) : ℚ) / 10 ^ back.length)

/-- A number with an optional power of ten after `e`. -/
def decimalExponent (text : List Char) : Option ℚ :=
  match partition 'e' text with
  | none => decimal text
  | some (mantissa, exponent) => do
      let number ← decimal mantissa
      let power ← match exponent with
        | '-' :: digits => (intDigits digits).map fun found =>
            -(digitsValue 10 decimalDigit found : Int)
        | '+' :: digits => (intDigits digits).map fun found =>
            (digitsValue 10 decimalDigit found : Int)
        | digits => (intDigits digits).map fun found =>
            (digitsValue 10 decimalDigit found : Int)
      some (number * (10 : ℚ) ^ power)

/-- A float's text after its sign, in lower case. -/
def unsignedFloat (text : List Char) : Option PyFloat :=
  if text = "inf".toList ∨ text = "infinity".toList then some .inf
  else if text = "nan".toList then some .nan
  else (decimalExponent text).map PyFloat.nearest

/-- `float(text)`, for the digits of ASCII; `none` where it raises
`ValueError`. -/
def float (text : List Char) : Option PyFloat :=
  match (stripChars isSpace text).map Char.toLower with
  | '-' :: unsigned => (unsignedFloat unsigned).map PyFloat.negate
  | '+' :: unsigned => unsignedFloat unsigned
  | unsigned => unsignedFloat unsigned

/-- A text of digits is read whole. -/
theorem intDigits_of_digits {digits : List Char} (nonempty : digits ≠ [])
    (allDigits : ∀ digit ∈ digits, digit.isDigit = true) : intDigits digits = some digits := by
  induction digits with
  | nil => exact absurd rfl nonempty
  | cons first rest ih =>
      have firstDigit := allDigits first (List.mem_cons_self ..)
      cases rest with
      | nil => simp [intDigits, firstDigit]
      | cons second others =>
          have secondDigit := allDigits second (by simp)
          have plain : second ≠ '_' := by
            rintro rfl
            exact absurd secondDigit (by decide)
          have later := ih (by simp) fun digit found =>
            allDigits digit (List.mem_cons_of_mem _ found)
          simp [intDigits, firstDigit, plain, later]

/-- No digit is any of the other characters the number readers look for. -/
theorem digit_ne {digit other : Char} (isDigit : digit.isDigit = true)
    (notDigit : other.isDigit = false) : digit ≠ other := by
  rintro rfl
  rw [isDigit] at notDigit
  cases notDigit

theorem digit_code {digit : Char} (isDigit : digit.isDigit = true) :
    48 ≤ digit.toNat ∧ digit.toNat ≤ 57 := by
  simpa [Char.isDigit, UInt32.le_iff_toNat_le] using isDigit

theorem isSpace_digit {digit : Char} (isDigit : digit.isDigit = true) :
    isSpace digit = false := by
  have range := digit_code isDigit
  simp [isSpace]
  omega

theorem toLower_digit {digit : Char} (isDigit : digit.isDigit = true) :
    digit.toLower = digit := by
  have range := digit_code isDigit
  rcases toNat_toLower digit with same | ⟨upper, -⟩
  · exact same
  · omega

/-- `float` of a text of digits is the binary64 number nearest to it. -/
theorem float_of_digits {digits : List Char} (nonempty : digits ≠ [])
    (allDigits : ∀ digit ∈ digits, digit.isDigit = true) :
    float digits = some (.nearest (digitsValue 10 decimalDigit digits)) := by
  have stripped : stripChars isSpace digits = digits := by
    apply stripChars_of_ends
    · intro character starts
      exact isSpace_digit (allDigits character (List.mem_of_mem_head? starts))
    · intro character ends
      exact isSpace_digit (allDigits character (List.mem_of_getLast? ends))
  have lowered : digits.map Char.toLower = digits := by
    rw [List.map_congr_left fun digit found => toLower_digit (allDigits digit found)]
    exact List.map_id digits
  have absent (other : Char) (notDigit : other.isDigit = false) : other ∉ digits :=
    fun found => digit_ne (allDigits other found) notDigit rfl
  have read : decimalExponent digits = some (digitsValue 10 decimalDigit digits : ℚ) := by
    rw [decimalExponent, partition_of_notMem (absent 'e' (by decide)), decimal,
      partition_of_notMem (absent '.' (by decide)), intDigits_of_digits nonempty allDigits]
    rfl
  have noWord (word : List Char) (letter : Char) (starts : letter ∈ word)
      (notDigit : letter.isDigit = false) : digits ≠ word := by
    rintro rfl
    exact absent letter notDigit starts
  unfold float
  rw [stripped, lowered]
  split
  · exact absurd (List.mem_cons_self ..) (absent '-' (by decide))
  · exact absurd (List.mem_cons_self ..) (absent '+' (by decide))
  · rw [unsignedFloat, if_neg, if_neg, read]
    · rfl
    · exact noWord _ 'n' (by decide) (by decide)
    · rintro (same | same)
      · exact noWord _ 'i' (by decide) (by decide) same
      · exact noWord _ 'i' (by decide) (by decide) same

end PyText
