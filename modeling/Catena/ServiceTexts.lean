import Catena.ServiceDrift

/-!
# Sizes and durations

The texts a desired dict writes sizes and durations in, with the numbers they
mean, and what the two parsers make of them.  A size below 2 ^ 53 is read
exactly.  A duration is read part by part through a float, so the total is the
one meant only where the rounded parts add up to it.
-/

namespace Catena

namespace SwarmService

/-- The letter a size is scaled by. -/
inductive ByteUnit where
  | k
  | m
  | g
  | t
  deriving DecidableEq

def ByteUnit.letter : ByteUnit → Char
  | k => 'k'
  | m => 'm'
  | g => 'g'
  | t => 't'

def ByteUnit.bytes : ByteUnit → Nat
  | k => 1024
  | m => 1024 ^ 2
  | g => 1024 ^ 3
  | t => 1024 ^ 4

/-- A suffix: the letter, then perhaps `i`, then perhaps `b`. -/
structure SizeSuffix where
  unit : ByteUnit
  binary : Bool
  byte : Bool

def SizeSuffix.text (suffix : SizeSuffix) : List Char :=
  suffix.unit.letter ::
    ((if suffix.binary then ['i'] else []) ++ if suffix.byte then ['b'] else [])

/-- A text of decimal digits. -/
structure Digits where
  text : List Char
  nonempty : text ≠ []
  allDigits : ∀ digit ∈ text, digit.isDigit = true

/-- The number the digits stand for. -/
def Digits.value (digits : Digits) : Nat :=
  PyText.digitsValue 10 PyText.decimalDigit digits.text

/-- A size as it is written: digits with an optional suffix. -/
structure SizeText where
  digits : Digits
  suffix : Option SizeSuffix

def SizeText.text (size : SizeText) : List Char :=
  size.digits.text ++ (size.suffix.map SizeSuffix.text).getD []

def SizeText.factor (size : SizeText) : Nat :=
  (size.suffix.map fun suffix => suffix.unit.bytes).getD 1

def SizeText.bytes (size : SizeText) : Nat :=
  size.digits.value * size.factor

inductive DurationUnit where
  | ns
  | us
  | ms
  | s
  | m
  | h
  deriving DecidableEq

def DurationUnit.text : DurationUnit → List Char
  | ns => ['n', 's']
  | us => ['u', 's']
  | ms => ['m', 's']
  | s => ['s']
  | m => ['m']
  | h => ['h']

def DurationUnit.nanos : DurationUnit → Nat
  | ns => 1
  | us => 1000
  | ms => 1000000
  | s => 1000000000
  | m => 60 * 1000000000
  | h => 3600 * 1000000000

structure DurationPart where
  digits : Digits
  unit : DurationUnit

def DurationPart.text (part : DurationPart) : List Char :=
  part.digits.text ++ part.unit.text

def DurationPart.nanos (part : DurationPart) : Nat :=
  part.digits.value * part.unit.nanos

/-- A duration as it is written: one part after the other. -/
structure DurationText where
  parts : List DurationPart
  nonempty : parts ≠ []

def DurationText.text (duration : DurationText) : List Char :=
  duration.parts.flatMap DurationPart.text

def DurationText.nanos (duration : DurationText) : Nat :=
  (duration.parts.map DurationPart.nanos).sum

/-- The part as binary64 multiplies it out: the number is rounded, then the
product. -/
def DurationPart.held (part : DurationPart) : Except FilterError Int :=
  truncate ((PyFloat.nearest part.digits.value).scale part.unit.nanos)

/-- The parts as binary64 multiplies them out, added up. -/
def heldSum : List DurationPart → Except FilterError Int
  | [] => .ok 0
  | part :: rest => do
      let nanos ← part.held
      let others ← heldSum rest
      .ok (nanos + others)

/-- The rounded parts of the duration add up to what it means. -/
def DurationText.Exact (duration : DurationText) : Prop :=
  heldSum duration.parts = .ok (duration.nanos : Int)

/-- A character that is no space and its own lower case. -/
def Plain (character : Char) : Prop :=
  PyText.isSpace character = false ∧ PyText.lowerChar character = [character]

instance (character : Char) : Decidable (Plain character) :=
  inferInstanceAs (Decidable (_ ∧ _))

theorem plain_digit {digit : Char} (isDigit : digit.isDigit = true) : Plain digit := by
  have range := PyText.digit_code isDigit
  constructor
  · exact PyText.isSpace_digit isDigit
  · rw [PyText.lowerChar, if_neg (by omega), if_neg (by omega), PyText.toLower_digit isDigit]

theorem strip_plain {text : List Char} (plain : ∀ character ∈ text, Plain character) :
    PyText.strip (String.ofList text) = String.ofList text := by
  rw [PyText.strip, String.toList_ofList, PyText.stripChars_of_ends]
  · intro character starts
    exact (plain character (List.mem_of_mem_head? starts)).1
  · intro character ends
    exact (plain character (List.mem_of_getLast? ends)).1

theorem lower_plain {text : List Char} (plain : ∀ character ∈ text, Plain character) :
    (PyText.lower (String.ofList text)).toList = text := by
  rw [PyText.lower, String.toList_ofList, String.toList_ofList]
  induction text with
  | nil => rfl
  | cons first rest ih =>
      rw [List.flatMap_cons, (plain first (List.mem_cons_self ..)).2,
        ih fun character found => plain character (List.mem_cons_of_mem _ found)]
      rfl

theorem ofList_ne_empty {text : List Char} (nonempty : text ≠ []) : String.ofList text ≠ "" := by
  intro same
  apply nonempty
  simpa using congrArg String.toList same

theorem SizeText.plain (size : SizeText) : ∀ character ∈ size.text, Plain character := by
  intro character found
  rcases List.mem_append.mp found with inDigits | inSuffix
  · exact plain_digit (size.digits.allDigits character inDigits)
  · cases shape : size.suffix with
    | none => simp [shape] at inSuffix
    | some suffix =>
        obtain ⟨unit, binary, byte⟩ := suffix
        rw [shape] at inSuffix
        have letters : character ∈ ['k', 'm', 'g', 't', 'i', 'b'] := by
          cases unit <;> cases binary <;> cases byte <;>
            simp [SizeSuffix.text, ByteUnit.letter] at inSuffix ⊢ <;> grind
        simp only [List.mem_cons, List.not_mem_nil, or_false] at letters
        rcases letters with rfl | rfl | rfl | rfl | rfl | rfl <;> decide

theorem SizeText.text_ne_nil (size : SizeText) : size.text ≠ [] := by
  simp [SizeText.text, size.digits.nonempty]

theorem rdropWhile_append_dropped {drop : Char → Bool} (text : List Char)
    {tail : List Char} (dropped : ∀ character ∈ tail, drop character = true) :
    (text ++ tail).rdropWhile drop = text.rdropWhile drop := by
  induction tail using List.reverseRecOn with
  | nil => rw [List.append_nil]
  | append_singleton front last ih =>
      rw [← List.append_assoc, List.rdropWhile_concat_pos _ _ _ (dropped last (by simp))]
      exact ih fun character found => dropped character (by simp [found])

/-- The trailing `i` and `b` go, the letter stays. -/
theorem rdropWhile_size (size : SizeText) :
    size.text.rdropWhile trailing =
      size.digits.text ++ (size.suffix.map fun suffix => [suffix.unit.letter]).getD [] := by
  cases shape : size.suffix with
  | none =>
      simp only [SizeText.text, shape, Option.map_none, Option.getD_none, List.append_nil]
      rw [List.rdropWhile_eq_self_iff]
      intro nonempty
      have isDigit := size.digits.allDigits _ (List.getLast_mem nonempty)
      simp [trailing, PyText.digit_ne isDigit (show 'i'.isDigit = false by decide),
        PyText.digit_ne isDigit (show 'b'.isDigit = false by decide)]
  | some suffix =>
      obtain ⟨unit, binary, byte⟩ := suffix
      have ends : ∀ character ∈ (if binary then ['i'] else []) ++ (if byte then ['b'] else []),
          trailing character = true := by
        cases binary <;> cases byte <;> simp [trailing]
      have stays : ¬ trailing unit.letter = true := by
        cases unit <;> decide
      calc size.text.rdropWhile trailing
          = ((size.digits.text ++ [unit.letter]) ++
              ((if binary then ['i'] else []) ++
                (if byte then ['b'] else []))).rdropWhile trailing := by
            simp [SizeText.text, shape, SizeSuffix.text]
        _ = size.digits.text ++ [unit.letter] := by
            rw [rdropWhile_append_dropped _ ends, List.rdropWhile_concat_neg _ _ _ stays]

/-- A whole number below 2 ^ 53 goes through a float unharmed. -/
theorem truncate_scale {number factor : Nat} (positive : 0 < factor)
    (small : number * factor < 2 ^ 53) :
    truncate ((PyFloat.nearest number).scale factor) = .ok ((number * factor : Nat) : Int) := by
  have numberSmall : number < 2 ^ 53 := (Nat.le_mul_of_pos_right _ positive).trans_lt small
  have read : PyFloat.nearest (number : ℚ) = .finite number := by
    have exact := @PyFloat.nearest_intCast number (by simpa using by exact_mod_cast numberSmall)
    simpa using exact
  have product : PyFloat.nearest ((number : ℚ) * factor) = .finite (number * factor : Nat) := by
    have exact := @PyFloat.nearest_intCast (number * factor : Nat)
      (by simpa using by exact_mod_cast small)
    simpa using exact
  rw [read, PyFloat.scale, product, truncate, Rat.num_natCast, Rat.den_natCast]
  simp only [Nat.cast_one, Int.tdiv_one]

theorem SizeText.factor_pos (size : SizeText) : 0 < size.factor := by
  unfold SizeText.factor
  cases size.suffix with
  | none => exact Nat.one_pos
  | some suffix =>
      obtain ⟨unit, binary, byte⟩ := suffix
      cases unit <;> simp [ByteUnit.bytes]

/-- `_as_bytes` reads every size below 2 ^ 53 as what it means. -/
theorem asBytes_size (py : Builtins) (size : SizeText) (small : size.bytes < 2 ^ 53) :
    asBytes py (.str (String.ofList size.text)) = .ok (size.bytes : Int) := by
  have read : PyText.float size.digits.text = some (.nearest size.digits.value) :=
    PyText.float_of_digits size.digits.nonempty size.digits.allDigits
  have amount := truncate_scale size.factor_pos small
  simp only [asBytes]
  rw [strip_plain size.plain, if_neg (ofList_ne_empty size.text_ne_nil), lower_plain size.plain,
    rdropWhile_size]
  cases shape : size.suffix with
  | none =>
      have last : size.digits.text.getLast? = some (size.digits.text.getLast size.digits.nonempty) :=
        List.getLast?_eq_getLast_of_ne_nil size.digits.nonempty
      have isDigit := size.digits.allDigits _ (List.getLast_mem size.digits.nonempty)
      have noLetter : PyDict.get byteSuffixes (size.digits.text.getLast size.digits.nonempty) = none := by
        rw [PyDict.get_eq_none_iff]
        intro found
        simp only [PyDict.keys, byteSuffixes, List.map_cons, List.map_nil, List.mem_cons,
          List.not_mem_nil, or_false] at found
        rcases found with same | same | same | same | same <;>
          exact PyText.digit_ne isDigit (by decide) same
      have factor : size.factor = 1 := by simp [SizeText.factor, shape]
      rw [factor] at amount
      simp [last, noLetter, read, SizeText.bytes, factor]
      simpa using amount
  | some suffix =>
      have letter : PyDict.get byteSuffixes suffix.unit.letter = some suffix.unit.bytes := by
        cases suffix.unit <;> rfl
      have factor : size.factor = suffix.unit.bytes := by simp [SizeText.factor, shape]
      rw [factor] at amount
      simp [letter, read, SizeText.bytes, factor]
      simpa using amount

theorem DurationUnit.text_plain (unit : DurationUnit) :
    ∀ character ∈ unit.text, Plain character ∧ character.isDigit = false ∧ character ≠ '.' := by
  cases unit <;> simp [DurationUnit.text] <;> decide

theorem DurationUnit.text_ne_nil (unit : DurationUnit) : unit.text ≠ [] := by
  cases unit <;> simp [DurationUnit.text]

theorem DurationText.plain (duration : DurationText) :
    ∀ character ∈ duration.text, Plain character := by
  intro character found
  obtain ⟨part, -, inPart⟩ := List.mem_flatMap.mp found
  rcases List.mem_append.mp inPart with inDigits | inUnit
  · exact plain_digit (part.digits.allDigits character inDigits)
  · exact (part.unit.text_plain character inUnit).1

theorem DurationText.text_ne_nil (duration : DurationText) : duration.text ≠ [] := by
  obtain ⟨parts, nonempty⟩ := duration
  cases parts with
  | nil => exact absurd rfl nonempty
  | cons part rest => simp [DurationText.text, DurationPart.text, part.digits.nonempty]

/-- A text that begins with no letter of a unit. -/
def EndsUnit (text : List Char) : Prop :=
  ∀ character, text.head? = some character → character.isDigit = true

theorem endsUnit_parts (parts : List DurationPart) :
    EndsUnit (parts.flatMap DurationPart.text) := by
  intro character starts
  cases parts with
  | nil => cases starts
  | cons part rest =>
      cases shape : part.digits.text with
      | nil => exact absurd shape part.digits.nonempty
      | cons digit digits =>
          have same : digit = character := by
            simpa [DurationPart.text, shape] using starts
          rw [← same]
          exact part.digits.allDigits digit (by simp [shape])

/-- The unit of a part is found before what follows it: `ms` is tried before
`m`, and no digit continues a unit. -/
theorem unitAt_unit (unit : DurationUnit) {rest : List Char} (ends : EndsUnit rest) :
    unitAt (unit.text ++ rest) = some (unit.text, unit.nanos) := by
  have noS : ¬ ['s'].isPrefixOf rest = true := by
    cases rest with
    | nil => decide
    | cons character others =>
        have isDigit := ends character rfl
        have different : 's' ≠ character := (PyText.digit_ne isDigit (by decide)).symm
        simp [List.isPrefixOf, different]
  cases unit <;>
    simp [unitAt, durationUnits, DurationUnit.text, DurationUnit.nanos, List.find?,
      List.isPrefixOf, noS]

section Scan

variable (py : Builtins) (value : Json)

theorem scanNanos_digits {digits : List Char}
    (allDigits : ∀ digit ∈ digits, digit.isDigit = true) (number : List Char) (total : Int)
    (rest : List Char) :
    scanNanos py value 0 number total (digits ++ rest) =
      scanNanos py value 0 (number ++ digits) total rest := by
  induction digits generalizing number with
  | nil => simp
  | cons digit digits ih =>
      have isDigit := allDigits digit (List.mem_cons_self ..)
      rw [List.cons_append, scanNanos, if_neg (Nat.lt_irrefl 0), if_pos (by simp [isDigit]),
        ih fun other found => allDigits other (List.mem_cons_of_mem _ found)]
      simp

theorem scanNanos_skip (passed number : List Char) (total : Int) (rest : List Char) :
    scanNanos py value passed.length number total (passed ++ rest) =
      scanNanos py value 0 number total rest := by
  induction passed with
  | nil => rfl
  | cons character passed ih =>
      have more : 0 < (character :: passed).length := Nat.succ_pos _
      rw [List.cons_append, scanNanos, if_pos more]
      exact ih

/-- One part adds its product and leaves the scan at the next part. -/
theorem scanNanos_part (part : DurationPart) (total : Int) {rest : List Char}
    (ends : EndsUnit rest) :
    scanNanos py value 0 [] total (part.text ++ rest) = (do
      let nanos ← part.held
      scanNanos py value 0 [] (total + nanos) rest) := by
  have read : readFloat py part.digits.text = .ok (.nearest part.digits.value) := by
    rw [readFloat, PyText.float_of_digits part.digits.nonempty part.digits.allDigits]
    rfl
  have found := unitAt_unit part.unit ends
  rw [DurationPart.text, List.append_assoc, scanNanos_digits py value part.digits.allDigits,
    List.nil_append]
  cases shape : part.unit.text with
  | nil => exact absurd shape part.unit.text_ne_nil
  | cons character letters =>
      have letter := part.unit.text_plain character (by simp [shape])
      rw [shape, List.cons_append] at found
      rw [List.cons_append, scanNanos, if_neg (Nat.lt_irrefl 0),
        if_neg (by simp [letter.2.1, letter.2.2])]
      simp only [found]
      rw [if_neg part.digits.nonempty, partNanos, read]
      simp only [List.length_cons, Nat.add_sub_cancel, scanNanos_skip]
      rfl

theorem scanNanos_parts (parts : List DurationPart) (total : Int) :
    scanNanos py value 0 [] total (parts.flatMap DurationPart.text) = (do
      let nanos ← heldSum parts
      .ok (total + nanos)) := by
  induction parts generalizing total with
  | nil => simp [scanNanos, heldSum, bind, Except.bind]
  | cons part rest ih =>
      rw [List.flatMap_cons, scanNanos_part py value part total (endsUnit_parts rest), heldSum]
      cases part.held with
      | error failure => rfl
      | ok nanos =>
          simp only [bind, Except.bind] at ih ⊢
          rw [ih]
          cases heldSum rest with
          | error failure => rfl
          | ok others => simp [Int.add_assoc]

end Scan

/-- `_as_nanos` adds up the rounded parts. -/
theorem asNanos_duration (py : Builtins) (duration : DurationText) :
    asNanos py (.str (String.ofList duration.text)) = heldSum duration.parts := by
  simp only [asNanos]
  rw [strip_plain duration.plain, if_neg (ofList_ne_empty duration.text_ne_nil),
    lower_plain duration.plain, DurationText.text, scanNanos_parts]
  cases heldSum duration.parts with
  | error failure => rfl
  | ok nanos => simp [bind, Except.bind]

theorem heldSum_of_small {parts : List DurationPart}
    (small : ∀ part ∈ parts, part.nanos < 2 ^ 53) :
    heldSum parts = .ok (((parts.map DurationPart.nanos).sum : Nat) : Int) := by
  induction parts with
  | nil => rfl
  | cons part rest ih =>
      have positive : 0 < part.unit.nanos := by
        cases part.unit <;> decide
      have held : part.held = .ok (part.nanos : Int) :=
        truncate_scale positive (small part (List.mem_cons_self ..))
      rw [heldSum, held, ih fun other found => small other (List.mem_cons_of_mem _ found)]
      simp [bind, Except.bind]

/-- A duration whose parts all stay below 2 ^ 53 nanoseconds is read
exactly. -/
theorem exact_of_small {duration : DurationText}
    (small : ∀ part ∈ duration.parts, part.nanos < 2 ^ 53) : duration.Exact :=
  heldSum_of_small small

theorem digits_append_inj {first second : Digits} {one other : List Char} {letter mark : Char}
    (same : first.text ++ letter :: one = second.text ++ mark :: other)
    (stops : letter.isDigit = false) (ends : mark.isDigit = false) :
    first.text = second.text ∧ letter :: one = mark :: other := by
  have front (digits : Digits) {stop : Char} (rest : List Char) (notDigit : stop.isDigit = false) :
      (digits.text ++ stop :: rest).takeWhile Char.isDigit = digits.text := by
    rw [List.takeWhile_append_of_pos digits.allDigits]
    simp [notDigit]
  have texts : first.text = second.text := by
    rw [← front first one stops, same, front second other ends]
  rw [texts] at same
  exact ⟨texts, List.append_cancel_left same⟩

/-- A text is one list of parts only, as far as their meaning goes. -/
theorem nanos_eq_of_text_eq {first second : List DurationPart}
    (same : first.flatMap DurationPart.text = second.flatMap DurationPart.text) :
    first.map DurationPart.nanos = second.map DurationPart.nanos := by
  have nonempty (part : DurationPart) (rest : List DurationPart) :
      (part :: rest).flatMap DurationPart.text ≠ [] := by
    simp [DurationPart.text, part.digits.nonempty]
  induction first generalizing second with
  | nil =>
      cases second with
      | nil => rfl
      | cons part rest => exact absurd same.symm (nonempty part rest)
  | cons part rest ih =>
      cases second with
      | nil => exact absurd same (nonempty part rest)
      | cons other others =>
          rw [List.flatMap_cons, List.flatMap_cons, DurationPart.text, DurationPart.text,
            List.append_assoc, List.append_assoc] at same
          have found := unitAt_unit part.unit (endsUnit_parts rest)
          have again := unitAt_unit other.unit (endsUnit_parts others)
          have split : part.digits.text = other.digits.text ∧
              part.unit.text ++ rest.flatMap DurationPart.text =
                other.unit.text ++ others.flatMap DurationPart.text := by
            have letters := part.unit.text_plain
            have marks := other.unit.text_plain
            cases one : part.unit.text with
            | nil => exact absurd one part.unit.text_ne_nil
            | cons letter back =>
                cases two : other.unit.text with
                | nil => exact absurd two other.unit.text_ne_nil
                | cons mark tail =>
                    rw [one, two] at same
                    exact digits_append_inj same (letters letter (by simp [one])).2.1
                      (marks mark (by simp [two])).2.1
          rw [split.2, again] at found
          simp only [Option.some.injEq, Prod.mk.injEq] at found
          have tails := split.2
          rw [found.1] at tails
          rw [List.map_cons, List.map_cons, ih (List.append_cancel_left tails), DurationPart.nanos,
            DurationPart.nanos, Digits.value, Digits.value, split.1, found.2]

end SwarmService

end Catena
