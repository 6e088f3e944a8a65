import Mathlib.Data.List.Basic
import Mathlib.Tactic.Common

/-!
# Python text

The `str` methods the host programs call, on lists of characters and on
strings.
-/

namespace PyText

instance decidableMemTexts (text : List Char) (texts : List (List Char)) :
    Decidable (text ∈ texts) :=
  inferInstanceAs (Decidable (text ∈ texts))

/-- The characters `str.isspace` accepts. -/
def isSpace (character : Char) : Bool :=
  let code := character.toNat
  (9 ≤ code && code ≤ 13) || (28 ≤ code && code ≤ 32) ||
    code == 0x85 || code == 0xa0 || code == 0x1680 ||
    (0x2000 ≤ code && code ≤ 0x200a) ||
    code == 0x2028 || code == 0x2029 || code == 0x202f ||
    code == 0x205f || code == 0x3000

/-- Drop the characters `drop` accepts from both ends. -/
def stripChars (drop : Char → Bool) (text : List Char) : List Char :=
  ((text.dropWhile drop).reverse.dropWhile drop).reverse

def strip (text : String) : String :=
  String.ofList (stripChars isSpace text.toList)

/-- One character of `str.lower`.  A non-ASCII character becomes an ASCII one
in two cases only, U+0130 and the Kelvin sign; every other non-ASCII
character stands for its own lower case here, which is not ASCII either. -/
def lowerChar (character : Char) : List Char :=
  if character.toNat = 0x130 then ['i', Char.ofNat 0x307]
  else if character.toNat = 0x212a then ['k']
  else [character.toLower]

/-- `text.lower()`, as far as ASCII readers of the result can tell. -/
def lower (text : String) : String :=
  String.ofList (text.toList.flatMap lowerChar)

/-- `needle in text`. -/
def contains (text needle : List Char) : Bool :=
  match text with
  | [] => needle.isEmpty
  | _ :: rest => needle.isPrefixOf text || contains rest needle

/-- `text.partition(separator)` for a one-character separator: what stands
before and after its first occurrence, if it occurs. -/
def partition (separator : Char) (text : List Char) :
    Option (List Char × List Char) :=
  match text with
  | [] => none
  | first :: rest =>
      if first = separator then some ([], rest)
      else (partition separator rest).map fun parts =>
        (first :: parts.1, parts.2)

/-- `text.split(separator)` for a one-character separator. -/
def splitOn (separator : Char) : List Char → List (List Char)
  | [] => [[]]
  | first :: rest =>
      if first = separator then [] :: splitOn separator rest
      else
        match splitOn separator rest with
        | [] => [[first]]
        | word :: words => (first :: word) :: words

/-- What is left of `text` after `start`, if it starts with it. -/
def afterStart (start text : List Char) : Option (List Char) :=
  if start.isPrefixOf text then some (text.drop start.length) else none

/-- `text.isascii() and text.isdigit()`. -/
def isDigits (text : List Char) : Bool :=
  !text.isEmpty && text.all Char.isDigit

/-- The number a list of digits in base `base` stands for. -/
def digitsValue (base : Nat) (digit : Char → Nat) (text : List Char) : Nat :=
  text.foldl (fun value character => value * base + digit character) 0

def decimalDigit (character : Char) : Nat :=
  character.toNat - '0'.toNat

/-- The digits `int` reads, with single underscores between them. -/
def intDigits : List Char → Option (List Char)
  | [] => none
  | [last] => if last.isDigit then some [last] else none
  | first :: second :: rest =>
      if !first.isDigit then none
      else if second = '_' then (intDigits rest).map (first :: ·)
      else (intDigits (second :: rest)).map (first :: ·)

/-- `int(text)`, for the digits of ASCII; `none` where it raises
`ValueError`. -/
def int (text : List Char) : Option Int :=
  let read := fun digits => (intDigits digits).map fun found =>
    Int.ofNat (digitsValue 10 decimalDigit found)
  match stripChars isSpace text with
  | '-' :: digits => (read digits).map Neg.neg
  | '+' :: digits => read digits
  | digits => read digits

/-- `re.sub("[^...]+", "_", text)` for the class `keep` of characters that
stay; `inRun` tells that the run being read already has its underscore. -/
def collapse (keep : Char → Bool) (inRun : Bool) : List Char → List Char
  | [] => []
  | first :: rest =>
      if keep first then first :: collapse keep false rest
      else if inRun then collapse keep true rest
      else '_' :: collapse keep true rest

theorem afterStart_eq_some {start text rest : List Char} :
    afterStart start text = some rest ↔ text = start ++ rest := by
  unfold afterStart
  constructor
  · intro found
    split at found
    · rename_i starts
      obtain ⟨after, whole⟩ := List.isPrefixOf_iff_prefix.mp starts
      rw [← whole, List.drop_left, Option.some.injEq] at found
      rw [← whole, found]
    · cases found
  · rintro rfl
    rw [if_pos (List.isPrefixOf_iff_prefix.mpr (List.prefix_append _ _)),
      List.drop_left]

theorem mem_splitOn (separator : Char) {text : List Char} {character : Char}
    (found : character ∈ text) : character = separator ∨
      ∃ part ∈ splitOn separator text, character ∈ part := by
  induction text with
  | nil => cases found
  | cons first rest ih =>
      rw [splitOn]
      split
      · rename_i separates
        rcases List.mem_cons.mp found with rfl | later
        · exact Or.inl separates
        · rcases ih later with same | ⟨part, inParts, inPart⟩
          · exact Or.inl same
          · exact Or.inr ⟨part, List.mem_cons_of_mem _ inParts, inPart⟩
      · cases parts : splitOn separator rest with
        | nil =>
            rcases List.mem_cons.mp found with rfl | later
            · exact Or.inr ⟨[character], by simp, by simp⟩
            · rcases ih later with same | ⟨part, inParts, inPart⟩
              · exact Or.inl same
              · rw [parts] at inParts
                cases inParts
        | cons word words =>
            rcases List.mem_cons.mp found with rfl | later
            · exact Or.inr ⟨character :: word, by simp, by simp⟩
            · rcases ih later with same | ⟨part, inParts, inPart⟩
              · exact Or.inl same
              · rw [parts] at inParts
                rcases List.mem_cons.mp inParts with rfl | inWords
                · exact Or.inr ⟨first :: part, by simp, by simp [inPart]⟩
                · exact Or.inr ⟨part, by simp [inWords], inPart⟩

@[simp]
theorem strip_empty : strip "" = "" :=
  rfl

end PyText
