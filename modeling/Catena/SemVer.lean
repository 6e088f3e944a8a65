import Catena.PyTextForms
import Mathlib

/-!
# Semantic versions

Versions of Semantic Versioning 2.0.0, with their text and their precedence.
Pre-release and build metadata are kept as they are written; identifiers are
the parts between their full stops.
-/

namespace SemVer

def isIdentifierChar (character : Char) : Bool :=
  character.isAlphanum || character = '-'

def isNumeric (identifier : List Char) : Bool :=
  identifier.all Char.isDigit

def identifiers (text : List Char) : List (List Char) :=
  PyText.splitOn '.' text

/-- Identifiers between full stops, with no leading zeros in numeric ones. -/
def IsPrerelease (text : List Char) : Prop :=
  ∀ identifier ∈ identifiers text, identifier ≠ [] ∧
    identifier.all isIdentifierChar = true ∧
    (isNumeric identifier = true → identifier = ['0'] ∨ identifier.head? ≠ some '0')

/-- Identifiers between full stops. -/
def IsBuild (text : List Char) : Prop :=
  ∀ identifier ∈ identifiers text, identifier ≠ [] ∧ identifier.all isIdentifierChar = true

/-- A version, with its pre-release and its build metadata as written. -/
structure Version where
  major : Nat
  minor : Nat
  patch : Nat
  prerelease : Option (List Char)
  build : Option (List Char)
  isPrerelease : ∀ text, prerelease = some text → IsPrerelease text
  isBuild : ∀ text, build = some text → IsBuild text

/-- The number a numeric identifier stands for. -/
def numericValue (identifier : List Char) : Nat :=
  PyText.digitsValue 10 PyText.decimalDigit identifier

/-- Numeric identifiers compare as numbers and come before the others, which
compare as ASCII text. -/
def IdentifierLower (first second : List Char) : Prop :=
  if isNumeric first then
    if isNumeric second then numericValue first < numericValue second else True
  else if isNumeric second then False else first < second

namespace Version

def core (version : Version) : List Nat :=
  [version.major, version.minor, version.patch]

/-- A pre-release comes before its release; pre-releases compare by their
identifiers, where more of them come after fewer. -/
def PrereleaseLower : Option (List Char) → Option (List Char) → Prop
  | none, _ => False
  | some _, none => True
  | some first, some second => List.Lex IdentifierLower (identifiers first) (identifiers second)

/-- `first` has lower precedence than `second`. -/
def Lower (first second : Version) : Prop :=
  first.core < second.core ∨
    first.core = second.core ∧ PrereleaseLower first.prerelease second.prerelease

def buildText (version : Version) : List Char :=
  (version.build.map fun text => '+' :: text).getD []

/-- What follows the three numbers. -/
def extra (version : Version) : List Char :=
  match version.prerelease with
  | some text => '-' :: text ++ version.buildText
  | none => version.buildText

/-- What follows the first `-` or `+` after the numbers. -/
def suffix (version : Version) : List Char :=
  version.extra.tail

def text (version : Version) : List Char :=
  Nat.toDigits 10 version.major ++ '.' :: Nat.toDigits 10 version.minor ++
    '.' :: Nat.toDigits 10 version.patch ++ version.extra

theorem isIdentifierChar_of_mem {written : List Char} {character : Char}
    (parts : ∀ identifier ∈ identifiers written, identifier.all isIdentifierChar = true)
    (found : character ∈ written) : isIdentifierChar character = true ∨ character = '.' := by
  rcases PyText.mem_splitOn '.' found with stop | ⟨part, member, inPart⟩
  · exact Or.inr stop
  · exact Or.inl (List.all_eq_true.mp (parts part member) character inPart)

theorem ne_nil_of_identifiers {written : List Char}
    (parts : ∀ identifier ∈ identifiers written, identifier ≠ []) : written ≠ [] := by
  rintro rfl
  exact parts [] (by simp [identifiers, PyText.splitOn]) rfl

def IsVersionChar (character : Char) : Prop :=
  isIdentifierChar character = true ∨ character = '.' ∨ character = '+'

theorem prerelease_chars (version : Version) {written : List Char}
    (given : version.prerelease = some written) {character : Char}
    (found : character ∈ written) : isIdentifierChar character = true ∨ character = '.' :=
  isIdentifierChar_of_mem (fun part member =>
    (version.isPrerelease written given part member).2.1) found

theorem buildText_chars (version : Version) {character : Char}
    (found : character ∈ version.buildText) : IsVersionChar character := by
  unfold buildText at found
  cases given : version.build with
  | none => simp [given] at found
  | some written =>
      simp only [given, Option.map_some, Option.getD_some, List.mem_cons] at found
      rcases found with plus | inside
      · exact Or.inr (Or.inr plus)
      · rcases isIdentifierChar_of_mem (fun part member =>
          (version.isBuild written given part member).2) inside with plain | stop
        · exact Or.inl plain
        · exact Or.inr (Or.inl stop)

theorem extra_chars (version : Version) {character : Char}
    (found : character ∈ version.extra) : IsVersionChar character := by
  unfold extra at found
  cases given : version.prerelease with
  | none =>
      rw [given] at found
      exact version.buildText_chars found
  | some written =>
      rw [given] at found
      rcases List.mem_append.mp found with front | back
      · rcases List.mem_cons.mp front with rfl | inside
        · exact Or.inl (by decide)
        · rcases version.prerelease_chars given inside with plain | stop
          · exact Or.inl plain
          · exact Or.inr (Or.inl stop)
      · exact version.buildText_chars back

theorem isIdentifierChar_digit {character : Char} (isDigit : character.isDigit = true) :
    isIdentifierChar character = true := by
  simp [isIdentifierChar, Char.isAlphanum, isDigit]

theorem text_chars (version : Version) {character : Char} (found : character ∈ version.text) :
    IsVersionChar character := by
  have digit {value : Nat} (inside : character ∈ Nat.toDigits 10 value) :
      IsVersionChar character :=
    Or.inl (isIdentifierChar_digit (Nat.isDigit_of_mem_toDigits (by decide) (by decide) inside))
  simp only [text, List.mem_append, List.mem_cons] at found
  rcases found with ((major | rfl | minor) | rfl | patch) | extra
  · exact digit major
  · exact Or.inr (Or.inl rfl)
  · exact digit minor
  · exact Or.inr (Or.inl rfl)
  · exact digit patch
  · exact version.extra_chars extra

/-- What follows the numbers is nothing, or begins with a sign and goes on. -/
theorem extra_shape (version : Version) :
    version.extra = [] ∨ ∃ mark rest, version.extra = mark :: rest ∧
      (mark = '-' ∨ mark = '+') ∧ rest ≠ [] ∧ rest = version.suffix := by
  unfold suffix
  cases given : version.prerelease with
  | some written =>
      have nonempty := ne_nil_of_identifiers fun part member =>
        (version.isPrerelease written given part member).1
      right
      refine ⟨'-', written ++ version.buildText, by simp [extra, given], Or.inl rfl, ?_,
        by simp [extra, given]⟩
      simp [nonempty]
  | none =>
      cases built : version.build with
      | none => exact Or.inl (by simp [extra, given, buildText, built])
      | some written =>
          have nonempty := ne_nil_of_identifiers fun part member =>
            (version.isBuild written built part member).1
          right
          exact ⟨'+', written, by simp [extra, given, buildText, built], Or.inr rfl, nonempty,
            by simp [extra, given, buildText, built]⟩

theorem prerelease_eq_none_of_suffix {version : Version} (empty : version.suffix = []) :
    version.prerelease = none := by
  cases given : version.prerelease with
  | none => rfl
  | some written =>
      rcases version.extra_shape with none | ⟨mark, rest, -, -, nonempty, same⟩
      · simp [extra, given] at none
      · exact absurd (same.trans empty) nonempty

/-- The text after the numbers tells the pre-release. -/
theorem prerelease_eq_of_extra {first second : Version} (same : first.extra = second.extra) :
    first.prerelease = second.prerelease := by
  have start (version : Version) (none : version.prerelease = none) :
      version.extra = [] ∨ ∃ rest, version.extra = '+' :: rest := by
    rw [extra, none, buildText]
    cases version.build with
    | none => exact Or.inl rfl
    | some written => exact Or.inr ⟨written, rfl⟩
  have front (version : Version) {written : List Char}
      (given : version.prerelease = some written) :
      version.extra.tail.takeWhile (fun character => character ≠ '+') = written := by
    have kept : ∀ character ∈ written, decide (character ≠ '+') = true := by
      intro character found
      rcases version.prerelease_chars given found with plain | stop
      · have notPlus : character ≠ '+' := by
          rintro rfl
          exact absurd plain (by decide)
        simp [notPlus]
      · simp [stop]
    have shape : version.extra = '-' :: (written ++ version.buildText) := by
      simp [extra, given]
    rw [shape, List.tail_cons, List.takeWhile_append_of_pos kept, buildText]
    cases version.build <;> simp
  cases one : first.prerelease with
  | none =>
      cases two : second.prerelease with
      | none => rfl
      | some written =>
          have dash : second.extra = '-' :: (written ++ second.buildText) := by
            simp [extra, two]
          rcases start first one with empty | ⟨rest, plus⟩
          · rw [← same, empty] at dash
            cases dash
          · rw [← same, plus] at dash
            cases dash
  | some written =>
      cases two : second.prerelease with
      | none =>
          have dash : first.extra = '-' :: (written ++ first.buildText) := by
            simp [extra, one]
          rcases start second two with empty | ⟨rest, plus⟩
          · rw [same, empty] at dash
            cases dash
          · rw [same, plus] at dash
            cases dash
      | some other => rw [← front first one, ← front second two, same]

theorem identifierLower_irrefl (identifier : List Char) :
    ¬ IdentifierLower identifier identifier := by
  unfold IdentifierLower
  split
  · exact lt_irrefl _
  · exact lt_irrefl identifier

theorem prereleaseLower_irrefl (written : Option (List Char)) :
    ¬ PrereleaseLower written written := by
  cases written with
  | none => exact id
  | some written =>
      rw [PrereleaseLower]
      induction identifiers written with
      | nil => exact fun lower => by cases lower
      | cons identifier rest ih =>
          intro lower
          cases lower with
          | rel here => exact identifierLower_irrefl identifier here
          | cons later => exact ih later

/-- Versions of one core and pre-release have the same precedence. -/
theorem not_lower_of_same {first second : Version} (core : first.core = second.core)
    (prerelease : first.prerelease = second.prerelease) : ¬ Lower first second := by
  rintro (less | ⟨-, lower⟩)
  · rw [core] at less
    exact lt_irrefl _ less
  · rw [prerelease] at lower
    exact prereleaseLower_irrefl _ lower

end Version

end SemVer
