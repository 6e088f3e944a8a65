import Catena.ImagePin
import Catena.SemVer

/-!
# Pins and semantic versions

The order of two tags that are semantic versions compares what follows the
first `-` or `+` as one text.  So a pin keeps to the precedence of the versions
except where both have such a text, the numbers are equal, and the texts do not
compare as the versions do.
-/

namespace Catena

namespace ImagePin

open SemVer

/-- A repository: no digest sign and no blank in front. -/
structure Repository where
  text : List Char
  noDigest : '@' ∉ text
  noBlank : ∀ character, text.head? = some character → PyText.isSpace character = false

/-- A version as a tag, with or without a `v`. -/
structure Tag where
  prefixed : Bool
  version : Version

def Tag.text (tag : Tag) : List Char :=
  (if tag.prefixed then ['v'] else []) ++ tag.version.text

/-- `repository:tag`. -/
def ref (repository : Repository) (tag : Tag) : String :=
  String.ofList (repository.text ++ ':' :: tag.text)

theorem splitLast_append {separator : Char} {back : List Char} (absent : separator ∉ back)
    (front : List Char) :
    splitLast separator (front ++ separator :: back) = some (front, back) := by
  have none : splitLast separator back = none := by
    induction back with
    | nil => rfl
    | cons first rest ih =>
        rw [List.mem_cons, not_or] at absent
        rw [splitLast, ih absent.2]
        simp [Ne.symm absent.1]
  induction front with
  | nil => simp [splitLast, none]
  | cons first rest ih => simp [splitLast, ih]

theorem tag_chars (tag : Tag) {character : Char} (found : character ∈ tag.text) :
    Version.IsVersionChar character := by
  rcases List.mem_append.mp found with front | back
  · cases given : tag.prefixed with
    | false => simp [given] at front
    | true =>
        simp only [given, if_true, List.mem_singleton] at front
        rw [front]
        exact Or.inl (by decide)
  · exact tag.version.text_chars back

theorem versionChar_code {character : Char} (versionChar : Version.IsVersionChar character) :
    (48 ≤ character.toNat ∧ character.toNat ≤ 57) ∨
      (65 ≤ character.toNat ∧ character.toNat ≤ 90) ∨
      (97 ≤ character.toNat ∧ character.toNat ≤ 122) ∨
      character.toNat = 43 ∨ character.toNat = 45 ∨ character.toNat = 46 := by
  rcases versionChar with plain | rfl | rfl
  · simp only [isIdentifierChar, Char.isAlphanum, Char.isAlpha, Char.isUpper, Char.isLower,
      Char.isDigit, Bool.or_eq_true, Bool.and_eq_true, decide_eq_true_eq,
      UInt32.le_iff_toNat_le] at plain
    rcases plain with ((upper | lower) | digit) | rfl
    · exact Or.inr (Or.inl upper)
    · exact Or.inr (Or.inr (Or.inl lower))
    · exact Or.inl digit
    · exact Or.inr (Or.inr (Or.inr (Or.inr (Or.inl rfl))))
  · exact Or.inr (Or.inr (Or.inr (Or.inr (Or.inr rfl))))
  · exact Or.inr (Or.inr (Or.inr (Or.inl rfl)))

theorem isSpace_versionChar {character : Char} (versionChar : Version.IsVersionChar character) :
    PyText.isSpace character = false := by
  have code := versionChar_code versionChar
  simp [PyText.isSpace]
  omega

theorem tag_free (tag : Tag) {other : Char} (code : other.toNat = 64 ∨ other.toNat = 58 ∨
    other.toNat = 47 ∨ other.toNat = 10) : other ∉ tag.text := by
  intro found
  have codes := versionChar_code (tag_chars tag found)
  omega

theorem version_text_ne_nil (version : Version) : version.text ≠ [] := by
  have major : Nat.toDigits 10 version.major ≠ [] := Nat.toDigits_ne_nil
  simp [Version.text, major]

theorem tag_text_ne_nil (tag : Tag) : tag.text ≠ [] := by
  simp [Tag.text, version_text_ne_nil]

theorem strip_ref (repository : Repository) (tag : Tag) :
    PyText.strip (ref repository tag) = ref repository tag := by
  rw [PyText.strip, ref, String.toList_ofList, PyText.stripChars_of_ends]
  · intro character starts
    cases shape : repository.text with
    | nil =>
        rw [shape] at starts
        obtain rfl : ':' = character := by simpa using starts
        decide
    | cons first rest =>
        apply repository.noBlank
        rw [shape] at starts ⊢
        simpa using starts
  · intro character ends
    apply isSpace_versionChar
    apply tag_chars tag
    apply List.mem_of_getLast?
    have last : (repository.text ++ ':' :: tag.text).getLast? = tag.text.getLast? := by
      rw [List.getLast?_append, List.getLast?_cons_of_ne_nil (tag_text_ne_nil tag)]
      cases found : tag.text.getLast? with
      | none => exact absurd (List.getLast?_eq_none_iff.mp found) (tag_text_ne_nil tag)
      | some last => rfl
    rwa [last] at ends

theorem ref_not_blank (repository : Repository) (tag : Tag) :
    PyText.strip (ref repository tag) ≠ "" := by
  rw [strip_ref]
  intro same
  have empty := congrArg String.toList same
  simp [ref] at empty

theorem splitRef_ref (repository : Repository) (tag : Tag) :
    splitRef (ref repository tag) = (repository.text, tag.text) := by
  have noDigest : '@' ∉ repository.text ++ ':' :: tag.text := by
    simp only [List.mem_append, List.mem_cons, not_or]
    exact ⟨repository.noDigest, by decide, tag_free tag (by decide)⟩
  have noPartition : PyText.partition '@' (repository.text ++ ':' :: tag.text) = none := by
    cases found : PyText.partition '@' (repository.text ++ ':' :: tag.text) with
    | none => rfl
    | some halves =>
        obtain ⟨before, after⟩ := halves
        have split := (PyText.partition_eq_some.mp found).1
        rw [split] at noDigest
        simp at noDigest
  have noColon : ':' ∉ tag.text := tag_free tag (by decide)
  have noSlash : '/' ∉ tag.text := tag_free tag (by decide)
  simp only [splitRef]
  rw [if_neg (ref_not_blank repository tag), strip_ref, ref, String.toList_ofList, noPartition]
  simp only [splitLast_append noColon]
  rw [if_neg noSlash]

section Ordered

variable (digits : DecimalDigits)

/-- A decimal number is read up to the first character that is no digit. -/
theorem number_toDigits (found : Nat) {rest : List Char}
    (ends : ∀ character, rest.head? = some character → digits.value character = none) :
    number digits (Nat.toDigits 10 found ++ rest) = some (Nat.toDigits 10 found, rest) := by
  have plain : ∀ character ∈ Nat.toDigits 10 found,
      digits.value character = some (PyText.decimalDigit character) := by
    intro character member
    apply value_of_digit
    exact Nat.isDigit_of_mem_toDigits (by decide) (by decide) member
  have isNumber : IsNumber digits (Nat.toDigits 10 found) := by
    constructor
    · exact Nat.toDigits_ne_nil
    · intro character member
      rw [plain character member]
      rfl
  exact number_append digits isNumber ends

/-- `int` of a decimal number within the limit. -/
theorem numberValue_toDigits (found : Nat) :
    numberValue digits (Nat.toDigits 10 found) = found := by
  have same : ∀ character ∈ Nat.toDigits 10 found,
      (digits.value character).getD 0 = PyText.decimalDigit character := by
    intro character member
    rw [value_of_digit digits (Nat.isDigit_of_mem_toDigits (by decide) (by decide) member)]
    rfl
  rw [numberValue, PyText.digitsValue_congr 10 same, PyText.digitsValue_toDigits]

theorem toDigits_cons (found : Nat) : ∃ first rest, Nat.toDigits 10 found = first :: rest ∧
    first.isDigit = true := by
  cases shape : Nat.toDigits 10 found with
  | nil => exact absurd shape Nat.toDigits_ne_nil
  | cons first rest =>
      refine ⟨first, rest, rfl, ?_⟩
      have member : first ∈ Nat.toDigits 10 found := by simp [shape]
      exact Nat.isDigit_of_mem_toDigits (by decide) (by decide) member

theorem afterV_tag (tag : Tag) : afterV tag.text = tag.version.text := by
  obtain ⟨first, rest, shape, isDigit⟩ := toDigits_cons tag.version.major
  cases given : tag.prefixed with
  | true => simp [Tag.text, given, afterV]
  | false =>
      have plain : tag.text = tag.version.text := by simp [Tag.text, given]
      have start : tag.version.text = first :: (rest ++ ('.' :: Nat.toDigits 10 tag.version.minor ++
          '.' :: Nat.toDigits 10 tag.version.patch ++ tag.version.extra)) := by
        simp [Version.text, shape]
      rw [plain, start]
      have notV : first ≠ 'v' := by
        rintro rfl
        exact absurd isDigit (by decide)
      unfold afterV
      split
      · rename_i same
        exact absurd (List.cons.inj same).1 notV
      · rfl

theorem suffixGroup_extra (version : Version) :
    suffixGroup version.extra = some version.suffix := by
  rcases version.extra_shape with none | ⟨mark, rest, shape, signs, nonempty, same⟩
  · simp [suffixGroup, atEnd, Version.suffix, none]
  · have noNewline : ∀ character ∈ rest, decide (character ≠ '\n') = true := by
      intro character found
      have versionChar := version.extra_chars (show character ∈ version.extra by simp [shape, found])
      have code := versionChar_code versionChar
      have different : character ≠ '\n' := by
        rintro rfl
        revert code
        decide
      simp [different]
    have taken : rest.takeWhile (fun character => decide (character ≠ '\n')) = rest := by
      rw [List.takeWhile_eq_self_iff]
      exact noNewline
    have dropped : rest.dropWhile (fun character => decide (character ≠ '\n')) = [] := by
      rw [List.dropWhile_eq_nil_iff]
      exact noNewline
    have notEnd : atEnd (mark :: rest) = false := by
      rcases signs with rfl | rfl <;> simp [atEnd]
    unfold suffixGroup
    rw [shape, notEnd, ← same]
    simp only [Bool.false_eq_true, if_false]
    rw [taken, dropped, if_pos]
    rcases signs with rfl | rfl <;> simp [nonempty, atEnd]

/-- What follows the major number, the minor number and the patch number. -/
theorem version_text (version : Version) :
    version.text = Nat.toDigits 10 version.major ++ '.' :: (Nat.toDigits 10 version.minor ++
      '.' :: (Nat.toDigits 10 version.patch ++ version.extra)) := by
  simp [Version.text]

theorem number_before_dot (found : Nat) (rest : List Char) :
    number digits (Nat.toDigits 10 found ++ '.' :: rest) =
      some (Nat.toDigits 10 found, '.' :: rest) := by
  apply number_toDigits
  intro character starts
  obtain rfl : '.' = character := by simpa using starts
  exact value_of_other digits (by decide) (by decide)

theorem number_before_extra (version : Version) :
    number digits (Nat.toDigits 10 version.patch ++ version.extra) =
      some (Nat.toDigits 10 version.patch, version.extra) := by
  apply number_toDigits
  intro character starts
  rcases version.extra_shape with none | ⟨mark, rest, shape, signs, -, -⟩
  · rw [none] at starts
    cases starts
  · rw [shape] at starts
    obtain rfl : mark = character := by simpa using starts
    rcases signs with rfl | rfl
    · exact value_of_other digits (by decide) (by decide)
    · exact value_of_other digits (by decide) (by decide)

theorem not_majorMinor (tag : Tag) : majorMinor digits tag.text = none := by
  cases given : tag.prefixed with
  | true =>
      have none : digits.value 'v' = none := value_of_other digits (by decide) (by decide)
      simp [Tag.text, given, majorMinor, number, none]
  | false =>
      have plain : tag.text = tag.version.text := by simp [Tag.text, given]
      rw [plain, version_text, majorMinor, number_before_dot]
      simp only [Option.bind_eq_bind, Option.bind_some, dot]
      rw [number_before_dot]
      rfl

theorem not_bareMajorMinor (tag : Tag) : bareMajorMinor digits tag.text = none := by
  rw [bareMajorMinor, afterV_tag, version_text, number_before_dot]
  simp only [Option.bind_eq_bind, Option.bind_some, dot]
  rw [number_before_dot]
  simp [atEnd]

theorem buildGroup_extra (version : Version) :
    buildGroup digits version.extra = (none, version.extra) := by
  rcases version.extra_shape with none | ⟨mark, rest, shape, signs, -, -⟩
  · simp [none, buildGroup, dot]
  · rw [shape]
    rcases signs with rfl | rfl <;> rfl

theorem semver_tag (tag : Tag) : semver digits tag.text =
    some (tag.version.core.map (Nat.toDigits 10), none, tag.version.suffix) := by
  rw [semver, afterV_tag, version_text, number_before_dot]
  simp only [Option.bind_eq_bind, Option.bind_some, dot]
  rw [number_before_dot]
  simp only [Option.bind_some]
  rw [number_before_extra]
  simp only [Option.bind_some]
  rw [buildGroup_extra]
  simp only
  rw [suffixGroup_extra]
  rfl

/-- No number of the version has more digits than `int` reads. -/
def Tag.Read (tag : Tag) : Prop :=
  ∀ number ∈ tag.version.core, number < 10 ^ maxStrDigits

theorem short_tag (tag : Tag) : Short digits tag.text ↔ tag.Read := by
  rw [Short, numberGroups, not_majorMinor digits tag, not_bareMajorMinor digits tag,
    semver_tag digits tag]
  simp only [Option.toList_none, List.append_nil, List.forall_mem_map]
  exact forall₂_congr fun number _ =>
    Nat.length_toDigits_le_iff (by decide) (by decide)

/-- The order of a version's tag: its numbers, whether it has a suffix, and
the suffix. -/
theorem order_tag {tag : Tag} (read : tag.Read) :
    order digits tag.text = .ok (some ⟨.semver,
      toLex (tag.version.core ++ [0, if tag.version.suffix = [] then 1 else 0],
        tag.version.suffix)⟩) := by
  have short : ∀ run ∈ tag.version.core.map (Nat.toDigits 10), run.length ≤ maxStrDigits := by
    rw [List.forall_mem_map]
    exact fun number member =>
      (Nat.length_toDigits_le_iff (by decide) (by decide)).mpr (read number member)
  have values : (tag.version.core.map (Nat.toDigits 10)).map (numberValue digits) =
      tag.version.core := by
    rw [List.map_map]
    exact (List.map_congr_left fun number _ => numberValue_toDigits digits number).trans
      (List.map_id _)
  rw [order, not_majorMinor digits tag, not_bareMajorMinor digits tag, semver_tag digits tag]
  simp only
  rw [mapM_intOf_ok digits _ short, values]
  rfl

theorem toDigits_inj {first second : Nat}
    (same : Nat.toDigits 10 first = Nat.toDigits 10 second) : first = second := by
  rw [← numberValue_toDigits asciiDigits first, same, numberValue_toDigits]

theorem same_of_text {first second : Tag} (same : first.text = second.text) :
    first.version.core = second.version.core ∧
      first.version.prerelease = second.version.prerelease := by
  have text : first.version.text = second.version.text := by
    rw [← afterV_tag first, ← afterV_tag second, same]
  rw [version_text, version_text] at text
  have major := congrArg (number asciiDigits) text
  rw [number_before_dot, number_before_dot] at major
  simp only [Option.some.injEq, Prod.mk.injEq, List.cons.injEq, true_and] at major
  have minor := congrArg (number asciiDigits) major.2
  rw [number_before_dot, number_before_dot] at minor
  simp only [Option.some.injEq, Prod.mk.injEq, List.cons.injEq, true_and] at minor
  have patch := congrArg (number asciiDigits) minor.2
  rw [number_before_extra, number_before_extra] at patch
  simp only [Option.some.injEq, Prod.mk.injEq] at patch
  constructor
  · rw [Version.core, Version.core, toDigits_inj major.1, toDigits_inj minor.1,
      toDigits_inj patch.1]
  · exact Version.prerelease_eq_of_extra patch.2

end Ordered

section Precedence

variable (digits : DecimalDigits) (py : Builtins) (repository : Repository) (floor pin : Tag)

/-- What a converge runs where `floor` is shipped and `pin` is recorded. -/
def run : Except PyError String :=
  catenaImagePin digits py (.str (ref repository floor))
    (.obj [(String.ofList repository.text, .str (ref repository pin))])

/-- The text after the numbers makes the pin the greater one. -/
def Greater : Prop :=
  floor.version.core < pin.version.core ∨ floor.version.core = pin.version.core ∧
    floor.version.suffix ≠ [] ∧
      (pin.version.suffix = [] ∨ floor.version.suffix < pin.version.suffix)

/-- Equal numbers and two flags compare as the flags. -/
theorem append_flag_lt_iff (first second : Version) (firstFlag secondFlag : Nat) :
    first.core ++ [0, firstFlag] < second.core ++ [0, secondFlag] ↔
      first.core < second.core ∨ first.core = second.core ∧ firstFlag < secondFlag := by
  simp only [Version.core, List.cons_append, List.nil_append, List.cons_lt_cons_iff,
    List.cons.injEq]
  simp
  tauto

theorem append_flag_eq_iff (first second : Version) (firstFlag secondFlag : Nat) :
    first.core ++ [0, firstFlag] = second.core ++ [0, secondFlag] ↔
      first.core = second.core ∧ firstFlag = secondFlag := by
  simp [Version.core]
  tauto

theorem key_lt_iff :
    (toLex (floor.version.core ++ [0, if floor.version.suffix = [] then 1 else 0],
        floor.version.suffix) : Key) <
      toLex (pin.version.core ++ [0, if pin.version.suffix = [] then 1 else 0],
        pin.version.suffix) ↔ Greater floor pin := by
  rw [Prod.Lex.toLex_lt_toLex, append_flag_lt_iff, append_flag_eq_iff, Greater]
  by_cases floorPlain : floor.version.suffix = []
  · by_cases pinPlain : pin.version.suffix = []
    · simp [floorPlain, pinPlain]
    · simp [floorPlain, pinPlain]
  · by_cases pinPlain : pin.version.suffix = []
    · simp [floorPlain, pinPlain]
    · simp [floorPlain, pinPlain]

theorem recorded_pin :
    recorded (.obj [(String.ofList repository.text, .str (ref repository pin))])
      repository.text = some (.str (ref repository pin)) := by
  simp [recorded, PyDict.get]

theorem run_eq [Decidable (Greater floor pin)] (floorRead : floor.Read) (pinRead : pin.Read) :
    run digits py repository floor pin =
      .ok (if Greater floor pin then ref repository pin else ref repository floor) := by
  have pinned : catenaImagePinned digits
      (.obj [(String.ofList repository.text, .str (ref repository pin))]) repository.text =
        .ok (ref repository pin) := by
    rw [catenaImagePinned, recorded_pin]
    simp only
    rw [if_neg (ref_not_blank repository pin), splitRef_ref, order_tag digits pinRead,
      if_neg (by simp)]
    rfl
  have given : ref repository pin ≠ "" := by
    intro empty
    apply ref_not_blank repository pin
    rw [empty]
    decide
  simp only [run, catenaImagePin]
  rw [if_neg (ref_not_blank repository floor), splitRef_ref, pinned]
  simp only [bind, Except.bind]
  rw [if_neg given, splitRef_ref, order_tag digits floorRead, order_tag digits pinRead]
  simp only [ne_eq, not_true_eq_false, if_false, key_lt_iff floor pin]
  rfl

/-- A run that returns has read the numbers of both tags. -/
theorem read_of_run {digits : DecimalDigits} {py : Builtins} {repository : Repository}
    {floor pin : Tag} {result : String} (ran : run digits py repository floor pin = .ok result) :
    floor.Read ∧ pin.Read := by
  have reads := pinReads_of_ran (ref_not_blank repository floor) ran
  rw [PinReads, splitRef_ref] at reads
  have short := reads _ (recorded_pin repository pin) (ref_not_blank repository pin)
    (by rw [splitRef_ref])
  rw [splitRef_ref] at short
  have compares : numberGroups digits pin.text ≠ [] := by
    rw [numberGroups, not_majorMinor, not_bareMajorMinor, semver_tag]
    simp [Version.core]
  exact ⟨(short_tag digits floor).mp (short.2 compares), (short_tag digits pin).mp short.1⟩

/-- A converge runs a version that is not lower than the floor, and the pin
where that is the higher one. -/
def NeverLowers : Prop :=
  ∃ chosen : Tag, run digits py repository floor pin = .ok (ref repository chosen) ∧
    ¬ chosen.version.Lower floor.version ∧
    (floor.version.Lower pin.version → ref repository chosen = ref repository pin)

/-- Where both have a text after equal numbers, it orders them as versions. -/
def TextOrders : Prop :=
  floor.version.core = pin.version.core → floor.version.suffix ≠ [] → pin.version.suffix ≠ [] →
    (floor.version.Lower pin.version → floor.version.suffix < pin.version.suffix) ∧
    (pin.version.Lower floor.version → ¬ floor.version.suffix < pin.version.suffix)

/-- One reference names versions of one precedence. -/
theorem same_of_ref {first second : Tag} (same : ref repository first = ref repository second) :
    first.version.core = second.version.core ∧
      first.version.prerelease = second.version.prerelease := by
  apply same_of_text
  have split := congrArg (fun written => (splitRef written).2) same
  simpa only [splitRef_ref] using split

/-- The greater key is the pin's where the pin is the higher version, and
never where it is the lower one. -/
theorem greater_agrees (orders : TextOrders floor pin) :
    (floor.version.Lower pin.version → Greater floor pin) ∧
      (pin.version.Lower floor.version → ¬ Greater floor pin) := by
  constructor
  · rintro (lessCore | ⟨core, prerelease⟩)
    · exact Or.inl lessCore
    · have floorText : floor.version.suffix ≠ [] := by
        intro empty
        rw [Version.prerelease_eq_none_of_suffix empty] at prerelease
        exact prerelease
      by_cases pinText : pin.version.suffix = []
      · exact Or.inr ⟨core, floorText, Or.inl pinText⟩
      · exact Or.inr ⟨core, floorText,
          Or.inr ((orders core floorText pinText).1 (Or.inr ⟨core, prerelease⟩))⟩
  · intro lower greater
    rcases greater with lessCore | ⟨core, floorText, pinPlain | less⟩
    · rcases lower with pinLess | ⟨core, -⟩
      · exact lt_asymm lessCore pinLess
      · rw [core] at lessCore
        exact lt_irrefl _ lessCore
    · rcases lower with pinLess | ⟨-, prerelease⟩
      · rw [core] at pinLess
        exact lt_irrefl _ pinLess
      · rw [Version.prerelease_eq_none_of_suffix pinPlain] at prerelease
        exact prerelease
    · have pinText : pin.version.suffix ≠ [] := by
        intro empty
        rw [empty] at less
        exact List.not_lt_nil _ less
      exact (orders core floorText pinText).2 lower less

theorem neverLowers_iff : NeverLowers digits py repository floor pin ↔
    floor.Read ∧ pin.Read ∧ TextOrders floor pin := by
  classical
  rw [NeverLowers]
  constructor
  · rintro ⟨chosen, ran, kept, raised⟩
    obtain ⟨floorRead, pinRead⟩ := read_of_run ran
    refine ⟨floorRead, pinRead, fun core floorText pinText => ?_⟩
    rw [run_eq digits py repository floor pin floorRead pinRead] at ran
    have greater : Greater floor pin ↔ floor.version.suffix < pin.version.suffix := by
      simp [Greater, core, floorText, pinText]
    by_cases isGreater : Greater floor pin
    · rw [if_pos isGreater] at ran
      obtain ⟨sameCore, samePrerelease⟩ := same_of_ref repository (Except.ok.inj ran)
      constructor
      · exact fun _ => greater.mp isGreater
      · intro lower
        rw [Version.Lower, sameCore, samePrerelease] at lower
        exact absurd lower kept
    · rw [if_neg isGreater] at ran
      constructor
      · intro lower
        obtain ⟨sameCore, samePrerelease⟩ :=
          same_of_ref repository ((Except.ok.inj ran).trans (raised lower))
        exact absurd lower (Version.not_lower_of_same sameCore samePrerelease)
      · exact fun _ less => isGreater (greater.mpr less)
  · rintro ⟨floorRead, pinRead, orders⟩
    rw [run_eq digits py repository floor pin floorRead pinRead]
    obtain ⟨raises, lowers⟩ := greater_agrees floor pin orders
    by_cases isGreater : Greater floor pin
    · use pin
      rw [if_pos isGreater]
      exact ⟨rfl, fun lower => lowers lower isGreater, fun _ => rfl⟩
    · use floor
      rw [if_neg isGreater]
      exact ⟨rfl, Version.not_lower_of_same rfl rfl, fun lower => absurd (raises lower) isGreater⟩

end Precedence

def traefik : Repository where
  text := "traefik".toList
  noDigest := by decide
  noBlank := by
    intro character starts
    obtain rfl : 't' = character := by simpa using starts
    decide

/-- `v1.0.0-rc.` and a number. -/
def candidate (number : List Char) (isPrerelease : IsPrerelease ("rc.".toList ++ number)) :
    Tag where
  prefixed := true
  version :=
    { major := 1
      minor := 0
      patch := 0
      prerelease := some ("rc.".toList ++ number)
      build := none
      isPrerelease := by
        intro text given
        rw [← Option.some.inj given]
        exact isPrerelease
      isBuild := by
        intro text given
        cases given }

def ninthCandidate : Tag :=
  candidate ['9'] (by unfold IsPrerelease; decide)

def tenthCandidate : Tag :=
  candidate ['1', '0'] (by unfold IsPrerelease; decide)

/-- The ninth candidate is lower than the tenth, and replaces it. -/
theorem ninth_replaces_tenth :
    ninthCandidate.version.Lower tenthCandidate.version ∧
      run asciiDigits Builtins.unused traefik tenthCandidate ninthCandidate =
        .ok (ref traefik ninthCandidate) ∧
      ¬ NeverLowers asciiDigits Builtins.unused traefik tenthCandidate ninthCandidate := by
  have lower : ninthCandidate.version.Lower tenthCandidate.version := by
    right
    constructor
    · rfl
    · have first : identifiers ("rc.".toList ++ ['9']) = ["rc".toList, ['9']] := by
        decide
      have second : identifiers ("rc.".toList ++ ['1', '0']) = ["rc".toList, ['1', '0']] := by
        decide
      change List.Lex IdentifierLower (identifiers ("rc.".toList ++ ['9']))
        (identifiers ("rc.".toList ++ ['1', '0']))
      rw [first, second]
      apply List.Lex.cons
      apply List.Lex.rel
      unfold IdentifierLower
      decide
  have ran : run asciiDigits Builtins.unused traefik tenthCandidate ninthCandidate =
      .ok (ref traefik ninthCandidate) := by
    decide
  use lower, ran
  rintro ⟨chosen, result, kept, -⟩
  rw [ran] at result
  obtain ⟨core, prerelease⟩ := same_of_ref traefik (Except.ok.inj result)
  apply kept
  rw [Version.Lower, ← core, ← prerelease]
  exact lower

/-- A release with this major number. -/
def release (major : Nat) : Tag where
  prefixed := true
  version :=
    { major := major
      minor := 0
      patch := 0
      prerelease := none
      build := none
      isPrerelease := by
        intro text given
        cases given
      isBuild := by
        intro text given
        cases given }

/-- A recorded pin whose major number has 4301 digits stops the filter. -/
theorem long_pin_raises :
    PyText.strip (ref traefik (release 3)) ≠ "" ∧
      ¬ ∃ result, run asciiDigits Builtins.unused traefik (release 3) (release (10 ^ maxStrDigits)) =
          .ok result ∧
        Raises asciiDigits Builtins.unused (ref traefik (release 3))
          (.obj [(String.ofList traefik.text, .str (ref traefik (release (10 ^ maxStrDigits))))])
          result := by
  refine ⟨ref_not_blank _ _, ?_⟩
  rintro ⟨result, ran, -⟩
  have less := (read_of_run ran).2 (10 ^ maxStrDigits) List.mem_cons_self
  exact lt_irrefl _ less

end ImagePin

end Catena
