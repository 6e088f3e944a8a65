import Catena.PyText
import Mathlib

/-!
# Lines and words of Python text

`str.splitlines`, `str.split` and the newline translation of files opened as
text, with how they take apart what was put together.
-/

namespace PyText

/-- What a file opened as text reads: each `\r\n` and each `\r` is a `\n`. -/
def universal : List Char → List Char
  | [] => []
  | '\r' :: '\n' :: rest => '\n' :: universal rest
  | '\r' :: rest => '\n' :: universal rest
  | first :: rest => first :: universal rest

/-- The characters `str.splitlines` ends a line at. -/
def isBreak (character : Char) : Bool :=
  let code := character.toNat
  (10 ≤ code && code ≤ 13) || (28 ≤ code && code ≤ 30) ||
    code == 0x85 || code == 0x2028 || code == 0x2029

/-- The lines of a text without `\r`. -/
def breakLines : List Char → List (List Char)
  | [] => []
  | first :: rest =>
      if isBreak first then [] :: breakLines rest
      else
        match breakLines rest with
        | [] => [[first]]
        | line :: lines => (first :: line) :: lines

def splitLines (text : List Char) : List (List Char) :=
  breakLines (universal text)

/-- `text.split()`. -/
def words : List Char → List (List Char)
  | [] => []
  | first :: rest =>
      if isSpace first then words rest
      else
        match rest with
        | [] => [[first]]
        | second :: _ =>
            if isSpace second then [first] :: words rest
            else
              match words rest with
              | [] => [[first]]
              | word :: others => (first :: word) :: others

/-- `separator.join(parts)`. -/
def join (separator : List Char) (parts : List (List Char)) : List Char :=
  separator.intercalate parts

/-- `text.rstrip(character)`. -/
def rstrip (character : Char) (text : List Char) : List Char :=
  (text.reverse.dropWhile (· == character)).reverse

theorem mem_dropWhile {drop : Char → Bool} {text : List Char} {character : Char}
    (found : character ∈ text) (kept : drop character = false) :
    character ∈ text.dropWhile drop := by
  induction text with
  | nil => cases found
  | cons first rest ih =>
      rw [List.dropWhile_cons]
      split
      · rename_i dropped
        rcases List.mem_cons.mp found with rfl | later
        · rw [kept] at dropped
          cases dropped
        · exact ih later
      · exact found

theorem mem_stripChars {drop : Char → Bool} {text : List Char} {character : Char}
    (found : character ∈ text) (kept : drop character = false) :
    character ∈ stripChars drop text := by
  have left := mem_dropWhile found kept
  have right := mem_dropWhile (List.mem_reverse.mpr left) kept
  exact List.mem_reverse.mpr right

theorem universal_append {text : List Char} (clean : '\r' ∉ text)
    (after : List Char) : universal (text ++ after) = text ++ universal after := by
  induction text with
  | nil => rfl
  | cons first rest ih =>
      have firstClean : first ≠ '\r' := by
        rintro rfl
        exact clean (List.mem_cons_self ..)
      have restClean : '\r' ∉ rest := fun found => clean (List.mem_cons_of_mem _ found)
      rw [List.cons_append, universal.eq_4 _ _ (by simp [firstClean])
        (by simp [firstClean]), ih restClean, List.cons_append]

theorem universal_of_clean {text : List Char} (clean : '\r' ∉ text) :
    universal text = text := by
  have whole := universal_append clean []
  rw [List.append_nil] at whole
  rw [whole, universal, List.append_nil]

theorem not_mem_universal (text : List Char) : '\r' ∉ universal text := by
  fun_induction universal text with
  | case1 => simp
  | case2 rest ih => simp [ih]
  | case3 rest _ ih => simp [ih]
  | case4 first rest _ notReturn ih =>
      rw [List.mem_cons]
      rintro (same | found)
      · exact notReturn same.symm
      · exact ih found

/-- A newline ends what stands before it, whatever follows. -/
theorem universal_newline (text : List Char) :
    ∃ before, ∀ after, universal (text ++ '\n' :: after) =
      before ++ '\n' :: universal after := by
  fun_induction universal text with
  | case1 => exact ⟨[], fun after => rfl⟩
  | case2 rest ih =>
      obtain ⟨before, ended⟩ := ih
      exact ⟨'\n' :: before, fun after => by
        rw [List.cons_append, List.cons_append, universal, ended, List.cons_append]⟩
  | case3 rest notNewline ih =>
      cases rest with
      | nil => exact ⟨[], fun after => rfl⟩
      | cons next others =>
          have nextOther : next ≠ '\n' := fun same => notNewline others (by rw [same])
          obtain ⟨before, ended⟩ := ih
          refine ⟨'\n' :: before, fun after => ?_⟩
          have step : universal ('\r' :: next :: (others ++ '\n' :: after)) =
              '\n' :: universal (next :: (others ++ '\n' :: after)) :=
            universal.eq_3 _ (by simp [nextOther])
          rw [List.cons_append, List.cons_append, step, ← List.cons_append, ended,
            List.cons_append]
  | case4 first rest _ notReturn ih =>
      obtain ⟨before, ended⟩ := ih
      refine ⟨first :: before, fun after => ?_⟩
      have firstClean : first ≠ '\r' := fun same => notReturn same
      rw [List.cons_append, universal.eq_4 _ _ (by simp [firstClean])
        (by simp [firstClean]), ended, List.cons_append]

/-- A text that does not begin with a newline is read as it is on its own. -/
theorem universal_append_next (text : List Char) {next : Char} (other : next ≠ '\n')
    (after : List Char) :
    universal (text ++ next :: after) = universal text ++ universal (next :: after) := by
  fun_induction universal text with
  | case1 => rfl
  | case2 rest ih =>
      rw [List.cons_append, List.cons_append, universal, ih, List.cons_append]
  | case3 rest notNewline ih =>
      have step : universal ('\r' :: (rest ++ next :: after)) =
          '\n' :: universal (rest ++ next :: after) := by
        apply universal.eq_3
        cases rest with
        | nil => simp [other]
        | cons first others =>
            intro lines same
            rw [List.cons_append, List.cons.injEq] at same
            exact notNewline others (by rw [same.1])
      rw [List.cons_append, step, ih, List.cons_append]
  | case4 first rest _ notReturn ih =>
      have firstClean : first ≠ '\r' := fun same => notReturn same
      rw [List.cons_append, universal.eq_4 _ _ (by simp [firstClean])
        (by simp [firstClean]), ih, List.cons_append]

theorem isSpace_of_isBreak {character : Char} (breaks : isBreak character = true) :
    isSpace character = true := by
  simp only [isBreak, isSpace, Bool.or_eq_true, Bool.and_eq_true, decide_eq_true_eq,
    beq_iff_eq] at breaks ⊢
  omega

theorem unbroken_of_printable {character : Char} (low : 32 ≤ character.toNat)
    (high : character.toNat ≤ 126) : isBreak character = false := by
  simp only [isBreak, Bool.or_eq_false_iff, Bool.and_eq_false_iff, decide_eq_false_iff_not,
    beq_eq_false_iff_ne]
  omega

theorem printable_of_isAlphanum {character : Char} (isLetter : character.isAlphanum = true) :
    32 ≤ character.toNat ∧ character.toNat ≤ 126 := by
  simp only [Char.isAlphanum, Char.isAlpha, Char.isUpper, Char.isLower, Char.isDigit,
    Bool.or_eq_true, Bool.and_eq_true, decide_eq_true_eq, ge_iff_le,
    UInt32.le_iff_toNat_le] at isLetter
  have code : character.toNat = character.val.toNat := rfl
  have zero : ('0' : Char).val.toNat = 48 := rfl
  have nine : ('9' : Char).val.toNat = 57 := rfl
  have upperFirst : ('A' : Char).val.toNat = 65 := rfl
  have upperLast : ('Z' : Char).val.toNat = 90 := rfl
  have lowerFirst : ('a' : Char).val.toNat = 97 := rfl
  have lowerLast : ('z' : Char).val.toNat = 122 := rfl
  omega

theorem breakLines_ne_nil {text : List Char} (nonempty : text ≠ []) :
    breakLines text ≠ [] := by
  cases text with
  | nil => exact absurd rfl nonempty
  | cons first rest =>
      simp only [breakLines]
      split
      · simp
      · split <;> simp

theorem breakLines_append (first second : List Char) :
    breakLines (first ++ '\n' :: second) =
      breakLines (first ++ ['\n']) ++ breakLines second := by
  induction first with
  | nil => simp [breakLines, isBreak]
  | cons character rest ih =>
      simp only [List.cons_append, breakLines]
      split
      · rw [ih, List.cons_append]
      · rw [ih]
        cases lines : breakLines (rest ++ ['\n']) with
        | nil =>
            exact absurd lines (breakLines_ne_nil (by simp))
        | cons line others => rfl

/-- A line that is ended keeps the lines before it. -/
theorem breakLines_prefix (text : List Char) :
    breakLines text <+: breakLines (text ++ ['\n']) := by
  induction text with
  | nil => simp [breakLines]
  | cons character rest ih =>
      simp only [List.cons_append, breakLines]
      split
      · exact List.prefix_cons_inj _ |>.mpr ih
      · cases lines : breakLines rest with
        | nil =>
            have empty : rest = [] := by
              by_contra nonempty
              exact breakLines_ne_nil nonempty lines
            subst empty
            simp [breakLines, isBreak]
        | cons line others =>
            obtain ⟨added, whole⟩ := ih
            rw [lines] at whole
            rw [← whole]
            exact ⟨added, rfl⟩

/-- A line, ended and followed by other lines. -/
theorem breakLines_line {line : List Char}
    (unbroken : ∀ character ∈ line, isBreak character = false) (after : List Char) :
    breakLines (line ++ '\n' :: after) = line :: breakLines after := by
  induction line with
  | nil => simp [breakLines, isBreak]
  | cons first rest ih =>
      have firstUnbroken := unbroken first (List.mem_cons_self ..)
      have restUnbroken : ∀ character ∈ rest, isBreak character = false :=
        fun character found => unbroken character (List.mem_cons_of_mem _ found)
      rw [List.cons_append, breakLines, if_neg (by simp [firstUnbroken]),
        ih restUnbroken]

/-- A last line that nothing ends. -/
theorem breakLines_last {line : List Char}
    (unbroken : ∀ character ∈ line, isBreak character = false) (nonempty : line ≠ []) : breakLines line = [line] := by
  induction line with
  | nil => exact absurd rfl nonempty
  | cons first rest ih =>
      rw [breakLines, if_neg (by simp [unbroken first List.mem_cons_self])]
      cases rest with
      | nil => rfl
      | cons second rest =>
          rw [ih (fun character member => unbroken character (List.mem_cons_of_mem _ member))
            (List.cons_ne_nil second rest)]

theorem splitLines_universal (text : List Char) :
    splitLines (universal text) = splitLines text := by
  unfold splitLines
  rw [universal_of_clean (not_mem_universal text)]

theorem splitLines_append (first second : List Char) :
    splitLines (first ++ '\n' :: second) =
      splitLines (first ++ ['\n']) ++ splitLines second := by
  obtain ⟨before, ended⟩ := universal_newline first
  unfold splitLines
  rw [ended second, ended [], breakLines_append, universal]

theorem splitLines_line {line : List Char}
    (unbroken : ∀ character ∈ line, isBreak character = false) (after : List Char) :
    splitLines (line ++ '\n' :: after) = line :: splitLines after := by
  have clean : '\r' ∉ line := fun found => by
    have unbrokenReturn := unbroken _ found
    exact absurd unbrokenReturn (by decide)
  unfold splitLines
  rw [universal_append clean, universal.eq_4 _ _ (by simp) (by simp),
    breakLines_line unbroken]

/-- A text that is ended keeps its lines, whatever follows. -/
theorem splitLines_prefix {text : List Char} (clean : '\r' ∉ text)
    (after : List Char) :
    splitLines text <+: splitLines (text ++ '\n' :: after) := by
  rw [splitLines_append]
  refine List.IsPrefix.trans ?_ (List.prefix_append _ _)
  have endedClean : '\r' ∉ text ++ ['\n'] := by
    simp [clean]
  unfold splitLines
  rw [universal_of_clean clean, universal_of_clean endedClean]
  exact breakLines_prefix text

theorem words_ne_nil {first : Char} {rest : List Char}
    (solid : isSpace first = false) : words (first :: rest) ≠ [] := by
  cases rest with
  | nil => simp [words, solid]
  | cons second others =>
      rw [words, if_neg (by simp [solid])]
      split
      · simp
      · split <;> simp

/-- Words on both sides of a space. -/
theorem words_append {space : Char} (isBlank : isSpace space = true)
    (first second : List Char) :
    words (first ++ space :: second) = words first ++ words second := by
  induction first with
  | nil => simp [words, isBlank]
  | cons character rest ih =>
      by_cases blank : isSpace character = true
      · simp only [List.cons_append, words, blank, if_true]
        exact ih
      · cases rest with
        | nil =>
            simp [words, blank, isBlank]
        | cons next others =>
            simp only [List.cons_append] at ih ⊢
            rw [words, words, if_neg blank, if_neg blank]
            split
            · rw [ih, List.cons_append]
            · rename_i joined
              rw [ih]
              cases found : words (next :: others) with
              | nil =>
                  exact absurd found (words_ne_nil (by simpa using joined))
              | cons word more => rfl

theorem words_word {word : List Char} (nonempty : word ≠ [])
    (solid : ∀ character ∈ word, isSpace character = false) : words word = [word] := by
  induction word with
  | nil => exact absurd rfl nonempty
  | cons first rest ih =>
      have firstSolid := solid first (List.mem_cons_self ..)
      cases rest with
      | nil => simp [words, firstSolid]
      | cons second others =>
          have restSolid : ∀ character ∈ second :: others, isSpace character = false :=
            fun character found => solid character (List.mem_cons_of_mem _ found)
          have secondSolid := restSolid second (List.mem_cons_self ..)
          have restWord := ih (by simp) restSolid
          rw [words, if_neg (by simp [firstSolid])]
          rw [if_neg (by simp [secondSolid]), restWord]

theorem join_cons (separator part next : List Char) (others : List (List Char)) :
    join separator (part :: next :: others) =
      part ++ separator ++ join separator (next :: others) := by
  simp [join, List.intercalate, List.intersperse]

theorem mem_join {separator : List Char} {parts : List (List Char)} {character : Char}
    (found : character ∈ join separator parts) :
    character ∈ separator ∨ ∃ part ∈ parts, character ∈ part := by
  induction parts with
  | nil => cases found
  | cons part others ih =>
      cases others with
      | nil =>
          have only : join separator [part] = part := by
            simp [join, List.intercalate]
          rw [only] at found
          exact Or.inr ⟨part, by simp, found⟩
      | cons next more =>
          rw [join_cons, List.mem_append, List.mem_append] at found
          rcases found with (inPart | inSeparator) | later
          · exact Or.inr ⟨part, by simp, inPart⟩
          · exact Or.inl inSeparator
          · rcases ih later with inSeparator | ⟨other, inOthers, inOther⟩
            · exact Or.inl inSeparator
            · exact Or.inr ⟨other, List.mem_cons_of_mem _ inOthers, inOther⟩

/-- Splitting takes apart what was joined with a space. -/
theorem words_join {parts : List (List Char)}
    (solid : ∀ part ∈ parts, part ≠ [] ∧
      ∀ character ∈ part, isSpace character = false) :
    words (join [' '] parts) = parts := by
  induction parts with
  | nil => rfl
  | cons part others ih =>
      have partWord : words part = [part] :=
        words_word (solid part (List.mem_cons_self ..)).1
          (solid part (List.mem_cons_self ..)).2
      cases others with
      | nil => simpa [join] using partWord
      | cons next more =>
          have othersSolid : ∀ other ∈ next :: more, other ≠ [] ∧
              ∀ character ∈ other, isSpace character = false :=
            fun other found => solid other (List.mem_cons_of_mem _ found)
          rw [join_cons, List.append_assoc, List.singleton_append,
            words_append (by decide), partWord, ih othersSolid]
          rfl

end PyText
