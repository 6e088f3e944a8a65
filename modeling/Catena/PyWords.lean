import Catena.PyText
import Mathlib

/-!
# The words of a text

The maximal runs of the characters a class keeps.  Replacing every run of the
others by one underscore, and stripping, writes the words with an underscore
between them, and nothing else of the text survives it.
-/

namespace PyText

/-- A word that was being read, if it has any character. -/
def flush (word : List Char) : List (List Char) :=
  if word = [] then [] else [word]

/-- The words of a text, with the characters of the current one read so far. -/
def wordsFrom (keep : Char → Bool) (word : List Char) : List Char → List (List Char)
  | [] => flush word
  | first :: rest =>
      if keep first then wordsFrom keep (word ++ [first]) rest
      else flush word ++ wordsFrom keep [] rest

def wordsOf (keep : Char → Bool) (text : List Char) : List (List Char) :=
  wordsFrom keep [] text

/-- The words with an underscore between them. -/
def joinWords (parts : List (List Char)) : List Char :=
  ['_'].intercalate parts

variable {keep : Char → Bool}

theorem mem_wordsFrom {word text part : List Char}
    (kept : ∀ character ∈ word, keep character = true)
    (member : part ∈ wordsFrom keep word text) :
    part ≠ [] ∧ ∀ character ∈ part, keep character = true := by
  have mem_flush {word : List Char} (kept : ∀ character ∈ word, keep character = true)
      (member : part ∈ flush word) :
      part ≠ [] ∧ ∀ character ∈ part, keep character = true := by
    unfold flush at member
    split at member
    · cases member
    · rename_i nonempty
      obtain rfl := List.mem_singleton.mp member
      exact ⟨nonempty, kept⟩
  induction text generalizing word with
  | nil => exact mem_flush kept member
  | cons first rest ih =>
      unfold wordsFrom at member
      split at member
      · rename_i keeps
        refine ih ?_ member
        intro character inside
        rcases List.mem_append.mp inside with before | last
        · exact kept character before
        · exact List.mem_singleton.mp last ▸ keeps
      · rcases List.mem_append.mp member with here | later
        · exact mem_flush kept here
        · exact ih (by simp) later

theorem joinWords_injective {first second : List (List Char)}
    (firstParts : ∀ part ∈ first, part ≠ [] ∧ '_' ∉ part)
    (secondParts : ∀ part ∈ second, part ≠ [] ∧ '_' ∉ part)
    (same : joinWords first = joinWords second) : first = second := by
  have empty : ∀ parts : List (List Char), (∀ part ∈ parts, part ≠ [] ∧ '_' ∉ part) →
      joinWords parts = [] → parts = [] := by
    intro parts inside joined
    cases parts with
    | nil => rfl
    | cons part rest =>
        have nonempty := (inside part (by simp)).1
        cases rest with
        | nil => simp [joinWords, nonempty] at joined
        | cons next rest => simp [joinWords, List.intercalate, nonempty] at joined
  by_cases none : first = []
  · subst none
    exact (empty second secondParts (by rw [← same]; rfl)).symm
  · have some : second ≠ [] := by
      rintro rfl
      exact none (empty first firstParts (by rw [same]; rfl))
    have firstSplit := List.splitOn_intercalate '_' (fun part member =>
      (firstParts part member).2) none
    have secondSplit := List.splitOn_intercalate '_' (fun part member =>
      (secondParts part member).2) some
    rw [← firstSplit, ← secondSplit]
    exact congrArg (List.splitOn '_') same

/-- Dropping the underscores a text ends in. -/
abbrev dropEnd (text : List Char) : List Char :=
  text.rdropWhile fun character => character == '_'

theorem dropEnd_of_last {text : List Char} (nonempty : text ≠ [])
    (last : text.getLast nonempty ≠ '_') : dropEnd text = text := by
  rw [List.rdropWhile_eq_self_iff]
  intro _
  simpa using last

theorem dropEnd_append {front back : List Char} (kept : dropEnd back ≠ []) :
    dropEnd (front ++ back) = front ++ dropEnd back := by
  unfold dropEnd List.rdropWhile at *
  rw [List.reverse_append, List.dropWhile_append]
  split
  · rename_i empty
    exact absurd (by simp only [List.isEmpty_iff.mp empty, List.reverse_nil]) kept
  · simp

/-- A text collapsed, after the start of a word or at the end of a run, holds
its words alone. -/
theorem dropEnd_collapse (separates : keep '_' = false) (text : List Char) :
    (∀ word, word ≠ [] → (∀ character ∈ word, keep character = true) →
      dropEnd (word ++ collapse keep false text) = joinWords (wordsFrom keep word text)) ∧
    dropEnd (collapse keep true text) = joinWords (wordsOf keep text) := by
  induction text with
  | nil =>
      constructor
      · intro word nonempty kept
        have last : word.getLast nonempty ≠ '_' := by
          intro same
          have keeps := kept _ (List.getLast_mem nonempty)
          rw [same, separates] at keeps
          cases keeps
        simp [collapse, wordsFrom, flush, nonempty, joinWords, List.intercalate,
          dropEnd_of_last nonempty last]
      · rfl
  | cons first rest ih =>
      obtain ⟨inside, after⟩ := ih
      by_cases keeps : keep first = true
      · constructor
        · intro word nonempty kept
          have longer := inside (word ++ [first]) (by simp) (by
            intro character member
            rcases List.mem_append.mp member with before | last
            · exact kept character before
            · exact List.mem_singleton.mp last ▸ keeps)
          simpa [collapse, wordsFrom, keeps] using longer
        · have started := inside [first] (by simp) (by simpa using keeps)
          simpa [collapse, wordsOf, wordsFrom, keeps] using started
      · simp only [Bool.not_eq_true] at keeps
        constructor
        · intro word nonempty kept
          have here : collapse keep false (first :: rest) = '_' :: collapse keep true rest := by
            simp [collapse, keeps]
          rw [here, wordsFrom, if_neg (by simp [keeps]), flush, if_neg nonempty]
          cases parts : wordsFrom keep [] rest with
          | nil =>
              have ended : dropEnd (collapse keep true rest) = [] := by
                rw [after, wordsOf, parts]
                rfl
              have last : word.getLast nonempty ≠ '_' := by
                intro same
                have keeps := kept _ (List.getLast_mem nonempty)
                rw [same, separates] at keeps
                cases keeps
              have dropped : dropEnd (word ++ '_' :: collapse keep true rest) = dropEnd word := by
                unfold dropEnd at *
                rw [List.rdropWhile_eq_nil_iff] at ended
                rw [List.rdropWhile, List.reverse_append, List.dropWhile_append,
                  List.dropWhile_eq_nil_iff.mpr]
                · simp [List.rdropWhile]
                · intro character member
                  rcases List.mem_cons.mp (List.mem_reverse.mp member) with rfl | later
                  · rfl
                  · exact ended character later
              rw [dropped, dropEnd_of_last nonempty last]
              simp [joinWords, List.intercalate]
          | cons part later =>
              have joined : dropEnd ('_' :: collapse keep true rest) =
                  '_' :: joinWords (part :: later) := by
                have kept : dropEnd (collapse keep true rest) ≠ [] := by
                  rw [after, wordsOf, parts]
                  have nonempty := (mem_wordsFrom (by simp) (parts ▸ List.mem_cons_self :
                    part ∈ wordsFrom keep [] rest)).1
                  cases later <;> simp [joinWords, List.intercalate, nonempty]
                have split : dropEnd (['_'] ++ _) = _ := dropEnd_append kept
                rw [after, wordsOf, parts] at split
                exact split
              rw [dropEnd_append (by rw [joined]; simp), joined]
              cases later <;> simp [joinWords, List.intercalate]
        · simpa [collapse, wordsOf, wordsFrom, keeps, flush] using after

theorem stripChars_collapse (separates : keep '_' = false) (text : List Char) :
    stripChars (fun character => character == '_') (collapse keep false text) =
      joinWords (wordsOf keep text) := by
  have front : ∀ text, (collapse keep true text).dropWhile (fun character => character == '_') =
      collapse keep true text := by
    intro text
    induction text with
    | nil => rfl
    | cons first rest ih =>
        by_cases keeps : keep first = true
        · have apart : first ≠ '_' := by
            rintro rfl
            rw [separates] at keeps
            cases keeps
          simp [collapse, keeps, apart]
        · simpa [collapse, keeps] using ih
  change dropEnd ((collapse keep false text).dropWhile _) = _
  cases text with
  | nil => rfl
  | cons first rest =>
      by_cases keeps : keep first = true
      · have apart : first ≠ '_' := by
          rintro rfl
          rw [separates] at keeps
          cases keeps
        have started := (dropEnd_collapse separates rest).1 [first] (by simp) (by simpa using keeps)
        simpa [collapse, keeps, apart, wordsOf, wordsFrom] using started
      · have after := (dropEnd_collapse separates rest).2
        simp only [Bool.not_eq_true] at keeps
        have whole : (collapse keep false (first :: rest)).dropWhile
            (fun character => character == '_') = collapse keep true rest := by
          simp [collapse, keeps, front]
        rw [whole, after]
        simp [wordsOf, wordsFrom, keeps, flush]

end PyText
