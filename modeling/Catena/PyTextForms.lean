import Catena.PyLines
import Catena.PyText
import Mathlib

/-!
# Stripped and lowered texts

`str.strip` and `str.lower` change nothing the second time, and the lower case
of a stripped text is stripped.
-/

namespace PyText

theorem stripChars_of_ends {drop : Char → Bool} {text : List Char}
    (first : ∀ character, text.head? = some character → drop character = false)
    (last : ∀ character, text.getLast? = some character → drop character = false) :
    stripChars drop text = text := by
  have front (text : List Char)
      (kept : ∀ character, text.head? = some character → drop character = false) :
      text.dropWhile drop = text := by
    cases text with
    | nil => rfl
    | cons character rest => simp [kept character rfl]
  have back : text.reverse.dropWhile drop = text.reverse := by
    apply front
    intro character ends
    apply last
    rwa [List.head?_reverse] at ends
  rw [stripChars, front text first, back, List.reverse_reverse]

theorem last_stripChars {drop : Char → Bool} {text : List Char} {character : Char}
    (ends : (stripChars drop text).getLast? = some character) :
    drop character = false := by
  rw [stripChars, List.getLast?_reverse] at ends
  have kept := List.head?_dropWhile_not drop (text.dropWhile drop).reverse
  rwa [ends] at kept

theorem first_stripChars {drop : Char → Bool} {text : List Char} {character : Char}
    (starts : (stripChars drop text).head? = some character) :
    drop character = false := by
  have start : stripChars drop text <+: text.dropWhile drop :=
    List.rdropWhile_prefix drop _
  obtain ⟨tail, whole⟩ := start
  have kept := List.head?_dropWhile_not drop text
  rw [← whole, List.head?_append, starts] at kept
  exact kept

theorem stripChars_stripChars (drop : Char → Bool) (text : List Char) :
    stripChars drop (stripChars drop text) = stripChars drop text :=
  stripChars_of_ends (fun _ => first_stripChars) fun _ => last_stripChars

theorem of_mem_stripChars {drop : Char → Bool} {text : List Char} {character : Char}
    (found : character ∈ stripChars drop text) : character ∈ text := by
  have right := (List.dropWhile_sublist drop).subset (List.mem_reverse.mp found)
  exact (List.dropWhile_sublist drop).subset (List.mem_reverse.mp right)

/-- Only the end of a text is stripped after a character that stays. -/
theorem stripChars_append_kept {drop : Char → Bool} {front : List Char} {kept : Char}
    (starts : ∀ character, front.head? = some character → drop character = false)
    (stays : drop kept = false) (back : List Char) :
    stripChars drop (front ++ kept :: back) =
      front ++ kept :: (back.reverse.dropWhile drop).reverse := by
  have whole : (front ++ kept :: back).dropWhile drop = front ++ kept :: back := by
    cases front with
    | nil => simp [stays]
    | cons first rest => simp [starts first rfl]
  have split : (front ++ kept :: back).reverse =
      back.reverse ++ kept :: front.reverse := by
    simp
  rw [stripChars, whole, split, List.dropWhile_append]
  split
  · rename_i empty
    rw [List.isEmpty_iff] at empty
    simp [empty, stays]
  · simp

/-- What is dropped anyway may stand at the end of a text. -/
theorem stripChars_append_dropped {drop : Char → Bool} {tail : List Char}
    (dropped : ∀ character ∈ tail, drop character = true) (text : List Char) :
    stripChars drop (text ++ tail) = stripChars drop text := by
  rw [stripChars, stripChars, List.dropWhile_append]
  split
  · rename_i empty
    rw [List.isEmpty_iff.mp empty, List.dropWhile_eq_nil_iff.mpr dropped]
  · rw [List.reverse_append, List.dropWhile_append_of_pos]
    intro character found
    exact dropped character (List.mem_reverse.mp found)

theorem stripChars_dropEnd (drop : Char → Bool) (text : List Char) :
    stripChars drop (text.reverse.dropWhile drop).reverse = stripChars drop text := by
  have whole : (text.reverse.dropWhile drop).reverse ++
      (text.reverse.takeWhile drop).reverse = text := by
    rw [← List.reverse_append, List.takeWhile_append_dropWhile, List.reverse_reverse]
  have dropped : ∀ character ∈ (text.reverse.takeWhile drop).reverse,
      drop character = true := by
    intro character found
    exact List.mem_takeWhile_imp (List.mem_reverse.mp found)
  rw [← stripChars_append_dropped dropped, whole]

/-- A text that starts with a kept character starts with it stripped too. -/
theorem head_stripChars {drop : Char → Bool} {first : Char} {rest : List Char}
    (stays : drop first = false) :
    (stripChars drop (first :: rest)).head? = some first := by
  have kept := @stripChars_append_kept drop [] first (by simp) stays rest
  rw [List.nil_append] at kept
  rw [kept]
  rfl

theorem partition_eq_some {separator : Char} {text before after : List Char} :
    partition separator text = some (before, after) ↔
      text = before ++ separator :: after ∧ separator ∉ before := by
  induction text generalizing before with
  | nil => simp [partition]
  | cons first rest ih =>
      rw [partition]
      by_cases same : first = separator
      · rw [if_pos same, Option.some.injEq, Prod.mk.injEq]
        constructor
        · rintro ⟨rfl, rfl⟩
          simp [same]
        · rintro ⟨whole, absent⟩
          cases before with
          | nil =>
              rw [List.nil_append, List.cons.injEq] at whole
              exact ⟨rfl, whole.2⟩
          | cons other others =>
              rw [List.cons_append, List.cons.injEq] at whole
              exact absurd (whole.1.symm.trans same)
                (Ne.symm (List.ne_of_not_mem_cons absent))
      · rw [if_neg same, Option.map_eq_some_iff]
        constructor
        · rintro ⟨⟨found, others⟩, parts, pair⟩
          cases pair
          obtain ⟨whole, absent⟩ := ih.mp parts
          exact ⟨by rw [whole, List.cons_append],
            List.not_mem_cons_of_ne_of_not_mem (Ne.symm same) absent⟩
        · rintro ⟨whole, absent⟩
          cases before with
          | nil =>
              rw [List.nil_append, List.cons.injEq] at whole
              exact absurd whole.1 same
          | cons other others =>
              rw [List.cons_append, List.cons.injEq] at whole
              obtain ⟨rfl, whole⟩ := whole
              exact ⟨(others, after),
                ih.mpr ⟨whole, List.not_mem_of_not_mem_cons absent⟩, rfl⟩

theorem partition_of_notMem {separator : Char} {text : List Char}
    (absent : separator ∉ text) : partition separator text = none := by
  induction text with
  | nil => rfl
  | cons first rest ih =>
      rw [List.mem_cons, not_or] at absent
      rw [partition, if_neg (Ne.symm absent.1), ih absent.2, Option.map_none]

theorem splitOn_append {separator : Char} {part : List Char} (absent : separator ∉ part)
    (rest : List Char) :
    splitOn separator (part ++ separator :: rest) = part :: splitOn separator rest := by
  induction part with
  | nil => simp [splitOn]
  | cons first others ih =>
      rw [List.mem_cons, not_or] at absent
      rw [List.cons_append, splitOn, if_neg (Ne.symm absent.1), ih absent.2]

theorem splitOn_of_absent {separator : Char} {part : List Char} (absent : separator ∉ part) :
    splitOn separator part = [part] := by
  induction part with
  | nil => rfl
  | cons first others ih =>
      rw [List.mem_cons, not_or] at absent
      rw [splitOn, if_neg (Ne.symm absent.1), ih absent.2]

/-- Splitting takes apart what was joined with the separator. -/
theorem splitOn_join {separator : Char} {parts : List (List Char)} (nonempty : parts ≠ [])
    (absent : ∀ part ∈ parts, separator ∉ part) :
    splitOn separator (join [separator] parts) = parts := by
  induction parts with
  | nil => exact absurd rfl nonempty
  | cons part others ih =>
      have first := absent part List.mem_cons_self
      cases others with
      | nil =>
          have only : join [separator] [part] = part := by
            simp [join, List.intercalate]
          rw [only]
          exact splitOn_of_absent first
      | cons next more =>
          rw [join_cons, List.append_assoc, List.singleton_append, splitOn_append first,
            ih (by simp) fun other found => absent other (List.mem_cons_of_mem _ found)]

/-- What stands before the first `stop`, and what stands after it. -/
theorem ended_inj {α : Type*} {stop : α} {first second rest others : List α}
    (firstOpen : stop ∉ first) (secondOpen : stop ∉ second)
    (same : first ++ stop :: rest = second ++ stop :: others) :
    first = second ∧ rest = others := by
  induction first generalizing second with
  | nil =>
      cases second with
      | nil =>
          simp only [List.nil_append, List.cons.injEq, true_and] at same
          exact ⟨rfl, same⟩
      | cons head tail =>
          simp only [List.nil_append, List.cons_append, List.cons.injEq] at same
          exact absurd (List.mem_cons.mpr (Or.inl same.1)) secondOpen
  | cons character text ih =>
      cases second with
      | nil =>
          simp only [List.nil_append, List.cons_append, List.cons.injEq] at same
          exact absurd (List.mem_cons.mpr (Or.inl same.1.symm)) firstOpen
      | cons head tail =>
          simp only [List.cons_append, List.cons.injEq] at same
          obtain ⟨texts, after⟩ := ih (fun found => firstOpen (List.mem_cons_of_mem _ found))
            (fun found => secondOpen (List.mem_cons_of_mem _ found)) same.2
          exact ⟨by rw [same.1, texts], after⟩

theorem strip_strip (text : String) : strip (strip text) = strip text := by
  simp [strip, stripChars_stripChars]

/-- A character's lower case is itself or 32 places after a capital. -/
theorem toNat_toLower (character : Char) :
    character.toLower = character ∨
      (65 ≤ character.toNat ∧ character.toNat ≤ 90 ∧
        character.toLower.toNat = character.toNat + 32) := by
  by_cases upper : character.isUpper
  · right
    have range : 65 ≤ character.toNat ∧ character.toNat ≤ 90 := by
      simpa [Char.isUpper, UInt32.le_iff_toNat_le] using upper
    refine ⟨range.1, range.2, ?_⟩
    have valid : (character.toNat + 32).isValidChar := by
      unfold Nat.isValidChar
      omega
    rw [Char.toLower_eq_of_isUpper upper, Char.toNat_ofNat, if_pos valid]
  · exact .inl (Char.toLower_eq_of_not_isUpper upper)

theorem lowerChar_lowerChar (character : Char) :
    (lowerChar character).flatMap lowerChar = lowerChar character := by
  unfold lowerChar
  split
  · decide
  · split
    · decide
    · rename_i dotless kelvin
      have small : character.toLower.toNat ≠ 0x130 ∧ character.toLower.toNat ≠ 0x212a := by
        cases toNat_toLower character with
        | inl same =>
          rw [same]
          exact ⟨dotless, kelvin⟩
        | inr capital => omega
      simp [small.1, small.2]

theorem lower_lower (text : String) : lower (lower text) = lower text := by
  have inner (characters : List Char) :
      (characters.flatMap lowerChar).flatMap lowerChar = characters.flatMap lowerChar := by
    induction characters with
    | nil => rfl
    | cons first rest ih =>
      simp only [List.flatMap_cons, List.flatMap_append, ih, lowerChar_lowerChar]
  simp [lower, inner]

theorem isSpace_of_mem_lowerChar {character small : Char}
    (member : small ∈ lowerChar character) (solid : isSpace character = false) :
    isSpace small = false := by
  unfold lowerChar at member
  split at member
  · simp only [List.mem_cons, List.not_mem_nil, or_false] at member
    cases member with
    | inl same => subst same; decide
    | inr same => subst same; decide
  · split at member
    · rw [List.mem_singleton] at member
      subst member
      decide
    · rw [List.mem_singleton] at member
      subst member
      cases toNat_toLower character with
      | inl same =>
        rw [same]
        exact solid
      | inr capital =>
        unfold isSpace
        rw [capital.2.2]
        simp
        omega

theorem lowerChar_ne_nil (character : Char) : lowerChar character ≠ [] := by
  unfold lowerChar
  split
  · simp
  · split <;> simp

theorem strip_lower_strip (text : String) :
    strip (lower (strip text)) = lower (strip text) := by
  have inner (characters : List Char)
      (first : ∀ character, characters.head? = some character → isSpace character = false)
      (last : ∀ character, characters.getLast? = some character →
        isSpace character = false) :
      stripChars isSpace (characters.flatMap lowerChar) = characters.flatMap lowerChar := by
    apply stripChars_of_ends
    · intro character starts
      cases characters with
      | nil => cases starts
      | cons head rest =>
        rw [List.flatMap_cons, List.head?_append_of_ne_nil _ (lowerChar_ne_nil head)] at starts
        exact isSpace_of_mem_lowerChar (List.mem_of_mem_head? starts) (first head rfl)
    · intro character ends
      cases characters using List.reverseRecOn with
      | nil => cases ends
      | append_singleton rest tail =>
        rw [List.flatMap_append, List.flatMap_singleton,
          List.getLast?_append_of_ne_nil _ (lowerChar_ne_nil tail)] at ends
        exact isSpace_of_mem_lowerChar (List.mem_of_getLast? ends) (last tail (by simp))
  simp only [strip, lower, String.toList_ofList]
  rw [inner _ (fun _ => first_stripChars) fun _ => last_stripChars]

theorem digitsValue_toDigits (number : Nat) :
    digitsValue 10 decimalDigit (Nat.toDigits 10 number) = number := by
  have read := @Nat.ofDigitChars_ten_toDigits number
  simpa [digitsValue, decimalDigit, Nat.ofDigitChars, Nat.mul_comm] using read

theorem digitsValue_congr (base : Nat) {first second : Char → Nat} {text : List Char}
    (same : ∀ character ∈ text, first character = second character) :
    digitsValue base first text = digitsValue base second text := by
  have step (start : Nat) :
      text.foldl (fun value character => value * base + first character) start =
        text.foldl (fun value character => value * base + second character) start := by
    induction text generalizing start with
    | nil => rfl
    | cons character rest ih =>
        rw [List.forall_mem_cons] at same
        rw [List.foldl_cons, List.foldl_cons, same.1]
        exact ih same.2 _
  exact step 0

end PyText
