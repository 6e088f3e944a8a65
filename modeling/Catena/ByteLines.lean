import Mathlib

/-!
# Lines of bytes

Bytes cut at newlines, and the lines of a file.  A file whose last line has no
newline has that line too.
-/

namespace ByteLines

abbrev Bytes := List UInt8

/-- The lines of `data`, and what follows its last newline. -/
def splitBytes : Bytes → List Bytes × Bytes
  | [] => ([], [])
  | byte :: rest =>
      if byte = 10 then ([] :: (splitBytes rest).1, (splitBytes rest).2)
      else
        match (splitBytes rest).1 with
        | [] => ([], byte :: (splitBytes rest).2)
        | line :: more => ((byte :: line) :: more, (splitBytes rest).2)

def fileLines (content : Bytes) : List Bytes :=
  if (splitBytes content).2 = [] then (splitBytes content).1
  else (splitBytes content).1 ++ [(splitBytes content).2]

def utf8 (text : List Char) : Bytes :=
  text.flatMap String.utf8EncodeChar

/-- Cutting what is left with more behind it continues the cutting. -/
theorem splitBytes_append (first second : Bytes) :
    splitBytes (first ++ second) =
      ((splitBytes first).1 ++ (splitBytes ((splitBytes first).2 ++ second)).1,
        (splitBytes ((splitBytes first).2 ++ second)).2) := by
  induction first with
  | nil => rfl
  | cons byte rest ih =>
      rw [List.cons_append, splitBytes, ih]
      by_cases newline : byte = 10
      · simp [splitBytes, newline]
      · rw [if_neg newline]
        cases lines : (splitBytes rest).1 with
        | nil =>
            have here : splitBytes (byte :: rest) = ([], byte :: (splitBytes rest).2) := by
              rw [splitBytes, if_neg newline, lines]
            rw [here, List.cons_append, splitBytes, if_neg newline]
            rfl
        | cons line more =>
            have here : splitBytes (byte :: rest) =
                ((byte :: line) :: more, (splitBytes rest).2) := by
              rw [splitBytes, if_neg newline, lines]
            rw [here]
            rfl

/-- What is left has no line. -/
theorem splitBytes_left (whole : Bytes) :
    splitBytes (splitBytes whole).2 = ([], (splitBytes whole).2) := by
  induction whole with
  | nil => rfl
  | cons byte rest ih =>
      rw [splitBytes]
      by_cases newline : byte = 10
      · rw [if_pos newline]
        exact ih
      · rw [if_neg newline]
        cases lines : (splitBytes rest).1 with
        | nil =>
            simp only
            rw [splitBytes, if_neg newline, ih]
        | cons line more => exact ih

/-- Bytes without a newline are one line. -/
theorem splitBytes_line {line : Bytes} (whole : 10 ∉ line) : splitBytes line = ([], line) := by
  induction line with
  | nil => rfl
  | cons byte rest ih =>
      rw [List.mem_cons, not_or] at whole
      rw [splitBytes, if_neg (Ne.symm whole.1), ih whole.2]

/-- A line that is ended, behind what is left. -/
theorem splitBytes_ended {line : Bytes} (whole : 10 ∉ line) :
    splitBytes (line ++ [10]) = ([line], []) := by
  induction line with
  | nil => rfl
  | cons byte rest ih =>
      rw [List.mem_cons, not_or] at whole
      rw [List.cons_append, splitBytes, if_neg (Ne.symm whole.1), ih whole.2]

theorem notMem_left (whole : Bytes) : 10 ∉ (splitBytes whole).2 := by
  induction whole with
  | nil => simp [splitBytes]
  | cons byte rest ih =>
      rw [splitBytes]
      split
      · exact ih
      · rename_i other
        split
        · rw [List.mem_cons, not_or]
          exact ⟨Ne.symm other, ih⟩
        · exact ih

/-- A file's lines hold its bytes but for the newlines. -/
theorem flatten_fileLines (content : Bytes) :
    (fileLines content).flatten = content.filter fun byte => byte ≠ 10 := by
  have parts : (splitBytes content).1.flatten ++ (splitBytes content).2 =
      content.filter fun byte => byte ≠ 10 := by
    induction content with
    | nil => rfl
    | cons byte rest ih =>
        rw [splitBytes]
        by_cases newline : byte = 10
        · simp [newline, ih]
        · rw [if_neg newline, List.filter_cons_of_pos (by simp [newline]), ← ih]
          cases (splitBytes rest).1 with
          | nil => rfl
          | cons line more => rfl
  unfold fileLines
  split
  · rename_i ended
    rw [ended, List.append_nil] at parts
    exact parts
  · simpa using parts

/-- A line added to a file whose last line is ended. -/
theorem fileLines_append_ended {content line : Bytes} (ended : (splitBytes content).2 = [])
    (whole : 10 ∉ line) : fileLines (content ++ (line ++ [10])) = fileLines content ++ [line] := by
  have split : splitBytes (content ++ (line ++ [10])) = ((splitBytes content).1 ++ [line], []) := by
    rw [splitBytes_append, ended, List.nil_append, splitBytes_ended whole]
  rw [fileLines, fileLines, split, ended, if_pos rfl, if_pos rfl]

/-- A line added to a file whose last line is not ended joins that line. -/
theorem fileLines_append_open {content line : Bytes} (isOpen : (splitBytes content).2 ≠ [])
    (whole : 10 ∉ line) : (fileLines (content ++ (line ++ [10]))).length =
      (fileLines content).length := by
  have joined : 10 ∉ (splitBytes content).2 ++ line := by
    rw [List.mem_append, not_or]
    exact ⟨notMem_left content, whole⟩
  have split : splitBytes (content ++ (line ++ [10])) =
      ((splitBytes content).1 ++ [(splitBytes content).2 ++ line], []) := by
    rw [splitBytes_append, ← List.append_assoc, splitBytes_ended joined]
  rw [fileLines, fileLines, split, if_pos rfl, if_neg isOpen]
  simp

theorem code_of_ascii_byte {character : Char} {byte : UInt8} (ascii : byte.toNat < 128)
    (found : byte ∈ String.utf8EncodeChar character) : character.toNat = byte.toNat := by
  have same (code : Nat) : byte = UInt8.ofNat code ↔ byte.toNat = code % 256 := by
    rw [← UInt8.toNat_inj, UInt8.toNat_ofNat']
  have code : character.toNat = character.val.toNat := rfl
  unfold String.utf8EncodeChar at found
  simp only at found
  split at found
  · simp only [List.mem_cons, List.not_mem_nil, or_false, same] at found
    omega
  · split at found
    · simp only [List.mem_cons, List.not_mem_nil, or_false, same] at found
      omega
    · split at found
      · simp only [List.mem_cons, List.not_mem_nil, or_false, same] at found
        omega
      · simp only [List.mem_cons, List.not_mem_nil, or_false, same] at found
        omega

/-- Two texts with the same UTF-8 are one text. -/
theorem utf8_injective : Function.Injective utf8 := by
  intro first second same
  have encoded : first.utf8Encode = second.utf8Encode := by
    simpa [List.utf8Encode, utf8] using congrArg List.toByteArray same
  have texts : String.ofList first = String.ofList second := by
    rw [← String.toByteArray_inj, String.toByteArray_ofList, String.toByteArray_ofList, encoded]
  rw [← String.toList_ofList (l := first), texts, String.toList_ofList]

theorem newline_notMem_utf8 {text : List Char} (whole : '\n' ∉ text) : 10 ∉ utf8 text := by
  intro found
  obtain ⟨character, inText, inBytes⟩ := List.mem_flatMap.mp found
  have code := code_of_ascii_byte (by decide) inBytes
  have newline : character = '\n' := Char.ext (UInt32.toNat_inj.mp code)
  exact whole (newline ▸ inText)

/-- A text begins with a dash where its bytes do. -/
theorem head_of_utf8_dash {text : List Char} (dash : (utf8 text).head? = some 45) :
    text.head? = some '-' := by
  cases text with
  | nil => cases dash
  | cons character rest =>
      have inBytes : (45 : UInt8) ∈ String.utf8EncodeChar character := by
        rw [utf8, List.flatMap_cons] at dash
        cases bytes : String.utf8EncodeChar character with
        | nil => exact absurd bytes String.utf8EncodeChar_ne_nil
        | cons byte more =>
            rw [bytes] at dash
            simp only [List.cons_append, List.head?_cons, Option.some.injEq] at dash
            simp [dash]
      have code := code_of_ascii_byte (by decide) inBytes
      have isDash : character = '-' := Char.ext (UInt32.toNat_inj.mp code)
      rw [isDash]
      rfl

theorem utf8_dash_of_head {text : List Char} (dash : text.head? = some '-') :
    (utf8 text).head? = some 45 := by
  cases text with
  | nil => cases dash
  | cons character rest =>
      obtain rfl : character = '-' := by simpa using dash
      rfl

theorem length_le_of_mem_fileLines {content line : Bytes} (found : line ∈ fileLines content) :
    line.length ≤ content.length := by
  have inFlatten : line.length ≤ (fileLines content).flatten.length :=
    (List.sublist_flatten_of_mem found).length_le
  rw [flatten_fileLines] at inFlatten
  exact inFlatten.trans (List.length_filter_le _ _)

end ByteLines
