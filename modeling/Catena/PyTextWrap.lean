import Catena.PyLines
import Mathlib.Data.List.SplitBy

/-!
# Wrapped text

`textwrap.wrap` without break points inside words: tabs are expanded, white
space becomes blanks, and the words are filled greedily into lines.  A wrapped
line has no character but blanks and those of the text.
-/

namespace PyText

/-- `text.expandtabs(8)`, from a column on. -/
def expandTabs (column : Nat) : List Char → List Char
  | [] => []
  | first :: rest =>
      if first = '\t' then
        List.replicate (8 - column % 8) ' ' ++ expandTabs (column + (8 - column % 8)) rest
      else first :: expandTabs (if first = '\n' ∨ first = '\r' then 0 else column + 1) rest

/-- The white space of `textwrap`. -/
def isWrapSpace (character : Char) : Bool :=
  character ∈ ['\t', '\n', Char.ofNat 11, Char.ofNat 12, '\r', ' ']

def mungeWhitespace (text : List Char) : List Char :=
  (expandTabs 0 text).map fun character => if isWrapSpace character then ' ' else character

/-- `_split`, without break points at hyphens: the words, and the white space
between them. -/
def wrapChunks (text : List Char) : List (List Char) :=
  text.splitBy fun first second => isWrapSpace first == isWrapSpace second

/-- `chunk.strip() == ''`. -/
def isBlank (chunk : List Char) : Bool :=
  (stripChars isSpace chunk).isEmpty

/-- The lines that are full, the chunks of the current one, and whether it is
just begun. -/
structure Wrapping where
  lines : List (List Char)
  line : List (List Char)
  begun : Bool

namespace Wrapping

/-- The current line is full: white space at its end is dropped, and what is
left is a line. -/
def full (wrapping : Wrapping) : Wrapping :=
  let kept := if wrapping.line.getLast?.any isBlank then wrapping.line.dropLast else wrapping.line
  ⟨if kept.isEmpty then wrapping.lines else wrapping.lines ++ [kept.flatten], [], true⟩

/-- A chunk at the start of a line, where white space is dropped if there are
lines before it and a chunk that fits on no line has one of its own. -/
def place (width : Nat) (wrapping : Wrapping) (chunk : List Char) : Wrapping :=
  if wrapping.begun && !wrapping.lines.isEmpty && isBlank chunk then
    { wrapping with begun := false }
  else if chunk.length ≤ width then { wrapping with line := [chunk], begun := false }
  else full { wrapping with line := [chunk] }

/-- One more chunk, on the current line if it fits there. -/
def next (width : Nat) (wrapping : Wrapping) (chunk : List Char) : Wrapping :=
  if wrapping.line.isEmpty then wrapping.place width chunk
  else if wrapping.line.flatten.length + chunk.length ≤ width then
    { wrapping with line := wrapping.line ++ [chunk] }
  else wrapping.full.place width chunk

/-- Every line and every chunk is made of such characters. -/
structure Within (keep : Char → Prop) (wrapping : Wrapping) : Prop where
  lines : ∀ line ∈ wrapping.lines, ∀ character ∈ line, keep character
  line : ∀ chunk ∈ wrapping.line, ∀ character ∈ chunk, keep character

variable {keep : Char → Prop} {wrapping : Wrapping} {width : Nat}

theorem Within.full (within : wrapping.Within keep) : wrapping.full.Within keep := by
  constructor
  · intro line member
    rw [Wrapping.full] at member
    have kept {chunks : List (List Char)} (sub : ∀ chunk ∈ chunks, chunk ∈ wrapping.line)
        (inside : line ∈ if chunks.isEmpty then wrapping.lines
          else wrapping.lines ++ [chunks.flatten]) : ∀ character ∈ line, keep character := by
      split at inside
      · exact within.lines line inside
      · rcases List.mem_append.mp inside with before | last
        · exact within.lines line before
        · rw [List.mem_singleton.mp last]
          intro character found
          obtain ⟨chunk, inChunks, inChunk⟩ := List.mem_flatten.mp found
          exact within.line chunk (sub chunk inChunks) character inChunk
    dsimp only at member
    split at member
    · exact kept (fun chunk found => (List.dropLast_sublist _).subset found) member
    · exact kept (fun chunk found => found) member
  · intro chunk member
    cases member

theorem Within.place (within : wrapping.Within keep) {chunk : List Char}
    (kept : ∀ character ∈ chunk, keep character) : (wrapping.place width chunk).Within keep := by
  have alone : ∀ other ∈ [chunk], ∀ character ∈ other, keep character := by simpa using kept
  rw [Wrapping.place]
  split
  · exact ⟨within.lines, within.line⟩
  · split
    · exact ⟨within.lines, alone⟩
    · exact Within.full ⟨within.lines, alone⟩

theorem Within.next (within : wrapping.Within keep) {chunk : List Char}
    (kept : ∀ character ∈ chunk, keep character) : (wrapping.next width chunk).Within keep := by
  rw [Wrapping.next]
  split
  · exact within.place kept
  · split
    · constructor
      · exact within.lines
      · intro other member
        rcases List.mem_append.mp member with before | last
        · exact within.line other before
        · rw [List.mem_singleton.mp last]
          exact kept
    · exact within.full.place kept

theorem Within.foldl (within : wrapping.Within keep) {chunks : List (List Char)}
    (kept : ∀ chunk ∈ chunks, ∀ character ∈ chunk, keep character) :
    (chunks.foldl (Wrapping.next width) wrapping).Within keep := by
  induction chunks generalizing wrapping with
  | nil => exact within
  | cons chunk rest ih =>
      exact ih (within.next (kept chunk (List.mem_cons_self ..)))
        fun other member => kept other (List.mem_cons_of_mem _ member)

end Wrapping

/-- `textwrap.wrap(text, width, break_on_hyphens=False, break_long_words=False)`. -/
def wrap (width : Nat) (text : List Char) : List (List Char) :=
  ((wrapChunks (mungeWhitespace text)).foldl (Wrapping.next width) ⟨[], [], true⟩).full.lines

theorem mem_expandTabs {character : Char} {text : List Char} {column : Nat}
    (found : character ∈ expandTabs column text) : character = ' ' ∨ character ∈ text := by
  induction text generalizing column with
  | nil => cases found
  | cons first rest ih =>
      rw [expandTabs] at found
      split at found
      · rcases List.mem_append.mp found with blank | later
        · exact Or.inl (List.eq_of_mem_replicate blank)
        · exact (ih later).imp_right (List.mem_cons_of_mem _)
      · rcases List.mem_cons.mp found with same | later
        · exact Or.inr (same ▸ List.mem_cons_self ..)
        · exact (ih later).imp_right (List.mem_cons_of_mem _)

theorem mem_wrap {width : Nat} {text line : List Char} (member : line ∈ wrap width text)
    {character : Char} (found : character ∈ line) : character = ' ' ∨ character ∈ text := by
  have munged {other : Char} (inside : other ∈ mungeWhitespace text) :
      other = ' ' ∨ other ∈ text := by
    obtain ⟨first, expanded, rfl⟩ := List.mem_map.mp inside
    split
    · exact Or.inl rfl
    · exact mem_expandTabs expanded
  have start : Wrapping.Within (fun character => character = ' ' ∨ character ∈ text)
      ⟨[], [], true⟩ := ⟨by simp, by simp⟩
  have chunks : ∀ chunk ∈ wrapChunks (mungeWhitespace text), ∀ character ∈ chunk,
      character = ' ' ∨ character ∈ text := by
    intro chunk inChunks other inChunk
    apply munged
    have whole : (wrapChunks (mungeWhitespace text)).flatten = mungeWhitespace text :=
      List.flatten_splitBy _ _
    rw [← whole]
    exact List.mem_flatten.mpr ⟨chunk, inChunks, inChunk⟩
  exact (start.foldl chunks).full.lines line member character found

end PyText
