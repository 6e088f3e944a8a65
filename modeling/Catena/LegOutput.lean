import Catena.ByteLines
import Catena.PyLines
import Mathlib

/-!
# The output of a server leg

`Session.run` cuts what the server prints into lines, however it arrives, and
`Output.feed` keeps the lines of the passwords block from the log.  Lines are
lost where a block is begun inside another one or is never ended.
-/

namespace Catena

namespace LegOutput

open ByteLines

/-- What one call of `recv` gives: some bytes, or a timeout on a connection
that lives. -/
inductive Reception where
  | data (first : UInt8) (rest : Bytes)
  | timeout

def Reception.bytes : Reception → Bytes
  | .data first rest => first :: rest
  | .timeout => []

/-- Everything that is received. -/
def stream (receptions : List Reception) : Bytes :=
  receptions.flatMap Reception.bytes

section Reading

variable (decode : Bytes → String)

/-- `line.decode("utf-8", "replace").rstrip("\r")`. -/
def lineText (line : Bytes) : String :=
  String.ofList (PyText.rstrip '\r' (decode line).toList)

/-- `Session.run`, with the bytes pending and the state `on_line` changes. -/
def sessionRun {State : Type*} (onLine : State → String → State) :
    Bytes → State → List Reception → State
  | pending, state, [] => if pending = [] then state else onLine state (lineText decode pending)
  | pending, state, .timeout :: rest => sessionRun onLine pending state rest
  | pending, state, .data first more :: rest =>
      let (lines, left) := splitBytes (pending ++ first :: more)
      sessionRun onLine left ((lines.map (lineText decode)).foldl onLine state) rest

/-- The lines of a whole stream. -/
def texts (whole : Bytes) : List String :=
  let (lines, last) := splitBytes whole
  (if last = [] then lines else lines ++ [last]).map (lineText decode)

end Reading

def keysetBegin : String := "-----BEGIN CATENA PASSWORDS-----"

def keysetEnd : String := "-----END CATENA PASSWORDS-----"

/-- A call an `Output` makes. -/
inductive Call where
  | line (text : String)
  | keyset (lines : List String)
  deriving DecidableEq

/-- `Output`: the open block, if there is one, and the calls made. -/
structure Output where
  block : Option (List String)
  calls : List Call

/-- `Output(line, keyset)`. -/
def fresh : Output := ⟨none, []⟩

def feed (output : Output) (text : String) : Output :=
  if text = keysetBegin then { output with block := some [] }
  else
    match output.block with
    | none => { output with calls := output.calls ++ [.line text] }
    | some block =>
        if text = keysetEnd then ⟨none, output.calls ++ [.keyset block]⟩
        else { output with block := some (block ++ [text]) }

/-- The lines passed to `line`. -/
def lineLines (calls : List Call) : List String :=
  calls.flatMap fun
    | .line text => [text]
    | .keyset _ => []

/-- The lines passed to `keyset`. -/
def keysetLines (calls : List Call) : List String :=
  calls.flatMap fun
    | .line _ => []
    | .keyset lines => lines

/-- Where a line stands. -/
inductive Place where
  | between
  | outside
  deriving DecidableEq

/-- The place of each line: strictly between a begin marker and the next end
marker, or outside such a block.  The two markers of a block have none.
`inBlock` tells that a block was begun. -/
def places (inBlock : Bool) : List String → List (Place × String)
  | [] => []
  | text :: rest =>
      if inBlock then
        if text = keysetEnd then places false rest else (.between, text) :: places true rest
      else if text = keysetBegin ∧ keysetEnd ∈ rest then places true rest
      else (.outside, text) :: places false rest

def linesAt (place : Place) (placed : List (Place × String)) : List String :=
  (placed.filter fun line => line.1 = place).map Prod.snd

/-- No block is begun inside another one, and every block is ended. -/
def WellMarked (inBlock : Bool) : List String → Prop
  | [] => inBlock = false
  | text :: rest =>
      if inBlock then
        text ≠ keysetBegin ∧ WellMarked (decide (text ≠ keysetEnd)) rest
      else WellMarked (decide (text = keysetBegin)) rest

/-- The calls do not depend on how the stream arrives; the lines of the blocks
go to `keyset` and all others to `line`, in order. -/
def Confines (decode : Bytes → String) (receptions : List Reception) : Prop :=
  (sessionRun decode feed [] fresh receptions).calls =
      ((texts decode (stream receptions)).foldl feed fresh).calls ∧
    keysetLines (sessionRun decode feed [] fresh receptions).calls =
      linesAt .between (places false (texts decode (stream receptions))) ∧
    lineLines (sessionRun decode feed [] fresh receptions).calls =
      linesAt .outside (places false (texts decode (stream receptions)))

theorem sessionRun_eq {State : Type*} (decode : Bytes → String)
    (onLine : State → String → State) (receptions : List Reception) {pending : Bytes}
    (left : splitBytes pending = ([], pending)) (state : State) :
    sessionRun decode onLine pending state receptions =
      (texts decode (pending ++ stream receptions)).foldl onLine state := by
  induction receptions generalizing pending state with
  | nil =>
      have whole : pending ++ stream [] = pending := by
        simp [stream]
      rw [whole, sessionRun, texts, left]
      by_cases empty : pending = []
      · simp [empty]
      · simp [empty]
  | cons reception rest ih =>
      cases reception with
      | timeout => exact ih left state
      | data first more =>
          have whole : pending ++ stream (.data first more :: rest) =
              (pending ++ first :: more) ++ stream rest := by
            simp [stream, Reception.bytes]
          rw [sessionRun, whole]
          simp only
          rw [ih (splitBytes_left _), texts, texts, splitBytes_append (pending ++ first :: more),
            ← List.foldl_append, ← List.map_append]
          congr 2
          split
          · rfl
          · rw [List.append_assoc]

/-- The calls `feed` makes from an open block, or none, on. -/
def callsFrom : Option (List String) → List String → List Call
  | _, [] => []
  | block, text :: rest =>
      if text = keysetBegin then callsFrom (some []) rest
      else
        match block with
        | none => .line text :: callsFrom none rest
        | some block =>
            if text = keysetEnd then .keyset block :: callsFrom none rest
            else callsFrom (some (block ++ [text])) rest

theorem calls_foldl_feed (texts : List String) (output : Output) :
    (texts.foldl feed output).calls = output.calls ++ callsFrom output.block texts := by
  induction texts generalizing output with
  | nil => simp [callsFrom]
  | cons text rest ih =>
      obtain ⟨block, calls⟩ := output
      rw [List.foldl_cons, ih]
      cases block with
      | none =>
          simp only [feed, callsFrom]
          split
          · rfl
          · simp
      | some block =>
          simp only [feed, callsFrom]
          split
          · rfl
          · split
            · simp
            · rfl

theorem keysetEnd_ne_keysetBegin : keysetEnd ≠ keysetBegin := by
  decide

theorem keysetEnd_mem_of_wellMarked {texts : List String} (marked : WellMarked true texts) :
    keysetEnd ∈ texts := by
  induction texts with
  | nil => cases marked
  | cons text rest ih =>
      obtain ⟨-, later⟩ := marked
      by_cases ends : text = keysetEnd
      · simp [ends]
      · rw [decide_eq_true ends] at later
        exact List.mem_cons_of_mem _ (ih later)

theorem linesAt_cons (place other : Place) (text : String) (placed : List (Place × String)) :
    linesAt place ((other, text) :: placed) =
      if other = place then text :: linesAt place placed else linesAt place placed := by
  unfold linesAt
  by_cases same : other = place
  · simp [same]
  · simp [same]

theorem callsFrom_of_wellMarked (texts : List String) :
    (WellMarked false texts →
      keysetLines (callsFrom none texts) = linesAt .between (places false texts) ∧
        lineLines (callsFrom none texts) = linesAt .outside (places false texts)) ∧
    (WellMarked true texts → ∀ block,
      keysetLines (callsFrom (some block) texts) =
          block ++ linesAt .between (places true texts) ∧
        lineLines (callsFrom (some block) texts) = linesAt .outside (places true texts)) := by
  induction texts with
  | nil => exact ⟨fun _ => ⟨rfl, rfl⟩, fun marked => by cases marked⟩
  | cons text rest ih =>
      obtain ⟨closed, opened⟩ := ih
      constructor
      · intro marked
        by_cases begins : text = keysetBegin
        · have later : WellMarked true rest := by
            simpa [WellMarked, begins] using marked
          have ended := keysetEnd_mem_of_wellMarked later
          have inside := opened later []
          simpa [callsFrom, places, begins, ended] using inside
        · have later : WellMarked false rest := by
            simpa [WellMarked, begins] using marked
          obtain ⟨keyset, line⟩ := closed later
          simp only [callsFrom, places, begins, false_and, if_false, Bool.false_eq_true]
          rw [linesAt_cons, linesAt_cons, if_neg (by decide), if_pos rfl, ← keyset, ← line]
          exact ⟨rfl, rfl⟩
      · intro marked block
        obtain ⟨begins, later⟩ := marked
        by_cases ends : text = keysetEnd
        · have outside : WellMarked false rest := by
            simpa [ends] using later
          obtain ⟨keyset, line⟩ := closed outside
          simp only [callsFrom, places, ends, keysetEnd_ne_keysetBegin, if_false, if_true]
          rw [← keyset, ← line]
          exact ⟨rfl, rfl⟩
        · have inside : WellMarked true rest := by
            simpa [ends] using later
          obtain ⟨keyset, line⟩ := opened inside (block ++ [text])
          simp only [callsFrom, places, begins, ends, if_false, if_true]
          rw [linesAt_cons, linesAt_cons, if_pos rfl, if_neg (by decide), keyset, line,
            List.append_assoc]
          exact ⟨rfl, rfl⟩

/-- How many lines the calls pass on. -/
def passed (calls : List Call) : Nat :=
  (keysetLines calls).length + (lineLines calls).length

theorem passed_line (text : String) (calls : List Call) :
    passed (.line text :: calls) = passed calls + 1 := by
  simp [passed, keysetLines, lineLines]
  omega

theorem passed_keyset (lines : List String) (calls : List Call) :
    passed (.keyset lines :: calls) = lines.length + passed calls := by
  simp [passed, keysetLines, lineLines]
  omega

/-- A block that is never ended passes nothing on. -/
theorem passed_unended {texts : List String} (unended : keysetEnd ∉ texts)
    (block : List String) : passed (callsFrom (some block) texts) = 0 := by
  induction texts generalizing block with
  | nil => rfl
  | cons text rest ih =>
      rw [List.mem_cons, not_or] at unended
      rw [callsFrom]
      split
      · exact ih unended.2 []
      · simp only [Ne.symm unended.1, if_false]
        exact ih unended.2 _

/-- No more lines are passed on than have a place, and fewer where the markers
are not well placed. -/
theorem passed_callsFrom (texts : List String) :
    (passed (callsFrom none texts) ≤ (places false texts).length ∧
      (passed (callsFrom none texts) = (places false texts).length → WellMarked false texts)) ∧
    (keysetEnd ∈ texts → ∀ block,
      passed (callsFrom (some block) texts) ≤ block.length + (places true texts).length ∧
      (passed (callsFrom (some block) texts) = block.length + (places true texts).length →
        WellMarked true texts)) := by
  induction texts with
  | nil => exact ⟨⟨le_refl _, fun _ => rfl⟩, fun ended => by cases ended⟩
  | cons text rest ih =>
      obtain ⟨⟨closedLe, closedEq⟩, opened⟩ := ih
      constructor
      · by_cases begins : text = keysetBegin
        · by_cases ended : keysetEnd ∈ rest
          · obtain ⟨le, eq⟩ := opened ended []
            simpa [callsFrom, places, begins, ended, WellMarked] using And.intro le eq
          · have nothing := passed_unended ended []
            simp [callsFrom, places, begins, ended, nothing]
        · simp only [callsFrom, places, begins, false_and, if_false, Bool.false_eq_true,
            passed_line, List.length_cons, WellMarked, decide_false]
          exact ⟨by omega, fun same => closedEq (by omega)⟩
      · intro ended block
        by_cases begins : text = keysetBegin
        · have later : keysetEnd ∈ rest := by
            rcases List.mem_cons.mp ended with same | later
            · exact absurd (same.trans begins) keysetEnd_ne_keysetBegin
            · exact later
          obtain ⟨le, -⟩ := opened later []
          have notEnd : keysetBegin ≠ keysetEnd := Ne.symm keysetEnd_ne_keysetBegin
          simp only [List.length_nil, Nat.zero_add] at le
          simp only [callsFrom, places, begins, notEnd, if_true, if_false, List.length_cons]
          exact ⟨by omega, fun same => absurd same (by omega)⟩
        · by_cases ends : text = keysetEnd
          · simp only [callsFrom, places, ends, keysetEnd_ne_keysetBegin, if_false, if_true,
              passed_keyset, WellMarked]
            refine ⟨by omega, fun same => ?_⟩
            simpa [keysetEnd_ne_keysetBegin] using closedEq (by omega)
          · have later : keysetEnd ∈ rest := by
              rcases List.mem_cons.mp ended with same | later
              · exact absurd same.symm ends
              · exact later
            obtain ⟨le, eq⟩ := opened later (block ++ [text])
            simp only [List.length_append, List.length_singleton] at le eq
            simp only [callsFrom, places, begins, ends, if_false, if_true, List.length_cons,
              WellMarked]
            refine ⟨by omega, fun same => ?_⟩
            simpa [begins, ends] using eq (by omega)

theorem length_linesAt (placed : List (Place × String)) :
    (linesAt .between placed).length + (linesAt .outside placed).length = placed.length := by
  induction placed with
  | nil => rfl
  | cons line rest ih =>
      obtain ⟨place, text⟩ := line
      rw [linesAt_cons, linesAt_cons]
      cases place with
      | between => simp; omega
      | outside => simp; omega

/-- The passwords stay out of the log and no line is lost where no block is
begun inside another one and every block is ended. -/
theorem confines_iff (decode : Bytes → String) (receptions : List Reception) :
    Confines decode receptions ↔ WellMarked false (texts decode (stream receptions)) := by
  have calls : (sessionRun decode feed [] fresh receptions).calls =
      callsFrom none (texts decode (stream receptions)) := by
    rw [sessionRun_eq decode feed receptions rfl, calls_foldl_feed]
    rfl
  rw [Confines, calls_foldl_feed, calls]
  generalize texts decode (stream receptions) = found
  constructor
  · rintro ⟨-, keyset, line⟩
    apply (passed_callsFrom found).1.2
    rw [passed, keyset, line, length_linesAt]
  · intro marked
    exact ⟨rfl, (callsFrom_of_wellMarked found).1 marked⟩

def asciiBytes (text : String) : Bytes :=
  text.toList.map fun character => UInt8.ofNat character.toNat

def asciiText (bytes : Bytes) : String :=
  String.ofList (bytes.map fun byte => Char.ofNat byte.toNat)

/-- What arrives in chunks of one byte. -/
def byteByByte (text : String) : List Reception :=
  (asciiBytes text).map fun byte => .data byte []

/-- The block is begun again before it is ended, and its first line is lost. -/
theorem repeated_begin_loses_line :
    (sessionRun asciiText feed [] fresh
        (byteByByte (keysetBegin ++ "\npanel\n" ++ keysetBegin ++ "\nops\n" ++ keysetEnd ++
          "\n"))).calls = [.keyset ["ops"]] ∧
      ¬ Confines asciiText
        (byteByByte (keysetBegin ++ "\npanel\n" ++ keysetBegin ++ "\nops\n" ++ keysetEnd ++
          "\n")) := by
  have calls : (sessionRun asciiText feed [] fresh
      (byteByByte (keysetBegin ++ "\npanel\n" ++ keysetBegin ++ "\nops\n" ++ keysetEnd ++
        "\n"))).calls = [.keyset ["ops"]] := by
    decide
  have placed : linesAt .between (places false (texts asciiText (stream
      (byteByByte (keysetBegin ++ "\npanel\n" ++ keysetBegin ++ "\nops\n" ++ keysetEnd ++
        "\n"))))) = ["panel", keysetBegin, "ops"] := by
    decide
  use calls
  rintro ⟨-, keyset, -⟩
  rw [calls, placed] at keyset
  exact absurd keyset (by decide)

end LegOutput

end Catena
