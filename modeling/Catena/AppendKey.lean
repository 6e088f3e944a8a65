import Catena.ByteLines
import Catena.PyLines
import Mathlib

/-!
# Adding the installer's key

`_append_key` types five commands into a shell on a terminal: the key line is
staged in a file, and added to the login's `authorized_keys` unless `grep`
finds it there.  A key line the terminal drops, a last line that is not ended
and texts `echo` and `grep` do not take as they are keep it from adding
exactly that line.
-/

namespace Catena

namespace AppendKey

open ByteLines

abbrev Text := List Char

/-- `keys.public_line` of the text of the key's file. -/
def publicLine (written : Text) : Option Text :=
  (PyText.splitLines (PyText.stripChars PyText.isSpace written)).head?

/-- A line `keys.public_line` can return. -/
structure PublicLine where
  written : Text
  text : Text
  isFirst : publicLine written = some text

/-- A character a shell word may hold as it is. -/
def safe (character : Char) : Bool :=
  character.isAlphanum || character ∈ "_@%+=:,./-".toList

def quote (text : Text) : Text :=
  if text = [] then "''".toList
  else if text.all safe then text
  else '\'' :: text.flatMap (fun character =>
    if character = '\'' then "'\"'\"'".toList else [character]) ++ ['\'']

/-- Where a shell is in a word. -/
inductive Quoting where
  | plain
  | single
  | double

/-- A word as a shell reads it: safe characters and quoted parts, with nothing
to expand. -/
def readWord : Quoting → Text → Option Text
  | .plain, [] => some []
  | _, [] => none
  | .plain, character :: rest =>
      if character = '\'' then readWord .single rest
      else if character = '"' then readWord .double rest
      else if safe character then (readWord .plain rest).map (character :: ·)
      else none
  | .single, character :: rest =>
      if character = '\'' then readWord .plain rest
      else (readWord .single rest).map (character :: ·)
  | .double, character :: rest =>
      if character = '"' then readWord .plain rest
      else if character ∈ ['$', '`', '\\'] then none
      else (readWord .double rest).map (character :: ·)

/-- A POSIX shell.  What `echo` prints of a backslash, and of an operand that
looks like an option, is its own; so is what `grep` makes of a pattern that
looks like an option. -/
structure PosixShell where
  echo : Text → Bytes
  echo_plain : ∀ text : Text, '\\' ∉ text → text.head? ≠ some '-' → echo text = utf8 text ++ [10]
  grepDashed : Bytes → Option Bytes → Bool

/-- `secrets.token_hex`: for the staged file, and for each marker. -/
structure Names where
  keyHex : Text
  token : Nat → Text
  keyHex_length : (utf8 keyHex).length = 8
  token_length : ∀ index, (utf8 (token index)).length = 12

/-- The commands of `_append_key`. -/
inductive Command where
  | stage (word : Text)
  | makeDirectory
  | addKey
  | protect
  | unstage

def keyfile (names : Names) : Text :=
  "/tmp/.catena-key-".toList ++ names.keyHex

def home (user : String) : Text :=
  if user = "root" then "/root".toList else "~".toList

def Command.text (names : Names) (user : String) : Command → Text
  | .stage word => "echo ".toList ++ word ++ " > ".toList ++ keyfile names
  | .makeDirectory => "install -d -m 700 ".toList ++ home user ++ "/.ssh".toList
  | .addKey =>
      "grep -qxF \"$(cat ".toList ++ keyfile names ++ ")\" ".toList ++ home user ++
        "/.ssh/authorized_keys 2>/dev/null || cat ".toList ++ keyfile names ++ " >> ".toList ++
        home user ++ "/.ssh/authorized_keys".toList
  | .protect => "chmod 600 ".toList ++ home user ++ "/.ssh/authorized_keys".toList
  | .unstage => "rm -f ".toList ++ keyfile names

/-- The line `run` types for a command. -/
def typed (names : Names) (index : Nat) (text : Text) : Text :=
  text ++ "; echo __CATENA_''".toList ++ names.token index ++ "__".toList

/-- The commands for a key line. -/
def commands (line : Text) : List Command :=
  [.stage (quote line), .makeDirectory, .addKey, .protect, .unstage]

/-- The login's `authorized_keys`, whether its `.ssh` is there, and the staged
file. -/
structure Login where
  authorizedKeys : Option Bytes
  directory : Bool
  staged : Option Bytes

/-- The lines of `authorized_keys`. -/
def Login.keys (login : Login) : List Bytes :=
  fileLines (login.authorizedKeys.getD [])

/-- `$(cat ...)` of a file. -/
def substituted (content : Bytes) : Bytes :=
  (content.reverse.dropWhile fun byte => byte = 10).reverse

/-- `grep -qxF` finds a line of the pattern among the lines of the file. -/
def grepFinds (shell : PosixShell) (pattern : Bytes) (content : Option Bytes) : Bool :=
  if pattern.head? = some 45 then shell.grepDashed pattern content
  else
    match content with
    | none => false
    | some content =>
        ((splitBytes pattern).1 ++ [(splitBytes pattern).2]).any fun line =>
          line ∈ fileLines content

/-- A command, run by the shell. -/
def execute (shell : PosixShell) (login : Login) : Command → Login
  | .stage word =>
      match readWord .plain word with
      | some text => { login with staged := some (shell.echo text) }
      | none => login
  | .makeDirectory => { login with directory := true }
  | .addKey =>
      if grepFinds shell (substituted (login.staged.getD [])) login.authorizedKeys then login
      else if login.directory then
        let content := login.authorizedKeys.getD [] ++ login.staged.getD []
        { login with authorizedKeys := some content }
      else login
  | .protect => login
  | .unstage => { login with staged := none }

/-- The commands from the one at `index` on; `none` where the marker of a line
the terminal dropped is waited for in vain. -/
def typeCommands (shell : PosixShell) (names : Names) (user : String) :
    Nat → List Command → Login → Option Login
  | _, [], login => some login
  | index, command :: rest, login =>
      if 255 < (utf8 (typed names index (command.text names user))).length then none
      else typeCommands shell names user (index + 1) rest (execute shell login command)

def appendKey (shell : PosixShell) (names : Names) (user : String) (line : Text) (login : Login) :
    Option Login :=
  typeCommands shell names user 0 (commands line) login

/-- `_append_key` completes, and leaves the lines it found and the key line,
once. -/
def KeepsKeys (user : String) (line : Text) (prior : Option Bytes) : Prop :=
  ∀ (shell : PosixShell) (names : Names) (directory : Bool), ∃ after,
    appendKey shell names user line ⟨prior, directory, none⟩ = some after ∧
    after.keys = fileLines (prior.getD []) ++
      (if utf8 line ∈ fileLines (prior.getD []) then [] else [utf8 line]) ∧
    after.keys.count (utf8 line) = 1

/-- What the key line and the prior content have to be. -/
structure Clean (line : Text) (prior : Option Bytes) : Prop where
  /-- The first command fits the terminal's line. -/
  fits : (utf8 (quote line)).length ≤ 190
  noBackslash : '\\' ∉ line
  noDash : line.head? ≠ some '-'
  /-- The key line is there, or the last line is ended. -/
  ended : utf8 line ∈ fileLines (prior.getD []) ∨ (splitBytes (prior.getD [])).2 = []
  once : (fileLines (prior.getD [])).count (utf8 line) ≤ 1

theorem readWord_safe {text : Text} (isSafe : text.all safe = true) :
    readWord .plain text = some text := by
  induction text with
  | nil => rfl
  | cons character rest ih =>
      rw [List.all_cons, Bool.and_eq_true] at isSafe
      have notSingle : character ≠ '\'' := by
        rintro rfl
        exact absurd isSafe.1 (by decide)
      have notDouble : character ≠ '"' := by
        rintro rfl
        exact absurd isSafe.1 (by decide)
      rw [readWord, if_neg notSingle, if_neg notDouble, if_pos isSafe.1, ih isSafe.2]
      rfl

theorem readWord_escaped (rest : Text) : readWord .single ("'\"'\"'".toList ++ rest) =
    (readWord .single rest).map ('\'' :: ·) :=
  rfl

/-- The inside of single quotes, with a quote written in double quotes. -/
theorem readWord_single (text : Text) :
    readWord .single (text.flatMap (fun character =>
      if character = '\'' then "'\"'\"'".toList else [character]) ++ ['\'']) = some text := by
  induction text with
  | nil => rfl
  | cons character rest ih =>
      rw [List.flatMap_cons, List.append_assoc]
      by_cases isQuote : character = '\''
      · rw [if_pos isQuote, readWord_escaped, ih, isQuote]
        rfl
      · rw [if_neg isQuote, List.singleton_append, readWord, if_neg isQuote, ih]
        rfl

theorem readWord_quote (text : Text) : readWord .plain (quote text) = some text := by
  unfold quote
  split
  · rename_i empty
    rw [empty]
    decide
  · split
    · rename_i isSafe
      exact readWord_safe isSafe
    · rw [List.cons_append, readWord, if_pos rfl]
      exact readWord_single text

theorem utf8_append (first second : Text) : utf8 (first ++ second) = utf8 first ++ utf8 second := by
  simp [utf8]

theorem length_utf8_ascii {text : Text}
    (ascii : text.all (fun character => character.toNat < 128) = true) :
    (utf8 text).length = text.length := by
  induction text with
  | nil => rfl
  | cons character rest ih =>
      rw [List.all_cons, Bool.and_eq_true, decide_eq_true_eq] at ascii
      have one : (String.utf8EncodeChar character).length = 1 := by
        rw [String.length_utf8EncodeChar, Char.utf8Size_eq_one_iff]
        rw [UInt32.le_iff_toNat_le]
        have code : character.val.toNat < 128 := ascii.1
        have bound : (127 : UInt32).toNat = 127 := rfl
        omega
      have others := ih ascii.2
      rw [utf8] at others ⊢
      rw [List.flatMap_cons, List.length_append, one, others, List.length_cons, Nat.add_comm]

theorem length_utf8_literal {text : Text} {length : Nat}
    (ascii : text.all (fun character => character.toNat < 128) = true)
    (long : text.length = length) : (utf8 text).length = length :=
  (length_utf8_ascii ascii).trans long

theorem length_utf8_append (first second : Text) :
    (utf8 (first ++ second)).length = (utf8 first).length + (utf8 second).length := by
  rw [utf8_append, List.length_append]

theorem length_utf8_typed (names : Names) (index : Nat) (text : Text) :
    (utf8 (typed names index text)).length = (utf8 text).length + 32 := by
  have marker : (utf8 "; echo __CATENA_''".toList).length = 18 :=
    length_utf8_literal (by decide) rfl
  have ends : (utf8 "__".toList).length = 2 :=
    length_utf8_literal (by decide) rfl
  rw [typed, length_utf8_append, length_utf8_append, length_utf8_append, marker, ends,
    names.token_length]

theorem length_utf8_keyfile (names : Names) : (utf8 (keyfile names)).length = 25 := by
  have front : (utf8 "/tmp/.catena-key-".toList).length = 17 :=
    length_utf8_literal (by decide) rfl
  unfold keyfile
  rw [length_utf8_append, front, names.keyHex_length]

theorem length_utf8_home (user : String) : (utf8 (home user)).length ≤ 5 := by
  unfold home
  split
  · exact (length_utf8_literal (by decide) rfl).le
  · exact (@length_utf8_literal _ 1 (by decide) rfl).le.trans (by decide)

theorem length_utf8_stage (names : Names) (user : String) (word : Text) :
    (utf8 (Command.text names user (.stage word))).length = (utf8 word).length + 33 := by
  have front : (utf8 "echo ".toList).length = 5 :=
    length_utf8_literal (by decide) rfl
  have arrow : (utf8 " > ".toList).length = 3 :=
    length_utf8_literal (by decide) rfl
  unfold Command.text
  rw [length_utf8_append, length_utf8_append, length_utf8_append, front, arrow,
    length_utf8_keyfile]
  omega

theorem length_utf8_makeDirectory (names : Names) (user : String) :
    (utf8 (Command.text names user .makeDirectory)).length ≤ 28 := by
  have front : (utf8 "install -d -m 700 ".toList).length = 18 :=
    length_utf8_literal (by decide) rfl
  have back : (utf8 "/.ssh".toList).length = 5 :=
    length_utf8_literal (by decide) rfl
  have homeLength := length_utf8_home user
  unfold Command.text
  rw [length_utf8_append, length_utf8_append, front, back]
  omega

theorem length_utf8_addKey (names : Names) (user : String) :
    (utf8 (Command.text names user .addKey)).length ≤ 146 := by
  have front : (utf8 "grep -qxF \"$(cat ".toList).length = 17 :=
    length_utf8_literal (by decide) rfl
  have inner : (utf8 ")\" ".toList).length = 3 :=
    length_utf8_literal (by decide) rfl
  have middle : (utf8 "/.ssh/authorized_keys 2>/dev/null || cat ".toList).length = 41 :=
    length_utf8_literal (by decide) rfl
  have arrow : (utf8 " >> ".toList).length = 4 :=
    length_utf8_literal (by decide) rfl
  have back : (utf8 "/.ssh/authorized_keys".toList).length = 21 :=
    length_utf8_literal (by decide) rfl
  have homeLength := length_utf8_home user
  unfold Command.text
  rw [length_utf8_append, length_utf8_append, length_utf8_append, length_utf8_append,
    length_utf8_append, length_utf8_append, length_utf8_append, length_utf8_append, front, inner,
    middle, arrow, back, length_utf8_keyfile]
  omega

theorem length_utf8_protect (names : Names) (user : String) :
    (utf8 (Command.text names user .protect)).length ≤ 36 := by
  have front : (utf8 "chmod 600 ".toList).length = 10 :=
    length_utf8_literal (by decide) rfl
  have back : (utf8 "/.ssh/authorized_keys".toList).length = 21 :=
    length_utf8_literal (by decide) rfl
  have homeLength := length_utf8_home user
  unfold Command.text
  rw [length_utf8_append, length_utf8_append, front, back]
  omega

theorem length_utf8_unstage (names : Names) (user : String) :
    (utf8 (Command.text names user .unstage)).length = 31 := by
  have front : (utf8 "rm -f ".toList).length = 6 :=
    length_utf8_literal (by decide) rfl
  unfold Command.text
  rw [length_utf8_append, front, length_utf8_keyfile]

/-- A command of at most 223 bytes fits, with its marker. -/
theorem fits_of_length {names : Names} {text : Text} (short : (utf8 text).length ≤ 223)
    (index : Nat) : ¬ 255 < (utf8 (typed names index text)).length := by
  rw [length_utf8_typed]
  omega

/-- The content after the third command. -/
def added (shell : PosixShell) (line : Text) (prior : Option Bytes) : Option Bytes :=
  if grepFinds shell (substituted (shell.echo line)) prior then prior
  else some (prior.getD [] ++ shell.echo line)

/-- The commands complete where the first one fits. -/
theorem appendKey_eq (shell : PosixShell) (names : Names) (user : String) (line : Text)
    (prior : Option Bytes) (directory : Bool) :
    appendKey shell names user line ⟨prior, directory, none⟩ =
      if (utf8 (quote line)).length ≤ 190 then some ⟨added shell line prior, true, none⟩
      else none := by
  have first : 255 < (utf8 (typed names 0 (Command.text names user (.stage (quote line))))).length ↔
      ¬ (utf8 (quote line)).length ≤ 190 := by
    rw [length_utf8_typed, length_utf8_stage]
    omega
  rw [appendKey, commands, typeCommands]
  by_cases fits : (utf8 (quote line)).length ≤ 190
  · rw [if_neg (fun long => first.mp long fits), if_pos fits]
    have makeDirectory := length_utf8_makeDirectory names user
    have addKey := length_utf8_addKey names user
    have protect := length_utf8_protect names user
    have unstage := length_utf8_unstage names user
    rw [typeCommands, if_neg (fits_of_length (by omega) _), typeCommands,
      if_neg (fits_of_length (by omega) _), typeCommands,
      if_neg (fits_of_length (by omega) _), typeCommands,
      if_neg (fits_of_length (by omega) _), typeCommands]
    simp only [execute, readWord_quote, added, Option.getD_some, if_true]
    split <;> rfl
  · rw [if_pos (first.mpr fits), if_neg fits]

theorem unbroken_of_mem_breakLines {text line : Text} (found : line ∈ PyText.breakLines text) :
    ∀ character ∈ line, PyText.isBreak character = false := by
  induction text generalizing line with
  | nil => cases found
  | cons first rest ih =>
      rw [PyText.breakLines] at found
      split at found
      · rcases List.mem_cons.mp found with rfl | later
        · simp
        · exact ih later
      · rename_i unbroken
        rw [Bool.not_eq_true] at unbroken
        split at found
        · rw [List.mem_singleton.mp found]
          simpa using unbroken
        · rename_i next others lines
          rcases List.mem_cons.mp found with rfl | later
          · intro character inside
            rcases List.mem_cons.mp inside with rfl | inNext
            · exact unbroken
            · exact ih (lines ▸ List.mem_cons_self) character inNext
          · exact ih (lines ▸ List.mem_cons_of_mem _ later)

theorem PublicLine.newline_notMem (line : PublicLine) : 10 ∉ utf8 line.text := by
  apply newline_notMem_utf8
  intro found
  have unbroken := unbroken_of_mem_breakLines (List.mem_of_head? line.isFirst) _ found
  exact absurd unbroken (by decide)

theorem substituted_ended {line : Bytes} (whole : 10 ∉ line) :
    substituted (line ++ [10]) = line := by
  have kept : line.reverse.dropWhile (fun byte => decide (byte = 10)) = line.reverse := by
    cases bytes : line.reverse with
    | nil => rfl
    | cons byte rest =>
        have inLine : byte ∈ line := List.mem_reverse.mp (bytes ▸ List.mem_cons_self)
        have other : byte ≠ 10 := fun same => whole (same ▸ inLine)
        simp [other]
  rw [substituted, List.reverse_append]
  simp only [List.reverse_singleton, List.singleton_append, List.dropWhile_cons, decide_true,
    if_true]
  rw [kept, List.reverse_reverse]

/-- `grep` finds a line that looks like no option where it is in the file. -/
theorem grepFinds_eq (shell : PosixShell) {line : Bytes} (whole : 10 ∉ line)
    (noDash : line.head? ≠ some 45) (prior : Option Bytes) :
    grepFinds shell line prior = decide (line ∈ fileLines (prior.getD [])) := by
  unfold grepFinds
  rw [if_neg noDash, splitBytes_line whole]
  cases prior with
  | none => simp [fileLines, splitBytes]
  | some content => simp

/-- A clean key line is added where it is missing. -/
theorem keepsKeys_of_clean {user : String} {line : PublicLine} {prior : Option Bytes}
    (clean : Clean line.text prior) : KeepsKeys user line.text prior := by
  intro shell names directory
  have whole := line.newline_notMem
  have noDash : (utf8 line.text).head? ≠ some 45 := fun dash =>
    clean.noDash (head_of_utf8_dash dash)
  have echoed := shell.echo_plain line.text clean.noBackslash clean.noDash
  have found := grepFinds_eq shell whole noDash prior
  rw [appendKey_eq, if_pos clean.fits]
  refine ⟨_, rfl, ?_⟩
  simp only [Login.keys, added, echoed, substituted_ended whole, found]
  by_cases there : utf8 line.text ∈ fileLines (prior.getD [])
  · have once := clean.once
    have positive := List.count_pos_iff.mpr there
    simp only [there, decide_true, if_true, List.append_nil, true_and]
    omega
  · have ended := clean.ended.resolve_left there
    simp only [there, decide_false, Bool.false_eq_true, if_false, Option.getD_some]
    rw [fileLines_append_ended ended whole]
    simp [List.count_eq_zero_of_not_mem there]

def sampleNames : Names where
  keyHex := "00000000".toList
  token _ := "000000000000".toList
  keyHex_length := rfl
  token_length _ := rfl

theorem keepsKeys_run {user : String} {line : Text} {prior : Option Bytes}
    (keeps : KeepsKeys user line prior) (shell : PosixShell) :
    (utf8 (quote line)).length ≤ 190 ∧
      fileLines ((added shell line prior).getD []) = fileLines (prior.getD []) ++
        (if utf8 line ∈ fileLines (prior.getD []) then [] else [utf8 line]) ∧
      (fileLines ((added shell line prior).getD [])).count (utf8 line) = 1 := by
  obtain ⟨after, ran, lines, count⟩ := keeps shell sampleNames false
  rw [appendKey_eq] at ran
  split at ran
  · rename_i fits
    rw [← Option.some.inj ran] at lines count
    exact ⟨fits, lines, count⟩
  · cases ran

/-- A shell whose `echo` prints `other` where POSIX leaves it to it, and whose
`grep` answers as `answer` does. -/
def oddShell (other : Bytes) (answer : Bytes → Option Bytes → Bool) : PosixShell where
  echo text := if '\\' ∉ text ∧ text.head? ≠ some '-' then utf8 text ++ [10] else other
  echo_plain text noBackslash noDash := by rw [if_pos ⟨noBackslash, noDash⟩]
  grepDashed := answer

theorem flatten_append_ended (content : Bytes) {line : Bytes} (whole : 10 ∉ line) :
    (fileLines (content ++ (line ++ [10]))).flatten = (fileLines content).flatten ++ line := by
  have kept : line.filter (fun byte => byte ≠ 10) = line := by
    rw [List.filter_eq_self]
    intro byte found
    have other : byte ≠ 10 := fun same => whole (same ▸ found)
    simp [other]
  rw [flatten_fileLines, flatten_fileLines, List.filter_append, List.filter_append, kept]
  simp

/-- The bytes added are those of the key line, or none. -/
theorem keepsKeys_bytes {user : String} {line : Text} {prior : Option Bytes}
    (keeps : KeepsKeys user line prior) {shell : PosixShell} {other : Bytes} (whole : 10 ∉ other)
    (echoed : shell.echo line = other ++ [10])
    (missed : grepFinds shell other prior = false) :
    other = if utf8 line ∈ fileLines (prior.getD []) then [] else utf8 line := by
  have lines := (keepsKeys_run keeps shell).2.1
  rw [added, echoed, substituted_ended whole, missed] at lines
  have bytes := congrArg List.flatten lines
  rw [if_neg (by simp), Option.getD_some, flatten_append_ended _ whole, List.flatten_append,
    List.append_cancel_left_eq] at bytes
  rw [bytes]
  split <;> simp

theorem noBackslash_of_keepsKeys {user : String} {line : PublicLine} {prior : Option Bytes}
    (keeps : KeepsKeys user line.text prior) : '\\' ∉ line.text := by
  intro backslash
  -- More letters than the file and the key line have bytes.
  have other : ∃ other : Bytes, other = List.replicate
      ((prior.getD []).length + (utf8 line.text).length + 1) 120 := ⟨_, rfl⟩
  obtain ⟨other, shape⟩ := other
  have long : other.length = (prior.getD []).length + (utf8 line.text).length + 1 := by
    rw [shape, List.length_replicate]
  have letters : ∀ byte ∈ other, byte = 120 := by
    intro byte found
    rw [shape] at found
    exact List.eq_of_mem_replicate found
  have whole : 10 ∉ other := fun found => absurd (letters _ found) (by decide)
  have noDash : other.head? ≠ some 45 := fun dash =>
    absurd (letters _ (List.mem_of_head? dash)) (by decide)
  have echoed : (oddShell (other ++ [10]) fun _ _ => false).echo line.text = other ++ [10] := by
    simp [oddShell, backslash]
  have missed : grepFinds (oddShell (other ++ [10]) fun _ _ => false) other prior = false := by
    rw [grepFinds_eq _ whole noDash, decide_eq_false_iff_not]
    intro found
    have short := length_le_of_mem_fileLines found
    omega
  have bytes := congrArg List.length (keepsKeys_bytes keeps whole echoed missed)
  split at bytes
  · simp only [List.length_nil] at bytes
    omega
  · omega

theorem noDash_of_keepsKeys {user : String} {line : PublicLine} {prior : Option Bytes}
    (keeps : KeepsKeys user line.text prior) : line.text.head? ≠ some '-' := by
  intro dash
  have bytesDash := utf8_dash_of_head dash
  have nonempty : utf8 line.text ≠ [] := by
    intro empty
    rw [empty] at bytesDash
    cases bytesDash
  have whole := line.newline_notMem
  -- `grep` answers what is not the case.
  have shell : ∃ shell : PosixShell, shell = oddShell (utf8 line.text ++ [10])
      fun _ content => !decide (utf8 line.text ∈ fileLines (content.getD [])) := ⟨_, rfl⟩
  obtain ⟨shell, shape⟩ := shell
  have echoed : shell.echo line.text = utf8 line.text ++ [10] := by
    simp [shape, oddShell]
  have answer : grepFinds shell (utf8 line.text) prior =
      !decide (utf8 line.text ∈ fileLines (prior.getD [])) := by
    unfold grepFinds
    rw [if_pos bytesDash, shape]
    rfl
  by_cases there : utf8 line.text ∈ fileLines (prior.getD [])
  · have missed : grepFinds shell (utf8 line.text) prior = false := by
      simp [answer, there]
    have bytes := keepsKeys_bytes keeps whole echoed missed
    rw [if_pos there] at bytes
    exact nonempty bytes
  · have found : grepFinds shell (utf8 line.text) prior = true := by
      simp [answer, there]
    have lines := (keepsKeys_run keeps shell).2.1
    rw [added, echoed, substituted_ended whole, if_pos found, if_neg there] at lines
    simp at lines

/-- The lines of `authorized_keys` stay and the key line is added once, in
every shell, where the key line and the prior content are clean. -/
theorem keepsKeys_iff (user : String) (line : PublicLine) (prior : Option Bytes) :
    KeepsKeys user line.text prior ↔ Clean line.text prior := by
  constructor
  · intro keeps
    have noBackslash := noBackslash_of_keepsKeys keeps
    have noDash := noDash_of_keepsKeys keeps
    have whole := line.newline_notMem
    obtain ⟨shell⟩ : Nonempty PosixShell := ⟨oddShell [] fun _ _ => false⟩
    have echoed := shell.echo_plain line.text noBackslash noDash
    have answer := grepFinds_eq shell whole (fun dash => noDash (head_of_utf8_dash dash)) prior
    obtain ⟨fits, lines, count⟩ := keepsKeys_run keeps shell
    rw [added, echoed, substituted_ended whole, answer] at lines count
    constructor
    · exact fits
    · exact noBackslash
    · exact noDash
    · by_contra neither
      rw [not_or] at neither
      obtain ⟨missing, isOpen⟩ := neither
      have sizes := congrArg List.length lines
      simp only [missing, decide_false, Bool.false_eq_true, if_false, Option.getD_some] at sizes
      rw [fileLines_append_open isOpen whole] at sizes
      simp at sizes
    · by_cases there : utf8 line.text ∈ fileLines (prior.getD [])
      · rw [if_pos (by simp [there])] at count
        exact count.le
      · rw [List.count_eq_zero_of_not_mem there]
        exact Nat.zero_le 1
  · exact keepsKeys_of_clean

def sampleLine : PublicLine where
  written := "ssh-ed25519 AAAA catena\n".toList
  text := "ssh-ed25519 AAAA catena".toList
  isFirst := by decide

/-- Where the last line is not ended, the key line joins it. -/
theorem open_last_line_joined :
    (appendKey (oddShell [] fun _ _ => false) sampleNames "root" sampleLine.text
        ⟨some (utf8 "ssh-rsa BBBB".toList), true, none⟩).map Login.keys =
      some [utf8 "ssh-rsa BBBBssh-ed25519 AAAA catena".toList] ∧
    ¬ KeepsKeys "root" sampleLine.text (some (utf8 "ssh-rsa BBBB".toList)) := by
  have ran : (appendKey (oddShell [] fun _ _ => false) sampleNames "root" sampleLine.text
      ⟨some (utf8 "ssh-rsa BBBB".toList), true, none⟩).map Login.keys =
      some [utf8 "ssh-rsa BBBBssh-ed25519 AAAA catena".toList] := by
    decide +kernel
  use ran
  intro keeps
  obtain ⟨after, done, lines, -⟩ := keeps (oddShell [] fun _ _ => false) sampleNames true
  rw [done, Option.map_some, Option.some.injEq] at ran
  rw [ran] at lines
  revert lines
  decide

end AppendKey

end Catena
