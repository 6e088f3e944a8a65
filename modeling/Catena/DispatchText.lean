import Catena.PyJson
import Catena.PyLines
import Mathlib.Data.List.TakeWhile

/-!
# What a generation of the dispatch path is made of

The texts of `helpers/dispatch_path.py`: the sudo rule, the `AcceptEnv` rule,
the key line and the name of a generation, and which generation a key line
runs.  The hex digest of SHA-256 stays open as `sha256`.
-/

namespace Catena.Dispatch

open PyText

abbrev Text := List Char

def generationsDir : Text := "/usr/local/lib/catena-dispatch".toList

def loopback : String := "127.0.0.1"

def proofAction : String := "dispatch-path-proof"

def entryRefusal : String := "catena-dispatch-entry: refusing"

def hostAlias : String := "host.docker.internal"

def header : Text :=
  ("# Written by catena-ce reconcile/roles/dispatch_path " ++
    "(helpers/dispatch_path.py).\n").toList

/-- One request: the site, the passthrough names and the two scripts. -/
structure Config where
  runnerUser : Text
  runnerHome : Text
  panelKeyDir : Text
  link : Text
  passthrough : Json
  entry : Text
  dispatcher : Text

def text (script : Text) : Text :=
  rstrip '\n' script ++ ['\n']

def sudoRule (user dispatcher : Text) (names : List Text) : Text :=
  header ++
    ("# The runner account may run this generation's dispatcher as root, with no\n" ++
      "# password and no tty, keeping the dispatch variables sshd accepted for it.\n" ++
      "Defaults:").toList ++ user ++ " !requiretty\n".toList ++
    "Defaults:".toList ++ user ++ " env_keep += \"".toList ++ join [' '] names ++
    "\"\n".toList ++
    user ++ " ALL=(root) NOPASSWD: ".toList ++ dispatcher ++ ['\n']

def acceptenvRule (user : Text) (names : List Text) : Text :=
  header ++
    ("# The dispatch variables the panel sends, accepted for the runner account " ++
      "alone.\nMatch User ").toList ++ user ++ ['\n'] ++
    "    AcceptEnv ".toList ++ join [' '] names ++ ['\n'] ++ "Match all\n".toList

def keyLine (entry pubkey : Text) (loopbackOnly : Bool) (expires : Text) : Text :=
  let source := if loopbackOnly then
    ("from=\"" ++ loopback ++ ",::1\",").toList else []
  let expiry := if expires = [] then [] else
    "expiry-time=\"".toList ++ expires ++ "\",".toList
  source ++ expiry ++ "command=\"".toList ++ entry ++ "\",restrict ".toList ++ pubkey

def forbiddenNames : List Text :=
  ["CATENA_ADMIN_ACTIONS_FILE".toList]

/-- A nonempty word of capital letters. -/
def isWord (word : Text) : Bool :=
  !word.isEmpty && word.all Char.isUpper

/-- `PASSTHROUGH_NAME.fullmatch`. -/
def isPassthroughName (name : Text) : Bool :=
  (match afterStart "X_FORWARDED_".toList name with
    | some word => isWord word
    | none => false) ||
  (match afterStart "CATENA_".toList name with
    | some rest => (splitOn '_' rest).all isWord
    | none => false)

/-- The first name that may not be rendered. -/
def refusedName : Json → Bool
  | .str name => !isPassthroughName name.toList || forbiddenNames.contains name.toList
  | _ => true

/-- `passthrough_problem`; none is its empty answer. -/
def passthroughProblem (py : Builtins) : Json → Option String
  | .arr names => (names.find? refusedName).map fun name =>
      "the passthrough name " ++ py.repr name ++ " is refused: a name is " ++
        "X_FORWARDED_<WORD> or CATENA_<WORDS> in capital letters, and never a " ++
        "variable a root script reads to find its code"
  | _ => some "the passthrough names are not a list"

/-- The passthrough names of a request. -/
def Config.names (cfg : Config) : List Text :=
  match cfg.passthrough with
  | .arr names => names.filterMap fun
      | .str name => some name.toList
      | _ => none
  | _ => []

def entryPath (gen : Text) : Text :=
  generationsDir ++ '/' :: gen ++ "/entry".toList

def dispatcherPath (gen : Text) : Text :=
  generationsDir ++ '/' :: gen ++ "/dispatcher".toList

/-- The text a generation is named by the digest of. -/
def Config.hashed (cfg : Config) : Text :=
  [text cfg.entry, text cfg.dispatcher,
    sudoRule cfg.runnerUser "@DISPATCHER@".toList cfg.names,
    acceptenvRule cfg.runnerUser cfg.names,
    keyLine "@ENTRY@".toList "@KEY@".toList false []].flatMap
      fun part => part ++ [Char.ofNat 0]

def generation (sha256 : Text → Text) (cfg : Config) : Text :=
  (sha256 cfg.hashed).take 12

/-- The generation a key line runs, the path an install wrote, or none. -/
inductive Running where
  | none
  | legacy
  | generation (gen : Text)
  deriving DecidableEq

def describe : Running → String
  | .legacy => "the path an install wrote"
  | .none => "no path yet"
  | .generation gen => "generation " ++ String.ofList gen

/-- `((?:[^"\\]|\\.)*)"`: what stands before the closing quote. -/
def quoted : Text → Option Text
  | [] => none
  | '"' :: _ => some []
  | ['\\'] => none
  | '\\' :: next :: rest =>
      if next = '\n' then none
      else (quoted rest).map fun body => '\\' :: next :: body
  | first :: rest => (quoted rest).map (first :: ·)

/-- What `command="` opens here. -/
def commandHere (line : Text) : Option Text :=
  (afterStart "command=\"".toList line).bind quoted

/-- `_COMMAND.search` past the start of the line. -/
def commandLater : Text → Option Text
  | [] => none
  | ',' :: rest => (commandHere rest).or (commandLater rest)
  | _ :: rest => commandLater rest

/-- `_COMMAND.search(line)`. -/
def commandOf (line : Text) : Option Text :=
  (commandHere line).or (commandLater line)

def isHex (character : Char) : Bool :=
  character.isDigit || ('a' ≤ character && character ≤ 'f')

/-- `_GENERATION_ENTRY.fullmatch`. -/
def entryGeneration (command : Text) : Option Text :=
  match afterStart (generationsDir ++ ['/']) command with
  | some rest =>
      let gen := rest.take 12
      if gen.length = 12 ∧ gen.all isHex ∧ rest.drop 12 = "/entry".toList then some gen
      else none
  | none => none

def keyBlob (pub : Text) : Text :=
  match words pub with
  | _ :: blob :: _ => blob
  | _ => []

/-- A line that carries the key. -/
def carries (blob line : Text) : Bool :=
  !(stripChars isSpace line).isEmpty &&
    !("#".toList.isPrefixOf (line.dropWhile isSpace)) && (words line).contains blob

def lineFor (keys : Option Text) (blob : Text) : Option Text :=
  (splitLines (keys.getD [])).find? (carries blob)

def runningGeneration : Option Text → Running
  | Option.none => .none
  | some line =>
      match (commandOf line).bind entryGeneration with
      | some gen => .generation gen
      | Option.none => .legacy

def isBase64 (character : Char) : Bool :=
  character.isAlphanum || character == '+' || character == '/'

/-- `( \S+)?` -/
def isKeyComment : Text → Bool
  | [] => true
  | ' ' :: comment => !comment.isEmpty && comment.all fun character => !isSpace character
  | _ => false

/-- `PANEL_KEY.fullmatch`. -/
def isPanelKey (pub : Text) : Bool :=
  match afterStart "ssh-ed25519 ".toList pub with
  | some rest => !(rest.takeWhile isBase64).isEmpty &&
      isKeyComment ((rest.dropWhile isBase64).dropWhile (· == '='))
  | Option.none => false

def acceptedNames (config : Text) : List Text :=
  (splitLines config).flatMap fun line =>
    match words line with
    | keyword :: names => if keyword = "AcceptEnv".toList then names else []
    | [] => []

theorem solid_of_isUpper {character : Char} (upper : character.isUpper = true) :
    isSpace character = false := by
  rw [Char.isUpper] at upper
  simp only [decide_eq_true_eq, ge_iff_le, UInt32.le_iff_toNat_le] at upper
  have low : ('A' : Char).val.toNat = 65 := rfl
  have high : ('Z' : Char).val.toNat = 90 := rfl
  have code : character.toNat = character.val.toNat := rfl
  simp only [isSpace, Bool.or_eq_false_iff, Bool.and_eq_false_iff, decide_eq_false_iff_not,
    beq_eq_false_iff_ne]
  omega

theorem isWord_solid {word : Text} (isName : isWord word = true) :
    ∀ character ∈ word, isSpace character = false := by
  intro character found
  rw [isWord, Bool.and_eq_true, List.all_eq_true] at isName
  exact solid_of_isUpper (isName.2 character found)

theorem isPassthroughName_solid {name : Text} (isName : isPassthroughName name = true) :
    name ≠ [] ∧ ∀ character ∈ name, isSpace character = false := by
  rw [isPassthroughName, Bool.or_eq_true] at isName
  rcases isName with forwarded | catena
  · split at forwarded
    · rename_i word after
      rw [afterStart_eq_some] at after
      subst after
      refine ⟨by simp, ?_⟩
      intro character found
      rcases List.mem_append.mp found with inStart | inWord
      · exact List.all_eq_true.mp (by decide :
          ("X_FORWARDED_".toList.all fun character => isSpace character == false) = true)
          character inStart |> beq_iff_eq.mp
      · exact isWord_solid forwarded character inWord
    · cases forwarded
  · split at catena
    · rename_i rest after
      rw [afterStart_eq_some] at after
      subst after
      refine ⟨by simp, ?_⟩
      intro character found
      rcases List.mem_append.mp found with inStart | inRest
      · exact List.all_eq_true.mp (by decide :
          ("CATENA_".toList.all fun character => isSpace character == false) = true)
          character inStart |> beq_iff_eq.mp
      · rcases mem_splitOn '_' inRest with separator | ⟨word, inWords, inWord⟩
        · subst separator
          decide
        · exact isWord_solid (List.all_eq_true.mp catena word inWords) character inWord
    · cases catena

theorem names_solid {py : Builtins} {cfg : Config}
    (valid : passthroughProblem py cfg.passthrough = Option.none) :
    ∀ name ∈ cfg.names, name ≠ [] ∧ ∀ character ∈ name, isSpace character = false := by
  intro name found
  unfold Config.names at found
  cases given : cfg.passthrough with
  | arr items =>
      rw [given] at found valid
      obtain ⟨item, inItems, named⟩ := List.mem_filterMap.mp found
      rw [passthroughProblem, Option.map_eq_none_iff, List.find?_eq_none] at valid
      have accepted := valid item inItems
      cases item with
      | str written =>
          simp only [Option.some.injEq] at named
          subst named
          simp only [refusedName, Bool.or_eq_true, not_or, Bool.not_eq_true',
            Bool.not_eq_false] at accepted
          exact isPassthroughName_solid accepted.1
      | _ => cases named
  | _ =>
      rw [given] at found
      cases found

/-- An `AcceptEnv` rule accepts the names it was rendered from. -/
theorem acceptedNames_acceptenvRule (user : Text) {names : List Text}
    (solid : ∀ name ∈ names, name ≠ [] ∧ ∀ character ∈ name, isSpace character = false) :
    ∀ name ∈ names, name ∈ acceptedNames (acceptenvRule user names) := by
  intro name found
  have keyword : words "    AcceptEnv".toList = ["AcceptEnv".toList] := by decide
  have line : words ("    AcceptEnv ".toList ++ join [' '] names) =
      "AcceptEnv".toList :: names := by
    have split : "    AcceptEnv ".toList ++ join [' '] names =
        "    AcceptEnv".toList ++ ' ' :: join [' '] names := rfl
    rw [split, words_append (by decide), keyword, words_join solid]
    rfl
  have unbroken : ∀ character ∈ "    AcceptEnv ".toList ++ join [' '] names,
      isBreak character = false := by
    intro character inLine
    rcases List.mem_append.mp inLine with inKeyword | inNames
    · exact beq_iff_eq.mp (List.all_eq_true.mp (by decide :
        ("    AcceptEnv ".toList.all fun character => isBreak character == false) = true)
        character inKeyword)
    · rcases mem_join inNames with space | ⟨part, inParts, inPart⟩
      · rw [List.mem_singleton.mp space]
        decide
      · by_contra breaks
        have spaced := isSpace_of_isBreak (by simpa using breaks)
        rw [(solid part inParts).2 character inPart] at spaced
        cases spaced
  have shape : ∃ before, acceptenvRule user names = before ++ '\n' ::
      (("    AcceptEnv ".toList ++ join [' '] names) ++ '\n' :: "Match all\n".toList) := by
    refine ⟨header ++ ("# The dispatch variables the panel sends, accepted for the " ++
      "runner account alone.\nMatch User ").toList ++ user, ?_⟩
    simp [acceptenvRule]
  obtain ⟨before, shaped⟩ := shape
  rw [acceptedNames, shaped, splitLines_append, splitLines_line unbroken, List.mem_flatMap]
  refine ⟨_, List.mem_append_right _ (List.mem_cons_self ..), ?_⟩
  rw [line]
  simpa using found

theorem quoted_plain {body : Text}
    (plain : ∀ character ∈ body, character ≠ '"' ∧ character ≠ '\\') (after : Text) :
    quoted (body ++ '"' :: after) = some body := by
  induction body with
  | nil => rfl
  | cons first rest ih =>
      have firstPlain := plain first (List.mem_cons_self ..)
      have restPlain : ∀ character ∈ rest, character ≠ '"' ∧ character ≠ '\\' :=
        fun character found => plain character (List.mem_cons_of_mem _ found)
      rw [List.cons_append, quoted.eq_5 _ _ (by simp [firstPlain.1])
        (by simp [firstPlain.2]) (by simp [firstPlain.2]), ih restPlain]
      rfl

/-- A generation's name: twelve lower case hex digits. -/
def IsGeneration (gen : Text) : Prop :=
  gen.length = 12 ∧ gen.all isHex = true

theorem commandOf_keyLine {entry : Text}
    (plain : ∀ character ∈ entry, character ≠ '"' ∧ character ≠ '\\') (pub : Text) :
    commandOf (keyLine entry pub false []) = some entry := by
  have line : keyLine entry pub false [] =
      "command=\"".toList ++ (entry ++ '"' :: (",restrict ".toList ++ pub)) := by
    simp [keyLine]
  have opened := @afterStart_eq_some "command=\"".toList (keyLine entry pub false [])
    (entry ++ '"' :: (",restrict ".toList ++ pub))
  rw [commandOf, commandHere, opened.mpr line, Option.bind_some, quoted_plain plain]
  rfl

theorem plain_of_isHex {character : Char} (hex : isHex character = true) :
    character ≠ '"' ∧ character ≠ '\\' := by
  constructor <;> rintro rfl <;> exact absurd hex (by decide)

theorem entryPath_plain {gen : Text} (named : IsGeneration gen) :
    ∀ character ∈ entryPath gen, character ≠ '"' ∧ character ≠ '\\' := by
  have literal {part : Text} (plain : part.all (fun character =>
      character != '"' && character != '\\') = true) :
      ∀ character ∈ part, character ≠ '"' ∧ character ≠ '\\' := by
    intro character found
    simpa using List.all_eq_true.mp plain character found
  intro character found
  simp only [entryPath, List.mem_append, List.mem_cons] at found
  rcases found with (inDir | rfl | inGen) | inEntry
  · exact literal (by decide) character inDir
  · decide
  · exact plain_of_isHex (List.all_eq_true.mp named.2 character inGen)
  · exact literal (by decide) character inEntry

theorem entryGeneration_entryPath {gen : Text} (named : IsGeneration gen) :
    entryGeneration (entryPath gen) = some gen := by
  have start : afterStart (generationsDir ++ ['/']) (entryPath gen) =
      some (gen ++ "/entry".toList) :=
    afterStart_eq_some.mpr (by simp [entryPath])
  unfold entryGeneration
  rw [start]
  have taken : (gen ++ "/entry".toList).take 12 = gen := by
    rw [← named.1, List.take_left]
  have dropped : (gen ++ "/entry".toList).drop 12 = "/entry".toList := by
    rw [← named.1, List.drop_left]
  simp only [taken, dropped, named.1, named.2, and_self, if_true]

/-- The line rendered for a generation runs it. -/
theorem runningGeneration_keyLine {gen : Text} (named : IsGeneration gen) (pub : Text) :
    runningGeneration (some (keyLine (entryPath gen) pub false [])) =
      .generation gen := by
  rw [runningGeneration, commandOf_keyLine (entryPath_plain named), Option.bind_some,
    entryGeneration_entryPath named]

theorem isAlphanum_of_isHex {character : Char} (hex : isHex character = true) :
    character.isAlphanum = true := by
  simp only [isHex, Bool.or_eq_true, Bool.and_eq_true, decide_eq_true_eq, Char.le_def,
    UInt32.le_iff_toNat_le] at hex
  simp only [Char.isAlphanum, Char.isAlpha, Char.isLower, Bool.or_eq_true,
    Bool.and_eq_true, decide_eq_true_eq, ge_iff_le, UInt32.le_iff_toNat_le]
  have last : ('f' : Char).val.toNat = 102 := rfl
  have lowerLast : ('z' : Char).val.toNat = 122 := rfl
  rcases hex with digit | ⟨low, high⟩
  · exact Or.inr digit
  · exact Or.inl (Or.inr ⟨low, by omega⟩)

theorem unbroken_of_isAlphanum {character : Char}
    (isLetter : character.isAlphanum = true) : isBreak character = false :=
  unbroken_of_printable (printable_of_isAlphanum isLetter).1
    (printable_of_isAlphanum isLetter).2

/-- The characters of a literal break no line. -/
theorem unbroken_of_all {part : Text}
    (unbroken : (part.all fun character => isBreak character == false) = true) :
    ∀ character ∈ part, isBreak character = false := by
  intro character found
  exact beq_iff_eq.mp (List.all_eq_true.mp unbroken character found)

theorem unbroken_of_isBase64 {character : Char} (found : isBase64 character = true) :
    isBreak character = false := by
  simp only [isBase64, Bool.or_eq_true, beq_iff_eq] at found
  rcases found with (letter | rfl) | rfl
  · exact unbroken_of_isAlphanum letter
  · decide
  · decide

theorem isKeyComment_unbroken {after : Text} (shape : isKeyComment after = true) :
    ∀ character ∈ after, isBreak character = false := by
  intro character found
  unfold isKeyComment at shape
  split at shape
  · cases found
  · rcases List.mem_cons.mp found with rfl | inComment
    · decide
    · rw [Bool.and_eq_true, List.all_eq_true] at shape
      have solid := shape.2 character inComment
      by_contra breaks
      rw [isSpace_of_isBreak (by simpa using breaks)] at solid
      cases solid
  · cases shape

theorem isPanelKey_unbroken {pub : Text} (isKey : isPanelKey pub = true) :
    ∀ character ∈ pub, isBreak character = false := by
  unfold isPanelKey at isKey
  split at isKey
  · rename_i rest started
    rw [afterStart_eq_some] at started
    subst started
    rw [Bool.and_eq_true] at isKey
    intro character found
    rcases List.mem_append.mp found with inStart | inRest
    · exact unbroken_of_all (by decide) character inStart
    · have parts := @List.takeWhile_append_dropWhile _ isBase64 rest
      have later := @List.takeWhile_append_dropWhile _ (· == '=') (rest.dropWhile isBase64)
      rw [← parts, ← later, List.mem_append, List.mem_append] at inRest
      rcases inRest with inKey | padding | inAfter
      · exact unbroken_of_isBase64 (List.mem_takeWhile_imp inKey)
      · have isPadding : character = '=' := by
          simpa using List.mem_takeWhile_imp padding
        rw [isPadding]
        decide
      · exact isKeyComment_unbroken isKey.2 character inAfter
  · cases isKey

theorem keyLine_unbroken {gen pub : Text} (named : IsGeneration gen)
    (isKey : isPanelKey pub = true) :
    ∀ character ∈ keyLine (entryPath gen) pub false [], isBreak character = false := by
  have line : keyLine (entryPath gen) pub false [] = "command=\"".toList ++
      (generationsDir ++ ('/' :: (gen ++ ("/entry\",restrict ".toList ++ pub)))) := by
    simp [keyLine, entryPath]
  intro character found
  rw [line, List.mem_append, List.mem_append, List.mem_cons, List.mem_append,
    List.mem_append] at found
  rcases found with inCommand | inDir | rfl | inGen | inEntry | inPub
  · exact unbroken_of_all (by decide) character inCommand
  · exact unbroken_of_all (by decide) character inDir
  · decide
  · exact unbroken_of_isAlphanum
      (isAlphanum_of_isHex (List.all_eq_true.mp named.2 character inGen))
  · exact unbroken_of_all (by decide) character inEntry
  · exact isPanelKey_unbroken isKey character inPub

/-- The runner's `authorized_keys` for a generation. -/
def panelKeys (gen pub : Text) : Text :=
  header ++ keyLine (entryPath gen) pub false [] ++ ['\n']

theorem mem_words_keyBlob {pub : Text} (nonempty : keyBlob pub ≠ []) :
    keyBlob pub ∈ words pub := by
  unfold keyBlob at nonempty ⊢
  split
  · rename_i found
    rw [found]
    simp
  · rename_i other
    split at nonempty
    · rename_i found
      exact absurd found (other _ _ _)
    · exact absurd rfl nonempty

theorem lineFor_panelKeys {gen pub : Text} (named : IsGeneration gen)
    (isKey : isPanelKey pub = true) (nonempty : keyBlob pub ≠ []) :
    lineFor (some (panelKeys gen pub)) (keyBlob pub) =
      some (keyLine (entryPath gen) pub false []) := by
  have comment : ∃ line, header = line ++ ['\n'] ∧ (line.all fun character =>
      isBreak character == false) = true ∧ ∀ blob, carries blob line = false := by
    refine ⟨("# Written by catena-ce reconcile/roles/dispatch_path " ++
      "(helpers/dispatch_path.py).").toList, by decide, by decide, ?_⟩
    intro blob
    have isComment : "#".toList.isPrefixOf
        (("# Written by catena-ce reconcile/roles/dispatch_path " ++
          "(helpers/dispatch_path.py).").toList.dropWhile isSpace) = true := by
      decide
    rw [carries, isComment]
    simp
  obtain ⟨line, ended, unbroken, skipped⟩ := comment
  have lines : splitLines (panelKeys gen pub) =
      [line, keyLine (entryPath gen) pub false []] := by
    rw [panelKeys, ended, List.append_assoc, List.append_assoc, List.singleton_append,
      splitLines_line (unbroken_of_all unbroken),
      splitLines_line (keyLine_unbroken named isKey)]
    rfl
  have command : keyLine (entryPath gen) pub false [] =
      ("command=\"".toList ++ entryPath gen ++ "\",restrict".toList) ++ ' ' :: pub := by
    simp [keyLine]
  have startsCommand : ∃ rest, keyLine (entryPath gen) pub false [] = 'c' :: rest :=
    ⟨_, by rw [command]; rfl⟩
  have carried : carries (keyBlob pub) (keyLine (entryPath gen) pub false []) = true := by
    obtain ⟨rest, starts⟩ := startsCommand
    have visible : 'c' ∈ stripChars isSpace (keyLine (entryPath gen) pub false []) :=
      mem_stripChars (by simp [starts]) (by decide)
    have blobWord : keyBlob pub ∈ words (keyLine (entryPath gen) pub false []) := by
      rw [command, words_append (by decide)]
      exact List.mem_append_right _ (mem_words_keyBlob nonempty)
    have notComment : "#".toList.isPrefixOf
        ((keyLine (entryPath gen) pub false []).dropWhile isSpace) = false := by
      rw [starts, List.dropWhile_cons_of_neg (by decide)]
      rfl
    rw [carries, notComment, List.contains_iff_mem.mpr blobWord]
    simp [List.ne_nil_of_mem visible]
  rw [lineFor, Option.getD_some, lines, List.find?_cons_of_neg (by simp [skipped]),
    List.find?_cons_of_pos carried]

/-- Lines added at the end leave the panel's line where it is. -/
theorem lineFor_append {keys blob line : Text} (clean : '\r' ∉ keys)
    (found : lineFor (some keys) blob = some line) (added : Text) :
    lineFor (some ((if keys.getLast? = some '\n' then keys else keys ++ ['\n']) ++ added))
      blob = some line := by
  have longer : splitLines keys <+:
      splitLines ((if keys.getLast? = some '\n' then keys else keys ++ ['\n']) ++ added) := by
    split
    · rename_i ended
      obtain ⟨before, whole⟩ := List.getLast?_eq_some_iff.mp ended
      have lines := splitLines_append before added
      rw [whole, List.append_assoc, List.singleton_append, lines]
      exact List.prefix_append _ _
    · rw [List.append_assoc, List.singleton_append]
      exact splitLines_prefix clean added
  obtain ⟨rest, whole⟩ := longer
  rw [lineFor, Option.getD_some] at found ⊢
  rw [← whole, List.find?_append, found]
  rfl

theorem lineFor_universal (keys blob : Text) :
    lineFor (some (universal keys)) blob = lineFor (some keys) blob := by
  rw [lineFor, lineFor, Option.getD_some, Option.getD_some, splitLines_universal]

end Catena.Dispatch
