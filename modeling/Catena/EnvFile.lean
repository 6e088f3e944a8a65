import Catena.PyDict
import Catena.PyLines
import Catena.PyTextForms

/-!
# The inventory's `.env`

`parse_env_pairs`, `emit_env` and `write_env` of `seed.py`, and the `dotenv`
lookup's `_load`.  The writer puts a value that holds one of six characters
into double quotes, with a backslash before each quote and each backslash; the
readers take the quotes off and leave the backslashes.
-/

namespace Catena.EnvFile

open PyText

abbrev Line := List Char

/-- The stripped key of a `KEY=value` line and what stands after its first
`=`; none for a blank line, a comment or a line without `=`. -/
def keyValue (raw : Line) : Option (Line × Line) :=
  let line := stripChars isSpace raw
  if line = [] ∨ line.head? = some '#' then none
  else (partition '=' line).map fun parts =>
    (stripChars isSpace parts.1, parts.2)

/-- A stripped value without the pair of equal quotes around it. -/
def unquoted (text : Line) : Line :=
  let value := stripChars isSpace text
  if 2 ≤ value.length ∧ value.head? = value.getLast? ∧
      (value.head? = some '"' ∨ value.head? = some '\'') then
    value.tail.dropLast
  else value

def pairOf (raw : Line) : Option (String × String) :=
  (keyValue raw).map fun parts => (String.ofList parts.1, String.ofList (unquoted parts.2))

def parseEnvPairs (text : List Char) : List (String × String) :=
  (splitLines text).filterMap pairOf

/-- `read_existing_env`: the file is opened as text. -/
def readExistingEnv (text : String) : PyDict String String :=
  PyDict.ofPairs (parseEnvPairs (universal text.toList))

def fileLines : List Char → List Line
  | [] => []
  | first :: rest =>
      if first = '\n' then ['\n'] :: fileLines rest
      else
        match fileLines rest with
        | [] => [[first]]
        | line :: lines => (first :: line) :: lines

/-- `_load` of the `dotenv` lookup. -/
def loadEnv (text : String) : PyDict String String :=
  PyDict.ofPairs ((fileLines (universal text.toList)).filterMap pairOf)

/-- The characters that make the writer quote a value. -/
def isSpecial (character : Char) : Bool :=
  character ∈ [' ', '\t', '#', '"', '\'', '$']

/-- `text.replace(old, new)` for a one-character `old`. -/
def replaceChar (old : Char) (new : Line) (text : Line) : Line :=
  text.flatMap fun character => if character = old then new else [character]

def escaped (value : Line) : Line :=
  replaceChar '"' ['\\', '"'] (replaceChar '\\' ['\\', '\\'] value)

/-- What stands after the `=` of an emitted line. -/
def rendered (value : Line) : Line :=
  if value.any isSpecial then '"' :: (escaped value ++ ['"']) else value

/-- `line` of `emit_env`. -/
def line (key value : String) : Line :=
  key.toList ++ '=' :: rendered value.toList

/-- The key of a template line that carries one. -/
def keyOf (raw : Line) : Option String :=
  (keyValue raw).map fun parts => String.ofList parts.1

def keysOf (template : String) : List String :=
  (splitLines template.toList).filterMap keyOf

/-- What `emit_env` reads of the file that is there. -/
def onDisk (target : Option String) : PyDict String String :=
  match target with
  | some text => readExistingEnv text
  | none => []

/-- The value `emit_env` gives a key of the template. -/
def chosen (values existing : PyDict String String) (key : String) : String :=
  match PyDict.get existing key with
  | some value => value
  | none => (PyDict.get values key).getD ""

def templateLine (value : String → String) (raw : Line) : Line :=
  match keyOf raw with
  | none => raw
  | some key => line key (value key)

/-- The lines of the file: the template's, with a value beside each key, and
the lines kept as found. -/
def layOut (template : List Line) (value : String → String)
    (extra : PyDict String String) : List Line :=
  template.map (templateLine value) ++
  (if extra = [] then []
    else [[], "# Not in the template, kept as found.".toList] ++
      extra.map fun item => line item.1 item.2)

/-- `"\n".join(out) + "\n"`. -/
def fileText (lines : List Line) : String :=
  String.ofList (join ['\n'] lines ++ ['\n'])

/-- The items of the file that the template does not carry. -/
def extras (template : String) (target : Option String) : PyDict String String :=
  (onDisk target).filter fun item => item.1 ∉ keysOf template

/-- `emit_env`: the text it writes over the one that is there. -/
def emitEnv (template : String) (values : PyDict String String) (keepExisting : Bool)
    (target : Option String) : String :=
  fileText (layOut (splitLines template.toList)
    (chosen values (if keepExisting then onDisk target else []))
    (extras template target))

/-- The registry behind `write_env`: the rendered template and `ENV_KEYS`. -/
structure Knobs where
  template : String
  envKeys : List (String × String)

/-- `{**first, **second}`. -/
def overlay (first second : PyDict String String) : PyDict String String :=
  second.foldl (fun merged item => PyDict.set merged item.1 item.2) first

def writeEnv (knobs : Knobs) (answers : PyDict String String)
    (target : Option String) : String :=
  emitEnv knobs.template (overlay (PyDict.ofPairs knobs.envKeys) answers) false target

/-- The value `emit_env` means a key of the file to have. -/
def meant (template : String) (values : PyDict String String) (keepExisting : Bool)
    (target : Option String) (key : String) : Option String :=
  if key ∈ keysOf template then
    some (chosen values (if keepExisting then onDisk target else []) key)
  else PyDict.get (extras template target) key

/-- The value `write_env` means a key of the file to have. -/
def meantAnswer (knobs : Knobs) (answers : PyDict String String)
    (target : Option String) : String → Option String :=
  meant knobs.template (overlay (PyDict.ofPairs knobs.envKeys) answers) false target

/-- A value that the readers give back as it was written: one that is quoted
holds no quote and no backslash, and one that is not has no blank end. -/
def Stable (value : String) : Prop :=
  if value.toList.any isSpecial then '"' ∉ value.toList ∧ '\\' ∉ value.toList
  else strip value = value

instance (value : String) : Decidable (Stable value) := by
  unfold Stable
  infer_instance

/-- No line of `str.splitlines` ends in the text. -/
def Unbroken (text : List Char) : Prop :=
  ∀ character ∈ text, isBreak character = false

instance (text : List Char) : Decidable (Unbroken text) :=
  List.decidableBAll _ text

end Catena.EnvFile
