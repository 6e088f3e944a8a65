import Catena.ImagePin
import Catena.PyLines
import Catena.PyWords
import Mathlib

/-!
# The proof of an ops session

`session_proof.py` licenses the hardening of sshd: the journal must record that
the account opened this connection with a key, and the key must be on the
account's `authorized_keys`.  It finds the record by a scan of the whole journal
and the keys by a tokenizer of its own, so that it agrees with sshd where no
other message quotes a record and both read the same keys.
-/

namespace Catena

namespace SessionProof

open PyText

abbrev Text := List Char

/-- A pattern read at the start of a text: what it captures, and the text after it. -/
abbrev Pattern (α : Type) := StateT Text Option α

def literal (expected : String) : Pattern Unit := fun text =>
  (afterStart expected.toList text).map ((), ·)

/-- One or more characters of a class, as many as there are. -/
def oneOrMore (inside : Char → Bool) : Pattern Text := fun text =>
  if text.takeWhile inside = [] then none
  else some (text.takeWhile inside, text.dropWhile inside)

/-- `pattern.finditer(text)` for a pattern that never reads the empty text, where
the next `skip` characters belong to the match before. -/
def finditer {α : Type} (pattern : Pattern α) : Nat → Text → List α
  | _, [] => []
  | skip + 1, _ :: rest => finditer pattern skip rest
  | 0, first :: rest =>
      match pattern.run (first :: rest) with
      | some (found, after) => found :: finditer pattern (rest.length - after.length) rest
      | none => finditer pattern 0 rest

/-- A line of a file, without what ends it. -/
abbrev lines (text : Text) : List Text :=
  splitOn '\n' text

/-- The groups of `_ACCEPTED`. -/
structure Accepted where
  user : Text
  addr : Text
  port : Text
  fp : Text
  deriving DecidableEq

/-- `\S`. -/
def nonSpace (character : Char) : Bool :=
  !isSpace character

def base64Char (character : Char) : Bool :=
  character.isAlphanum || character = '+' || character = '/'

section Journal

variable (digits : ImagePin.DecimalDigits)

def accepted : Pattern Accepted := do
  literal "Accepted publickey for "
  let user ← oneOrMore nonSpace
  literal " from "
  let addr ← oneOrMore nonSpace
  literal " port "
  let port ← oneOrMore fun character => (digits.value character).isSome
  literal " ssh2: "
  let _ ← oneOrMore nonSpace
  literal " SHA256:"
  let hash ← oneOrMore base64Char
  return ⟨user, addr, port, "SHA256:".toList ++ hash⟩

/-- Whether a record is one of this user and client endpoint. -/
def Accepted.isFor (user addr port : Text) (record : Accepted) : Bool :=
  (record.user, record.addr, record.port) = (user, addr, port)

def acceptedFingerprint (journal user addr port : Text) : Text :=
  (finditer (accepted digits) 0 journal).foldl
    (fun found record => if record.isFor user addr port then record.fp else found) []

end Journal

/-- The length of `[^\s"]` or `"[^"]*"` at the start of a text, `0` where neither
stands there. -/
def unit : Text → Nat
  | [] => 0
  | first :: rest =>
      if first = '"' then
        match partition '"' rest with
        | some (inside, _) => inside.length + 2
        | none => 0
      else if isSpace first then 0
      else 1

/-- The length of the longest run of units at the start of a text, where the next
`skip` characters belong to the unit before. -/
def unitsLength : Nat → Text → Nat
  | _, [] => 0
  | skip + 1, _ :: rest => unitsLength skip rest + 1
  | 0, first :: rest =>
      match unit (first :: rest) with
      | 0 => 0
      | more + 1 => unitsLength more rest + 1

/-- `(?:[^\s"]|"[^"]*")+`. -/
def token : Pattern Text := fun text =>
  if unitsLength 0 text = 0 then none
  else some (text.take (unitsLength 0 text), text.drop (unitsLength 0 text))

/-- `_KEY_TYPE.match(token)`. -/
def isKeyType (token : Text) : Bool :=
  "ssh-".toList.isPrefixOf token || "ecdsa-".toList.isPrefixOf token ||
    "sk-".toList.isPrefixOf token

def tokenAfterType : List Text → Option Text
  | type :: blob :: rest =>
      if isKeyType type then some blob else tokenAfterType (blob :: rest)
  | _ => none

/-- The blob a line of `authorized_fingerprints` is taken to hold. -/
def lineBlob (line : Text) : Option Text :=
  let line := stripChars isSpace line
  if line = [] || line.head? = some '#' then none
  else tokenAfterType (finditer token 0 line)

/-- The blobs whose fingerprints `authorized_fingerprints` takes. -/
def blobs (text : Text) : List Text :=
  (splitLines text).filterMap lineBlob

/-- `authorized_fingerprints`, for `fingerprint` with `none` where it raises
`ValueError`. -/
def authorizedFingerprints (fingerprint : Text → Option Text) (text : Text) : List Text :=
  (blobs text).filterMap fingerprint

/-- `prove`, for `repr` of a text. -/
def prove (digits : ImagePin.DecimalDigits) (repr : Text → Text)
    (fingerprint : Text → Option Text) (user sshConnection journal authorizedKeys : Text) :
    Bool × Text :=
  match words sshConnection with
  | [addr, port, _, _] =>
      let found := acceptedFingerprint digits journal user addr port
      if found = [] then
        (false, "sshd recorded no key login for ".toList ++ user ++ " from ".toList ++ addr ++
          " port ".toList ++ port ++ ": this session did not log in as ".toList ++ user ++
          " with a key".toList)
      else if found ∈ authorizedFingerprints fingerprint authorizedKeys then
        (true, user ++ " logged in from ".toList ++ addr ++ " with ".toList ++ found)
      else
        (false, user ++ " logged in with ".toList ++ found ++ ", which is not in ".toList ++
          user ++ "'s authorized_keys".toList)
  | _ => (false, "no SSH session to prove: SSH_CONNECTION is ".toList ++ repr sshConnection)

/-- A blank of sshd's files. -/
def blank (character : Char) : Bool :=
  character = ' ' || character = '\t'

def base64Space (character : Char) : Bool :=
  blank character || (10 ≤ character.toNat && character.toNat ≤ 13)

section Sshd

-- Whether sshd knows the key type and the blob holds a key of it.
variable (accepts : Text → Text → Bool)

/-- A key type, blanks and a blob that sshd takes for a key. -/
def keyAt (text : Text) : Option Text :=
  let type := text.takeWhile fun character => !blank character
  let after := (text.dropWhile fun character => !blank character).dropWhile blank
  let blob := (after.takeWhile fun character => !blank character).filter
    fun character => !base64Space character
  if after ≠ [] && accepts type blob then some blob else none

/-- What follows the options: they end at a blank outside quotes, and an escaped
quote is no quote. -/
def pastOptions (quoted : Bool) : Text → Option Text
  | [] => if quoted then none else some []
  | '\\' :: '"' :: rest => pastOptions quoted rest
  | first :: rest =>
      if !quoted && blank first then some (first :: rest)
      else pastOptions (if first = '"' then !quoted else quoted) rest

/-- The blob of the key on a line of `authorized_keys`. -/
def sshdKey (line : Text) : Option Text :=
  let text := line.dropWhile blank
  if text = [] || text.head? = some '#' then none
  else
    match keyAt accepts text with
    | some blob => some blob
    | none => (pastOptions false text).bind fun rest => keyAt accepts (rest.dropWhile blank)

def sshdKeys (text : Text) : List Text :=
  (lines text).filterMap (sshdKey accepts)

end Sshd

/-- The record a line starts with. -/
def startsWith (digits : ImagePin.DecimalDigits) (line : Text) : Option Accepted :=
  ((accepted digits).run line).map Prod.fst

/-- The fingerprint on the last of the records of this user and endpoint. -/
def lastFor (user addr port : Text) (records : List Accepted) : Option Text :=
  ((records.filter (Accepted.isFor user addr port)).getLast?).map Accepted.fp

/-- The fingerprint on the last line of the journal that is such a record. -/
def recorded (digits : ImagePin.DecimalDigits) (journal user addr port : Text) : Option Text :=
  lastFor user addr port ((lines journal).filterMap (startsWith digits))

/-- The fingerprint on the last text in a line of the journal that reads as such a
record, at the start of the line or after it. -/
def quoted (digits : ImagePin.DecimalDigits) (journal user addr port : Text) : Option Text :=
  lastFor user addr port ((lines journal).flatMap (finditer (accepted digits) 0))

/-- An `SSH_CONNECTION` of four fields. -/
structure Connection where
  text : Text
  addr : Text
  port : Text
  serverAddr : Text
  serverPort : Text
  fields : words text = [addr, port, serverAddr, serverPort]

/-- What `prove` is to find: sshd recorded that the user opened this connection
with a key, and reads that key among the user's keys. -/
def Proved (digits : ImagePin.DecimalDigits) (accepts : Text → Text → Bool)
    (fingerprint : Text → Option Text) (user : Text) (connection : Connection)
    (journal authorizedKeys : Text) : Prop :=
  ∃ print, recorded digits journal user connection.addr connection.port = some print ∧
    ∃ blob ∈ sshdKeys accepts authorizedKeys, fingerprint blob = some print

end SessionProof

end Catena
