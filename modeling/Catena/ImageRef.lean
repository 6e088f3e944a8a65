import Catena.LatestRelease

/-!
# Image references

`parse_ref` splits `registry/repo[:tag][@sha256:<hex>]` into its parts: the
digest at the first `@`, the tag at the last colon unless a slash follows, the
registry at the first slash if what stands before it looks like a host.  Each
split strips for itself, so blanks before a tag or a digest, slashes at the ends
of the repository, and a tag or a digest that is empty are passed over.
-/

namespace PyText

/-- What a text is stripped of stands at its ends. -/
theorem stripChars_split (drop : Char → Bool) (text : List Char) :
    ∃ front back, text = front ++ stripChars drop text ++ back ∧
      (∀ character ∈ front, drop character = true) ∧
      ∀ character ∈ back, drop character = true := by
  have whole : text = text.takeWhile drop ++ stripChars drop text ++
      ((text.dropWhile drop).reverse.takeWhile drop).reverse := by
    rw [stripChars, List.append_assoc, ← List.reverse_append, List.takeWhile_append_dropWhile,
      List.reverse_reverse, List.takeWhile_append_dropWhile]
  refine ⟨_, _, whole, fun character found => List.mem_takeWhile_imp found, ?_⟩
  intro character found
  exact List.mem_takeWhile_imp (List.mem_reverse.mp found)

/-- Where the first character stays, what a text is stripped of stands at its
end. -/
theorem stripChars_end {drop : Char → Bool} {text : List Char}
    (starts : ∀ character, text.head? = some character → drop character = false) :
    ∃ back, text = stripChars drop text ++ back ∧
      ∀ character ∈ back, drop character = true := by
  obtain ⟨front, back, whole, inFront, inBack⟩ := stripChars_split drop text
  cases front with
  | nil => exact ⟨back, whole, inBack⟩
  | cons first rest =>
      have stays := starts first (by rw [whole]; rfl)
      rw [inFront first (List.mem_cons_self ..)] at stays
      cases stays

/-- What is dropped anyway may stand at the start of a text. -/
theorem stripChars_dropped_append {drop : Char → Bool} {front : List Char}
    (dropped : ∀ character ∈ front, drop character = true) (text : List Char) :
    stripChars drop (front ++ text) = stripChars drop text := by
  rw [stripChars, stripChars, List.dropWhile_append_of_pos dropped]

/-- A text that ends in the separator has an empty last part. -/
theorem nil_mem_splitOn (separator : Char) (front : List Char) :
    [] ∈ (splitOn separator (front ++ [separator])).tail := by
  induction front with
  | nil => simp [splitOn]
  | cons first rest ih =>
      rw [List.cons_append, splitOn]
      cases parts : splitOn separator (rest ++ [separator]) with
      | nil => simp [parts] at ih
      | cons word words =>
          rw [parts] at ih
          split
          · exact List.mem_cons_of_mem _ ih
          · exact ih

end PyText

namespace Catena

namespace ImagePin

theorem splitLast_eq_none {separator : Char} {text : List Char} :
    splitLast separator text = none ↔ separator ∉ text := by
  induction text with
  | nil => simp [splitLast]
  | cons first rest ih =>
      rw [splitLast, List.mem_cons, not_or, ← ih]
      cases found : splitLast separator rest with
      | some parts => simp
      | none => simp [eq_comm]

theorem splitLast_eq_some {separator : Char} {text before after : List Char} :
    splitLast separator text = some (before, after) ↔
      text = before ++ separator :: after ∧ separator ∉ after := by
  induction text generalizing before with
  | nil => simp [splitLast]
  | cons first rest ih =>
      rw [splitLast]
      constructor
      · intro split
        cases found : splitLast separator rest with
        | some parts =>
            obtain ⟨front, back⟩ := parts
            rw [found] at split
            obtain ⟨rfl, rfl⟩ := Prod.mk.inj (Option.some.inj split)
            obtain ⟨whole, absent⟩ := ih.mp found
            exact ⟨by rw [whole, List.cons_append], absent⟩
        | none =>
            simp only [found, Option.ite_none_right_eq_some, Option.some.injEq,
              Prod.mk.injEq] at split
            obtain ⟨rfl, rfl, rfl⟩ := split
            exact ⟨rfl, splitLast_eq_none.mp found⟩
      · rintro ⟨whole, absent⟩
        cases before with
        | nil =>
            obtain ⟨rfl, rfl⟩ := List.cons.inj whole
            rw [splitLast_eq_none.mpr absent]
            exact if_pos rfl
        | cons head front =>
            obtain ⟨rfl, back⟩ := List.cons.inj whole
            rw [ih.mpr ⟨back, absent⟩]

end ImagePin

namespace ImageRef

open ImagePin LatestRelease

/-! ### The program -/

/-- `_DIGEST`: `sha256:` and 64 lower-case hexadecimal digits. -/
def isDigest (text : List Char) : Bool :=
  match PyText.afterStart "sha256:".toList text with
  | some hex => hex.length == 64 &&
      hex.all fun character => character.isDigit || ('a' ≤ character && character ≤ 'f')
  | none => false

/-- A character of `[A-Za-z0-9_]`. -/
def isTagStart (character : Char) : Bool :=
  character.isAlphanum || character == '_'

/-- `_TAG`: a character of `[A-Za-z0-9_]`, then at most 127 of `[A-Za-z0-9_.-]`. -/
def isTag : List Char → Bool
  | [] => false
  | first :: rest => isTagStart first && rest.length ≤ 127 &&
      rest.all fun character => isTagStart character || character == '.' || character == '-'

/-- `[A-Za-z0-9.-]+`. -/
def isHostName (text : List Char) : Bool :=
  !text.isEmpty && text.all fun character =>
    character.isAlphanum || character == '.' || character == '-'

/-- `_HOST`: a name and perhaps a port. -/
def isHost (text : List Char) : Bool :=
  match PyText.partition ':' text with
  | some (name, port) => isHostName name && PyText.isDigits port
  | none => isHostName text

/-- A character of `[a-z0-9]`. -/
def isLowerAlphanum (character : Char) : Bool :=
  character.isLower || character.isDigit

/-- `[a-z0-9]+(?:[._-]+[a-z0-9]+)*`: letters and digits with runs of separators
between them. -/
def isComponent (text : List Char) : Bool :=
  text.head?.any isLowerAlphanum && text.getLast?.any isLowerAlphanum &&
    text.all fun character => isLowerAlphanum character ||
      character == '.' || character == '_' || character == '-'

/-- `_PATH`: components between slashes. -/
def isPath (text : List Char) : Bool :=
  (PyText.splitOn '/' text).all isComponent

structure Ref where
  repository : List Char
  host : List Char
  path : List Char
  tag : List Char
  digest : List Char
  deriving DecidableEq

def Ref.name (ref : Ref) : List Char :=
  ref.repository ++ (if ref.tag = [] then [] else ':' :: ref.tag) ++
    (if ref.digest = [] then [] else '@' :: ref.digest)

/-- What stands before a separator and what stands after it; all of the text
and nothing where it does not occur. -/
def cut (separator : Char) (text : List Char) : List Char × List Char :=
  (PyText.partition separator text).getD (text, [])

/-- The image of a repository and a tag, split further. -/
def located (ref : String) (repository tag digest : List Char) : Except Failure Ref :=
  match splitRepository (String.ofList repository) with
  | .error failure => .error failure
  | .ok (host, path) =>
      if isHost host && isPath path && (tag.isEmpty || isTag tag) then
        .ok ⟨repository, host, path, tag, digest⟩
      else .error (.fetch (PyText.strip ref ++ " is not an image reference"))

def parseRef (ref : String) : Except Failure Ref :=
  let name := (cut '@' (PyText.strip ref).toList).1
  let digest := (cut '@' (PyText.strip ref).toList).2
  if name = [] then .error (.fetch "empty image reference")
  else if digest ≠ [] ∧ isDigest digest = false then
    .error (.fetch (PyText.strip ref ++ ": the digest is not sha256:<64 hex>"))
  else
    let parts := splitRef (String.ofList name)
    located ref parts.1 parts.2 digest

/-! ### The grammar -/

/-- A path, perhaps with a registry's host in front. -/
structure Repository where
  host : Option (List Char)
  path : List Char
  isHost : ∀ name ∈ host, isHost name = true
  isPath : isPath path = true

def Repository.text (repository : Repository) : List Char :=
  repository.host.elim repository.path (fun name => name ++ '/' :: repository.path)

/-- What `split_repository` takes for a registry's host. -/
def LooksLikeHost (head : List Char) : Prop :=
  '.' ∈ head ∨ ':' ∈ head ∨ head = "localhost".toList

instance (head : List Char) : Decidable (LooksLikeHost head) :=
  inferInstanceAs (Decidable (_ ∨ _ ∨ _))

/-- A first component that looks like a host is one, and any other is one of a path. -/
def Repository.Readable (repository : Repository) : Prop :=
  ∀ head rest, PyText.partition '/' repository.text = some (head, rest) →
    if LooksLikeHost head then ImageRef.isHost head = true else isComponent head = true

/-- What `split_repository` finds in it. -/
def Repository.split (repository : Repository) : List Char × List Char :=
  match PyText.partition '/' repository.text with
  | some (head, rest) =>
      if LooksLikeHost head then (head, rest)
      else ("registry-1.docker.io".toList, repository.text)
  | none => ("registry-1.docker.io".toList, repository.text)

/-- A reference as it is written: a repository with a tag and a digest, and
with slashes around the repository and blanks before the tag and the digest. -/
structure Written where
  repository : Repository
  tag : Option (List Char)
  digest : Option (List Char)
  isTag : ∀ text ∈ tag, text = [] ∨ isTag text = true
  isDigest : ∀ text ∈ digest, text = [] ∨ isDigest text = true
  leading : List Char
  trailing : List Char
  leadingSlashes : ∀ character ∈ leading, character = '/'
  trailingSlashes : ∀ character ∈ trailing, character = '/'
  beforeTag : List Char
  beforeDigest : List Char
  beforeTagBlank : ∀ character ∈ beforeTag, PyText.isSpace character = true
  beforeDigestBlank : ∀ character ∈ beforeDigest, PyText.isSpace character = true
  beforeNoTag : tag = none → beforeTag = []
  beforeNoDigest : digest = none → beforeDigest = []

namespace Written

/-- The repository with its slashes. -/
def front (written : Written) : List Char :=
  written.leading ++ written.repository.text ++ written.trailing

def beforeColon (written : Written) : List Char :=
  written.front ++ written.beforeTag

/-- The repository and its tag. -/
def named (written : Written) : List Char :=
  written.beforeColon ++ written.tag.elim [] (':' :: ·)

def text (written : Written) : List Char :=
  written.named ++ written.beforeDigest ++ written.digest.elim [] ('@' :: ·)

/-- No stray slash or blank, and no empty tag or digest: the grammar is
`repository[:tag][@digest]`. -/
structure Proper (written : Written) : Prop where
  leading : written.leading = []
  trailing : written.trailing = []
  beforeTag : written.beforeTag = []
  beforeDigest : written.beforeDigest = []
  tag : written.tag ≠ some []
  digest : written.digest ≠ some []

/-- What `parse_ref` makes of it. -/
def ref (written : Written) : Ref :=
  ⟨written.beforeColon, written.repository.split.1, written.repository.split.2,
    written.tag.getD [], written.digest.getD []⟩

end Written

/-! ### The characters of the parts -/

/-- A character of the parts: a letter, a digit, or one of `.`, `_`, `-`. -/
def isPartChar (character : Char) : Bool :=
  character.isAlphanum || character == '.' || character == '_' || character == '-'

/-- It is none of the characters the splits look for. -/
theorem solid_of_isPartChar {character : Char} (isPart : isPartChar character = true) :
    PyText.isSpace character = false ∧ character ≠ '/' ∧ character ≠ ':' ∧ character ≠ '@' := by
  refine ⟨?_, ?_, ?_, ?_⟩
  · simp only [isPartChar, Bool.or_eq_true, beq_iff_eq] at isPart
    rcases isPart with ((alphanum | rfl) | rfl) | rfl
    · have printable := PyText.printable_of_isAlphanum alphanum
      have noBlank : character ≠ ' ' := by
        rintro rfl
        exact absurd alphanum (by decide)
      have noCode : character.toNat ≠ 32 := by
        intro same
        exact noBlank (Char.toNat_inj.mp same)
      simp [PyText.isSpace]
      omega
    · decide
    · decide
    · decide
  · rintro rfl
    exact absurd isPart (by decide)
  · rintro rfl
    exact absurd isPart (by decide)
  · rintro rfl
    exact absurd isPart (by decide)

theorem parts_of_isHostName {text : List Char} (isName : isHostName text = true) :
    text ≠ [] ∧ ∀ character ∈ text, isPartChar character = true := by
  rw [isHostName, Bool.and_eq_true, Bool.not_eq_true', List.isEmpty_eq_false_iff,
    List.all_eq_true] at isName
  refine ⟨isName.1, fun character found => ?_⟩
  have allowed := isName.2 character found
  simp only [isPartChar, Bool.or_eq_true] at allowed ⊢
  tauto

theorem parts_of_isHost {text : List Char} (host : isHost text = true) :
    text ≠ [] ∧ ∀ character ∈ text, isPartChar character = true ∨ character = ':' := by
  unfold isHost at host
  split at host
  · rename_i name port split
    obtain ⟨rfl, _⟩ := PyText.partition_eq_some.mp split
    rw [Bool.and_eq_true] at host
    refine ⟨by simp, fun character found => ?_⟩
    rcases List.mem_append.mp found with inName | inPort
    · exact Or.inl ((parts_of_isHostName host.1).2 character inName)
    · rcases List.mem_cons.mp inPort with colon | inDigits
      · exact Or.inr colon
      · left
        have digits := host.2
        rw [PyText.isDigits, Bool.and_eq_true, List.all_eq_true] at digits
        simp [isPartChar, Char.isAlphanum, digits.2 character inDigits]
  · have parts := parts_of_isHostName host
    exact ⟨parts.1, fun character found => Or.inl (parts.2 character found)⟩

theorem lower_isPartChar {character : Char} (lower : isLowerAlphanum character = true) :
    isPartChar character = true := by
  simp only [isLowerAlphanum, Bool.or_eq_true] at lower
  simp only [isPartChar, Char.isAlphanum, Char.isAlpha, Bool.or_eq_true]
  tauto

theorem parts_of_isComponent {text : List Char} (component : isComponent text = true) :
    text ≠ [] ∧ ∀ character ∈ text, isPartChar character = true := by
  simp only [isComponent, Bool.and_eq_true, List.all_eq_true, Bool.or_eq_true] at component
  obtain ⟨⟨first, _⟩, allowed⟩ := component
  constructor
  · rintro rfl
    cases first
  · intro character found
    rcases allowed character found with ((lower | dot) | under) | dash
    · exact lower_isPartChar lower
    · simp [isPartChar, dot]
    · simp [isPartChar, under]
    · simp [isPartChar, dash]

/-- A path is characters of the parts and slashes, and has no slash at its
ends. -/
theorem parts_of_isPath {text : List Char} (path : isPath text = true) :
    text ≠ [] ∧ (∀ character ∈ text, isPartChar character = true ∨ character = '/') ∧
      text.head? ≠ some '/' ∧ text.getLast? ≠ some '/' := by
  rw [isPath, List.all_eq_true] at path
  have noEmpty : [] ∉ PyText.splitOn '/' text := fun found => absurd (path _ found) (by decide)
  refine ⟨?_, ?_, ?_, ?_⟩
  · rintro rfl
    exact noEmpty (List.mem_singleton.mpr rfl)
  · intro character found
    rcases PyText.mem_splitOn '/' found with slash | ⟨part, inParts, inPart⟩
    · exact Or.inr slash
    · exact Or.inl ((parts_of_isComponent (path part inParts)).2 character inPart)
  · intro starts
    obtain ⟨rest, rfl⟩ := List.head?_eq_some_iff.mp starts
    rw [PyText.splitOn, if_pos rfl] at noEmpty
    exact noEmpty (List.mem_cons_self ..)
  · intro ends
    obtain ⟨before, rfl⟩ := List.getLast?_eq_some_iff.mp ends
    exact noEmpty (List.mem_of_mem_tail (PyText.nil_mem_splitOn '/' before))

theorem parts_of_isTag {text : List Char} (tag : isTag text = true) :
    text ≠ [] ∧ ∀ character ∈ text, isPartChar character = true := by
  cases text with
  | nil => cases tag
  | cons first rest =>
      simp only [isTag, Bool.and_eq_true, List.all_eq_true, Bool.or_eq_true] at tag
      obtain ⟨⟨start, _⟩, allowed⟩ := tag
      have ofStart {character : Char} (starts : isTagStart character = true) :
          isPartChar character = true := by
        simp only [isTagStart, Bool.or_eq_true] at starts
        simp only [isPartChar, Bool.or_eq_true]
        tauto
      refine ⟨List.cons_ne_nil _ _, fun character found => ?_⟩
      rcases List.mem_cons.mp found with rfl | later
      · exact ofStart start
      · rcases allowed character later with (inStart | dot) | dash
        · exact ofStart inStart
        · simp [isPartChar, dot]
        · simp [isPartChar, dash]

/-! ### The splits of a reference -/

/-- A repository's text has no blank and no `@`, no slash at its ends, and a
slash after each colon. -/
theorem Repository.text_solid (repository : Repository) :
    repository.text ≠ [] ∧
      (∀ character ∈ repository.text, PyText.isSpace character = false ∧ character ≠ '@') ∧
      repository.text.head? ≠ some '/' ∧ repository.text.getLast? ≠ some '/' := by
  obtain ⟨nonempty, inPath, first, last⟩ := parts_of_isPath repository.isPath
  have pathSolid : ∀ character ∈ repository.path,
      PyText.isSpace character = false ∧ character ≠ '@' := by
    intro character found
    rcases inPath character found with isPart | rfl
    · exact ⟨(solid_of_isPartChar isPart).1, (solid_of_isPartChar isPart).2.2.2⟩
    · decide
  cases host : repository.host with
  | none =>
      have text : repository.text = repository.path := by rw [Repository.text, host]; rfl
      rw [text]
      exact ⟨nonempty, pathSolid, first, last⟩
  | some name =>
      have text : repository.text = name ++ '/' :: repository.path := by
        rw [Repository.text, host]; rfl
      obtain ⟨named, inName⟩ := parts_of_isHost (repository.isHost name host)
      rw [text]
      refine ⟨by simp, ?_, ?_, ?_⟩
      · intro character found
        rcases List.mem_append.mp found with inHost | inRest
        · rcases inName character inHost with isPart | rfl
          · exact ⟨(solid_of_isPartChar isPart).1, (solid_of_isPartChar isPart).2.2.2⟩
          · decide
        · rcases List.mem_cons.mp inRest with rfl | later
          · decide
          · exact pathSolid character later
      · obtain ⟨head, rest, rfl⟩ := List.exists_cons_of_ne_nil named
        intro starts
        obtain rfl : head = '/' := Option.some.inj starts
        rcases inName '/' (List.mem_cons_self ..) with isPart | colon
        · exact (solid_of_isPartChar isPart).2.1 rfl
        · exact absurd colon (by decide)
      · rw [List.getLast?_append_of_ne_nil _ (List.cons_ne_nil _ _),
          List.getLast?_cons_of_ne_nil nonempty]
        exact last

theorem Repository.slash_after_colon (repository : Repository) {before after : List Char}
    (whole : repository.text = before ++ ':' :: after) : '/' ∈ after := by
  have inPath := (parts_of_isPath repository.isPath).2.1
  have noColon : ':' ∉ repository.path := by
    intro found
    rcases inPath ':' found with isPart | slash
    · exact (solid_of_isPartChar isPart).2.2.1 rfl
    · exact absurd slash (by decide)
  cases host : repository.host with
  | none =>
      have text : repository.text = repository.path := by rw [Repository.text, host]; rfl
      rw [text] at whole
      exact absurd (whole ▸ List.mem_append_right _ (List.mem_cons_self ..)) noColon
  | some name =>
      have text : repository.text = name ++ '/' :: repository.path := by
        rw [Repository.text, host]; rfl
      rw [text] at whole
      have ofPath : '/' :: repository.path <:+ before ++ ':' :: after :=
        whole ▸ List.suffix_append ..
      have ofColon : ':' :: after <:+ before ++ ':' :: after := List.suffix_append ..
      rcases List.suffix_or_suffix_of_suffix ofPath ofColon with inside | inside
      · rcases List.mem_cons.mp (inside.subset (List.mem_cons_self ..)) with same | found
        · exact absurd same (by decide)
        · exact found
      · rcases List.mem_cons.mp (inside.subset (List.mem_cons_self ..)) with same | found
        · exact absurd same (by decide)
        · exact absurd found noColon

theorem isPath_append {head rest : List Char} (noSlash : '/' ∉ head) :
    isPath (head ++ '/' :: rest) = (isComponent head && isPath rest) := by
  rw [isPath, PyText.splitOn_append noSlash, List.all_cons, isPath]

/-- What stands after the first slash is a path. -/
theorem Repository.isPath_rest (repository : Repository) {head rest : List Char}
    (parts : PyText.partition '/' repository.text = some (head, rest)) :
    ImageRef.isPath rest = true := by
  cases host : repository.host with
  | none =>
      have text : repository.text = repository.path := by rw [Repository.text, host]; rfl
      obtain ⟨whole, noSlash⟩ := PyText.partition_eq_some.mp parts
      have path := repository.isPath
      rw [← text, whole, isPath_append noSlash, Bool.and_eq_true] at path
      exact path.2
  | some name =>
      have text : repository.text = name ++ '/' :: repository.path := by
        rw [Repository.text, host]; rfl
      have noSlash : '/' ∉ name := by
        intro found
        rcases (parts_of_isHost (repository.isHost name host)).2 '/' found with isPart | colon
        · exact (solid_of_isPartChar isPart).2.1 rfl
        · exact absurd colon (by decide)
      rw [text, PyText.partition_eq_some.mpr ⟨rfl, noSlash⟩] at parts
      rw [← (Prod.mk.inj (Option.some.inj parts)).2]
      exact repository.isPath

/-- The parts of a readable repository are of their forms. -/
theorem Repository.readable_iff (repository : Repository) : repository.Readable ↔
    (ImageRef.isHost repository.split.1 && ImageRef.isPath repository.split.2) = true := by
  have docker : ImageRef.isHost "registry-1.docker.io".toList = true := by decide
  cases parts : PyText.partition '/' repository.text with
  | none =>
      have path : ImageRef.isPath repository.text = true := by
        cases host : repository.host with
        | none =>
            rw [Repository.text, host]
            exact repository.isPath
        | some name =>
            have slash : '/' ∈ repository.text := by
              rw [Repository.text, host]
              exact List.mem_append_right _ List.mem_cons_self
            obtain ⟨before, after, whole, absent⟩ := List.eq_append_cons_of_mem slash
            rw [PyText.partition_eq_some.mpr ⟨whole, absent⟩] at parts
            cases parts
      rw [Readable, Repository.split, parts]
      dsimp only
      rw [docker, path]
      simp
  | some cuts =>
      obtain ⟨head, rest⟩ := cuts
      obtain ⟨whole, noSlash⟩ := PyText.partition_eq_some.mp parts
      have path := repository.isPath_rest parts
      have only : repository.Readable ↔
          if LooksLikeHost head then ImageRef.isHost head = true else isComponent head = true := by
        constructor
        · intro readable
          exact readable head rest parts
        · intro form first others found
          rw [parts] at found
          obtain ⟨rfl, rfl⟩ := Prod.mk.inj (Option.some.inj found)
          exact form
      rw [only, Repository.split, parts]
      dsimp only
      by_cases looks : LooksLikeHost head
      · rw [if_pos looks, if_pos looks, path, Bool.and_true]
      · rw [if_neg looks, if_neg looks, docker, whole, isPath_append noSlash, path,
          Bool.and_true, Bool.true_and]

/-- `_split_ref` splits what stands before the first `@`. -/
theorem splitRef_eq (ref : String) : splitRef ref =
    if PyText.strip ref = "" then ([], [])
    else
      match splitLast ':' (cut '@' (PyText.strip ref).toList).1 with
      | none => ((cut '@' (PyText.strip ref).toList).1, [])
      | some (repository, tag) =>
          if '/' ∈ tag then ((cut '@' (PyText.strip ref).toList).1, []) else (repository, tag) := by
  unfold splitRef cut
  dsimp only
  by_cases empty : PyText.strip ref = ""
  · rw [if_pos empty, if_pos empty]
  · rw [if_neg empty, if_neg empty]
    rcases PyText.partition '@' (PyText.strip ref).toList with _ | ⟨before, after⟩
    · rcases split : splitLast ':' (PyText.strip ref).toList with _ | ⟨repository, tag⟩
      · simp only [Option.getD_none, split]
      · simp only [Option.getD_none, split]
    · rcases split : splitLast ':' before with _ | ⟨repository, tag⟩
      · simp only [Option.getD_some, split]
      · simp only [Option.getD_some, split]

namespace Written

variable (written : Written)

theorem front_solid : written.front ≠ [] ∧ ∀ character ∈ written.front,
    PyText.isSpace character = false ∧ character ≠ '@' := by
  obtain ⟨nonempty, solid, _⟩ := written.repository.text_solid
  constructor
  · simp [front, nonempty]
  · intro character found
    rw [front, List.mem_append, List.mem_append] at found
    rcases found with (leads | inText) | trails
    · rw [written.leadingSlashes character leads]
      decide
    · exact solid character inText
    · rw [written.trailingSlashes character trails]
      decide

theorem strip_slashes : PyText.stripChars (fun character => character = '/') written.front =
    written.repository.text := by
  obtain ⟨_, _, first, last⟩ := written.repository.text_solid
  rw [front, PyText.stripChars_append_dropped
      (fun character found => by simpa using written.trailingSlashes character found),
    PyText.stripChars_dropped_append
      (fun character found => by simpa using written.leadingSlashes character found)]
  apply PyText.stripChars_of_ends
  · rintro character starts
    simp only [decide_eq_false_iff_not]
    rintro rfl
    exact first starts
  · rintro character ends
    simp only [decide_eq_false_iff_not]
    rintro rfl
    exact last ends

theorem strip_front : PyText.stripChars PyText.isSpace written.front = written.front := by
  have solid := written.front_solid.2
  apply PyText.stripChars_of_ends
  · intro character starts
    exact (solid character (List.mem_of_mem_head? starts)).1
  · intro character ends
    exact (solid character (List.mem_of_getLast? ends)).1

theorem strip_beforeColon :
    PyText.stripChars PyText.isSpace written.beforeColon = written.front := by
  rw [beforeColon, PyText.stripChars_append_dropped written.beforeTagBlank, strip_front]

/-- A tag holds none of the characters the splits look for. -/
theorem tag_solid {tag : List Char} (tagged : written.tag = some tag) : ∀ character ∈ tag,
    PyText.isSpace character = false ∧ character ≠ '/' ∧ character ≠ ':' ∧ character ≠ '@' := by
  intro character found
  rcases written.isTag tag tagged with rfl | form
  · cases found
  · exact solid_of_isPartChar ((parts_of_isTag form).2 character found)

theorem strip_named : PyText.stripChars PyText.isSpace written.named = written.named := by
  obtain ⟨nonempty, solid⟩ := written.front_solid
  obtain ⟨first, rest, whole⟩ := List.exists_cons_of_ne_nil nonempty
  apply PyText.stripChars_of_ends
  · intro character starts
    rw [named, beforeColon, whole] at starts
    obtain rfl : first = character := Option.some.inj starts
    exact (solid first (whole ▸ List.mem_cons_self ..)).1
  · intro character ends
    cases tagged : written.tag with
    | none =>
        rw [named, beforeColon, tagged, written.beforeNoTag tagged] at ends
        simp only [List.append_nil, Option.elim_none] at ends
        exact (solid character (List.mem_of_getLast? ends)).1
    | some tag =>
        rw [named, tagged, Option.elim_some,
          List.getLast?_append_of_ne_nil _ (List.cons_ne_nil _ _)] at ends
        rcases List.mem_cons.mp (List.mem_of_getLast? ends) with rfl | inTag
        · decide
        · exact (written.tag_solid tagged character inTag).1

theorem named_ne_nil : written.named ≠ [] := by
  simp [named, beforeColon, written.front_solid.1]

/-- The name in front of the digest. -/
def name : List Char :=
  written.named ++ written.beforeDigest

theorem at_notMem_name : '@' ∉ written.name := by
  have ofBlank {blanks : List Char}
      (blank : ∀ character ∈ blanks, PyText.isSpace character = true) : '@' ∉ blanks :=
    fun found => absurd (blank '@' found) (by decide)
  rw [name, named, beforeColon, List.mem_append, List.mem_append, List.mem_append]
  rintro (((inFront | inBlank) | inTag) | inBlank)
  · exact (written.front_solid.2 '@' inFront).2 rfl
  · exact ofBlank written.beforeTagBlank inBlank
  · cases tagged : written.tag with
    | none =>
        rw [tagged] at inTag
        cases inTag
    | some tag =>
        rw [tagged] at inTag
        rcases List.mem_cons.mp inTag with same | found
        · exact absurd same (by decide)
        · exact (written.tag_solid tagged '@' found).2.2.2 rfl
  · exact ofBlank written.beforeDigestBlank inBlank

theorem partition_text : PyText.partition '@' written.text =
    written.digest.map fun digest => (written.name, digest) := by
  have text : written.text = written.name ++ written.digest.elim [] ('@' :: ·) := rfl
  rw [text]
  cases written.digest with
  | none =>
      simpa using PyText.partition_of_notMem written.at_notMem_name
  | some digest => exact PyText.partition_eq_some.mpr ⟨rfl, written.at_notMem_name⟩

theorem cut_text : cut '@' written.text = (written.name, written.digest.getD []) := by
  rw [cut, partition_text]
  cases digest : written.digest with
  | none => simp [text, name, digest]
  | some _ => rfl

theorem strip_name : PyText.stripChars PyText.isSpace written.name = written.named := by
  rw [name, PyText.stripChars_append_dropped written.beforeDigestBlank, strip_named]

theorem splitLast_named :
    (∀ tag, written.tag = some tag →
      splitLast ':' written.named = some (written.beforeColon, tag) ∧ '/' ∉ tag) ∧
    (written.tag = none → ∀ before after,
      splitLast ':' written.named = some (before, after) → '/' ∈ after) := by
  constructor
  · intro tag tagged
    have solid := written.tag_solid tagged
    constructor
    · apply splitLast_eq_some.mpr
      exact ⟨by rw [named, tagged]; rfl, fun found => (solid ':' found).2.2.1 rfl⟩
    · exact fun found => (solid '/' found).2.1 rfl
  · intro tagged before after split
    obtain ⟨whole, _⟩ := splitLast_eq_some.mp split
    rw [named, beforeColon, tagged, written.beforeNoTag tagged, Option.elim_none,
      List.append_nil, List.append_nil, front] at whole
    have noColon {slashes : List Char} (all : ∀ character ∈ slashes, character = '/') :
        ':' ∉ slashes := fun found => absurd (all ':' found) (by decide)
    have colon {rest : List Char} : ':' ∈ rest ++ ':' :: after :=
      List.mem_append_right _ (List.mem_cons_self ..)
    rcases List.append_eq_append_iff.mp whole with ⟨middle, _, trails⟩ | ⟨middle, inside, back⟩
    · exact absurd (trails ▸ colon) (noColon written.trailingSlashes)
    · cases middle with
      | nil =>
          have trails : ':' :: after = written.trailing := back
          exact absurd (trails ▸ List.mem_cons_self ..) (noColon written.trailingSlashes)
      | cons first middle =>
          obtain ⟨rfl, rfl⟩ := List.cons.inj back
          rcases List.append_eq_append_iff.mp inside with ⟨start, _, text⟩ | ⟨start, leads, text⟩
          · exact List.mem_append_left _ (written.repository.slash_after_colon text)
          · cases start with
            | nil =>
                exact List.mem_append_left _
                  (@Repository.slash_after_colon written.repository [] middle text.symm)
            | cons character start =>
                obtain ⟨rfl, _⟩ := List.cons.inj text
                exact absurd (leads ▸ List.mem_append_right _ (List.mem_cons_self ..))
                  (noColon written.leadingSlashes)

/-- `_split_ref` of a text that is the name up to a digest. -/
theorem splitRef_of_named {ref : String} (before : (cut '@' (PyText.strip ref).toList).1 =
    written.named) : splitRef ref = (written.beforeColon, written.tag.getD []) := by
  have nonempty : PyText.strip ref ≠ "" := by
    intro empty
    rw [empty] at before
    exact written.named_ne_nil before.symm
  obtain ⟨ofTag, ofNone⟩ := written.splitLast_named
  rw [splitRef_eq, if_neg nonempty, before]
  cases tagged : written.tag with
  | some tag =>
      obtain ⟨split, noSlash⟩ := ofTag tag tagged
      rw [split]
      exact if_neg noSlash
  | none =>
      have whole : written.named = written.beforeColon := by
        rw [Written.named, tagged]
        exact List.append_nil _
      cases split : splitLast ':' written.named with
      | none => rw [whole]; rfl
      | some parts =>
          obtain ⟨front, back⟩ := parts
          dsimp only
          rw [if_pos (ofNone tagged front back split), whole]
          rfl

/-- `split_repository` of the repository as it is written. -/
theorem splitRepository_beforeColon :
    splitRepository (String.ofList written.beforeColon) = .ok written.repository.split := by
  have named : PyText.stripChars (fun character => decide (character = '/'))
      (PyText.stripChars PyText.isSpace (String.ofList written.beforeColon).toList) =
      written.repository.text := by
    rw [String.toList_ofList, strip_beforeColon, strip_slashes]
  rw [splitRepository, named, if_neg written.repository.text_solid.1, Repository.split]
  cases parts : PyText.partition '/' written.repository.text with
  | none => rfl
  | some cuts =>
      obtain ⟨head, rest⟩ := cuts
      have nonempty := (parts_of_isPath (written.repository.isPath_rest parts)).1
      dsimp only
      by_cases looks : LooksLikeHost head
      · rw [if_pos looks]
        exact if_pos ⟨nonempty, looks⟩
      · rw [if_neg looks]
        exact if_neg fun both => looks both.2

/-- `parse_ref` reads a reference as it is written, if it finds the parts of its repository. -/
theorem parseRef_eq {ref : String} (reads : (PyText.strip ref).toList = written.text) :
    parseRef ref =
      if ImageRef.isHost written.repository.split.1 && ImageRef.isPath written.repository.split.2
      then .ok written.ref
      else .error (.fetch (PyText.strip ref ++ " is not an image reference")) := by
  have nameNonempty : written.name ≠ [] := by
    simp [name, written.named_ne_nil]
  have digestForm : ¬(written.digest.getD [] ≠ [] ∧
      ImageRef.isDigest (written.digest.getD []) = false) := by
    rintro ⟨nonempty, other⟩
    cases digest : written.digest with
    | none => simp [digest] at nonempty
    | some text =>
        rw [digest, Option.getD_some] at nonempty other
        rcases written.isDigest text digest with empty | form
        · exact nonempty empty
        · rw [form] at other
          cases other
  have tagForm : ((written.tag.getD []).isEmpty || ImageRef.isTag (written.tag.getD [])) = true := by
    cases tag : written.tag with
    | none => rfl
    | some text =>
        rcases written.isTag text tag with rfl | form
        · rfl
        · simp [form]
  have parts : splitRef (String.ofList written.name) =
      (written.beforeColon, written.tag.getD []) := by
    apply written.splitRef_of_named
    have noAt : '@' ∉ written.named := fun found =>
      written.at_notMem_name (List.mem_append_left _ found)
    rw [PyText.strip, String.toList_ofList, String.toList_ofList, strip_name, cut,
      PyText.partition_of_notMem noAt]
    rfl
  rw [parseRef, reads, cut_text]
  dsimp only
  rw [if_neg nameNonempty, if_neg digestForm, parts, located, splitRepository_beforeColon]
  dsimp only
  rw [tagForm, Bool.and_true]
  rfl

/-- `parse_ref` accepts the readable ones. -/
theorem parseRef_written (readable : written.repository.Readable) {ref : String}
    (reads : (PyText.strip ref).toList = written.text) : parseRef ref = .ok written.ref := by
  rw [written.parseRef_eq reads]
  exact if_pos (written.repository.readable_iff.mp readable)

theorem readable_of_parsed {ref : String} (reads : (PyText.strip ref).toList = written.text)
    {image : Ref} (parsed : parseRef ref = .ok image) : written.repository.Readable := by
  rw [written.parseRef_eq reads] at parsed
  split at parsed
  · rename_i forms
    exact written.repository.readable_iff.mpr forms
  · cases parsed

end Written

/-! ### What is accepted is written so -/

theorem repository_of_split {text host path : List Char}
    (split : splitRepository (String.ofList text) = .ok (host, path))
    (hostForm : isHost host = true) (pathForm : isPath path = true) :
    ∃ repository : Repository, repository.text =
      PyText.stripChars (fun character => decide (character = '/'))
        (PyText.stripChars PyText.isSpace text) := by
  rw [splitRepository, String.toList_ofList] at split
  generalize PyText.stripChars (fun character => decide (character = '/'))
    (PyText.stripChars PyText.isSpace text) = named at split
  split at split
  · cases split
  · cases parts : PyText.partition '/' named with
    | none =>
        rw [parts] at split
        obtain ⟨rfl, rfl⟩ := Prod.mk.inj (Except.ok.inj split)
        exact ⟨⟨none, named, by simp, pathForm⟩, rfl⟩
    | some cuts =>
        obtain ⟨head, rest⟩ := cuts
        obtain ⟨whole, _⟩ := PyText.partition_eq_some.mp parts
        rw [parts] at split
        dsimp only at split
        split at split
        · obtain ⟨rfl, rfl⟩ := Prod.mk.inj (Except.ok.inj split)
          exact ⟨⟨some head, rest, by simpa using hostForm, pathForm⟩, whole.symm⟩
        · obtain ⟨rfl, rfl⟩ := Prod.mk.inj (Except.ok.inj split)
          exact ⟨⟨none, named, by simp, pathForm⟩, rfl⟩

theorem located_eq_ok {ref : String} {repository tag digest : List Char} {image : Ref}
    (found : located ref repository tag digest = .ok image) :
    ∃ host path, splitRepository (String.ofList repository) = .ok (host, path) ∧
      isHost host = true ∧ isPath path = true ∧ (tag = [] ∨ isTag tag = true) := by
  rw [located] at found
  split at found
  · cases found
  · rename_i host path split
    split at found
    · rename_i forms
      simp only [Bool.and_eq_true, Bool.or_eq_true, List.isEmpty_iff] at forms
      exact ⟨host, path, split, forms.1.1, forms.1.2, forms.2⟩
    · cases found

/-- A name that is located is written with a repository and perhaps a tag. -/
theorem written_of_located {ref : String} {name digest : List Char} {image : Ref}
    (starts : ∀ character, name.head? = some character → PyText.isSpace character = false)
    (noAt : '@' ∉ name)
    (found : located ref (splitRef (String.ofList name)).1 (splitRef (String.ofList name)).2
      digest = .ok image) :
    ∃ written : Written, written.digest = none ∧
      written.named = PyText.stripChars PyText.isSpace name := by
  obtain ⟨back, whole, blank⟩ := PyText.stripChars_end starts
  have noAtNamed : '@' ∉ PyText.stripChars PyText.isSpace name := fun inside =>
    noAt (PyText.of_mem_stripChars inside)
  have namedStarts : ∀ character, (PyText.stripChars PyText.isSpace name).head? = some character →
      PyText.isSpace character = false := fun _ => PyText.first_stripChars
  have stripped : PyText.stripChars PyText.isSpace (PyText.stripChars PyText.isSpace name) =
      PyText.stripChars PyText.isSpace name := PyText.stripChars_stripChars _ _
  have cutName : (cut '@' (PyText.strip (String.ofList name)).toList).1 =
      PyText.stripChars PyText.isSpace name := by
    rw [PyText.strip, String.toList_ofList, String.toList_ofList, cut,
      PyText.partition_of_notMem noAtNamed]
    rfl
  rw [splitRef_eq, cutName] at found
  generalize PyText.stripChars PyText.isSpace name = named at *
  -- the repository that is split, and the tag behind it
  have build {repository tag : List Char} {given : Option (List Char)}
      (image_ : located ref repository tag digest = .ok image) (isGiven : given.getD [] = tag)
      (text : named = repository ++ given.elim [] (':' :: ·))
      (noTag : given = none → PyText.stripChars PyText.isSpace repository = repository) :
      ∃ written : Written, written.digest = none ∧ written.named = named := by
    obtain ⟨host, path, split, hostForm, pathForm, tagForm⟩ := located_eq_ok image_
    obtain ⟨parsed, parsedText⟩ := repository_of_split split hostForm pathForm
    have repositoryStarts : ∀ character, repository.head? = some character →
        PyText.isSpace character = false := by
      intro character heads
      apply namedStarts character
      rw [text, List.head?_append, heads]
      rfl
    obtain ⟨beforeTag, repositoryWhole, beforeBlank⟩ := PyText.stripChars_end repositoryStarts
    obtain ⟨leading, trailing, slashed, leads, trails⟩ := PyText.stripChars_split
      (fun character => decide (character = '/')) (PyText.stripChars PyText.isSpace repository)
    refine ⟨⟨parsed, given, none, ?_, by simp, leading, trailing,
      fun character inside => by simpa using leads character inside,
      fun character inside => by simpa using trails character inside, beforeTag, [],
      beforeBlank, by simp, ?_, fun _ => rfl⟩, rfl, ?_⟩
    · rintro present rfl
      rw [Option.getD_some] at isGiven
      exact isGiven ▸ tagForm
    · intro absent
      rw [noTag absent] at repositoryWhole
      simpa using repositoryWhole
    · have together : leading ++ parsed.text ++ trailing ++ beforeTag = repository := by
        rw [parsedText, ← slashed, ← repositoryWhole]
      change (leading ++ parsed.text ++ trailing ++ beforeTag) ++ given.elim [] (':' :: ·) = named
      rw [together, text]
  split at found
  · -- nothing is left of the name
    rename_i empty
    obtain ⟨host, path, split, _⟩ := located_eq_ok found
    cases split
  · cases split : splitLast ':' named with
    | none =>
        rw [split] at found
        exact @build named [] none found rfl (List.append_nil _).symm fun _ => stripped
    | some parts =>
        obtain ⟨front, after⟩ := parts
        rw [split] at found
        dsimp only at found
        split at found
        · exact @build named [] none found rfl (List.append_nil _).symm fun _ => stripped
        · exact @build front after (some after) found rfl (splitLast_eq_some.mp split).1 (by simp)

/-- What `parse_ref` accepts is a reference as it is written. -/
theorem written_of_parseRef {ref : String} {image : Ref} (parsed : parseRef ref = .ok image) :
    ∃ written : Written, written.text = (PyText.strip ref).toList := by
  have stripped : PyText.stripChars PyText.isSpace (PyText.strip ref).toList =
      (PyText.strip ref).toList := by
    rw [PyText.strip, String.toList_ofList]
    exact PyText.stripChars_stripChars _ _
  have firstStays : ∀ character, (PyText.strip ref).toList.head? = some character →
      PyText.isSpace character = false := by
    intro character starts
    rw [← stripped] at starts
    exact PyText.first_stripChars starts
  rw [parseRef] at parsed
  dsimp only at parsed
  split at parsed
  · cases parsed
  · rename_i nonempty
    split at parsed
    · cases parsed
    · rename_i digestForm
      cases split : PyText.partition '@' (PyText.strip ref).toList with
      | none =>
          have cuts : cut '@' (PyText.strip ref).toList = ((PyText.strip ref).toList, []) := by
            rw [cut, split]
            rfl
          have noAt : '@' ∉ (PyText.strip ref).toList := by
            intro found
            obtain ⟨before, after, whole, absent⟩ := List.eq_append_cons_of_mem found
            rw [PyText.partition_eq_some.mpr ⟨whole, absent⟩] at split
            cases split
          rw [cuts] at parsed
          obtain ⟨written, noDigest, named⟩ := written_of_located firstStays noAt parsed
          refine ⟨written, ?_⟩
          rw [Written.text, noDigest, written.beforeNoDigest noDigest, named, stripped]
          simp
      | some parts =>
          obtain ⟨name, digest⟩ := parts
          obtain ⟨whole, noAt⟩ := PyText.partition_eq_some.mp split
          have cuts : cut '@' (PyText.strip ref).toList = (name, digest) := by
            rw [cut, split]
            rfl
          rw [cuts] at parsed nonempty digestForm
          have starts : ∀ character, name.head? = some character →
              PyText.isSpace character = false := by
            intro character heads
            apply firstStays character
            rw [whole, List.head?_append, heads]
            rfl
          obtain ⟨written, _, named⟩ := written_of_located starts noAt parsed
          obtain ⟨back, nameWhole, blank⟩ := PyText.stripChars_end starts
          have form : digest = [] ∨ isDigest digest = true := by
            by_cases empty : digest = []
            · exact Or.inl empty
            · right
              simpa [empty] using digestForm
          refine ⟨{ written with
            digest := some digest
            isDigest := by simpa using form
            beforeDigest := back
            beforeDigestBlank := blank
            beforeNoDigest := by simp }, ?_⟩
          change written.named ++ back ++ '@' :: digest = _
          rw [named, ← nameWhole, whole]

/-- A text is a reference in one way only. -/
theorem Written.unique {first second : Written} (same : first.text = second.text) :
    first.digest = second.digest ∧ first.beforeDigest = second.beforeDigest ∧
      first.tag = second.tag ∧ first.front = second.front ∧
      first.beforeTag = second.beforeTag := by
  have names : first.name = second.name := by
    have firsts := congrArg Prod.fst first.cut_text
    rw [same, second.cut_text] at firsts
    exact firsts.symm
  have digests : first.digest = second.digest := by
    have firsts := first.partition_text
    rw [same, second.partition_text, names] at firsts
    exact (Option.map_injective (fun _ _ equal => (Prod.mk.inj equal).2) firsts).symm
  have nameds : first.named = second.named := by
    rw [← first.strip_name, names, second.strip_name]
  have beforeDigests : first.beforeDigest = second.beforeDigest := by
    rw [name, name, nameds] at names
    exact List.append_cancel_left names
  have tags : first.tag = second.tag := by
    have oneTagged {one other : Written} (sameNamed : one.named = other.named) {tag : List Char}
        (tagged : one.tag = some tag) : other.tag = some tag := by
      obtain ⟨split, noSlash⟩ := one.splitLast_named.1 tag tagged
      rw [sameNamed] at split
      cases otherTag : other.tag with
      | none => exact absurd (other.splitLast_named.2 otherTag _ _ split) noSlash
      | some found =>
          rw [(other.splitLast_named.1 found otherTag).1] at split
          rw [(Prod.mk.inj (Option.some.inj split)).2]
    cases tagged : first.tag with
    | some tag => exact (oneTagged nameds tagged).symm
    | none =>
        cases otherTag : second.tag with
        | none => rfl
        | some tag =>
            rw [oneTagged nameds.symm otherTag] at tagged
            cases tagged
  have beforeColons : first.beforeColon = second.beforeColon := by
    rw [named, named, tags] at nameds
    exact List.append_cancel_right nameds
  have fronts : first.front = second.front := by
    rw [← first.strip_beforeColon, beforeColons, second.strip_beforeColon]
  refine ⟨digests, beforeDigests, tags, fronts, ?_⟩
  rw [beforeColon, beforeColon, fronts] at beforeColons
  exact List.append_cancel_left beforeColons

/-- Where a text is a reference of the grammar, it has no stray mark. -/
theorem Written.Proper.same {first second : Written} (proper : first.Proper)
    (same : first.text = second.text) : second.Proper := by
  obtain ⟨digests, beforeDigests, tags, fronts, beforeTags⟩ := Written.unique same
  have texts : first.repository.text = second.repository.text := by
    rw [← first.strip_slashes, fronts, second.strip_slashes]
  have lengths := congrArg List.length fronts
  rw [front, front, proper.leading, proper.trailing, texts] at lengths
  simp only [List.length_append, List.length_nil] at lengths
  exact {
    leading := List.eq_nil_of_length_eq_zero (by omega)
    trailing := List.eq_nil_of_length_eq_zero (by omega)
    beforeTag := beforeTags ▸ proper.beforeTag
    beforeDigest := beforeDigests ▸ proper.beforeDigest
    tag := tags ▸ proper.tag
    digest := digests ▸ proper.digest }

/-! ### Where `parse_ref` accepts the grammar -/

/-- `repository[:tag][@digest]`. -/
def InGrammar (text : List Char) : Prop :=
  ∃ written : Written, written.Proper ∧ written.text = text

/-- Parsing what was parsed gives it again, its host and path make up the
repository, and `_split_ref` finds the same repository and tag. -/
structure Agrees (image : Ref) : Prop where
  stable : parseRef (String.ofList image.name) = .ok image
  recombines : image.repository = image.host ++ '/' :: image.path ∨
    image.repository = image.path ∧ image.host = "registry-1.docker.io".toList
  split : splitRef (String.ofList image.name) = (image.repository, image.tag)

/-- `parse_ref` accepts the text if it is in the grammar, and what it finds
agrees with itself and with the other splits. -/
structure Meets (ref : String) : Prop where
  accepts : (∃ image, parseRef ref = .ok image) ↔ InGrammar (PyText.strip ref).toList
  agrees : ∀ image, parseRef ref = .ok image → Agrees image

theorem Written.Proper.name_ref {written : Written} (proper : written.Proper) :
    written.ref.name = written.text := by
  have noTag := proper.tag
  have noDigest := proper.digest
  have tag : (if written.tag.getD [] = [] then [] else ':' :: written.tag.getD []) =
      written.tag.elim [] (':' :: ·) := by
    cases tagged : written.tag with
    | none => rfl
    | some text => simpa [tagged] using noTag
  have digest : (if written.digest.getD [] = [] then [] else '@' :: written.digest.getD []) =
      written.digest.elim [] ('@' :: ·) := by
    cases found : written.digest with
    | none => rfl
    | some text => simpa [found] using noDigest
  rw [Ref.name, ref, tag, digest, text, named, proper.beforeDigest, List.append_nil]

theorem Repository.split_recombines (repository : Repository) :
    repository.text = repository.split.1 ++ '/' :: repository.split.2 ∨
      repository.text = repository.split.2 ∧
        repository.split.1 = "registry-1.docker.io".toList := by
  rw [Repository.split]
  split
  · rename_i parts
    split
    · exact Or.inl (PyText.partition_eq_some.mp parts).1
    · exact Or.inr ⟨rfl, rfl⟩
  · exact Or.inr ⟨rfl, rfl⟩

/-- A reference without stray marks is parsed into parts that agree. -/
theorem Written.Proper.agrees {written : Written} (proper : written.Proper)
    (readable : written.repository.Readable) {ref : String}
    (reads : (PyText.strip ref).toList = written.text) : Agrees written.ref := by
  have again : String.ofList written.ref.name = PyText.strip ref := by
    rw [proper.name_ref, ← reads, String.ofList_toList]
  have readsAgain : (PyText.strip (PyText.strip ref)).toList = written.text := by
    rw [PyText.strip_strip, reads]
  have repository : written.beforeColon = written.repository.text := by
    rw [beforeColon, front, proper.leading, proper.trailing, proper.beforeTag, List.append_nil,
      List.append_nil, List.nil_append]
  constructor
  · rw [again]
    exact written.parseRef_written readable readsAgain
  · rw [Written.ref, repository]
    exact written.repository.split_recombines
  · rw [again]
    apply written.splitRef_of_named
    rw [readsAgain, cut_text, name, proper.beforeDigest, List.append_nil]

/-- `parse_ref` accepts the grammar and splits stably on the texts whose repositories it can
read if and only if no stray mark stands in them. -/
theorem parseRef_meets_iff (ref : String) : Meets ref ↔
    ∀ written : Written, written.text = (PyText.strip ref).toList →
      (written.repository.Readable ↔ written.Proper) := by
  constructor
  · intro meets written reads
    constructor
    · intro readable
      obtain ⟨other, proper, same⟩ :=
        meets.accepts.mp ⟨_, written.parseRef_written readable reads.symm⟩
      exact proper.same (same.trans reads.symm)
    · intro proper
      obtain ⟨image, parsed⟩ := meets.accepts.mpr ⟨written, proper, reads⟩
      exact written.readable_of_parsed reads.symm parsed
  · intro both
    constructor
    · constructor
      · rintro ⟨image, parsed⟩
        obtain ⟨written, reads⟩ := written_of_parseRef parsed
        have readable := written.readable_of_parsed reads.symm parsed
        exact ⟨written, (both written reads).mp readable, reads⟩
      · rintro ⟨written, proper, reads⟩
        exact ⟨_, written.parseRef_written ((both written reads).mpr proper) reads.symm⟩
    · intro image parsed
      obtain ⟨written, reads⟩ := written_of_parseRef parsed
      have readable := written.readable_of_parsed reads.symm parsed
      have read := written.parseRef_written readable reads.symm
      rw [parsed] at read
      rw [Except.ok.inj read]
      exact ((both written reads).mp readable).agrees readable reads.symm

/-- `ghcr.io/catenahq/catena-admin@`. -/
def emptyDigest : Written where
  repository := {
    host := some "ghcr.io".toList
    path := "catenahq/catena-admin".toList
    isHost := by decide
    isPath := by decide }
  tag := none
  digest := some []
  isTag := by simp
  isDigest := by simp
  leading := []
  trailing := []
  leadingSlashes := by simp
  trailingSlashes := by simp
  beforeTag := []
  beforeDigest := []
  beforeTagBlank := by simp
  beforeDigestBlank := by simp
  beforeNoTag _ := rfl
  beforeNoDigest _ := rfl

/-- An empty digest is accepted. -/
theorem emptyDigest_accepted : ¬Meets "ghcr.io/catenahq/catena-admin@" := by
  intro meets
  have reads : (PyText.strip "ghcr.io/catenahq/catena-admin@").toList = emptyDigest.text := by
    decide
  have readable : emptyDigest.repository.Readable :=
    emptyDigest.repository.readable_iff.mpr (by decide)
  obtain ⟨other, proper, same⟩ :=
    meets.accepts.mp ⟨_, emptyDigest.parseRef_written readable reads⟩
  exact (proper.same (same.trans reads)).digest rfl

end ImageRef

end Catena
