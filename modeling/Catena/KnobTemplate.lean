import Catena.EnvRoundTrip
import Catena.KnobRegistry
import Catena.PyTextWrap

/-!
# The template that is rendered from the registry

`render_env` writes an inventory's `.env`: prose as comments, and a key with
its default for every knob that lives there.  Of a registry that `load`
accepts, it parses back to its defaults exactly where no line break or blank of
a key, a default or a title comes out as something else.
-/

namespace Catena

namespace RenderKnobs

open PyText EnvFile

def envBySection (doc : Json) : PyDict String (List Json) :=
  (itemsOf (item doc "config")).foldl (fun grouped entry =>
    if holds entry "env" then
      let name := textOf (item ((item entry "env").getD .null) "section")
      PyDict.set grouped name ((PyDict.get grouped name).getD [] ++ [entry])
    else grouped) []

def knobsOf (doc given : Json) : List Json :=
  (PyDict.get (envBySection doc) (textOf (item given "name"))).getD []

def envKnobs (doc : Json) : List Json :=
  (itemsOf (item doc "env_sections")).flatMap (knobsOf doc)

/-- A knob's key and its default. -/
def knobPair (entry : Json) : String × String :=
  (textOf (item entry "key"), textOf (item ((item entry "env").getD .null) "default"))

def envWidth : Nat :=
  74

/-- The lines of a comment, and the paragraph that is being read. -/
structure Commenting where
  out : List Line
  paragraph : List Line

def Commenting.flush (given : Commenting) : Commenting :=
  if given.paragraph.isEmpty then given
  else
    ⟨given.out ++ (wrap envWidth (join [' '] given.paragraph)).map ("# ".toList ++ ·), []⟩

/-- One line of the prose. -/
def Commenting.read (given : Commenting) (line : Line) : Commenting :=
  if stripChars isSpace line = [] then ⟨given.flush.out ++ [['#']], []⟩
  else if line.head? = some ' ' ∨ line.head? = some '\t' then
    ⟨given.flush.out ++ [(("# ".toList ++ line).reverse.dropWhile isSpace).reverse], []⟩
  else ⟨given.out, given.paragraph ++ [stripChars isSpace line]⟩

/-- `_comment` of a text. -/
def comment (text : String) : List Line :=
  ((splitLines (stripChars (fun character => character = '\n') text.toList)).foldl
    Commenting.read ⟨[], []⟩).flush.out

/-- `_comment` of a value: what is neither a string nor false has no `strip`. -/
def commentOf (value : Option Json) : Result (List Line) :=
  match value with
  | some (.str text) => .ok (comment text)
  | some other => if other.truthy then .error .attributeError else .ok (comment "")
  | none => .ok (comment "")

/-- A section's title, with dashes up to the 78th column. -/
def titleLine (given : Json) : Line :=
  let text := "# --- ".toList ++ (textOf (item given "title")).toList ++ [' ']
  text ++ List.replicate (78 - text.length) '-'

/-- `key=default`. -/
def assignment (entry : Json) : Line :=
  (knobPair entry).1.toList ++ '=' :: (knobPair entry).2.toList

/-- `One of: ....`. -/
def optionsText (options : Json) : String :=
  "One of: " ++ ", ".intercalate ((itemsOf (some options)).map fun option =>
    textOf (some option)) ++ "."

/-- A value's comment, where the value is not false. -/
def commentWhere (value : Option Json) (text : Json → String) : List Line :=
  match value with
  | some value => if value.truthy then comment (text value) else []
  | none => []

def knobLines (entry : Json) : Result (List Line) := do
  let env := (item entry "env").getD .null
  let help ← commentOf (item ((item entry "help").getD .null) "en")
  .ok ([] :: help ++ commentWhere (item env "options") optionsText ++
    commentWhere (item env "example") (fun given => "For example: " ++ textOf (some given)) ++
    [assignment entry])

/-- A section's own text. -/
def docLines (given : Json) : Result (List Line) :=
  if holds given "doc" then (commentOf (item given "doc")).map (['#'] :: ·) else .ok []

def sectionLines (doc given : Json) : Result (List Line) := do
  let docs ← docLines given
  let knobs ← (knobsOf doc given).mapM knobLines
  .ok ([[], titleLine given] ++ docs ++ knobs.flatten)

def renderEnv (doc : Json) : Result String := do
  let header ← commentOf (item doc "env_header")
  let sections ← (itemsOf (item doc "env_sections")).mapM (sectionLines doc)
  .ok (fileText (header ++ sections.flatten))

theorem breakLines_newline (text : Line) :
    breakLines (text ++ ['\n']) = breakLines text ∨
      breakLines (text ++ ['\n']) = breakLines text ++ [[]] := by
  induction text with
  | nil => exact Or.inr rfl
  | cons first rest ih =>
      rw [List.cons_append, breakLines, breakLines]
      split
      · rcases ih with same | more
        · exact Or.inl (by rw [same])
        · exact Or.inr (by rw [more, List.cons_append])
      · cases lines : breakLines rest with
        | nil =>
            have empty : rest = [] := by
              by_contra nonempty
              exact breakLines_ne_nil nonempty lines
            left
            rw [empty]
            rfl
        | cons line others =>
            rw [lines] at ih
            rcases ih with same | more
            · exact Or.inl (by rw [same])
            · exact Or.inr (by rw [more]; rfl)

theorem universal_newline_end (text : Line) :
    universal (text ++ ['\n']) = universal text ∨
      universal (text ++ ['\n']) = universal text ++ ['\n'] := by
  fun_induction universal text with
  | case1 => exact Or.inr rfl
  | case2 rest ih =>
      rw [List.cons_append, List.cons_append, universal]
      rcases ih with same | more
      · exact Or.inl (by rw [same])
      · exact Or.inr (by rw [more, List.cons_append])
  | case3 rest notNewline ih =>
      cases rest with
      | nil => exact Or.inl rfl
      | cons next others =>
          have nextOther : next ≠ '\n' := fun same => notNewline others (by rw [same])
          have step : universal ('\r' :: next :: (others ++ ['\n'])) =
              '\n' :: universal (next :: (others ++ ['\n'])) :=
            universal.eq_3 _ (by simp [nextOther])
          rw [List.cons_append, List.cons_append, step, ← List.cons_append]
          rcases ih with same | more
          · exact Or.inl (by rw [same])
          · exact Or.inr (by rw [more, List.cons_append])
  | case4 first rest _ notReturn ih =>
      have firstClean : first ≠ '\r' := fun same => notReturn same
      rw [List.cons_append, universal.eq_4 _ _ (by simp [firstClean]) (by simp [firstClean])]
      rcases ih with same | more
      · exact Or.inl (by rw [same])
      · exact Or.inr (by rw [more, List.cons_append])

theorem parseEnvPairs_newline (text : Line) :
    parseEnvPairs (text ++ ['\n']) = parseEnvPairs text := by
  have blank : pairOf [] = none := rfl
  unfold parseEnvPairs splitLines
  rcases universal_newline_end text with same | more
  · rw [same]
  · rw [more]
    rcases breakLines_newline (universal text) with same | more
    · rw [same]
    · rw [more, List.filterMap_append, List.filterMap_cons, blank]
      exact List.append_nil _

theorem parseEnvPairs_fileText (lines : List Line) :
    parseEnvPairs (fileText lines).toList = lines.flatMap parseEnvPairs := by
  have ended (lines : List Line) :
      parseEnvPairs (lines.flatMap (· ++ ['\n'])) = lines.flatMap parseEnvPairs := by
    induction lines with
    | nil => rfl
    | cons first rest ih =>
        have cut : splitLines (first ++ ['\n'] ++ rest.flatMap (· ++ ['\n'])) =
            splitLines (first ++ ['\n']) ++ splitLines (rest.flatMap (· ++ ['\n'])) := by
          rw [List.append_assoc]
          exact splitLines_append first _
        rw [List.flatMap_cons, List.flatMap_cons, ← ih, ← parseEnvPairs_newline first]
        unfold parseEnvPairs
        rw [cut, List.filterMap_append]
  rw [toList_fileText, ended]
  split
  · rename_i none_
    rw [none_]
    rfl
  · rfl

/-- The line of a comment: a `#`, and no line break. -/
def IsComment (line : Line) : Prop :=
  line.head? = some '#' ∧ Unbroken line

/-- A line without a break carries at most one pair. -/
theorem parseEnvPairs_unbroken {line : Line} (unbroken : Unbroken line) :
    parseEnvPairs line = (pairOf line).toList := by
  have ended : splitLines (line ++ ['\n']) = [line] := splitLines_line unbroken []
  rw [← parseEnvPairs_newline, parseEnvPairs, ended]
  cases found : pairOf line <;> simp [found]

theorem no_pair_of_comment (line : Line) : pairOf ('#' :: line) = none := by
  have hash : (stripChars isSpace ('#' :: line)).head? = some '#' := head_stripChars (by decide)
  rw [pairOf, keyValue]
  simp [hash]

theorem IsComment.no_pair {line : Line} (isComment : IsComment line) :
    parseEnvPairs line = [] := by
  obtain ⟨rest, rfl⟩ := List.head?_eq_some_iff.mp isComment.1
  rw [parseEnvPairs_unbroken isComment.2, no_pair_of_comment]
  rfl

theorem no_pairs_of_comments {lines : List Line} (comments : ∀ line ∈ lines, IsComment line) :
    lines.flatMap parseEnvPairs = [] :=
  List.flatMap_eq_nil_iff.mpr fun line member => (comments line member).no_pair

/-- Only comments come out, and the paragraph breaks no line. -/
structure Commenting.Fine (given : Commenting) : Prop where
  out : ∀ line ∈ given.out, IsComment line
  paragraph : ∀ part ∈ given.paragraph, Unbroken part

theorem isComment_prefixed {line : Line} (unbroken : Unbroken line) :
    IsComment ("# ".toList ++ line) := by
  refine ⟨rfl, ?_⟩
  apply unbroken_append.mpr
  exact ⟨by decide, unbroken⟩

theorem Commenting.Fine.flush {given : Commenting} (fine : given.Fine) : given.flush.Fine := by
  rw [Commenting.flush]
  split
  · exact fine
  · constructor
    · intro line member
      rcases List.mem_append.mp member with before | wrapped
      · exact fine.out line before
      · obtain ⟨chunk, inWrap, rfl⟩ := List.mem_map.mp wrapped
        apply isComment_prefixed
        intro character found
        rcases mem_wrap inWrap found with rfl | inText
        · decide
        · rcases mem_join inText with inBlank | ⟨part, inParts, inPart⟩
          · rw [List.mem_singleton.mp inBlank]
            decide
          · exact fine.paragraph part inParts character inPart
    · intro part member
      cases member

theorem Commenting.Fine.read {given : Commenting} (fine : given.Fine) {line : Line}
    (unbroken : Unbroken line) : (given.read line).Fine := by
  have added {last : Line} (isComment : IsComment last) :
      Commenting.Fine ⟨given.flush.out ++ [last], []⟩ := by
    constructor
    · intro other member
      rcases List.mem_append.mp member with before | same
      · exact fine.flush.out other before
      · rw [List.mem_singleton.mp same]
        exact isComment
    · intro part member
      cases member
  rw [Commenting.read]
  split
  · exact added ⟨rfl, by decide⟩
  · split
    · apply added
      have stripped : (("# ".toList ++ line).reverse.dropWhile isSpace).reverse =
          stripChars isSpace ("# ".toList ++ line) := rfl
      rw [stripped]
      exact ⟨head_stripChars (by decide), (isComment_prefixed unbroken).2.strip⟩
    · constructor
      · exact fine.out
      · intro part member
        rcases List.mem_append.mp member with before | same
        · exact fine.paragraph part before
        · rw [List.mem_singleton.mp same]
          exact unbroken.strip

/-- Prose becomes comments, however it is broken into lines. -/
theorem comments_comment (text : String) : ∀ line ∈ comment text, IsComment line := by
  have start : Commenting.Fine ⟨[], []⟩ := ⟨by simp, by simp⟩
  have reads {lines : List Line} (unbroken : ∀ line ∈ lines, Unbroken line) {given : Commenting}
      (fine : given.Fine) : (lines.foldl Commenting.read given).Fine := by
    induction lines generalizing given with
    | nil => exact fine
    | cons first rest ih =>
        exact ih (fun line member => unbroken line (List.mem_cons_of_mem _ member))
          (fine.read (unbroken first (List.mem_cons_self ..)))
  exact (reads (fun line member => breakLines_unbroken member) start).flush.out

theorem comments_commentOf {value : Option Json} {lines : List Line}
    (read : commentOf value = .ok lines) : ∀ line ∈ lines, IsComment line := by
  unfold commentOf at read
  split at read
  · obtain rfl := Except.ok.inj read
    exact comments_comment _
  · split at read
    · cases read
    · obtain rfl := Except.ok.inj read
      exact comments_comment _
  · obtain rfl := Except.ok.inj read
    exact comments_comment _

theorem comments_commentWhere (value : Option Json) (text : Json → String) :
    ∀ line ∈ commentWhere value text, IsComment line := by
  unfold commentWhere
  split
  · split
    · exact comments_comment _
    · simp
  · simp

theorem comments_docLines {given : Json} {lines : List Line} (read : docLines given = .ok lines) :
    ∀ line ∈ lines, IsComment line := by
  unfold docLines at read
  split at read
  · cases docs : commentOf (item given "doc") with
    | error failure =>
        rw [docs] at read
        cases read
    | ok inner =>
        rw [docs] at read
        obtain rfl := Except.ok.inj read
        intro line member
        rcases List.mem_cons.mp member with rfl | later
        · exact ⟨rfl, by decide⟩
        · exact comments_commentOf docs line later
  · obtain rfl := Except.ok.inj read
    simp

theorem flatMap_mapM {α β γ : Type} {step : α → Result (List β)} {pairs : β → List γ}
    {expected : α → List γ} {items : List α} {found : List (List β)}
    (ran : items.mapM step = .ok found)
    (each : ∀ item ∈ items, ∀ lines, step item = .ok lines →
      lines.flatMap pairs = expected item) :
    found.flatten.flatMap pairs = items.flatMap expected := by
  induction items generalizing found with
  | nil =>
      obtain rfl := Except.ok.inj ran
      rfl
  | cons first rest ih =>
      rw [List.mapM_cons] at ran
      obtain ⟨lines, here, ran⟩ := bind_ok ran
      obtain ⟨others, later, ran⟩ := bind_ok ran
      obtain rfl := Except.ok.inj ran
      rw [List.flatten_cons, List.flatMap_append, List.flatMap_cons,
        each first (List.mem_cons_self ..) lines here,
        ih later fun item member => each item (List.mem_cons_of_mem _ member)]

theorem mapM_ok_iff {α β : Type} {step : α → Result β} {items : List α} :
    (∃ found, items.mapM step = .ok found) ↔ ∀ item ∈ items, ∃ value, step item = .ok value := by
  induction items with
  | nil =>
      constructor
      · intro _ item member
        cases member
      · exact fun _ => ⟨[], rfl⟩
  | cons first rest ih =>
      rw [List.forall_mem_cons, ← ih, List.mapM_cons]
      constructor
      · rintro ⟨found, ran⟩
        obtain ⟨value, here, ran⟩ := bind_ok ran
        obtain ⟨others, later, _⟩ := bind_ok ran
        exact ⟨⟨value, here⟩, others, later⟩
      · rintro ⟨⟨value, here⟩, others, later⟩
        exact ⟨value :: others, by rw [here, later]; rfl⟩

theorem pairs_knobLines {entry : Json} {lines : List Line} (ran : knobLines entry = .ok lines) :
    lines.flatMap parseEnvPairs = parseEnvPairs (assignment entry) := by
  rw [knobLines] at ran
  obtain ⟨help, read, ran⟩ := bind_ok ran
  obtain rfl := Except.ok.inj ran
  have blank : parseEnvPairs [] = [] := rfl
  simp only [List.flatMap_append, List.flatMap_cons, List.flatMap_nil, List.append_nil, blank,
    List.nil_append, List.cons_append,
    no_pairs_of_comments (comments_commentOf read),
    no_pairs_of_comments (comments_commentWhere _ _)]

theorem pairs_sectionLines {doc given : Json} {lines : List Line}
    (ran : sectionLines doc given = .ok lines) :
    lines.flatMap parseEnvPairs = parseEnvPairs (titleLine given) ++
      (knobsOf doc given).flatMap fun entry => parseEnvPairs (assignment entry) := by
  rw [sectionLines] at ran
  obtain ⟨docs, read, ran⟩ := bind_ok ran
  obtain ⟨knobs, rendered, ran⟩ := bind_ok ran
  obtain rfl := Except.ok.inj ran
  have blank : parseEnvPairs [] = [] := rfl
  have inKnobs := flatMap_mapM rendered fun entry _ lines here => pairs_knobLines here
  simp only [List.flatMap_append, List.flatMap_cons, List.flatMap_nil, List.append_nil, blank,
    List.nil_append, no_pairs_of_comments (comments_docLines read), inKnobs]

/-- The pairs of a rendered template: those of the titles, and those of the
assignments. -/
theorem pairs_renderEnv {doc : Json} {text : String} (ran : renderEnv doc = .ok text) :
    parseEnvPairs text.toList = (itemsOf (item doc "env_sections")).flatMap fun given =>
      parseEnvPairs (titleLine given) ++
        (knobsOf doc given).flatMap fun entry => parseEnvPairs (assignment entry) := by
  rw [renderEnv] at ran
  obtain ⟨header, read, ran⟩ := bind_ok ran
  obtain ⟨sections, rendered, ran⟩ := bind_ok ran
  obtain rfl := Except.ok.inj ran
  rw [parseEnvPairs_fileText, List.flatMap_append, no_pairs_of_comments (comments_commentOf read),
    flatMap_mapM rendered fun given _ lines here => pairs_sectionLines here]
  rfl

section Checked

variable {py : Builtins}

theorem require_ok {condition : Bool} {message : String} {ended : Unit}
    (passed : require condition message = .ok ended) : condition = true := by
  rw [require] at passed
  split at passed
  · assumption
  · cases passed

theorem forM_ok {α : Type} {check : α → Result Unit} {items : List α} {ended : Unit}
    (passed : items.forM check = .ok ended) : ∀ item ∈ items, check item = .ok () := by
  induction items with
  | nil => simp
  | cons first rest ih =>
      obtain ⟨_, here, later⟩ := bind_ok passed
      rw [List.forall_mem_cons]
      exact ⟨here, ih later⟩

theorem foldlM_ok {α β : Type} {check : β → α → Result β} {items : List α} {start last : β}
    (passed : items.foldlM check start = .ok last) :
    ∀ item ∈ items, ∃ before after, check before item = .ok after := by
  induction items generalizing start with
  | nil => simp
  | cons first rest ih =>
      rw [List.foldlM_cons] at passed
      obtain ⟨after, here, later⟩ := bind_ok passed
      rw [List.forall_mem_cons]
      exact ⟨⟨start, after, here⟩, ih later⟩

theorem listAt_ok {doc : Json} {key message : String} {items : List Json}
    (read : listAt doc key message = .ok items) : items = itemsOf (item doc key) := by
  unfold listAt PanelService.orList at read
  cases found : item doc key with
  | none =>
      rw [found] at read
      exact (Except.ok.inj read).symm
  | some value =>
      rw [found, Option.getD_some] at read
      cases truth : value.truthy with
      | true =>
          rw [truth] at read
          cases value with
          | arr given => exact (Except.ok.inj read).symm
          | _ => cases read
      | false =>
          rw [truth] at read
          obtain rfl := Except.ok.inj read
          cases value with
          | arr given =>
              have empty : given.isEmpty = true := by simpa [Json.truthy] using truth
              exact (List.isEmpty_iff.mp empty).symm
          | _ => rfl

theorem text_of_isNonblank {value : Option Json} (nonblank : isNonblank value = true) :
    ∃ text, value = some (.str text) := by
  rw [isNonblank, Bool.and_eq_true, Option.any_eq_true] at nonblank
  obtain ⟨⟨given, rfl, isString⟩, _⟩ := nonblank
  cases given with
  | str text => exact ⟨text, rfl⟩
  | _ => cases isString

theorem text_of_checkText {place field : String} {value : Json} {required : List String}
    {ended : Unit} (passed : checkText py place field value required = .ok ended) {lang : String}
    (wanted : lang ∈ required) : ∃ text, item value lang = some (.str text) := by
  rw [checkText] at passed
  obtain ⟨_, _, passed⟩ := bind_ok passed
  obtain ⟨_, _, passed⟩ := bind_ok passed
  exact text_of_isNonblank (require_ok (forM_ok passed lang wanted))

/-- What `load` has checked of a knob of the `.env`. -/
structure CheckedKnob (entry : Json) : Prop where
  help : ∃ text, item ((item entry "help").getD .null) "en" = some (.str text)
  plain : (knobPair entry).2.toList.any isSpecial = false

/-- What `load` has checked of the document, as far as the template goes. -/
structure Checked (doc : Json) : Prop where
  header : ∃ text, item doc "env_header" = some (.str text)
  knobs : ∀ entry ∈ itemsOf (item doc "config"), holds entry "env" = true → CheckedKnob entry

theorem help_of_checkHelp {key : String} {entry : Json} {steps : List String} {ended : Unit}
    (passed : checkHelp py key entry steps = .ok ended) (inEnv : has entry "env" = true) :
    ∃ text, item ((item entry "help").getD .null) "en" = some (.str text) := by
  unfold checkHelp at passed
  dsimp only at passed
  split at passed
  · obtain ⟨_, _, passed⟩ := bind_ok passed
    obtain ⟨_, _, passed⟩ := bind_ok passed
    obtain ⟨_, _, passed⟩ := bind_ok passed
    obtain ⟨_, _, passed⟩ := bind_ok passed
    obtain ⟨_, _, passed⟩ := bind_ok passed
    exact text_of_checkText passed (by decide)
  · obtain ⟨_, _, passed⟩ := bind_ok passed
    exact text_of_checkText passed (by decide)

theorem help_of_checkEntry {entry : Json} {steps before after : List String}
    (passed : checkEntry py steps before entry = .ok after) (inEnv : has entry "env" = true) :
    ∃ text, item ((item entry "help").getD .null) "en" = some (.str text) := by
  rw [checkEntry] at passed
  obtain ⟨_, _, passed⟩ := bind_ok passed
  obtain ⟨_, _, passed⟩ := bind_ok passed
  obtain ⟨_, _, passed⟩ := bind_ok passed
  obtain ⟨_, _, passed⟩ := bind_ok passed
  obtain ⟨_, _, passed⟩ := bind_ok passed
  obtain ⟨_, _, passed⟩ := bind_ok passed
  obtain ⟨_, helped, _⟩ := bind_ok passed
  exact help_of_checkHelp helped inEnv

theorem plain_of_checkEnv {key : String} {env : Json} {sections : List String} {ended : Unit}
    (passed : checkEnv py key env sections = .ok ended) :
    (textOf (item env "default")).toList.any isSpecial = false := by
  rw [checkEnv] at passed
  obtain ⟨_, _, passed⟩ := bind_ok passed
  obtain ⟨_, _, passed⟩ := bind_ok passed
  obtain ⟨_, _, passed⟩ := bind_ok passed
  obtain ⟨_, isString, passed⟩ := bind_ok passed
  obtain ⟨_, quotable, _⟩ := bind_ok passed
  have isString := require_ok isString
  have quotable := require_ok quotable
  cases found : item env "default" with
  | none =>
      rw [found] at isString
      cases isString
  | some default =>
      rw [found, Option.getD_some] at quotable
      rw [List.any_eq_false]
      intro character inside special
      rw [Bool.not_eq_true', List.any_eq_false] at quotable
      have one : character ∈ envUnquotable := by simpa [isSpecial, envUnquotable] using special
      exact quotable character one (decide_eq_true inside)

theorem plain_of_checkConfig {entry : Json} {sections : List String} {ended : Unit}
    (passed : checkConfig py sections entry = .ok ended) (inEnv : has entry "env" = true) :
    (knobPair entry).2.toList.any isSpecial = false := by
  obtain ⟨env, found⟩ := Option.isSome_iff_exists.mp inEnv
  rw [checkConfig] at passed
  obtain ⟨_, _, passed⟩ := bind_ok passed
  obtain ⟨_, _, passed⟩ := bind_ok passed
  obtain ⟨_, checked, _⟩ := bind_ok passed
  rw [whereHas, found] at checked
  obtain ⟨_, envChecked, _⟩ := bind_ok checked
  rw [knobPair, found]
  exact plain_of_checkEnv envChecked

theorem has_of_holds {value : Json} {key : String} (truth : holds value key = true) :
    has value key = true := by
  obtain ⟨found, there, _⟩ := (Option.any_eq_true _ _).mp truth
  rw [has, there]
  rfl

theorem checked_of_load {doc result : Json} (accepted : load py doc = .ok result) :
    Checked doc := by
  rw [load] at accepted
  obtain ⟨_, _, accepted⟩ := bind_ok accepted
  obtain ⟨_, _, accepted⟩ := bind_ok accepted
  obtain ⟨secrets, _, accepted⟩ := bind_ok accepted
  obtain ⟨config, configRead, accepted⟩ := bind_ok accepted
  obtain ⟨_, header, accepted⟩ := bind_ok accepted
  obtain ⟨_, _, accepted⟩ := bind_ok accepted
  obtain ⟨sectionNames, _, accepted⟩ := bind_ok accepted
  obtain ⟨_, _, accepted⟩ := bind_ok accepted
  obtain ⟨stepNames, _, accepted⟩ := bind_ok accepted
  obtain ⟨_, entries, accepted⟩ := bind_ok accepted
  obtain ⟨_, _, accepted⟩ := bind_ok accepted
  obtain ⟨_, configs, _⟩ := bind_ok accepted
  obtain rfl := listAt_ok configRead
  constructor
  · exact text_of_isNonblank (require_ok header)
  · intro entry member inEnv
    obtain ⟨before, after, checked⟩ := foldlM_ok entries entry (List.mem_append_right _ member)
    exact ⟨help_of_checkEntry checked (has_of_holds inEnv),
      plain_of_checkConfig (forM_ok configs entry member) (has_of_holds inEnv)⟩

end Checked

/-- The knobs of a section are config values with an `.env` home. -/
theorem mem_knobsOf {doc given entry : Json} (member : entry ∈ knobsOf doc given) :
    entry ∈ itemsOf (item doc "config") ∧ holds entry "env" = true := by
  have grouped (entries : List Json) (name : String) :
      ∀ entry ∈ (PyDict.get (entries.foldl (fun grouped entry =>
        if holds entry "env" then
          let name := textOf (item ((item entry "env").getD .null) "section")
          PyDict.set grouped name ((PyDict.get grouped name).getD [] ++ [entry])
        else grouped) []) name).getD [], entry ∈ entries ∧ holds entry "env" = true := by
    induction entries using List.reverseRecOn with
    | nil => simp
    | append_singleton front last ih =>
        intro entry inside
        rw [List.foldl_append, List.foldl_cons, List.foldl_nil] at inside
        have before (found : entry ∈ (PyDict.get (front.foldl (fun grouped entry =>
            if holds entry "env" then
              let name := textOf (item ((item entry "env").getD .null) "section")
              PyDict.set grouped name ((PyDict.get grouped name).getD [] ++ [entry])
            else grouped) []) name).getD []) :
            entry ∈ front ++ [last] ∧ holds entry "env" = true :=
          ⟨List.mem_append_left _ (ih entry found).1, (ih entry found).2⟩
        split at inside
        · rename_i inEnv
          rw [PyDict.get_set] at inside
          split at inside
          · rename_i same
            rw [Option.getD_some, List.mem_append, List.mem_singleton] at inside
            rcases inside with found | rfl
            · exact before (same ▸ found)
            · exact ⟨by simp, inEnv⟩
          · exact before inside
        · exact before inside
  exact grouped _ _ entry member

/-- Pairs between which others may stand are all of them where none does. -/
theorem flatMap_between_eq {α β γ : Type} {items : List α} {between : α → List γ}
    {within : α → List β} {pair reading : β → γ}
    (same : (items.flatMap fun item => between item ++ (within item).map reading) =
      (items.flatMap within).map pair) :
    (∀ item ∈ items, between item = []) ∧
      ∀ item ∈ items, ∀ inner ∈ within item, reading inner = pair inner := by
  have lengths := congrArg List.length same
  have counted (items : List α) :
      (items.flatMap fun item => between item ++ (within item).map reading).length =
        (items.flatMap between).length + (items.flatMap within).length := by
    induction items with
    | nil => rfl
    | cons first rest ih =>
        simp only [List.flatMap_cons, List.length_append, List.length_map] at ih ⊢
        omega
  rw [counted, List.length_map] at lengths
  have nothing : items.flatMap between = [] := List.eq_nil_of_length_eq_zero (by omega)
  have empty : ∀ item ∈ items, between item = [] := List.flatMap_eq_nil_iff.mp nothing
  refine ⟨empty, ?_⟩
  have joined : (items.flatMap within).map reading = (items.flatMap within).map pair := by
    rw [← same, List.map_flatMap]
    apply List.flatMap_congr
    intro item member
    rw [empty item member, List.nil_append]
  rw [List.map_inj_left] at joined
  intro item member inner inside
  exact joined inner (List.mem_flatMap.mpr ⟨item, member, inside⟩)

/-- A key and a default that stand on one line and are read as they are. -/
structure PlainPair (pair : String × String) : Prop where
  key : GoodKey pair.1.toList
  keyUnbroken : Unbroken pair.1.toList
  default : PyText.strip pair.2 = pair.2
  defaultUnbroken : Unbroken pair.2.toList

/-- A text after another that breaks no line ends its last line, or is one. -/
theorem breakLines_ending (text : Line) {ending : Line} (nonempty : ending ≠ [])
    (unbroken : Unbroken ending) :
    breakLines (text ++ ending) = breakLines text ++ [ending] ∨
      ∃ front last, breakLines text = front ++ [last] ∧
        breakLines (text ++ ending) = front ++ [last ++ ending] := by
  induction text with
  | nil =>
      left
      rw [List.nil_append, breakLines_last unbroken nonempty]
      rfl
  | cons first rest ih =>
      rw [List.cons_append, breakLines, breakLines]
      split
      · rcases ih with own | ⟨front, last, lines, ended⟩
        · exact Or.inl (by rw [own, List.cons_append])
        · exact Or.inr ⟨[] :: front, last, by rw [lines]; rfl, by rw [ended]; rfl⟩
      · rcases ih with own | ⟨front, last, lines, ended⟩
        · rw [own]
          cases lines : breakLines rest with
          | nil => exact Or.inr ⟨[], [first], rfl, rfl⟩
          | cons line others => exact Or.inl rfl
        · rw [lines, ended]
          cases front with
          | nil => exact Or.inr ⟨[], first :: last, rfl, rfl⟩
          | cons line others => exact Or.inr ⟨(first :: line) :: others, last, rfl, rfl⟩

/-- What is said of the first characters of a line is not said of the others. -/
theorem tail_breakLines_append {front : Line} (unbroken : Unbroken front) (text : Line) :
    (breakLines (front ++ text)).tail = (breakLines text).tail := by
  induction front with
  | nil => rfl
  | cons first rest ih =>
      have firstUnbroken := unbroken first (List.mem_cons_self ..)
      rw [List.cons_append, breakLines, if_neg (by simp [firstUnbroken]),
        ← ih fun character found => unbroken character (List.mem_cons_of_mem _ found)]
      cases breakLines (rest ++ text) <;> rfl

/-- The first character that is no white space. -/
theorem head_strip (text : Line) :
    (stripChars isSpace text).head? = text.find? fun character => !isSpace character := by
  induction text with
  | nil => rfl
  | cons first rest ih =>
      by_cases space : isSpace first = true
      · have dropped : stripChars isSpace (first :: rest) = stripChars isSpace rest := by
          rw [stripChars, List.dropWhile_cons_of_pos space, stripChars]
        rw [dropped, ih, List.find?_cons_of_neg (by simp [space])]
      · have kept : isSpace first = false := by simpa using space
        rw [head_stripChars kept, List.find?_cons_of_pos (by simp [kept])]

theorem keyValue_eq_none {raw : Line} : keyValue raw = none ↔
    '=' ∉ raw ∨ (raw.find? fun character => !isSpace character) = some '#' := by
  have inside : '=' ∈ stripChars isSpace raw ↔ '=' ∈ raw :=
    ⟨of_mem_stripChars, fun found => mem_stripChars found (by decide)⟩
  rw [← head_strip, ← inside, keyValue]
  split
  · rename_i apart
    simp only [true_iff]
    rcases apart with blank | isComment
    · left
      rw [blank]
      simp
    · exact Or.inr isComment
  · rename_i carries
    obtain ⟨_, notComment⟩ := not_or.mp carries
    rw [or_iff_left notComment, Option.map_eq_none_iff]
    constructor
    · intro unparted found
      obtain ⟨before, after, whole, absent⟩ := List.eq_append_cons_of_mem found
      rw [partition_eq_some.mpr ⟨whole, absent⟩] at unparted
      cases unparted
    · exact partition_of_notMem

/-- Blanks and dashes after a line make no pair of it, and take none away. -/
theorem keyValue_ending {line ending : Line} (plain : ∀ character ∈ ending,
    character ≠ '=' ∧ character ≠ '#') : keyValue (line ++ ending) = none ↔ keyValue line = none := by
  have noSign : '=' ∉ ending := fun found => (plain _ found).1 rfl
  have noComment : (ending.find? fun character => !isSpace character) ≠ some '#' :=
    fun found => (plain _ (List.mem_of_find?_eq_some found)).2 rfl
  rw [keyValue_eq_none, keyValue_eq_none, List.find?_append, List.mem_append, or_iff_left noSign]
  cases line.find? fun character => !isSpace character with
  | none => simp [noComment]
  | some character => rfl

/-- The first line of a title's line is a comment; the others are those of the title. -/
theorem parseEnvPairs_titleLine (given : Json) : parseEnvPairs (titleLine given) = [] ↔
    ∀ line ∈ (splitLines (textOf (item given "title")).toList).tail, keyValue line = none := by
  obtain ⟨count, form⟩ : ∃ count, titleLine given = "# --- ".toList ++
      (textOf (item given "title")).toList ++ [' '] ++ List.replicate count '-' := ⟨_, rfl⟩
  rw [List.append_assoc, List.append_assoc, List.singleton_append] at form
  generalize (textOf (item given "title")).toList = title at form
  have plain : ∀ character ∈ ' ' :: List.replicate count '-', character = ' ' ∨ character = '-' :=
    fun character found => (List.mem_cons.mp found).imp_right fun later =>
      (List.mem_replicate.mp later).2
  have unbroken : Unbroken (' ' :: List.replicate count '-') := by
    intro character found
    rcases plain character found with rfl | rfl <;> decide
  have lines : splitLines (titleLine given) = breakLines ("# --- ".toList ++
      (universal title ++ ' ' :: List.replicate count '-')) := by
    rw [form, splitLines, universal_append (by decide), universal_append_next title (by decide),
      universal_of_clean unbroken.clean]
  have comment : ∃ line, breakLines ("# --- ".toList ++
      (universal title ++ ' ' :: List.replicate count '-')) = ('#' :: line) ::
        (breakLines (universal title ++ ' ' :: List.replicate count '-')).tail := by
    have tail := @tail_breakLines_append "# --- ".toList (by decide)
      (universal title ++ ' ' :: List.replicate count '-')
    rw [← tail]
    have first : "# --- ".toList = '#' :: " --- ".toList := rfl
    rw [first, List.cons_append, breakLines, if_neg (by decide)]
    cases breakLines (" --- ".toList ++ (universal title ++ ' ' :: List.replicate count '-')) with
    | nil => exact ⟨[], rfl⟩
    | cons line others => exact ⟨line, rfl⟩
  obtain ⟨line, comment⟩ := comment
  have commented : pairOf ('#' :: line) = none := no_pair_of_comment line
  rw [parseEnvPairs, lines, comment, List.filterMap_cons, commented, List.filterMap_eq_nil_iff,
    splitLines]
  simp only [pairOf, Option.map_eq_none_iff]
  have ending {line : Line} : keyValue (line ++ ' ' :: List.replicate count '-') = none ↔
      keyValue line = none :=
    keyValue_ending fun character found => by
      rcases plain character found with rfl | rfl <;> decide
  have alone : keyValue (' ' :: List.replicate count '-') = none := (@ending []).mpr rfl
  rcases breakLines_ending (universal title) (List.cons_ne_nil ' ' _) unbroken with
    own | ⟨front, last, before, after⟩
  · rw [own]
    cases breakLines (universal title) with
    | nil => simp
    | cons line others => simp [or_imp, forall_and, alone]
  · rw [before, after]
    cases front with
    | nil => simp
    | cons line others => simp [or_imp, forall_and, ending]

/-- Every text of the registry that stands on a line of its own stays on it
and is read as it is: no further line of a title carries a pair, keys and
defaults are plain, and a section's text is one. -/
structure Plain (doc : Json) : Prop where
  titles : ∀ given ∈ itemsOf (item doc "env_sections"),
    ∀ line ∈ (splitLines (textOf (item given "title")).toList).tail, keyValue line = none
  knobs : ∀ entry ∈ envKnobs doc, PlainPair (knobPair entry)
  docs : ∀ given ∈ itemsOf (item doc "env_sections"), holds given "doc" = true →
    (item given "doc").any isStr = true

/-- The assignment of a knob whose key is good carries the key and the stripped
default. -/
theorem parseEnvPairs_assignment {entry : Json} (key : GoodKey (knobPair entry).1.toList)
    (keyUnbroken : Unbroken (knobPair entry).1.toList)
    (defaultUnbroken : Unbroken (knobPair entry).2.toList)
    (plain : (knobPair entry).2.toList.any isSpecial = false) :
    parseEnvPairs (assignment entry) =
      [((knobPair entry).1, PyText.strip (knobPair entry).2)] := by
  have asLine : assignment entry = line (knobPair entry).1 (knobPair entry).2 := by
    rw [assignment, line, rendered_plain plain]
  have unbroken : Unbroken (assignment entry) := by
    rw [assignment, unbroken_append, unbroken_cons]
    exact ⟨keyUnbroken, by decide, defaultUnbroken⟩
  rw [parseEnvPairs_unbroken unbroken, asLine, pairOf_line key, reread_plain plain]
  rfl

theorem good_of_parseEnvPairs {text : Line} {pair : String × String}
    (member : pair ∈ parseEnvPairs text) : GoodItem pair := by
  obtain ⟨raw, isLine, carries⟩ := List.mem_filterMap.mp member
  exact pairOf_good (breakLines_unbroken isLine) carries

theorem docLines_ok_iff {given : Json} : (∃ lines, docLines given = .ok lines) ↔
    (holds given "doc" = true → (item given "doc").any isStr = true) := by
  unfold docLines holds
  cases found : item given "doc" with
  | none => simp
  | some value =>
      cases truth : value.truthy with
      | false => simp [truth]
      | true =>
          cases value with
          | str text => simp [truth, commentOf, isStr, Except.map]
          | _ => simp [truth, commentOf, isStr, Except.map]

/-- A document that `load` accepts is rendered where the texts of its sections
are strings. -/
theorem renderEnv_ok_iff {doc : Json} (checked : Checked doc) :
    (∃ text, renderEnv doc = .ok text) ↔
      ∀ given ∈ itemsOf (item doc "env_sections"), holds given "doc" = true →
        (item given "doc").any isStr = true := by
  obtain ⟨header, headerText⟩ := checked.header
  have knobs (given : Json) : ∃ found, (knobsOf doc given).mapM knobLines = .ok found := by
    rw [mapM_ok_iff]
    intro entry member
    obtain ⟨inConfig, inEnv⟩ := mem_knobsOf member
    obtain ⟨help, helpText⟩ := (checked.knobs entry inConfig inEnv).help
    exact ⟨_, by rw [knobLines, helpText]; rfl⟩
  have each (given : Json) : (∃ lines, sectionLines doc given = .ok lines) ↔
      ∃ lines, docLines given = .ok lines := by
    constructor
    · rintro ⟨lines, ran⟩
      obtain ⟨docs, read, _⟩ := bind_ok ran
      exact ⟨docs, read⟩
    · rintro ⟨docs, read⟩
      obtain ⟨found, ran⟩ := knobs given
      exact ⟨_, by rw [sectionLines, read, ran]; rfl⟩
  have sections : (∃ found, (itemsOf (item doc "env_sections")).mapM (sectionLines doc) =
      .ok found) ↔ ∀ given ∈ itemsOf (item doc "env_sections"), holds given "doc" = true →
        (item given "doc").any isStr = true := by
    rw [mapM_ok_iff]
    exact forall₂_congr fun given _ => (each given).trans docLines_ok_iff
  rw [← sections]
  constructor
  · rintro ⟨text, ran⟩
    obtain ⟨_, _, ran⟩ := bind_ok ran
    obtain ⟨found, rendered, _⟩ := bind_ok ran
    exact ⟨found, rendered⟩
  · rintro ⟨found, rendered⟩
    exact ⟨_, by rw [renderEnv, headerText, rendered]; rfl⟩

/-- The rendered template parses back to the knobs and their defaults exactly
where the registry is plain. -/
theorem template_reads_back_iff {py : Builtins} {doc result : Json}
    (accepted : load py doc = .ok result) :
    (∃ text, renderEnv doc = .ok text ∧
      parseEnvPairs text.toList = (envKnobs doc).map knobPair) ↔ Plain doc := by
  have checked := checked_of_load accepted
  have plainOf {entry : Json} (member : entry ∈ envKnobs doc) :
      (knobPair entry).2.toList.any isSpecial = false := by
    obtain ⟨given, _, inside⟩ := List.mem_flatMap.mp member
    obtain ⟨inConfig, inEnv⟩ := mem_knobsOf inside
    exact (checked.knobs entry inConfig inEnv).plain
  have ofSection {given entry : Json} (there : given ∈ itemsOf (item doc "env_sections"))
      (member : entry ∈ knobsOf doc given) : entry ∈ envKnobs doc :=
    List.mem_flatMap.mpr ⟨given, there, member⟩
  have assigned (good : ∀ entry ∈ envKnobs doc, GoodItem (knobPair entry)) :
      ((itemsOf (item doc "env_sections")).flatMap fun given =>
        parseEnvPairs (titleLine given) ++
          (knobsOf doc given).flatMap fun entry => parseEnvPairs (assignment entry)) =
      (itemsOf (item doc "env_sections")).flatMap fun given =>
        parseEnvPairs (titleLine given) ++
          (knobsOf doc given).map fun entry =>
            ((knobPair entry).1, PyText.strip (knobPair entry).2) := by
    apply List.flatMap_congr
    intro given there
    congr 1
    rw [List.map_eq_flatMap]
    apply List.flatMap_congr
    intro entry member
    have inTemplate := ofSection there member
    have goodEntry := good entry inTemplate
    exact parseEnvPairs_assignment goodEntry.key goodEntry.keyUnbroken goodEntry.valueUnbroken
      (plainOf inTemplate)
  constructor
  · rintro ⟨text, ran, same⟩
    have good : ∀ entry ∈ envKnobs doc, GoodItem (knobPair entry) := by
      intro entry member
      have isPair : knobPair entry ∈ parseEnvPairs text.toList := by
        rw [same]
        exact List.mem_map_of_mem member
      exact good_of_parseEnvPairs isPair
    rw [pairs_renderEnv ran, assigned good, envKnobs] at same
    obtain ⟨titles, defaults⟩ := flatMap_between_eq same
    refine ⟨fun given there => (parseEnvPairs_titleLine given).mp (titles given there), ?_,
      (renderEnv_ok_iff checked).mp ⟨text, ran⟩⟩
    intro entry member
    obtain ⟨given, there, inside⟩ := List.mem_flatMap.mp member
    have default := congrArg Prod.snd (defaults given there entry inside)
    exact ⟨(good entry member).key, (good entry member).keyUnbroken, default,
      (good entry member).valueUnbroken⟩
  · intro plain
    obtain ⟨text, ran⟩ := (renderEnv_ok_iff checked).mpr plain.docs
    have good : ∀ entry ∈ envKnobs doc, GoodItem (knobPair entry) := fun entry member =>
      ⟨(plain.knobs entry member).key, (plain.knobs entry member).keyUnbroken,
        (plain.knobs entry member).defaultUnbroken⟩
    refine ⟨text, ran, ?_⟩
    rw [pairs_renderEnv ran, assigned good, envKnobs, List.map_flatMap]
    apply List.flatMap_congr
    intro given there
    rw [(parseEnvPairs_titleLine given).mpr (plain.titles given there), List.nil_append]
    apply List.map_congr_left
    intro entry member
    rw [(plain.knobs entry (ofSection there member)).default]

/-- A registry of one knob with a default. -/
def sampleRegistry (default : String) : Json :=
  let text := fun words => Json.obj [("en", .str words), ("fr", .str words)]
  .obj [("version", .int 1),
    ("env_header", .str "The answers of one installation."),
    ("env_sections", .arr [.obj [("name", .str "mail"), ("title", .str "Mail")]]),
    ("gui_steps", .arr [.obj [("name", .str "mail"), ("title", text "Mail"),
      ("doc", text "Where mail leaves.")]]),
    ("config", .arr [.obj [("key", .str "SMTP_HOST"), ("residence", .str "store"),
      ("step", .str "mail"), ("label", text "Host"), ("help", text "The relay's name."),
      ("env", .obj [("section", .str "mail"), ("default", .str default)])]])]

theorem exists_ok {α : Type} {step : Result α} (ended : step.toBool = true) :
    ∃ value, step = .ok value := by
  cases step with
  | error failure => cases ended
  | ok value => exact ⟨value, rfl⟩

theorem sample_reads_back :
    ∃ text, renderEnv (sampleRegistry "smtp.example.com") = .ok text ∧
      parseEnvPairs text.toList = (envKnobs (sampleRegistry "smtp.example.com")).map knobPair := by
  have ended : (load Builtins.unused (sampleRegistry "smtp.example.com")).toBool = true := by
    decide
  obtain ⟨result, accepted⟩ := exists_ok ended
  apply (template_reads_back_iff accepted).mpr
  have pairs : (envKnobs (sampleRegistry "smtp.example.com")).map knobPair =
      [("SMTP_HOST", "smtp.example.com")] := by
    decide
  constructor
  · decide
  · intro entry member
    have isPair : knobPair entry ∈ [("SMTP_HOST", "smtp.example.com")] := by
      rw [← pairs]
      exact List.mem_map_of_mem member
    rw [List.mem_singleton.mp isPair]
    exact ⟨⟨by decide, by decide, by decide⟩, by decide, by decide, by decide⟩
  · decide

/-- A default with a line break is accepted, and renders as two keys. -/
theorem broken_default_splits :
    (load Builtins.unused (sampleRegistry "smtp.example.com\nSMTP_PORT=25")).toBool = true ∧
      ¬∃ text, renderEnv (sampleRegistry "smtp.example.com\nSMTP_PORT=25") = .ok text ∧
        parseEnvPairs text.toList =
          (envKnobs (sampleRegistry "smtp.example.com\nSMTP_PORT=25")).map knobPair := by
  constructor
  · decide
  · rintro ⟨text, ran, same⟩
    rw [pairs_renderEnv ran] at same
    revert same
    decide

end RenderKnobs

end Catena
