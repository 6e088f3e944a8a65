import Catena.PyJson
import Catena.PyTextForms
import Mathlib

/-!
# The image a host runs

A host records the images its update lane applied.  A converge runs the newer
of the recorded image and the image it ships, where the two name one repository
and their tags compare, and the shipped one everywhere else.
-/

namespace Catena

namespace ImagePin

/-- The characters `\d` matches, with the digit each stands for.  The ASCII
characters among them are the ten digits. -/
structure DecimalDigits where
  value : Char → Option Nat
  ascii : ∀ character : Char, character.toNat < 128 →
    value character = if character.isDigit then some (PyText.decimalDigit character) else none

/-- The text before and after the last `separator`. -/
def splitLast (separator : Char) : List Char → Option (List Char × List Char)
  | [] => none
  | first :: rest =>
      match splitLast separator rest with
      | some (before, after) => some (first :: before, after)
      | none => if first = separator then some ([], rest) else none

/-- `_split_ref` of a text. -/
def splitRef (ref : String) : List Char × List Char :=
  if PyText.strip ref = "" then ([], [])
  else
    let stripped := (PyText.strip ref).toList
    let named := match PyText.partition '@' stripped with
      | some (before, _) => before
      | none => stripped
    match splitLast ':' named with
    | none => (named, [])
    | some (repository, tag) => if '/' ∈ tag then (named, []) else (repository, tag)

/-- The family of a comparable tag. -/
inductive Family where
  | semver
  | minor (major : Nat) (suffix : List Char)
  deriving DecidableEq

/-- A sortable key: numbers, then a text. -/
abbrev Key := List Nat ×ₗ List Char

/-- A comparable tag's family and key. -/
structure Order where
  family : Family
  key : Key

section Grammar

variable (digits : DecimalDigits)

/-- `(\d+)` at the start of a text, and what follows it. -/
def number (text : List Char) : Option (List Char × List Char) :=
  let found := text.takeWhile fun character => (digits.value character).isSome
  if found = [] then none
  else some (found, text.dropWhile fun character => (digits.value character).isSome)

/-- The number a run of digits stands for. -/
def numberValue (run : List Char) : Nat :=
  PyText.digitsValue 10 (fun character => (digits.value character).getD 0) run

/-- `sys.get_int_max_str_digits()`, unless it was set. -/
def maxStrDigits : Nat := 4300

/-- `int` of a run of digits, which reads no more of them than the limit. -/
def intOf (run : List Char) : Except PyError Nat :=
  if maxStrDigits < run.length then
    .error (.valueError ("Exceeds the limit (4300 digits) for integer string conversion: value " ++
      "has " ++ toString run.length ++ " digits; use sys.set_int_max_str_digits() to increase " ++
      "the limit"))
  else .ok (numberValue digits run)

/-- A full stop. -/
def dot : List Char → Option (List Char)
  | '.' :: rest => some rest
  | _ => none

/-- `v?`. -/
def afterV : List Char → List Char
  | 'v' :: rest => rest
  | text => text

/-- `$`: the end, or a newline before it. -/
def atEnd (text : List Char) : Bool :=
  text = [] || text = ['\n']

/-- `_MAJOR_MINOR` where its third group takes part. -/
def majorMinor (tag : List Char) : Option (List Char × List Char × List Char) := do
  let (major, rest) ← number digits tag
  let rest ← dot rest
  let (minor, rest) ← number digits rest
  match rest with
  | '-' :: letter :: more =>
      if letter.isAlpha && atEnd (more.dropWhile Char.isAlphanum) then
        some (major, minor, letter :: more.takeWhile Char.isAlphanum)
      else none
  | _ => none

def bareMajorMinor (tag : List Char) : Option (List Char × List Char) := do
  let (major, rest) ← number digits (afterV tag)
  let rest ← dot rest
  let (minor, rest) ← number digits rest
  if atEnd rest then some (major, minor) else none

/-- `(?:[-+](.+))?$`, with `""` where the group takes no part. -/
def suffixGroup (text : List Char) : Option (List Char) :=
  if atEnd text then some []
  else
    match text with
    | mark :: more =>
        let suffix := more.takeWhile fun character => character ≠ '\n'
        if (mark = '-' || mark = '+') && suffix ≠ [] &&
            atEnd (more.dropWhile fun character => character ≠ '\n') then some suffix
        else none
    | [] => none

/-- The fourth part, where it takes part. -/
def buildGroup (text : List Char) : Option (List Char) × List Char :=
  match (dot text).bind (number digits) with
  | some (build, rest) => (some build, rest)
  | none => (none, text)

/-- `_SEMVER`: the three numbers, the fourth part and the suffix. -/
def semver (tag : List Char) : Option (List (List Char) × Option (List Char) × List Char) := do
  let (major, rest) ← number digits (afterV tag)
  let rest ← dot rest
  let (minor, rest) ← number digits rest
  let rest ← dot rest
  let (patch, rest) ← number digits rest
  let (build, rest) := buildGroup digits rest
  let suffix ← suffixGroup rest
  some ([major, minor, patch], build, suffix)

/-- `int(build or 0)`. -/
def buildInt (build : Option (List Char)) : Except PyError Nat :=
  match build with
  | some run => intOf digits run
  | none => .ok 0

def order (tag : List Char) : Except PyError (Option Order) :=
  match majorMinor digits tag with
  | some (major, minor, suffix) => do
      let major ← intOf digits major
      let minor ← intOf digits minor
      return some ⟨.minor major suffix, toLex ([minor], [])⟩
  | none =>
      match bareMajorMinor digits tag with
      | some (major, minor) => do
          let major ← intOf digits major
          let minor ← intOf digits minor
          return some ⟨.semver, toLex ([major, minor, 0, 0, 1], [])⟩
      | none =>
          match semver digits tag with
          | some (runs, build, suffix) => do
              let numbers ← runs.mapM (intOf digits)
              let build ← buildInt digits build
              return some ⟨.semver,
                toLex (numbers ++ [build, if suffix = [] then 1 else 0], suffix)⟩
          | none => return none

theorem value_of_digit {character : Char} (isDigit : character.isDigit = true) :
    digits.value character = some (PyText.decimalDigit character) := by
  have range : 48 ≤ character.toNat ∧ character.toNat ≤ 57 := by
    simpa [Char.isDigit, UInt32.le_iff_toNat_le] using isDigit
  rw [digits.ascii character (by omega), if_pos isDigit]

theorem value_of_other {character : Char} (ascii : character.toNat < 128)
    (other : character.isDigit = false) : digits.value character = none := by
  rw [digits.ascii character ascii, other]
  rfl

/-- A run of characters `\d` matches. -/
def IsNumber (run : List Char) : Prop :=
  run ≠ [] ∧ ∀ character ∈ run, (digits.value character).isSome = true

theorem number_append {run rest : List Char} (isNumber : IsNumber digits run)
    (ends : ∀ character, rest.head? = some character → digits.value character = none) :
    number digits (run ++ rest) = some (run, rest) := by
  have stop : rest.takeWhile (fun character => (digits.value character).isSome) = [] ∧
      rest.dropWhile (fun character => (digits.value character).isSome) = rest := by
    cases rest with
    | nil => exact ⟨rfl, rfl⟩
    | cons character others =>
        have none := ends character rfl
        simp [none]
  simp only [number]
  rw [List.takeWhile_append_of_pos isNumber.2, List.dropWhile_append_of_pos isNumber.2, stop.1,
    stop.2, List.append_nil, if_neg isNumber.1]

theorem number_eq_some {text run rest : List Char} (read : number digits text = some (run, rest)) :
    text = run ++ rest ∧ IsNumber digits run := by
  simp only [number] at read
  split at read
  · cases read
  · rename_i nonempty
    simp only [Option.some.injEq, Prod.mk.injEq] at read
    obtain ⟨rfl, rfl⟩ := read
    constructor
    · rw [List.takeWhile_append_dropWhile]
    · refine ⟨nonempty, ?_⟩
      intro character inside
      have taken := List.mem_takeWhile_imp inside
      exact taken

theorem intOf_short {run : List Char} (short : run.length ≤ maxStrDigits) :
    intOf digits run = .ok (numberValue digits run) := by
  rw [intOf, if_neg (Nat.not_lt.mpr short)]

theorem intOf_long {run : List Char} (long : ¬ run.length ≤ maxStrDigits) :
    ∃ error, intOf digits run = .error error := by
  rw [intOf, if_pos (Nat.lt_of_not_le long)]
  exact ⟨_, rfl⟩

/-- The runs of digits that `_order` makes numbers of; none where a tag does not compare. -/
def numberGroups (tag : List Char) : List (List Char) :=
  match majorMinor digits tag with
  | some (major, minor, _) => [major, minor]
  | none =>
      match bareMajorMinor digits tag with
      | some (major, minor) => [major, minor]
      | none =>
          match semver digits tag with
          | some (runs, build, _) => runs ++ build.toList
          | none => []

/-- No number of the tag has more digits than `int` reads. -/
def Short (tag : List Char) : Prop :=
  ∀ run ∈ numberGroups digits tag, run.length ≤ maxStrDigits

theorem mapM_intOf_ok (runs : List (List Char))
    (short : ∀ run ∈ runs, run.length ≤ maxStrDigits) :
    runs.mapM (intOf digits) = .ok (runs.map (numberValue digits)) := by
  induction runs with
  | nil => rfl
  | cons run more ih =>
      rw [List.mapM_cons, intOf_short digits (short run List.mem_cons_self),
        ih fun other member => short other (List.mem_cons_of_mem _ member)]
      rfl

theorem mapM_intOf_error (runs : List (List Char))
    (long : ∃ run ∈ runs, ¬ run.length ≤ maxStrDigits) :
    ∃ error, runs.mapM (intOf digits) = .error error := by
  induction runs with
  | nil => simp at long
  | cons run more ih =>
      rw [List.mapM_cons]
      by_cases here : run.length ≤ maxStrDigits
      · obtain ⟨other, member, isLong⟩ := long
        rcases List.mem_cons.mp member with rfl | later
        · exact absurd here isLong
        · obtain ⟨error, failed⟩ := ih ⟨other, later, isLong⟩
          rw [intOf_short digits here, failed]
          exact ⟨error, rfl⟩
      · obtain ⟨error, failed⟩ := intOf_long digits here
        rw [failed]
        exact ⟨error, rfl⟩

theorem runs_ne_nil {tag : List Char} {runs : List (List Char)} {build : Option (List Char)}
    {suffix : List Char} (full : semver digits tag = some (runs, build, suffix)) : runs ≠ [] := by
  rintro rfl
  simp [semver, Option.bind_eq_some_iff] at full

/-- One of two runs is too long to read. -/
theorem two_long {α : Type} {first second : List Char}
    (long : first.length ≤ maxStrDigits → ¬ second.length ≤ maxStrDigits)
    (next : Nat → Nat → Except PyError α) :
    ∃ error, (do
      let one ← intOf digits first
      let two ← intOf digits second
      next one two) = .error error := by
  by_cases short : first.length ≤ maxStrDigits
  · obtain ⟨error, failed⟩ := intOf_long digits (long short)
    rw [intOf_short digits short, failed]
    exact ⟨error, rfl⟩
  · obtain ⟨error, failed⟩ := intOf_long digits short
    rw [failed]
    exact ⟨error, rfl⟩

theorem order_short {tag : List Char} (short : Short digits tag) :
    ∃ found, order digits tag = .ok found ∧ (found = none ↔ numberGroups digits tag = []) := by
  unfold Short numberGroups at short
  unfold order numberGroups
  cases twoParts : majorMinor digits tag with
  | some parts =>
      obtain ⟨major, minor, suffix⟩ := parts
      simp only [twoParts, List.forall_mem_cons] at short
      simp only [intOf_short digits short.1, intOf_short digits short.2.1]
      exact ⟨_, rfl, by simp⟩
  | none =>
      cases bare : bareMajorMinor digits tag with
      | some parts =>
          obtain ⟨major, minor⟩ := parts
          simp only [twoParts, bare, List.forall_mem_cons] at short
          simp only [intOf_short digits short.1, intOf_short digits short.2.1]
          exact ⟨_, rfl, by simp⟩
      | none =>
          cases full : semver digits tag with
          | none => exact ⟨none, rfl, by simp⟩
          | some parts =>
              obtain ⟨runs, build, suffix⟩ := parts
              simp only [twoParts, bare, full, List.forall_mem_append] at short
              have nonempty : runs ≠ [] := runs_ne_nil digits full
              simp only [mapM_intOf_ok digits runs short.1]
              cases build with
              | none => exact ⟨_, rfl, by simp [nonempty]⟩
              | some run =>
                  simp only [buildInt, intOf_short digits (short.2 run (by simp))]
                  exact ⟨_, rfl, by simp⟩

theorem order_long {tag : List Char} (long : ¬ Short digits tag) :
    ∃ error, order digits tag = .error error := by
  unfold Short numberGroups at long
  unfold order
  cases twoParts : majorMinor digits tag with
  | some parts =>
      obtain ⟨major, minor, suffix⟩ := parts
      simp only [twoParts, List.forall_mem_cons] at long
      exact two_long digits (by simpa using long) _
  | none =>
      cases bare : bareMajorMinor digits tag with
      | some parts =>
          obtain ⟨major, minor⟩ := parts
          simp only [twoParts, bare, List.forall_mem_cons] at long
          exact two_long digits (by simpa using long) _
      | none =>
          cases full : semver digits tag with
          | none => simp [twoParts, bare, full] at long
          | some parts =>
              obtain ⟨runs, build, suffix⟩ := parts
              simp only [twoParts, bare, full, List.forall_mem_append, not_and_or] at long
              by_cases runsShort : ∀ run ∈ runs, run.length ≤ maxStrDigits
              · have buildLong := long.resolve_left (not_not_intro runsShort)
                cases build with
                | none => simp at buildLong
                | some run =>
                    have runLong : ¬ run.length ≤ maxStrDigits := by simpa using buildLong
                    obtain ⟨error, failed⟩ := intOf_long digits runLong
                    simp only [mapM_intOf_ok digits runs runsShort, buildInt, failed]
                    exact ⟨error, rfl⟩
              · obtain ⟨error, failed⟩ := mapM_intOf_error digits runs (by simpa using runsShort)
                simp only [failed]
                exact ⟨error, rfl⟩

end Grammar

section Pins

variable (digits : DecimalDigits)

/-- `pins.get(repository)`, where `pins` is a dict. -/
def recorded (pins : Json) (repository : List Char) : Option Json :=
  match pins with
  | .obj entries => PyDict.get entries (String.ofList repository)
  | _ => none

def catenaImagePinned (pins : Json) (repository : List Char) : Except PyError String :=
  match recorded pins repository with
  | some (.str pinRef) =>
      if PyText.strip pinRef = "" then .ok ""
      else if (splitRef pinRef).1 ≠ repository then .ok ""
      else (order digits (splitRef pinRef).2).map fun found =>
        if found.isNone then "" else pinRef
  | _ => .ok ""

def catenaImagePin (py : Builtins) (defaultRef pins : Json) : Except PyError String :=
  match defaultRef with
  | .str floor =>
      if PyText.strip floor = "" then
        .error (.valueError ("catena_image_pin needs the image the converge would otherwise " ++
          "pin, got " ++ py.repr (.str floor)))
      else do
        let pinRef ← catenaImagePinned digits pins (splitRef floor).1
        if pinRef = "" then return floor
        else
          match ← order digits (splitRef floor).2 with
          | none => return floor
          | some floorOrder =>
              match ← order digits (splitRef pinRef).2 with
              | none => throw .typeError
              | some pinOrder =>
                  if pinOrder.family ≠ floorOrder.family then return floor
                  else return if floorOrder.key < pinOrder.key then pinRef else floor
  | other => .error (.valueError ("catena_image_pin needs the image the converge would otherwise " ++
      "pin, got " ++ py.repr other))

variable {digits}

theorem catenaImagePinned_spec {pins : Json} {repository : List Char} {pinRef : String}
    (pinned : catenaImagePinned digits pins repository = .ok pinRef) (usable : pinRef ≠ "") :
    recorded pins repository = some (.str pinRef) ∧ PyText.strip pinRef ≠ "" ∧
      (splitRef pinRef).1 = repository ∧
      ∃ found, order digits (splitRef pinRef).2 = .ok (some found) := by
  have unusable : (Except.ok "" : Except PyError String) ≠ .ok pinRef := by
    simpa using usable.symm
  unfold catenaImagePinned at pinned
  cases entry : recorded pins repository with
  | none => exact absurd (by simpa [entry] using pinned) unusable
  | some value =>
      cases value with
      | str text =>
          simp only [entry] at pinned
          split at pinned
          · exact absurd pinned unusable
          · rename_i notBlank
            split at pinned
            · exact absurd pinned unusable
            · rename_i agrees
              cases read : order digits (splitRef text).2 with
              | error failure =>
                  rw [read] at pinned
                  cases pinned
              | ok found =>
                  rw [read] at pinned
                  cases found with
                  | none => exact absurd pinned unusable
                  | some pinOrder =>
                      have same : text = pinRef := Except.ok.inj pinned
                      rw [← same]
                      exact ⟨rfl, notBlank, not_not.mp agrees, pinOrder, read⟩
      | _ => exact absurd (by simpa [entry] using pinned) unusable

/-- A converge runs the shipped image, or the recorded one where it is of the
same repository and family and its key is greater. -/
theorem catenaImagePin_cases {py : Builtins} {floor : String} (given : PyText.strip floor ≠ "")
    {pins : Json} {result : String}
    (ran : catenaImagePin digits py (.str floor) pins = .ok result) :
    result = floor ∨
      ∃ floorOrder pinOrder, catenaImagePinned digits pins (splitRef floor).1 = .ok result ∧
        result ≠ "" ∧ order digits (splitRef floor).2 = .ok (some floorOrder) ∧
        order digits (splitRef result).2 = .ok (some pinOrder) ∧
        pinOrder.family = floorOrder.family ∧ floorOrder.key < pinOrder.key := by
  simp only [catenaImagePin, if_neg given] at ran
  cases pinned : catenaImagePinned digits pins (splitRef floor).1 with
  | error failure => simp [pinned, bind, Except.bind] at ran
  | ok pinRef =>
      simp only [pinned, bind, Except.bind] at ran
      split at ran
      · exact Or.inl (Except.ok.inj ran).symm
      · rename_i usable
        cases floorRead : order digits (splitRef floor).2 with
        | error failure => simp [floorRead] at ran
        | ok floorFound =>
            cases floorFound with
            | none =>
                simp only [floorRead] at ran
                exact Or.inl (Except.ok.inj ran).symm
            | some floorOrder =>
                obtain ⟨-, -, -, pinOrder, pinRead⟩ := catenaImagePinned_spec pinned usable
                simp only [floorRead, pinRead] at ran
                split at ran
                · exact Or.inl (Except.ok.inj ran).symm
                · rename_i related
                  split at ran
                  · rename_i greater
                    obtain rfl : pinRef = result := Except.ok.inj ran
                    exact Or.inr ⟨floorOrder, pinOrder, rfl, usable, rfl, pinRead,
                      not_ne_iff.mp related, greater⟩
                  · exact Or.inl (Except.ok.inj ran).symm

/-- What holds of the image a converge runs. -/
structure Raises (digits : DecimalDigits) (py : Builtins) (floor : String) (pins : Json)
    (result : String) : Prop where
  /-- It is the shipped image or the one recorded for its repository. -/
  source : result = floor ∨ recorded pins (splitRef floor).1 = some (.str result)
  repository : (splitRef result).1 = (splitRef floor).1
  /-- A shipped image that does not compare is run. -/
  incomparable : (∀ floorOrder, order digits (splitRef floor).2 ≠ .ok (some floorOrder)) →
    result = floor
  notBelow : ∀ floorOrder, order digits (splitRef floor).2 = .ok (some floorOrder) →
    ∃ resultOrder, order digits (splitRef result).2 = .ok (some resultOrder) ∧
      resultOrder.family = floorOrder.family ∧ floorOrder.key ≤ resultOrder.key
  /-- No other entry counts. -/
  only : ∀ other, recorded other (splitRef floor).1 = recorded pins (splitRef floor).1 →
    catenaImagePin digits py (.str floor) other = .ok result
  /-- The result ships itself. -/
  again : catenaImagePin digits py (.str result) pins = .ok result

theorem catenaImagePin_congr (py : Builtins) (floor : String) {pins other : Json}
    (same : recorded other (splitRef floor).1 = recorded pins (splitRef floor).1) :
    catenaImagePin digits py (.str floor) other = catenaImagePin digits py (.str floor) pins := by
  have pinned : catenaImagePinned digits other (splitRef floor).1 =
      catenaImagePinned digits pins (splitRef floor).1 := by
    unfold catenaImagePinned
    rw [same]
  simp only [catenaImagePin, pinned]

/-- A pin can only raise the version of its own repository. -/
theorem raises_of_ran {py : Builtins} {floor : String} (given : PyText.strip floor ≠ "")
    {pins : Json} {result : String}
    (ran : catenaImagePin digits py (.str floor) pins = .ok result) :
    Raises digits py floor pins result := by
  have only : ∀ other, recorded other (splitRef floor).1 = recorded pins (splitRef floor).1 →
      catenaImagePin digits py (.str floor) other = .ok result :=
    fun other same => (catenaImagePin_congr py floor same).trans ran
  rcases catenaImagePin_cases given ran with
    rfl | ⟨floorOrder, pinOrder, pinned, usable, floorRead, pinRead, related, greater⟩
  · exact ⟨Or.inl rfl, rfl, fun _ => rfl, fun floorOrder found => ⟨floorOrder, found, rfl, le_refl _⟩,
      only, ran⟩
  · obtain ⟨entry, notBlank, repository, -⟩ := catenaImagePinned_spec pinned usable
    refine ⟨Or.inr entry, repository, ?_, ?_, only, ?_⟩
    · exact fun incomparable => absurd floorRead (incomparable floorOrder)
    · intro other found
      rw [floorRead] at found
      rw [← Option.some.inj (Except.ok.inj found)]
      exact ⟨pinOrder, pinRead, related, greater.le⟩
    · simp only [catenaImagePin, if_neg notBlank, repository, pinned, bind, Except.bind,
        if_neg usable, pinRead]
      simp [pure, Except.pure]

/-- `int` reads the numbers of a pin that names its repository, and of the shipped tag
where such a pin compares. -/
def PinReads (digits : DecimalDigits) (floor : String) (pins : Json) : Prop :=
  ∀ pinRef, recorded pins (splitRef floor).1 = some (.str pinRef) → PyText.strip pinRef ≠ "" →
    (splitRef pinRef).1 = (splitRef floor).1 →
      Short digits (splitRef pinRef).2 ∧
        (numberGroups digits (splitRef pinRef).2 ≠ [] → Short digits (splitRef floor).2)

theorem pinReads_of_ran {py : Builtins} {floor : String} (given : PyText.strip floor ≠ "")
    {pins : Json} {result : String}
    (ran : catenaImagePin digits py (.str floor) pins = .ok result) :
    PinReads digits floor pins := by
  intro pinRef entry notBlank repository
  simp only [catenaImagePin, if_neg given] at ran
  have pinned : catenaImagePinned digits pins (splitRef floor).1 =
      (order digits (splitRef pinRef).2).map fun found =>
        if found.isNone then "" else pinRef := by
    unfold catenaImagePinned
    simp only [entry, if_neg notBlank, repository, ne_eq, not_true_eq_false, if_false]
  by_cases short : Short digits (splitRef pinRef).2
  · refine ⟨short, fun compares => ?_⟩
    by_contra long
    obtain ⟨found, pinRead, none_iff⟩ := order_short digits short
    obtain ⟨error, floorFailed⟩ := order_long digits long
    cases found with
    | none => exact compares (none_iff.mp rfl)
    | some pinOrder =>
        have usable : pinRef ≠ "" := by
          rintro rfl
          exact notBlank (by decide)
        simp [pinned, pinRead, Except.map, bind, Except.bind, usable, floorFailed] at ran
  · obtain ⟨error, failed⟩ := order_long digits short
    simp [pinned, failed, Except.map, bind, Except.bind] at ran

theorem ran_of_pinReads (py : Builtins) {floor : String} (given : PyText.strip floor ≠ "")
    {pins : Json} (reads : PinReads digits floor pins) :
    ∃ result, catenaImagePin digits py (.str floor) pins = .ok result := by
  simp only [catenaImagePin, if_neg given]
  cases pinned : catenaImagePinned digits pins (splitRef floor).1 with
  | error failure =>
      exfalso
      unfold catenaImagePinned at pinned
      split at pinned
      · rename_i pinRef entry
        split at pinned
        · cases pinned
        · rename_i notBlank
          split at pinned
          · cases pinned
          · rename_i repository
            obtain ⟨short, -⟩ := reads pinRef entry notBlank (not_not.mp repository)
            obtain ⟨found, read, -⟩ := order_short digits short
            rw [read] at pinned
            cases pinned
      · cases pinned
  | ok pinRef =>
      simp only [bind, Except.bind]
      split
      · exact ⟨floor, rfl⟩
      · rename_i usable
        obtain ⟨entry, notBlank, repository, pinOrder, pinRead⟩ :=
          catenaImagePinned_spec pinned usable
        obtain ⟨short, floorShort⟩ := reads pinRef entry notBlank repository
        obtain ⟨found, read, none_iff⟩ := order_short digits short
        have compares : numberGroups digits (splitRef pinRef).2 ≠ [] := by
          intro empty
          rw [none_iff.mpr empty, pinRead] at read
          cases read
        obtain ⟨floorFound, floorRead, -⟩ := order_short digits (floorShort compares)
        cases floorFound with
        | none => exact ⟨floor, by simp [floorRead, pure, Except.pure]⟩
        | some floorOrder =>
            simp only [floorRead, pinRead]
            split
            · exact ⟨floor, rfl⟩
            · exact ⟨_, rfl⟩

/-- A pin can only raise the version of its own repository, where `int` reads the numbers. -/
theorem catenaImagePin_raises_iff (py : Builtins) {floor : String}
    (given : PyText.strip floor ≠ "") (pins : Json) :
    (∃ result, catenaImagePin digits py (.str floor) pins = .ok result ∧
      Raises digits py floor pins result) ↔ PinReads digits floor pins := by
  constructor
  · rintro ⟨result, ran, -⟩
    exact pinReads_of_ran given ran
  · intro reads
    obtain ⟨result, ran⟩ := ran_of_pinReads py given reads
    exact ⟨result, ran, raises_of_ran given ran⟩

end Pins

def asciiDigits : DecimalDigits where
  value character :=
    if character.isDigit then some (PyText.decimalDigit character) else none
  ascii _ _ := rfl

theorem traefik_raises : ∃ result,
    catenaImagePin asciiDigits Builtins.unused (.str "traefik:v3.7.10")
      (.obj [("traefik", .str "traefik:v3.7.12")]) = .ok result ∧
    Raises asciiDigits Builtins.unused "traefik:v3.7.10"
      (.obj [("traefik", .str "traefik:v3.7.12")]) result := by
  apply (catenaImagePin_raises_iff Builtins.unused (by decide) _).mpr
  intro pinRef entry _ _
  obtain rfl : "traefik:v3.7.12" = pinRef := by
    simpa [recorded, PyDict.get, show String.ofList (splitRef "traefik:v3.7.10").1 = "traefik" by
      decide] using entry
  unfold Short
  decide

end ImagePin

end Catena
