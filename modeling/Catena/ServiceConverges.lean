import Catena.ServiceEdits

/-!
# The service converges

The flags of a drift lead a live service to one that agrees with the desired
dict, and the flags a service is created with describe such a service, as far
as docker accepts the declared values and the declared durations are read
exactly.
-/

namespace Catena

namespace SwarmService

theorem exists_digits (number : Nat) :
    ∃ digits : Digits, toString (number : Int) = String.ofList digits.text ∧
      digits.value = number := by
  have nonempty : Nat.toDigits 10 number ≠ [] := Nat.toDigits_ne_nil
  have allDigits : ∀ digit ∈ Nat.toDigits 10 number, digit.isDigit = true := fun digit member =>
    Nat.isDigit_of_mem_toDigits (by decide) (by decide) member
  use ⟨Nat.toDigits 10 number, nonempty, allDigits⟩
  constructor
  · rfl
  · exact PyText.digitsValue_toDigits number

section Accepted

variable {py : Builtins} {docker : Docker} {desired : Desired}

theorem size_of_accepted (documented : docker.Documented py) (size : SizeValue) {bytes : Int}
    (read : docker.size (size.json.toText py) = some bytes) : bytes = size.bytes := by
  cases size with
  | number count small =>
      obtain ⟨digits, written, value⟩ := exists_digits count
      have text : (SizeText.mk digits none).text = digits.text := by simp [SizeText.text]
      have bytes_eq : (SizeText.mk digits none).bytes = count := by
        simp [SizeText.bytes, SizeText.factor, value]
      rw [SizeValue.json, Json.toText, documented.repr_int, written, ← text] at read
      · rw [documented.size_text _ bytes (by rwa [bytes_eq]) read, bytes_eq]
        rfl
      · simp
  | text size small => exact documented.size_text size bytes small read

/-- What docker stores for an accepted value is what the dict means. -/
theorem reads_eq_meant (documented : docker.Documented py) {field : Field} {want meant value : Json}
    (declared : desired.wanted field = some want) (means : desired.meant field = some meant)
    (read : docker.reads field (want.toText py) = some value) : value = meant := by
  have size {size : SizeValue}
      (read : (docker.size (size.json.toText py)).map Json.int = some value) :
      value = .int size.bytes := by
    obtain ⟨bytes, found, rfl⟩ := Option.map_eq_some_iff.mp read
    rw [size_of_accepted documented size found]
  have nanos {duration : DurationText}
      (read : (docker.duration (duration.json.toText py)).map Json.int = some value) :
      value = .int duration.nanos := by
    obtain ⟨count, found, rfl⟩ := Option.map_eq_some_iff.mp read
    rw [documented.duration_text duration count found]
  cases field with
  | image => cases means
  | limitMemory =>
      obtain ⟨wanted, -, rfl, rfl⟩ := one_source declared means
      exact size read
  | reserveMemory =>
      obtain ⟨wanted, -, rfl, rfl⟩ := one_source declared means
      exact size read
  | stopGracePeriod =>
      obtain ⟨duration, -, rfl, rfl⟩ := one_source declared means
      exact nanos read
  | failureAction =>
      obtain ⟨action, -, rfl, rfl⟩ := one_source declared means
      exact (Option.some.inj read).symm
  | monitor =>
      obtain ⟨duration, -, rfl, rfl⟩ := one_source declared means
      exact nanos read
  | failureRatio => cases means
  | order =>
      obtain ⟨order, -, rfl, rfl⟩ := one_source declared means
      exact (Option.some.inj read).symm
  | constraints => cases means
  | healthTest =>
      obtain ⟨health, -, rfl, rfl⟩ := one_source declared means
      exact (Option.some.inj read).symm
  | healthInterval =>
      obtain ⟨duration, -, rfl, rfl⟩ := one_source declared means
      exact nanos read
  | healthRetries =>
      obtain ⟨retries, -, rfl, rfl⟩ := one_source declared means
      obtain ⟨count, found, rfl⟩ := Option.map_eq_some_iff.mp read
      rw [Json.toText, documented.repr_int] at found
      · rw [documented.count_text retries count found]
      · simp
  | healthStartPeriod =>
      obtain ⟨duration, -, rfl, rfl⟩ := one_source declared means
      exact nanos read

end Accepted

/-- The flag of a declared field with its text. -/
def pairOf (py : Builtins) (desired : Desired) (field : Field) : List (String × String) :=
  match desired.wanted field with
  | none => []
  | some want => [(field.flag, want.toText py)]

/-- The live value of a declared field is not the one meant. -/
def moved (desired : Desired) (service : Json) (field : Field) : Bool :=
  match desired.meant field with
  | none => false
  | some meant => !Json.pyEq (field.live service) meant

def healthFields : List Field :=
  [.healthTest, .healthInterval, .healthRetries, .healthStartPeriod]

def imageChunk (py : Builtins) (desired : Desired) (service : Json) : List (String × String) :=
  match desired.image with
  | none => []
  | some want =>
      if sameImage py (Field.image.live service) (.str want) then [] else [("--image", want)]

def fieldChunk (py : Builtins) (desired : Desired) (service : Json) (field : Field) :
    List (String × String) :=
  if moved desired service field then pairOf py desired field else []

def constraintsChunk (py : Builtins) (desired : Desired) (service : Json) :
    List (String × String) :=
  match desired.constraintTexts py with
  | none => []
  | some texts =>
      (sortedDifference (liveConstraints service) texts).map (fun text => ("--constraint-rm", text)) ++
        (sortedDifference texts (liveConstraints service)).map fun text =>
          ("--constraint-add", text)

def healthChunk (py : Builtins) (desired : Desired) (service : Json) : List (String × String) :=
  if healthFields.any (moved desired service) then healthFields.flatMap (pairOf py desired) else []

/-- The flags of the drift, part by part. -/
def chunks (py : Builtins) (desired : Desired) (service : Json) :
    List (List (String × String)) :=
  [imageChunk py desired service, fieldChunk py desired service .limitMemory,
    fieldChunk py desired service .reserveMemory, fieldChunk py desired service .stopGracePeriod,
    fieldChunk py desired service .failureAction, fieldChunk py desired service .monitor,
    fieldChunk py desired service .order, constraintsChunk py desired service,
    healthChunk py desired service]

theorem joined_map_ok (lists : List (List (String × String))) :
    joined (lists.map fun pairs => .ok (flagsOf pairs)) = .ok (flagsOf lists.flatten) := by
  induction lists with
  | nil => rfl
  | cons pairs rest ih =>
      rw [List.map_cons, joined, ih, List.flatten_cons, flagsOf_append]
      rfl

theorem flagsOf_map (flag : String) (texts : List String) :
    flagsOf (texts.map fun text => (flag, text)) = texts.flatMap fun text => [flag, text] := by
  simp [flagsOf, List.flatMap_map]

section Flags

variable {py : Builtins} {fields : PyDict String Json} {desired : Desired} {service : Json}

theorem givenFlag_eq (describes : desired.Describes fields) (field : Field) :
    givenFlag py fields field.key field.flag = flagsOf (pairOf py desired field) := by
  rw [givenFlag, describes field, pairOf]
  cases desired.wanted field <;> rfl

theorem imagePart_flags (describes : desired.Describes fields) :
    imagePart py fields service = .ok (flagsOf (imageChunk py desired service)) := by
  have declared : PyDict.get fields "image" = desired.image.map Json.str := describes .image
  rw [imagePart, imageChunk, declared]
  cases desired.image with
  | none => rfl
  | some want =>
      cases same : sameImage py (Field.image.live service) (.str want) <;>
        simp [same, flagsOf, Json.toText]

theorem differs_eq (exact : ∀ duration ∈ desired.durations, duration.Exact) {field : Field}
    (member : field ∈ compared) {want : Json} (declared : desired.wanted field = some want) :
    differs (field.read py) (.ok (field.live service)) want = .ok (moved desired service field) := by
  have notTest : field ≠ .healthTest := by
    rintro rfl
    exact absurd member (by decide)
  have both := @wanted_isSome_iff desired field member
  rw [declared, Option.isSome_some] at both
  obtain ⟨meant, means⟩ := Option.isSome_iff_exists.mp both.symm
  rw [differs, read_eq_meant exact declared means notTest, moved, means]
  rfl

theorem moved_of_undeclared {field : Field} (undeclared : desired.wanted field = none) :
    moved desired service field = false := by
  rw [moved]
  cases means : desired.meant field with
  | none => rfl
  | some meant =>
      obtain ⟨want, declared⟩ := wanted_of_meant means
      rw [undeclared] at declared
      cases declared

theorem partOf_flags (describes : desired.Describes fields)
    (exact : ∀ duration ∈ desired.durations, duration.Exact) {field : Field}
    (member : field ∈ compared) :
    partOf py fields service field = .ok (flagsOf (fieldChunk py desired service field)) := by
  rw [partOf, fieldDrift, describes field, fieldChunk, pairOf]
  cases declared : desired.wanted field with
  | none =>
      rw [moved_of_undeclared declared]
      rfl
  | some want =>
      simp only [differs_eq exact member declared]
      cases moved desired service field <;> rfl

theorem orDiffers_flags (describes : desired.Describes fields)
    (exact : ∀ duration ∈ desired.durations, duration.Exact) {field : Field}
    (member : field ∈ compared) (changed : Bool) :
    orDiffers fields changed field.key (.ok (field.live service)) (field.read py) =
      .ok (changed || moved desired service field) := by
  rw [orDiffers, describes field]
  cases changed with
  | true => rfl
  | false =>
      cases declared : desired.wanted field with
      | none =>
          rw [moved_of_undeclared declared]
          rfl
      | some want => simp [differs_eq exact member declared]

theorem constraintsPart_flags (describes : desired.Describes fields) :
    constraintsPart py fields service = .ok (flagsOf (constraintsChunk py desired service)) := by
  have declared : PyDict.get fields "constraints" = desired.constraints.map Json.arr :=
    describes .constraints
  rw [constraintsPart, constraintsChunk, declared, Desired.constraintTexts]
  cases desired.constraints with
  | none => rfl
  | some listed =>
      simp only [Option.map_some, flagsOf_append, flagsOf_map]
      rfl

theorem healthFlags_eq (describes : desired.Describes fields) :
    healthFlags py fields = flagsOf ([Field.healthInterval, .healthRetries,
      .healthStartPeriod].flatMap (pairOf py desired)) := by
  have interval := @givenFlag_eq py _ _ describes .healthInterval
  have retries := @givenFlag_eq py _ _ describes .healthRetries
  have start := @givenFlag_eq py _ _ describes .healthStartPeriod
  simp only [Field.key, Field.flag] at interval retries start
  rw [healthFlags, interval, retries, start]
  simp [flagsOf_append]

theorem healthPart_flags (describes : desired.Describes fields)
    (exact : ∀ duration ∈ desired.durations, duration.Exact) :
    healthPart py fields service = .ok (flagsOf (healthChunk py desired service)) := by
  have declared : PyDict.get fields "health_cmd" =
      desired.health.map fun health => .str health.command := describes .healthTest
  rw [healthPart, declared, healthChunk]
  cases found : desired.health with
  | none =>
      have none (field : Field) (member : field ∈ healthFields) :
          moved desired service field = false := by
        apply moved_of_undeclared
        simp only [healthFields, List.mem_cons, List.not_mem_nil, or_false] at member
        rcases member with rfl | rfl | rfl | rfl <;> simp [Desired.wanted, found]
      rw [if_neg]
      · rfl
      · simpa using none
  | some health =>
      have test : (!Json.pyEq (Field.healthTest.live service) (healthTest health.command)) =
          moved desired service .healthTest := by
        simp [moved, Desired.meant, found, healthTest]
      have testPair : pairOf py desired .healthTest = [("--health-cmd", health.command)] := by
        simp [pairOf, Desired.wanted, found, Field.flag, Json.toText]
      have interval (changed : Bool) := @orDiffers_flags py fields desired service describes exact
        .healthInterval (by decide) changed
      have retries (changed : Bool) := @orDiffers_flags py fields desired service describes exact
        .healthRetries (by decide) changed
      have start (changed : Bool) := @orDiffers_flags py fields desired service describes exact
        .healthStartPeriod (by decide) changed
      simp only [Field.key, Field.read] at interval retries start
      simp only [Option.map_some, Json.toText, test, bind, Except.bind, interval, retries, start,
        healthFlags_eq describes]
      have any : healthFields.any (moved desired service) =
          (((moved desired service .healthTest || moved desired service .healthInterval) ||
            moved desired service .healthRetries) || moved desired service .healthStartPeriod) := by
        simp [healthFields, Bool.or_assoc]
      rw [any]
      split
      · have front : ["--health-cmd", health.command] =
            flagsOf (pairOf py desired .healthTest) := by
          rw [testPair]
          rfl
        rw [front, ← flagsOf_append]
        rfl
      · rfl

theorem drift_eq_flags {inspect : Json} (shown : Shown (first inspect))
    (describes : desired.Describes fields)
    (exact : ∀ duration ∈ desired.durations, duration.Exact) :
    swarmServiceDrift py inspect (.obj fields) =
      .ok (flagsOf (chunks py desired (first inspect)).flatten) := by
  rw [drift_eq_joined shown (describes .failureRatio), ← joined_map_ok, parts, chunks,
    imagePart_flags describes, partOf_flags describes exact (by decide),
    partOf_flags describes exact (by decide), partOf_flags describes exact (by decide),
    partOf_flags describes exact (by decide), partOf_flags describes exact (by decide),
    partOf_flags describes exact (by decide), constraintsPart_flags describes,
    healthPart_flags describes exact]
  rfl

end Flags

/-- A flag that some declared key stands behind. -/
def Owned (py : Builtins) (desired : Desired) (pair : String × String) : Prop :=
  (∃ field want, field ≠ .constraints ∧ desired.wanted field = some want ∧
    pair = (field.flag, want.toText py)) ∨
  ∃ texts, desired.constraintTexts py = some texts ∧ ∃ text,
    (text ∈ texts ∧ (pair = ("--constraint", text) ∨ pair = ("--constraint-add", text))) ∨
      (text ∉ texts ∧ pair = ("--constraint-rm", text))

/-- Docker accepts the text of every declared value. -/
def Accepted (py : Builtins) (docker : Docker) (desired : Desired) : Prop :=
  ∀ field want, desired.wanted field = some want → field ≠ .constraints →
    (docker.reads field (want.toText py)).isSome = true

section Owned

variable {py : Builtins} {docker : Docker} {desired : Desired} {service : Json}

theorem owned_pairOf {field : Field} (own : field ≠ .constraints) :
    ∀ pair ∈ pairOf py desired field, Owned py desired pair := by
  intro pair member
  rw [pairOf] at member
  cases declared : desired.wanted field with
  | none =>
      rw [declared] at member
      cases member
  | some want =>
      rw [declared, List.mem_singleton] at member
      exact Or.inl ⟨field, want, own, declared, member⟩

theorem owned_healthFields :
    ∀ pair ∈ healthFields.flatMap (pairOf py desired), Owned py desired pair := by
  intro pair member
  obtain ⟨field, inFields, member⟩ := List.mem_flatMap.mp member
  apply owned_pairOf _ pair member
  rintro rfl
  exact absurd inFields (by decide)

theorem owned_chunks :
    ∀ pair ∈ (chunks py desired service).flatten, Owned py desired pair := by
  have field {field : Field} (own : field ≠ .constraints) :
      ∀ pair ∈ fieldChunk py desired service field, Owned py desired pair := by
    intro pair member
    rw [fieldChunk] at member
    split at member
    · exact owned_pairOf own pair member
    · cases member
  have image : ∀ pair ∈ imageChunk py desired service, Owned py desired pair := by
    intro pair member
    rw [imageChunk] at member
    cases declared : desired.image with
    | none =>
        rw [declared] at member
        cases member
    | some want =>
        rw [declared] at member
        simp only at member
        split at member
        · cases member
        · left
          exact ⟨.image, .str want, by decide, by simp [Desired.wanted, declared],
            List.mem_singleton.mp member⟩
  have constraints : ∀ pair ∈ constraintsChunk py desired service, Owned py desired pair := by
    intro pair member
    rw [constraintsChunk] at member
    cases declared : desired.constraintTexts py with
    | none =>
        rw [declared] at member
        cases member
    | some texts =>
        rw [declared] at member
        right
        use texts, declared
        rcases List.mem_append.mp member with removed | added
        · obtain ⟨text, found, rfl⟩ := List.mem_map.mp removed
          exact ⟨text, Or.inr ⟨((mem_sortedDifference _ _ _).mp found).2, rfl⟩⟩
        · obtain ⟨text, found, rfl⟩ := List.mem_map.mp added
          exact ⟨text, Or.inl ⟨((mem_sortedDifference _ _ _).mp found).1, Or.inr rfl⟩⟩
  have health : ∀ pair ∈ healthChunk py desired service, Owned py desired pair := by
    intro pair member
    rw [healthChunk] at member
    split at member
    · exact owned_healthFields pair member
    · cases member
  intro pair member
  simp only [chunks, List.flatten_cons, List.flatten_nil, List.append_nil, List.mem_append] at member
  rcases member with here | here | here | here | here | here | here | here | here
  · exact image pair here
  · exact field (by decide) pair here
  · exact field (by decide) pair here
  · exact field (by decide) pair here
  · exact field (by decide) pair here
  · exact field (by decide) pair here
  · exact field (by decide) pair here
  · exact constraints pair here
  · exact health pair here

/-- The flags a service is created with. -/
def createPairs (py : Builtins) (desired : Desired) : List (String × String) :=
  [Field.limitMemory, .reserveMemory, .stopGracePeriod, .failureAction, .monitor,
    .order].flatMap (pairOf py desired) ++
    ((desired.constraintTexts py).getD []).map (fun text => ("--constraint", text)) ++
    healthFields.flatMap (pairOf py desired)

theorem owned_createPairs : ∀ pair ∈ createPairs py desired, Owned py desired pair := by
  intro pair member
  rw [createPairs, List.mem_append, List.mem_append] at member
  rcases member with (member | member) | member
  · obtain ⟨field, inFields, member⟩ := List.mem_flatMap.mp member
    apply owned_pairOf _ pair member
    rintro rfl
    exact absurd inFields (by decide)
  · obtain ⟨text, found, rfl⟩ := List.mem_map.mp member
    cases declared : desired.constraintTexts py with
    | none => simp [declared] at found
    | some texts =>
        rw [declared, Option.getD_some] at found
        exact Or.inr ⟨texts, declared, text, Or.inl ⟨found, Or.inl rfl⟩⟩
  · exact owned_healthFields pair member

/-- A flag of a declared key is read as an edit that follows the dict. -/
theorem Owned.follows (documented : docker.Documented py) {pair : String × String}
    (owned : Owned py desired pair) {edit : Edit}
    (read : docker.edit pair.1 pair.2 = some edit) :
    edit.Follows py docker desired ∧ (desired.wanted edit.field).isSome = true := by
  rcases owned with ⟨field, want, own, declared, rfl⟩ | ⟨texts, declared, text, shape⟩
  · rw [edit_flag own] at read
    obtain ⟨value, found, rfl⟩ := Option.map_eq_some_iff.mp read
    constructor
    · cases field with
      | constraints => exact absurd rfl own
      | image =>
          obtain ⟨image, isImage, rfl⟩ := Option.map_eq_some_iff.mp declared
          have stored : value = .str (docker.resolve image) := (Option.some.inj found).symm
          constructor
          · exact ⟨_, stored⟩
          · intro other same
            rw [isImage] at same
            rw [stored, Option.some.inj same]
      | _ => exact fun meant means => reads_eq_meant documented declared means found
    · rw [Edit.field, declared]
      rfl
  · have isDeclared : (desired.wanted .constraints).isSome = true := by
      rw [Desired.constraintTexts] at declared
      obtain ⟨listed, found, -⟩ := Option.map_eq_some_iff.mp declared
      simp [Desired.wanted, found]
    have only (other : List String) (same : desired.constraintTexts py = some other) :
        other = texts := by
      rw [declared] at same
      exact (Option.some.inj same).symm
    rcases shape with ⟨member, rfl | rfl⟩ | ⟨absent, rfl⟩
    · rw [edit_constraint] at read
      obtain rfl := Option.some.inj read
      exact ⟨fun other same => by rwa [only other same], isDeclared⟩
    · rw [edit_add] at read
      obtain rfl := Option.some.inj read
      exact ⟨fun other same => by rwa [only other same], isDeclared⟩
    · rw [edit_remove] at read
      obtain rfl := Option.some.inj read
      exact ⟨fun other same => by rwa [only other same], isDeclared⟩

theorem Owned.accepted (accepted : Accepted py docker desired) {pair : String × String}
    (owned : Owned py desired pair) : (docker.edit pair.1 pair.2).isSome = true := by
  rcases owned with ⟨field, want, own, declared, rfl⟩ | ⟨texts, declared, text, shape⟩
  · rw [edit_flag own, Option.isSome_map]
    exact accepted field want declared own
  · rcases shape with ⟨member, rfl | rfl⟩ | ⟨absent, rfl⟩ <;> rfl

end Owned

section Covering

variable {py : Builtins} {docker : Docker} {desired : Desired} {service : Json}

theorem yields_pairOf (documented : docker.Documented py) (accepted : Accepted py docker desired)
    {field : Field} {meant : Json} (means : desired.meant field = some meant)
    {pairs : List (String × String)} (given : pairOf py desired field ⊆ pairs) :
    Yields docker pairs (.set field meant) := by
  obtain ⟨want, declared⟩ := wanted_of_meant means
  have own : field ≠ .constraints := by
    rintro rfl
    cases means
  obtain ⟨value, read⟩ := Option.isSome_iff_exists.mp (accepted field want declared own)
  use (field.flag, want.toText py)
  constructor
  · apply given
    simp [pairOf, declared]
  · rw [edit_flag own, read, reads_eq_meant documented declared means read]
    rfl

theorem equal_of_not_moved {field : Field} {meant : Json}
    (means : desired.meant field = some meant) (kept : moved desired service field = false) :
    Json.pyEq (field.live service) meant = true := by
  rw [moved, means] at kept
  simpa using kept

/-- Every field with a meaning is compared on its own or in the
healthcheck. -/
theorem mem_of_meant {field : Field} {meant : Json} (means : desired.meant field = some meant) :
    field ∈ [Field.limitMemory, .reserveMemory, .stopGracePeriod, .failureAction, .monitor,
      .order] ∨ field ∈ healthFields := by
  cases field with
  | image => cases means
  | constraints => cases means
  | failureRatio => cases means
  | _ => decide

/-- The drift's flags close every gap. -/
theorem covers_chunks (shown : Shown service) (documented : docker.Documented py)
    (accepted : Accepted py docker desired) :
    Covers py docker desired (Yields docker (chunks py desired service).flatten) service := by
  have part {pairs : List (String × String)} (member : pairs ∈ chunks py desired service) :
      pairs ⊆ (chunks py desired service).flatten := fun pair found =>
    List.mem_flatten.mpr ⟨pairs, member, found⟩
  constructor
  · intro want declared
    obtain ⟨text, live⟩ := shown.image
    by_cases same : sameImage py (Field.image.live service) (.str want) = true
    · left
      rw [live] at same ⊢
      exact (sameImage_iff py text want).mp same
    · right
      use ("--image", want)
      constructor
      · apply @part (imageChunk py desired service) (by simp [chunks])
        simp [imageChunk, declared, same]
      · rfl
  · intro texts declared text wanted
    by_cases live : text ∈ liveConstraints service
    · exact Or.inl live
    · right
      use ("--constraint-add", text)
      constructor
      · apply @part (constraintsChunk py desired service) (by simp [chunks])
        rw [constraintsChunk, declared]
        apply List.mem_append_right
        exact List.mem_map.mpr ⟨text, (mem_sortedDifference _ _ _).mpr ⟨wanted, live⟩, rfl⟩
      · rfl
  · intro texts declared text live unwanted
    use ("--constraint-rm", text)
    constructor
    · apply @part (constraintsChunk py desired service) (by simp [chunks])
      rw [constraintsChunk, declared]
      apply List.mem_append_left
      exact List.mem_map.mpr ⟨text, (mem_sortedDifference _ _ _).mpr ⟨live, unwanted⟩, rfl⟩
    · rfl
  · intro field meant means
    cases kept : moved desired service field with
    | false => exact Or.inl (equal_of_not_moved means kept)
    | true =>
        right
        apply yields_pairOf documented accepted means
        rcases mem_of_meant means with plain | health
        · have chunk : fieldChunk py desired service field = pairOf py desired field := by
            rw [fieldChunk, if_pos kept]
          rw [← chunk]
          apply part
          simp only [List.mem_cons, List.not_mem_nil, or_false] at plain
          rcases plain with rfl | rfl | rfl | rfl | rfl | rfl <;> simp [chunks]
        · have chunk : healthChunk py desired service =
              healthFields.flatMap (pairOf py desired) := by
            rw [healthChunk, if_pos]
            exact List.any_eq_true.mpr ⟨field, health, kept⟩
          intro pair found
          apply @part (healthChunk py desired service) (by simp [chunks])
          rw [chunk]
          exact List.mem_flatMap.mpr ⟨field, health, found⟩

/-- The flags of a new service name every declared field but its image. -/
theorem yields_createPairs (documented : docker.Documented py)
    (accepted : Accepted py docker desired) {field : Field} {meant : Json}
    (means : desired.meant field = some meant) :
    Yields docker (createPairs py desired) (.set field meant) := by
  apply yields_pairOf documented accepted means
  intro pair found
  rw [createPairs, List.mem_append, List.mem_append]
  rcases mem_of_meant means with plain | health
  · exact Or.inl (Or.inl (List.mem_flatMap.mpr ⟨field, plain, found⟩))
  · exact Or.inr (List.mem_flatMap.mpr ⟨field, health, found⟩)

theorem createArgs_eq {fields : PyDict String Json} (describes : desired.Describes fields) :
    swarmServiceCreateArgs py (.obj fields) = .ok (flagsOf (createPairs py desired)) := by
  have constraints : PyDict.get fields "constraints" = desired.constraints.map Json.arr :=
    describes .constraints
  have noRatio : PyDict.get fields "update_max_failure_ratio" = none := describes .failureRatio
  have limit := @givenFlag_eq py _ _ describes .limitMemory
  have reserve := @givenFlag_eq py _ _ describes .reserveMemory
  have grace := @givenFlag_eq py _ _ describes .stopGracePeriod
  have action := @givenFlag_eq py _ _ describes .failureAction
  have monitor := @givenFlag_eq py _ _ describes .monitor
  have order := @givenFlag_eq py _ _ describes .order
  have test := @givenFlag_eq py _ _ describes .healthTest
  have ratio : givenFlag py fields "update_max_failure_ratio" "--update-max-failure-ratio" = [] := by
    rw [givenFlag, noRatio]
  have health : (if (PyDict.get fields "health_cmd").isSome then healthFlags py fields else []) =
      flagsOf ([Field.healthInterval, .healthRetries,
        .healthStartPeriod].flatMap (pairOf py desired)) := by
    have declared : PyDict.get fields "health_cmd" =
        desired.health.map fun health => .str health.command := describes .healthTest
    rw [declared, healthFlags_eq describes]
    cases found : desired.health with
    | none => simp [pairOf, Desired.wanted, found, flagsOf]
    | some health => rfl
  have listed : iterate ((PyDict.get fields "constraints").getD (.arr [])) =
      .ok (desired.constraints.getD []) := by
    rw [constraints]
    cases desired.constraints <;> rfl
  have constraintFlags : (desired.constraints.getD []).flatMap
      (fun constraint => ["--constraint", constraint.toText py]) =
      flagsOf (((desired.constraintTexts py).getD []).map fun text => ("--constraint", text)) := by
    rw [flagsOf_map, Desired.constraintTexts]
    cases desired.constraints with
    | none => rfl
    | some items => simp [List.flatMap_map]
  simp only [Field.key, Field.flag] at limit reserve grace action monitor order test
  rw [swarmServiceCreateArgs, listed]
  simp only [bind, Except.bind, limit, reserve, grace, action, monitor, order, test, ratio, health,
    constraintFlags, createPairs, healthFields, flagsOf_append, List.flatMap_cons,
    List.flatMap_nil, List.append_nil, List.append_assoc]

end Covering

/-- The drift of a dict converges and is quiet: whatever docker shows of the
live service, the flags are accepted, touch declared fields only and leave no
drift; a service created from the dict has none; and where there is none the
live service agrees with the dict. -/
structure Converges (py : Builtins) (docker : Docker) (fields : PyDict String Json)
    (desired : Desired) : Prop where
  update : ∀ inspect, Shown (first inspect) → ∃ flags after,
    swarmServiceDrift py inspect (.obj fields) = .ok flags ∧
    docker.update flags (first inspect) = some after ∧
    (∀ again, first again = after → swarmServiceDrift py again (.obj fields) = .ok []) ∧
    ∀ path, (∀ field : Field, field.key ∈ PyDict.keys fields → Apart field.path path) →
      Json.valueAt path after = Json.valueAt path (first inspect)
  create : ∀ service image, Shown service → liveConstraints service = [] →
    (∀ want, desired.image = some want → image = want) → ∃ flags created,
    swarmServiceCreateArgs py (.obj fields) = .ok flags ∧
    docker.create flags image service = some created ∧
    ∀ inspect, first inspect = created → swarmServiceDrift py inspect (.obj fields) = .ok []
  quiet : ∀ inspect, Shown (first inspect) →
    swarmServiceDrift py inspect (.obj fields) = .ok [] → Agrees py desired (first inspect)

section Convergence

variable {py : Builtins} {docker : Docker} {fields : PyDict String Json} {desired : Desired}

theorem agrees_created (documented : docker.Documented py) (accepted : Accepted py docker desired)
    {service : Json} (shown : Shown service) (unplaced : liveConstraints service = [])
    {image : String} (isWanted : ∀ want, desired.image = some want → image = want) :
    ∃ created, docker.create (flagsOf (createPairs py desired)) image service = some created ∧
      Shown created ∧ Agrees py desired created := by
  obtain ⟨edits, read⟩ := Option.isSome_iff_exists.mp
    ((edits_isSome_iff (createPairs py desired)).mpr fun pair member =>
      (owned_createPairs pair member).accepted accepted)
  have follows : ∀ edit ∈ Edit.set .image (.str (docker.resolve image)) :: edits,
      edit.Follows py docker desired := by
    rw [List.forall_mem_cons]
    constructor
    · exact ⟨⟨_, rfl⟩, fun want declared => by rw [isWanted want declared]⟩
    · intro edit member
      obtain ⟨pair, inPairs, found⟩ := (mem_edits_iff read edit).mp member
      exact ((owned_createPairs pair inPairs).follows documented found).1
  refine ⟨_, by rw [Docker.create, read]; rfl, shown.applyAll fun edit member =>
    (follows edit member).proper, agrees_applyAll documented follows ?_⟩
  constructor
  · intro want declared
    right
    rw [isWanted want declared]
    exact List.mem_cons_self ..
  · intro texts declared text wanted
    right
    apply List.mem_cons_of_mem
    rw [mem_edits_iff read]
    use ("--constraint", text)
    constructor
    · rw [createPairs, declared]
      apply List.mem_append_left
      apply List.mem_append_right
      exact List.mem_map.mpr ⟨text, wanted, rfl⟩
    · rfl
  · intro texts declared text live
    rw [unplaced] at live
    cases live
  · intro field meant means
    right
    apply List.mem_cons_of_mem
    rw [mem_edits_iff read]
    exact yields_createPairs documented accepted means

/-- What docker makes of the drift's flags agrees with the dict and differs in
declared fields only. -/
theorem agrees_updated (documented : docker.Documented py) (accepted : Accepted py docker desired)
    {service : Json} (shown : Shown service) :
    ∃ after, docker.update (flagsOf (chunks py desired service).flatten) service = some after ∧
      Shown after ∧ Agrees py desired after ∧
      ∀ path, (∀ field : Field, (desired.wanted field).isSome = true → Apart field.path path) →
        Json.valueAt path after = Json.valueAt path service := by
  obtain ⟨edits, read⟩ := Option.isSome_iff_exists.mp
    ((edits_isSome_iff (chunks py desired service).flatten).mpr fun pair member =>
      (owned_chunks pair member).accepted accepted)
  have ordered (edit : Edit) : edit ∈ edits.filter (fun edit => !edit.removes) ++
      edits.filter Edit.removes ↔ Yields docker (chunks py desired service).flatten edit := by
    rw [← mem_edits_iff read, List.mem_append, List.mem_filter, List.mem_filter]
    cases edit.removes <;> simp
  have reads : ∀ edit ∈ edits.filter (fun edit => !edit.removes) ++ edits.filter Edit.removes,
      edit.Follows py docker desired ∧ (desired.wanted edit.field).isSome = true := by
    intro edit member
    obtain ⟨pair, inPairs, found⟩ := (ordered edit).mp member
    exact (owned_chunks pair inPairs).follows documented found
  have covers := covers_chunks shown documented accepted
  refine ⟨_, by rw [Docker.update, read]; rfl, shown.applyAll fun edit member =>
    (reads edit member).1.proper, agrees_applyAll documented (fun edit member =>
    (reads edit member).1) ?_, fun path apart => valueAt_applyAll (fun edit member =>
    apart edit.field (reads edit member).2) service⟩
  constructor
  · intro want declared
    rw [ordered]
    exact covers.image want declared
  · intro texts declared text wanted
    rw [ordered]
    exact covers.added texts declared text wanted
  · intro texts declared text live unwanted
    rw [ordered]
    exact covers.removed texts declared text live unwanted
  · intro field meant means
    rw [ordered]
    exact covers.others field meant means

/-- A service of which nothing is known yet. -/
theorem shown_empty : Shown (.obj []) := by
  constructor
  · exact ⟨[], rfl⟩
  · intro path member found same truthy
    have nonempty : path ≠ [] := by
      rintro rfl
      exact absurd member (by decide)
    rw [Json.valueAt_empty nonempty] at same
    cases same
  · exact ⟨"", rfl⟩
  · intro truthy
    exact absurd truthy (by decide)

/-- A created service was described in texts docker accepts. -/
theorem accepted_of_created {image : String} {service created : Json}
    (made : docker.create (flagsOf (createPairs py desired)) image service = some created) :
    Accepted py docker desired := by
  have read : (docker.edits (flagsOf (createPairs py desired))).isSome = true := by
    obtain ⟨edits, found, -⟩ := Option.map_eq_some_iff.mp made
    rw [found, Option.isSome_some]
  have each := (edits_isSome_iff (createPairs py desired)).mp read
  intro field want declared own
  have given (member : pairOf py desired field ⊆ createPairs py desired) :
      (docker.reads field (want.toText py)).isSome = true := by
    have one := each (field.flag, want.toText py) (member (by simp [pairOf, declared]))
    rwa [edit_flag own, Option.isSome_map] at one
  have plain (member : field ∈ [Field.limitMemory, .reserveMemory, .stopGracePeriod,
      .failureAction, .monitor, .order]) : pairOf py desired field ⊆ createPairs py desired := by
    intro pair found
    rw [createPairs, List.mem_append, List.mem_append]
    exact Or.inl (Or.inl (List.mem_flatMap.mpr ⟨field, member, found⟩))
  have health (member : field ∈ healthFields) :
      pairOf py desired field ⊆ createPairs py desired := by
    intro pair found
    rw [createPairs, List.mem_append]
    exact Or.inr (List.mem_flatMap.mpr ⟨field, member, found⟩)
  cases field with
  | image => rfl
  | constraints => exact absurd rfl own
  | failureRatio => cases declared
  | healthTest => exact given (health (by decide))
  | healthInterval => exact given (health (by decide))
  | healthRetries => exact given (health (by decide))
  | healthStartPeriod => exact given (health (by decide))
  | _ => exact given (plain (by decide))

theorem exact_of_converges (documented : docker.Documented py) (describes : desired.Describes fields)
    (converges : Converges py docker fields desired) :
    Accepted py docker desired ∧ ∀ duration ∈ desired.durations, duration.Exact := by
  have isWanted : ∀ want, desired.image = some want → desired.image.getD "" = want := by
    intro want declared
    rw [declared, Option.getD_some]
  obtain ⟨flags, created, given, made, quiet⟩ :=
    converges.create (.obj []) (desired.image.getD "") shown_empty rfl isWanted
  rw [createArgs_eq describes] at given
  obtain rfl := Except.ok.inj given
  have accepted := accepted_of_created made
  obtain ⟨other, again, shown, agrees⟩ :=
    agrees_created documented accepted shown_empty rfl isWanted
  rw [made] at again
  obtain rfl := Option.some.inj again
  have noDrift := quiet (.arr [created]) rfl
  have isQuiet := (@drift_eq_nil_iff py fields desired (.arr [created]) shown describes).mp noDrift
  exact ⟨accepted, exact_of_quiet isQuiet agrees⟩

/-- A dict converges just when docker accepts the text of each declared value
and binary64 holds every declared duration exactly, part by part. -/
theorem converges_iff (documented : docker.Documented py) (describes : desired.Describes fields) :
    Converges py docker fields desired ↔
      Accepted py docker desired ∧ ∀ duration ∈ desired.durations, duration.Exact := by
  constructor
  · exact exact_of_converges documented describes
  · rintro ⟨accepted, exact⟩
    have noDrift {inspect : Json} (shown : Shown (first inspect))
        (agrees : Agrees py desired (first inspect)) :
        swarmServiceDrift py inspect (.obj fields) = .ok [] :=
      (drift_eq_nil_iff shown describes).mpr ((quiet_iff_agrees exact).mpr agrees)
    constructor
    · intro inspect shown
      obtain ⟨after, updated, shownAfter, agrees, kept⟩ :=
        agrees_updated documented accepted shown
      use flagsOf (chunks py desired (first inspect)).flatten, after
      refine ⟨drift_eq_flags shown describes exact, updated, ?_, ?_⟩
      · rintro again rfl
        exact noDrift shownAfter agrees
      · intro path apart
        apply kept
        intro field declared
        apply apart
        rw [← describes field] at declared
        obtain ⟨value, found⟩ := Option.isSome_iff_exists.mp declared
        exact PyDict.mem_keys_of_get found
    · intro service image shown unplaced isWanted
      obtain ⟨created, made, shownCreated, agrees⟩ :=
        agrees_created documented accepted shown unplaced isWanted
      use flagsOf (createPairs py desired), created
      refine ⟨createArgs_eq describes, made, ?_⟩
      rintro inspect rfl
      exact noDrift shownCreated agrees
    · intro inspect shown quiet
      exact (quiet_iff_agrees exact).mp ((drift_eq_nil_iff shown describes).mp quiet)

end Convergence

/-- Builtins that print an `int` in decimal. -/
def decimalBuiltins : Builtins where
  repr
    | .int number => toString number
    | _ => ""
  loads _ := none

/-- Docker where it reads one size and one duration and resolves no digest. -/
def tableDocker (size : SizeText) (duration : DurationText) : Docker where
  resolve image := image
  size text := if text = String.ofList size.text then some size.bytes else none
  duration text := if text = String.ofList duration.text then some duration.nanos else none
  count _ := none

theorem tableDocker_documented {size : SizeText} (small : size.bytes < 2 ^ 53)
    (duration : DurationText) : (tableDocker size duration).Documented decimalBuiltins := by
  constructor
  · intro number
    rfl
  · intro other bytes otherSmall read
    simp only [tableDocker, Option.ite_none_right_eq_some, Option.some.injEq] at read
    have one := asBytes_size decimalBuiltins other otherSmall
    rw [read.1, asBytes_size decimalBuiltins size small] at one
    rw [← read.2]
    exact Except.ok.inj one
  · intro other nanos read
    simp only [tableDocker, Option.ite_none_right_eq_some, Option.some.injEq] at read
    have texts : other.text = duration.text := by
      simpa using congrArg String.toList read.1
    rw [← read.2, DurationText.nanos, DurationText.nanos, nanos_eq_of_text_eq texts]
  · intro number count read
    cases read
  · intro image pinned
    rfl
  · intro image untagged
    exact Or.inl rfl

/-- `512m`. -/
def halfGigabyte : SizeText where
  digits := ⟨['5', '1', '2'], by simp, by simp⟩
  suffix := some ⟨.m, false, false⟩

/-- `60s`. -/
def oneMinute : DurationText where
  parts := [⟨⟨['6', '0'], by simp, by simp⟩, .s⟩]
  nonempty := by simp

/-- `9007199254740993ns`. -/
def pastDoubles : DurationText where
  parts := [⟨⟨['9', '0', '0', '7', '1', '9', '9', '2', '5', '4', '7', '4', '0', '9', '9', '3'],
    by simp, by simp⟩, .ns⟩]
  nonempty := by simp

/-- A dict with an image, a memory limit, a grace period and a placement. -/
def sampleDesired : Desired where
  image := some "postgres:18"
  limitMemory := some (.text halfGigabyte (by decide))
  reserveMemory := none
  stopGracePeriod := some oneMinute
  failureAction := none
  monitor := none
  order := none
  constraints := some [.str "node.role==manager"]
  health := none

theorem sample_converges :
    Converges decimalBuiltins (tableDocker halfGigabyte oneMinute)
      [("image", .str "postgres:18"), ("limit_memory", .str "512m"),
        ("stop_grace_period", .str "60s"), ("constraints", .arr [.str "node.role==manager"])]
      sampleDesired := by
  have describes : sampleDesired.Describes
      [("image", .str "postgres:18"), ("limit_memory", .str "512m"),
        ("stop_grace_period", .str "60s"), ("constraints", .arr [.str "node.role==manager"])] := by
    intro field
    cases field <;> rfl
  apply (converges_iff (tableDocker_documented (by decide) oneMinute) describes).mpr
  constructor
  · intro field want declared own
    cases field with
    | image => rfl
    | limitMemory =>
        obtain rfl := Option.some.inj declared
        rfl
    | stopGracePeriod =>
        obtain rfl := Option.some.inj declared
        rfl
    | constraints => exact absurd rfl own
    | _ => cases declared
  · intro duration member
    have same : duration = oneMinute := by
      simpa [Desired.durations, sampleDesired] using member
    rw [same]
    apply exact_of_small
    simp [oneMinute, DurationPart.nanos, Digits.value, PyText.digitsValue, PyText.decimalDigit,
      DurationUnit.nanos]

/-- A dict with a grace period only. -/
def pastDesired : Desired where
  image := none
  limitMemory := none
  reserveMemory := none
  stopGracePeriod := some pastDoubles
  failureAction := none
  monitor := none
  order := none
  constraints := none
  health := none

theorem pastDoubles_held : heldSum pastDoubles.parts = .ok 9007199254740992 := by
  decide +kernel

/-- The duration docker stores as 9007199254740993 is read as one less. -/
theorem past_doubles_never_converge :
    (tableDocker halfGigabyte pastDoubles).Documented decimalBuiltins ∧
    pastDesired.Describes [("stop_grace_period", .str "9007199254740993ns")] ∧
    ¬ Converges decimalBuiltins (tableDocker halfGigabyte pastDoubles)
      [("stop_grace_period", .str "9007199254740993ns")] pastDesired := by
  have documented := @tableDocker_documented halfGigabyte (by decide) pastDoubles
  have describes : pastDesired.Describes [("stop_grace_period", .str "9007199254740993ns")] := by
    intro field
    cases field <;> rfl
  refine ⟨documented, describes, fun converges => ?_⟩
  have exact := (exact_of_converges documented describes converges).2 pastDoubles
    (by simp [Desired.durations, pastDesired])
  have meant : pastDoubles.nanos = 9007199254740993 := by
    decide +kernel
  unfold DurationText.Exact at exact
  rw [pastDoubles_held, meant] at exact
  cases exact

end SwarmService

end Catena
