import Catena.SessionProof
import Mathlib

/-!
# Where the proof of a session is sshd's

A record never spans two lines, so the scan of the journal is the scan of its
lines, and what the proof says depends on the last record a line quotes and on
the blobs the two readings of `authorized_keys` find.
-/

namespace Catena

namespace SessionProof

open PyText

/-- A pattern that reads a part of a text and never reads on past a line. -/
structure OnLine {α : Type} (pattern : Pattern α) : Prop where
  suffix : ∀ {text after : Text} {found : α},
    pattern.run text = some (found, after) → after <:+ text
  stays : ∀ {line : Text} (rest : Text), '\n' ∉ line →
    pattern.run (line ++ '\n' :: rest) =
      (pattern.run line).map fun found => (found.1, found.2 ++ '\n' :: rest)

theorem onLine_pure {α : Type} (value : α) : OnLine (pure value : Pattern α) where
  suffix read := by
    cases read
    exact List.suffix_rfl
  stays _ _ := rfl

theorem OnLine.bind {α β : Type} {pattern : Pattern α} {next : α → Pattern β}
    (first : OnLine pattern) (second : ∀ found, OnLine (next found)) :
    OnLine (pattern >>= next) where
  suffix {text after found} read := by
    rw [StateT.run_bind] at read
    obtain ⟨⟨middle, between⟩, readFirst, readSecond⟩ := Option.bind_eq_some_iff.mp read
    exact ((second middle).suffix readSecond).trans (first.suffix readFirst)
  stays {line} rest absent := by
    rw [StateT.run_bind, StateT.run_bind, first.stays rest absent]
    cases readFirst : pattern.run line with
    | none => rfl
    | some found =>
        have inside : '\n' ∉ found.2 := fun member =>
          absent ((first.suffix readFirst).subset member)
        exact (second found.1).stays rest inside

theorem onLine_literal {expected : String} (absent : '\n' ∉ expected.toList) :
    OnLine (literal expected) where
  suffix {text after found} read := by
    obtain ⟨_, starts, same⟩ := Option.map_eq_some_iff.mp read
    cases same
    exact ⟨expected.toList, (afterStart_eq_some.mp starts).symm⟩
  stays {line} rest _ := by
    have starts : afterStart expected.toList (line ++ '\n' :: rest) =
        (afterStart expected.toList line).map (· ++ '\n' :: rest) := by
      cases found : afterStart expected.toList line with
      | some after =>
          rw [afterStart_eq_some.mp found, List.append_assoc]
          exact afterStart_eq_some.mpr rfl
      | none =>
          by_contra starts
          obtain ⟨after, read⟩ := Option.ne_none_iff_exists'.mp starts
          -- The literal would end in the line or hold the newline.
          rcases List.append_eq_append_iff.mp (afterStart_eq_some.mp read) with
            ⟨more, longer, meets⟩ | ⟨more, shorter, _⟩
          · cases more with
            | nil =>
                rw [List.append_nil] at longer
                rw [longer, afterStart_eq_some.mpr (List.append_nil line).symm] at found
                cases found
            | cons first more =>
                cases meets
                exact absent (by simp [longer])
          · rw [afterStart_eq_some.mpr shorter] at found
            cases found
    change (afterStart _ _).map _ = ((afterStart _ _).map _).map _
    rw [starts, Option.map_map, Option.map_map]
    rfl

theorem takeWhile_stop {inside : Char → Bool} {stop : Char} (stops : inside stop = false)
    (line rest : Text) :
    (line ++ stop :: rest).takeWhile inside = line.takeWhile inside := by
  induction line with
  | nil => simp [stops]
  | cons first line ih => simp [List.takeWhile_cons, ih]

theorem dropWhile_stop {inside : Char → Bool} {stop : Char} (stops : inside stop = false)
    (line rest : Text) :
    (line ++ stop :: rest).dropWhile inside = line.dropWhile inside ++ stop :: rest := by
  induction line with
  | nil => simp [stops]
  | cons first line ih =>
      rw [List.cons_append, List.dropWhile_cons, List.dropWhile_cons, ih]
      split <;> rfl

theorem onLine_oneOrMore {inside : Char → Bool} (stop : inside '\n' = false) :
    OnLine (oneOrMore inside) where
  suffix {text after found} read := by
    obtain ⟨_, same⟩ := Option.ite_none_left_eq_some.mp read
    cases same
    exact List.dropWhile_suffix inside
  stays {line} rest _ := by
    change (if _ = [] then none else some _) = (if _ = [] then none else some _ : Option _).map _
    rw [takeWhile_stop stop, dropWhile_stop stop]
    split <;> rfl

/-- A record is read as its first literal and patterns within the line. -/
theorem accepted_eq (digits : ImagePin.DecimalDigits) :
    ∃ next : Unit → Pattern Accepted,
      accepted digits = literal "Accepted publickey for " >>= next ∧
        ∀ found, OnLine (next found) := by
  have space : nonSpace '\n' = false := by decide
  have digit : (digits.value '\n').isSome = false := by
    rw [digits.ascii _ (by decide)]
    rfl
  exact ⟨_, rfl, fun _ => (onLine_oneOrMore space).bind fun _ =>
    (onLine_literal (by decide)).bind fun _ => (onLine_oneOrMore space).bind fun _ =>
    (onLine_literal (by decide)).bind fun _ => (onLine_oneOrMore digit).bind fun _ =>
    (onLine_literal (by decide)).bind fun _ => (onLine_oneOrMore space).bind fun _ =>
    (onLine_literal (by decide)).bind fun _ => (onLine_oneOrMore (by decide)).bind fun _ =>
    onLine_pure _⟩

theorem onLine_accepted (digits : ImagePin.DecimalDigits) : OnLine (accepted digits) := by
  obtain ⟨next, same, onLine⟩ := accepted_eq digits
  rw [same]
  exact (onLine_literal (by decide)).bind onLine

theorem accepted_shorter {digits : ImagePin.DecimalDigits} {text after : Text}
    {record : Accepted} (read : (accepted digits).run text = some (record, after)) :
    after.length < text.length := by
  obtain ⟨next, same, onLine⟩ := accepted_eq digits
  rw [same, StateT.run_bind] at read
  obtain ⟨⟨middle, between⟩, readFirst, readSecond⟩ := Option.bind_eq_some_iff.mp read
  obtain ⟨_, starts, pair⟩ := Option.map_eq_some_iff.mp readFirst
  cases pair
  have shorter : after.length ≤ between.length := ((onLine ()).suffix readSecond).length_le
  have whole := congrArg List.length (afterStart_eq_some.mp starts)
  have literalLength : "Accepted publickey for ".toList.length = 23 := by decide
  rw [List.length_append, literalLength] at whole
  omega

/-! ### The scan of the journal -/

theorem finditer_line {α : Type} {pattern : Pattern α} (onLine : OnLine pattern)
    (shorter : ∀ {text after found}, pattern.run text = some (found, after) →
      after.length < text.length) {line : Text} (absent : '\n' ∉ line) (rest : Text)
    {skip : Nat} (inside : skip ≤ line.length) :
    finditer pattern skip (line ++ '\n' :: rest) =
      finditer pattern skip line ++ finditer pattern 0 rest := by
  induction line generalizing skip with
  | nil =>
      obtain rfl : skip = 0 := by simpa using inside
      have empty : pattern.run [] = none := by
        cases read : pattern.run [] with
        | none => rfl
        | some found => simpa using shorter read
      have here := onLine.stays rest absent
      rw [empty, List.nil_append] at here
      change finditer pattern 0 ('\n' :: rest) = finditer pattern 0 rest
      rw [finditer, here]
      rfl
  | cons first line ih =>
      have outside := List.not_mem_of_not_mem_cons absent
      cases skip with
      | succ skip => exact ih outside (by simpa using inside)
      | zero =>
          have here := onLine.stays rest absent
          rw [List.cons_append] at here ⊢
          rw [finditer, finditer, here]
          cases read : pattern.run (first :: line) with
          | none => exact ih outside (by omega)
          | some found =>
              have taken := shorter read
              have length : (line ++ '\n' :: rest).length - (found.2 ++ '\n' :: rest).length =
                  line.length - found.2.length := by
                simp only [List.length_append]
                omega
              simp only [Option.map_some, List.cons_append]
              rw [length, ih outside (by omega)]

theorem lines_line {line : Text} (absent : '\n' ∉ line) : lines line = [line] :=
  splitOn_of_absent absent

theorem lines_append {line : Text} (absent : '\n' ∉ line) (rest : Text) :
    lines (line ++ '\n' :: rest) = line :: lines rest :=
  splitOn_append absent rest

theorem lines_induction {motive : Text → Prop} (last : ∀ line, '\n' ∉ line → motive line)
    (more : ∀ line rest, '\n' ∉ line → motive rest → motive (line ++ '\n' :: rest))
    (text : Text) : motive text := by
  induction size : text.length using Nat.strong_induction_on generalizing text with
  | _ size ih =>
      by_cases holds : '\n' ∈ text
      · obtain ⟨line, rest, rfl, absent⟩ := List.eq_append_cons_of_mem holds
        refine more line rest absent (ih rest.length ?_ rest rfl)
        rw [← size, List.length_append, List.length_cons]
        omega
      · exact last text holds

theorem finditer_lines {α : Type} {pattern : Pattern α} (onLine : OnLine pattern)
    (shorter : ∀ {text after found}, pattern.run text = some (found, after) →
      after.length < text.length) (text : Text) :
    finditer pattern 0 text = (lines text).flatMap (finditer pattern 0) := by
  induction text using lines_induction with
  | last line absent => rw [lines_line absent, List.flatMap_singleton]
  | more line rest absent ih =>
      rw [finditer_line onLine shorter absent rest (Nat.zero_le _), ih, lines_append absent,
        List.flatMap_cons]

theorem foldl_lastFor (user addr port : Text) (records : List Accepted) (before : Text) :
    records.foldl (fun found record =>
        if record.isFor user addr port then record.fp else found) before =
      (lastFor user addr port records).getD before := by
  induction records using List.reverseRecOn with
  | nil => rfl
  | append_singleton records record ih =>
      rw [List.foldl_append, List.foldl_cons, List.foldl_nil, ih, lastFor, lastFor,
        List.filter_append, List.filter_cons]
      split
      · simp
      · simp

/-- The code finds the last record that a line quotes. -/
theorem acceptedFingerprint_eq (digits : ImagePin.DecimalDigits)
    (journal user addr port : Text) :
    acceptedFingerprint digits journal user addr port =
      (quoted digits journal user addr port).getD [] := by
  rw [acceptedFingerprint, foldl_lastFor,
    finditer_lines (onLine_accepted digits) accepted_shorter, quoted]

theorem fp_ne_nil {digits : ImagePin.DecimalDigits} {text after : Text} {record : Accepted}
    (read : (accepted digits).run text = some (record, after)) : record.fp ≠ [] := by
  simp only [accepted, StateT.run_bind, Option.bind_eq_bind, Option.bind_eq_some_iff] at read
  obtain ⟨_, -, _, -, _, -, _, -, _, -, _, -, _, -, _, -, _, -, _, -, done⟩ := read
  cases done
  simp

/-- What a scan finds was read somewhere in the text. -/
theorem mem_finditer {α : Type} {pattern : Pattern α} {skip : Nat} {text : Text} {found : α}
    (member : found ∈ finditer pattern skip text) :
    ∃ start after, pattern.run start = some (found, after) := by
  induction text generalizing skip with
  | nil => cases skip <;> cases member
  | cons first rest ih =>
      cases skip with
      | succ skip => exact ih member
      | zero =>
          rw [finditer] at member
          cases read : pattern.run (first :: rest) with
          | none =>
              rw [read] at member
              exact ih member
          | some result =>
              rw [read] at member
              rcases List.mem_cons.mp member with rfl | later
              · exact ⟨_, _, read⟩
              · exact ih later

/-- A scan finds what stands at the start of the text. -/
theorem found_mem_finditer {α : Type} {pattern : Pattern α} {text after : Text} {found : α}
    (read : pattern.run text = some (found, after)) (shorter : after.length < text.length) :
    found ∈ finditer pattern 0 text := by
  cases text with
  | nil => cases shorter
  | cons first rest =>
      rw [finditer, read]
      exact List.mem_cons_self

theorem exists_of_lastFor {user addr port print : Text} {records : List Accepted}
    (last : lastFor user addr port records = some print) :
    ∃ record ∈ records, record.isFor user addr port ∧ record.fp = print := by
  obtain ⟨record, isLast, same⟩ := Option.map_eq_some_iff.mp last
  have member := List.mem_of_getLast? isLast
  exact ⟨record, List.mem_of_mem_filter member, List.of_mem_filter member, same⟩

theorem quoted_ne_nil {digits : ImagePin.DecimalDigits} {journal user addr port print : Text}
    (last : quoted digits journal user addr port = some print) : print ≠ [] := by
  obtain ⟨record, member, _, rfl⟩ := exists_of_lastFor last
  obtain ⟨line, _, inLine⟩ := List.mem_flatMap.mp member
  obtain ⟨_, _, read⟩ := mem_finditer inLine
  exact fp_ne_nil read

theorem quoted_of_recorded {digits : ImagePin.DecimalDigits}
    {journal user addr port print : Text}
    (last : recorded digits journal user addr port = some print) :
    quoted digits journal user addr port ≠ none := by
  obtain ⟨record, member, isFor, _⟩ := exists_of_lastFor last
  obtain ⟨line, inJournal, starts⟩ := List.mem_filterMap.mp member
  obtain ⟨⟨found, after⟩, read, rfl⟩ := Option.map_eq_some_iff.mp starts
  have inLine := List.mem_flatMap.mpr
    ⟨line, inJournal, found_mem_finditer read (accepted_shorter read)⟩
  have kept := List.mem_filter.mpr ⟨inLine, isFor⟩
  intro nothing
  rw [quoted, lastFor, Option.map_eq_none_iff, List.getLast?_eq_none_iff] at nothing
  rw [nothing] at kept
  cases kept

/-! ### The exact condition -/

/-- What `prove` says, by the last quoted record and the blobs of the tokenizer. -/
theorem prove_iff {digits : ImagePin.DecimalDigits} {repr : Text → Text}
    {fingerprint : Text → Option Text} {user : Text} {connection : Connection}
    {journal authorizedKeys : Text} :
    (prove digits repr fingerprint user connection.text journal authorizedKeys).1 = true ↔
      ∃ print, quoted digits journal user connection.addr connection.port = some print ∧
        print ∈ authorizedFingerprints fingerprint authorizedKeys := by
  unfold prove
  rw [connection.fields]
  simp only [acceptedFingerprint_eq]
  cases last : quoted digits journal user connection.addr connection.port with
  | none => simp
  | some print =>
      rw [Option.getD_some, if_neg (quoted_ne_nil last)]
      split <;> rename_i named <;> simpa using named

def sshdFingerprints (accepts : Text → Text → Bool) (fingerprint : Text → Option Text)
    (authorizedKeys : Text) : List Text :=
  (sshdKeys accepts authorizedKeys).filterMap fingerprint

theorem proved_iff {digits : ImagePin.DecimalDigits} {accepts : Text → Text → Bool}
    {fingerprint : Text → Option Text} {user : Text} {connection : Connection}
    {journal authorizedKeys : Text} :
    Proved digits accepts fingerprint user connection journal authorizedKeys ↔
      ∃ print, recorded digits journal user connection.addr connection.port = some print ∧
        print ∈ sshdFingerprints accepts fingerprint authorizedKeys := by
  simp only [Proved, sshdFingerprints, List.mem_filterMap]

/-- Where the proof is sshd's.  The scan of the journal comes to sshd's record, and
the fingerprint on it is not that of a key which only one of the two readings of
`authorized_keys` finds.  Or it comes to another text: then both are without a
key for what they come to, or both have one. -/
inductive Agree (digits : ImagePin.DecimalDigits) (accepts : Text → Text → Bool)
    (fingerprint : Text → Option Text) (user : Text) (connection : Connection)
    (journal authorizedKeys : Text) : Prop where
  | own
      (same : quoted digits journal user connection.addr connection.port =
        recorded digits journal user connection.addr connection.port)
      (keys : ∀ print,
        recorded digits journal user connection.addr connection.port = some print →
          (print ∈ authorizedFingerprints fingerprint authorizedKeys ↔
            print ∈ sshdFingerprints accepts fingerprint authorizedKeys))
  | neither
      (other : quoted digits journal user connection.addr connection.port ≠
        recorded digits journal user connection.addr connection.port)
      (tokenizer : ∀ print,
        quoted digits journal user connection.addr connection.port = some print →
          print ∉ authorizedFingerprints fingerprint authorizedKeys)
      (sshd : ∀ print,
        recorded digits journal user connection.addr connection.port = some print →
          print ∉ sshdFingerprints accepts fingerprint authorizedKeys)
  | both {print own : Text}
      (other : print ≠ own)
      (scanned : quoted digits journal user connection.addr connection.port = some print)
      (record : recorded digits journal user connection.addr connection.port = some own)
      (tokenizer : print ∈ authorizedFingerprints fingerprint authorizedKeys)
      (sshd : own ∈ sshdFingerprints accepts fingerprint authorizedKeys)

/-- The two readings of the journal name one fingerprint, and where there is one
the two readings of the keys find the same blobs; or the journal's readings
differ and no key is read by which one of them could be proved. -/
def AlwaysAgree (digits : ImagePin.DecimalDigits) (accepts : Text → Text → Bool) (user : Text)
    (connection : Connection) (journal authorizedKeys : Text) : Prop :=
  let quoted := quoted digits journal user connection.addr connection.port
  let recorded := recorded digits journal user connection.addr connection.port
  (quoted = recorded ∧ (recorded ≠ none →
      ∀ blob, blob ∈ blobs authorizedKeys ↔ blob ∈ sshdKeys accepts authorizedKeys)) ∨
    (quoted ≠ recorded ∧ blobs authorizedKeys = [] ∧
      (recorded ≠ none → sshdKeys accepts authorizedKeys = []))

/-- A fingerprint and a blob that prove one reading, whatever the fingerprints of
the blobs are, are those of the other. -/
theorem prints_of_forall {first second : Option Text} {held read : List Text}
    (within : ∀ fingerprint : Text → Option Text,
      (∃ print, first = some print ∧ ∃ blob ∈ held, fingerprint blob = some print) →
        ∃ print, second = some print ∧ ∃ blob ∈ read, fingerprint blob = some print)
    {print blob : Text} (last : first = some print) (member : blob ∈ held) :
    second = some print ∧ blob ∈ read := by
  obtain ⟨_, same, other, inside, here⟩ :=
    within (fun other => if other = blob then some print else none)
      ⟨print, last, blob, member, if_pos rfl⟩
  by_cases blobs : other = blob
  · rw [if_pos blobs] at here
    exact ⟨same.trans here.symm, blobs ▸ inside⟩
  · rw [if_neg blobs] at here
    cases here

/-- The proof is sshd's, whatever the fingerprints of the keys are, exactly where
both readings agree. -/
theorem always_proves_iff (digits : ImagePin.DecimalDigits) (accepts : Text → Text → Bool)
    (repr : Text → Text) (user : Text) (connection : Connection)
    (journal authorizedKeys : Text) :
    (∀ fingerprint,
      (prove digits repr fingerprint user connection.text journal authorizedKeys).1 = true ↔
        Proved digits accepts fingerprint user connection journal authorizedKeys) ↔
      AlwaysAgree digits accepts user connection journal authorizedKeys := by
  simp only [prove_iff, Proved, AlwaysAgree, authorizedFingerprints, List.mem_filterMap]
  have found : ∀ print,
      recorded digits journal user connection.addr connection.port = some print →
        quoted digits journal user connection.addr connection.port ≠ none :=
    fun _ => quoted_of_recorded
  generalize quoted digits journal user connection.addr connection.port = quoted at *
  generalize recorded digits journal user connection.addr connection.port = recorded at *
  constructor
  · intro alike
    have claimed {print blob : Text} :=
      @prints_of_forall quoted recorded _ _ (fun fingerprint => (alike fingerprint).mp) print blob
    have proved {print blob : Text} :=
      @prints_of_forall recorded quoted _ _ (fun fingerprint => (alike fingerprint).mpr) print blob
    by_cases same : quoted = recorded
    · refine Or.inl ⟨same, fun some blob => ?_⟩
      obtain ⟨print, last⟩ := Option.ne_none_iff_exists'.mp some
      exact ⟨fun member => (claimed (same.trans last) member).2,
        fun member => (proved last member).2⟩
    · refine Or.inr ⟨same, List.eq_nil_iff_forall_not_mem.mpr fun blob member => ?_,
        fun some => List.eq_nil_iff_forall_not_mem.mpr fun blob member => ?_⟩
      · cases last : quoted with
        | none =>
            cases record : recorded with
            | none => exact same (last.trans record.symm)
            | some print => exact found print record last
        | some print => exact same (last.trans (claimed last member).1.symm)
      · obtain ⟨print, last⟩ := Option.ne_none_iff_exists'.mp some
        exact same ((proved last member).1.trans last.symm)
  · rintro (⟨rfl, blobs⟩ | ⟨_, none, noKeys⟩) fingerprint
    · constructor
      · rintro ⟨print, last, blob, member, prints⟩
        exact ⟨print, last, blob, (blobs (by simp [last]) blob).mp member, prints⟩
      · rintro ⟨print, last, blob, member, prints⟩
        exact ⟨print, last, blob, (blobs (by simp [last]) blob).mpr member, prints⟩
    · constructor
      · rintro ⟨print, last, blob, member, prints⟩
        rw [none] at member
        cases member
      · rintro ⟨print, last, blob, member, prints⟩
        rw [noKeys (by simp [last])] at member
        cases member

/-! ### Ordinary lines -/

theorem lastFor_append (user addr port : Text) (first second : List Accepted) :
    lastFor user addr port (first ++ second) =
      (lastFor user addr port second).or (lastFor user addr port first) := by
  unfold lastFor
  rw [List.filter_append, List.getLast?_append]
  cases (second.filter _).getLast? <;> rfl

/-- A line that quotes no record of this user and endpoint, other than the one it
starts with. -/
def Plain (digits : ImagePin.DecimalDigits) (user addr port line : Text) : Prop :=
  ∀ record ∈ finditer (accepted digits) 0 line, record.isFor user addr port →
    startsWith digits line = some record

theorem Plain.lastFor_eq {digits : ImagePin.DecimalDigits} {user addr port line : Text}
    (plain : Plain digits user addr port line) :
    lastFor user addr port (finditer (accepted digits) 0 line) =
      lastFor user addr port (startsWith digits line).toList := by
  cases last : lastFor user addr port (finditer (accepted digits) 0 line) with
  | some print =>
      obtain ⟨record, member, isFor, rfl⟩ := exists_of_lastFor last
      simp [plain record member isFor, lastFor, isFor]
  | none =>
      cases starts : startsWith digits line with
      | none => rfl
      | some record =>
          obtain ⟨⟨_, after⟩, read, rfl⟩ := Option.map_eq_some_iff.mp starts
          rw [lastFor, Option.map_eq_none_iff, List.getLast?_eq_none_iff,
            List.filter_eq_nil_iff] at last
          have other := last _ (found_mem_finditer read (accepted_shorter read))
          simp [lastFor, other]

theorem quoted_eq_recorded {digits : ImagePin.DecimalDigits} {journal user addr port : Text}
    (plain : ∀ line ∈ lines journal, Plain digits user addr port line) :
    quoted digits journal user addr port = recorded digits journal user addr port := by
  unfold quoted recorded
  generalize lines journal = journal at plain
  induction journal using List.reverseRecOn with
  | nil => rfl
  | append_singleton before line ih =>
      have here := (plain line (by simp)).lastFor_eq
      have earlier := ih fun other member => plain other (by simp [member])
      rw [List.flatMap_append, List.filterMap_append, lastFor_append, lastFor_append, earlier,
        List.flatMap_singleton, here]
      cases starts : startsWith digits line <;> simp [starts]

/-- A word that both readings of a key line take to its end: its quotes are closed
and nothing is escaped. -/
inductive Units : Text → Prop where
  | nil : Units []
  | char {first : Char} {rest : Text} : nonSpace first = true → first ≠ '"' →
      first ≠ '\\' → Units rest → Units (first :: rest)
  | quotes {inside rest : Text} : '"' ∉ inside → '\\' ∉ inside → Units rest →
      Units ('"' :: (inside ++ '"' :: rest))

theorem unitsLength_skip (front rest : Text) :
    unitsLength front.length (front ++ rest) = front.length + unitsLength 0 rest := by
  induction front with
  | nil => simp
  | cons first front ih =>
      rw [List.length_cons, List.cons_append, unitsLength, ih]
      omega

theorem unitsLength_units {word : Text} (units : Units word) (tail : Text) :
    unitsLength 0 (word ++ tail) = word.length + unitsLength 0 tail := by
  induction units with
  | nil => simp
  | @char first rest space quote _ _ ih =>
      have single : unit (first :: (rest ++ tail)) = 1 := by
        rw [unit, if_neg quote, if_neg (by simpa [nonSpace] using space)]
      rw [List.cons_append, unitsLength, single]
      simp only [ih, List.length_cons]
      omega
  | @quotes inside rest absent _ _ ih =>
      have closed : unit ('"' :: (inside ++ '"' :: rest ++ tail)) = inside.length + 2 := by
        have parts : partition '"' (inside ++ '"' :: rest ++ tail) =
            some (inside, rest ++ tail) := partition_eq_some.mpr ⟨by simp, absent⟩
        rw [unit, if_pos rfl, parts]
      have skipped := unitsLength_skip (inside ++ ['"']) (rest ++ tail)
      rw [List.cons_append, unitsLength, closed]
      simp only [List.length_append, List.length_cons, List.length_nil, List.append_assoc,
        List.nil_append, List.cons_append, Nat.zero_add] at skipped ⊢
      rw [skipped, ih]
      omega

/-- A tail that ends the word before it. -/
def Ends (tail : Text) : Prop :=
  ∀ first, tail.head? = some first → blank first = true

theorem isSpace_of_blank {character : Char} (isBlank : blank character = true) :
    isSpace character = true := by
  simp only [blank, Bool.or_eq_true, decide_eq_true_eq] at isBlank
  rcases isBlank with rfl | rfl <;> decide

theorem unitsLength_ends {tail : Text} (ends : Ends tail) : unitsLength 0 tail = 0 := by
  cases tail with
  | nil => rfl
  | cons first rest =>
      have space := isSpace_of_blank (ends first rfl)
      have quote : first ≠ '"' := by
        rintro rfl
        revert space
        decide
      rw [unitsLength, unit, if_neg quote, if_pos space]

theorem finditer_skip {α : Type} (pattern : Pattern α) (front rest : Text) :
    finditer pattern front.length (front ++ rest) = finditer pattern 0 rest := by
  induction front with
  | nil => rfl
  | cons first front ih => exact ih

/-- The tokenizer takes such a word whole. -/
theorem finditer_units {word tail : Text} (units : Units word) (nonempty : word ≠ [])
    (ends : Ends tail) :
    finditer token 0 (word ++ tail) = word :: finditer token 0 tail := by
  have read : token.run (word ++ tail) = some (word, tail) := by
    change (if _ = 0 then none else some _) = _
    rw [unitsLength_units units, unitsLength_ends ends, Nat.add_zero,
      if_neg (by simpa using nonempty), List.take_left, List.drop_left]
  cases word with
  | nil => exact absurd rfl nonempty
  | cons first rest =>
      rw [List.cons_append] at read ⊢
      rw [finditer, read]
      simp only [List.length_append, Nat.add_sub_cancel]
      rw [finditer_skip]

theorem finditer_blank {first : Char} (isBlank : blank first = true) (rest : Text) :
    finditer token 0 (first :: rest) = finditer token 0 rest := by
  have read : token.run (first :: rest) = none := by
    change (if _ = 0 then none else some _) = _
    rw [unitsLength_ends fun _ same => by cases same; exact isBlank, if_pos rfl]
  rw [finditer, read]

theorem pastOptions_next {quoted : Bool} {first : Char} (escape : first ≠ '\\')
    (stays : (!quoted && blank first) = false) (rest : Text) :
    pastOptions quoted (first :: rest) =
      pastOptions (if first = '"' then !quoted else quoted) rest := by
  rw [pastOptions, if_neg (by simp [stays])]
  rintro _ rfl
  exact absurd rfl escape

theorem pastOptions_quoted {inside : Text} (quote : '"' ∉ inside) (escape : '\\' ∉ inside)
    (tail : Text) :
    pastOptions true (inside ++ '"' :: tail) = pastOptions false tail := by
  induction inside with
  | nil => exact pastOptions_next (by decide) rfl tail
  | cons first inside ih =>
      rw [List.mem_cons, not_or] at quote escape
      rw [List.cons_append, pastOptions_next (Ne.symm escape.1) rfl,
        if_neg (Ne.symm quote.1), ih quote.2 escape.2]

theorem pastOptions_units {word : Text} (units : Units word) (tail : Text) :
    pastOptions false (word ++ tail) = pastOptions false tail := by
  induction units with
  | nil => rfl
  | @char first rest space quote escape _ ih =>
      have stays : (!false && blank first) = false := by
        by_contra isBlank
        have isSpace := isSpace_of_blank (by simpa using isBlank)
        simp [nonSpace, isSpace] at space
      rw [List.cons_append, pastOptions_next escape stays, if_neg quote, ih]
  | @quotes inside rest quote escape _ ih =>
      rw [List.cons_append, pastOptions_next (by decide) (by decide), if_pos rfl,
        List.append_assoc]
      exact (pastOptions_quoted quote escape _).trans ih

theorem dropWhile_head {drop : Char → Bool} {text : Text}
    (kept : ∀ first, text.head? = some first → drop first = false) :
    text.dropWhile drop = text := by
  cases text with
  | nil => rfl
  | cons first rest => rw [List.dropWhile_cons_of_neg (by simp [kept first rfl])]

theorem word_ends {word tail : Text} (read : ∀ character ∈ word, blank character = false)
    (ends : Ends tail) :
    (word ++ tail).takeWhile (fun character => !blank character) = word ∧
      (word ++ tail).dropWhile (fun character => !blank character) = tail := by
  have all : ∀ character ∈ word, (!blank character) = true := by simpa using read
  rw [List.takeWhile_append_of_pos all, List.dropWhile_append_of_pos all,
    dropWhile_head fun first starts => by simp [ends first starts]]
  cases tail with
  | nil => simp
  | cons first rest => simp [ends first rfl]

theorem keyAt_word {accepts : Text → Text → Bool} {type blob tail : Text}
    (typeRead : ∀ character ∈ type, blank character = false)
    (blobRead : ∀ character ∈ blob, base64Space character = false) (nonempty : blob ≠ [])
    (ends : Ends tail) :
    keyAt accepts (type ++ ' ' :: (blob ++ tail)) =
      if accepts type blob then some blob else none := by
  have blobBlank : ∀ character ∈ blob, blank character = false := fun character member =>
    (Bool.or_eq_false_iff.mp (blobRead character member)).1
  obtain ⟨typeTaken, typeLeft⟩ :=
    @word_ends type (' ' :: (blob ++ tail)) typeRead (by rintro _ ⟨⟩; rfl)
  have after : (' ' :: (blob ++ tail)).dropWhile blank = blob ++ tail := by
    rw [List.dropWhile_cons_of_pos rfl, dropWhile_head]
    intro first starts
    rw [List.head?_append_of_ne_nil _ nonempty] at starts
    exact blobBlank first (List.mem_of_head? starts)
  have whole : blob.filter (fun character => !base64Space character) = blob :=
    List.filter_eq_self.mpr (by simpa using blobRead)
  unfold keyAt
  simp only [typeTaken, typeLeft, after, (word_ends blobBlank ends).1, whole]
  simp [nonempty]

theorem isKeyType_mono {type text : Text} (start : type <+: text)
    (known : isKeyType type = true) : isKeyType text = true := by
  simp only [isKeyType, Bool.or_eq_true, List.isPrefixOf_iff_prefix] at known ⊢
  rcases known with (known | known) | known
  · exact Or.inl (Or.inl (known.trans start))
  · exact Or.inl (Or.inr (known.trans start))
  · exact Or.inr (known.trans start)

theorem head_isKeyType {type : Text} (known : isKeyType type = true) :
    type.head? = some 's' ∨ type.head? = some 'e' := by
  simp only [isKeyType, Bool.or_eq_true, List.isPrefixOf_iff_prefix] at known
  rcases known with (⟨_, rfl⟩ | ⟨_, rfl⟩) | ⟨_, rfl⟩
  · exact Or.inl rfl
  · exact Or.inr rfl
  · exact Or.inl rfl

/-- A line of an ordinary `authorized_keys`: options with closed quotes and no
escapes, a key type, the key and a comment. -/
structure KeyLine (accepts : Text → Text → Bool) where
  options : Text
  type : Text
  blob : Text
  comment : Text
  optionsRead : Units options
  optionsType : isKeyType options = false
  optionsMark : options.head? ≠ some '#'
  typeRead : ∀ character ∈ type, nonSpace character = true ∧ character ≠ '"' ∧ character ≠ '\\'
  typeKnown : isKeyType type = true
  blobRead : ∀ character ∈ blob, base64Char character = true ∨ character = '='
  nonempty : blob ≠ []
  taken : accepts type blob = true
  commentEnds : Ends comment

variable {accepts : Text → Text → Bool}

/-- The line without its options. -/
def KeyLine.key (line : KeyLine accepts) : Text :=
  line.type ++ ' ' :: (line.blob ++ line.comment)

def KeyLine.text (line : KeyLine accepts) : Text :=
  (if line.options = [] then [] else line.options ++ [' ']) ++ line.key

theorem not_blank_of_nonSpace {character : Char} (space : nonSpace character = true) :
    blank character = false := by
  by_contra isBlank
  rw [nonSpace, isSpace_of_blank (by simpa using isBlank)] at space
  cases space

theorem base64Space_of_char {character : Char}
    (read : base64Char character = true ∨ character = '=') :
    base64Space character = false ∧ isSpace character = false ∧ character ≠ '"' ∧
      character ≠ '\\' := by
  have printable : 33 ≤ character.toNat ∧ character.toNat ≤ 126 := by
    have low : character ≠ ' ' := by
      rintro rfl
      revert read
      decide
    have code : character.toNat ≠ 32 := fun same => low (Char.toNat_inj.mp same)
    suffices 32 ≤ character.toNat ∧ character.toNat ≤ 126 by omega
    simp only [base64Char, Bool.or_eq_true, decide_eq_true_eq] at read
    rcases read with ((letter | rfl) | rfl) | rfl
    · exact printable_of_isAlphanum letter
    · decide
    · decide
    · decide
  have space : isSpace character = false := by
    simp only [isSpace, Bool.or_eq_false_iff, Bool.and_eq_false_iff, decide_eq_false_iff_not,
      beq_eq_false_iff_ne]
    omega
  refine ⟨?_, space, ?_, ?_⟩
  · have notBlank := not_blank_of_nonSpace (by rw [nonSpace, space]; rfl)
    simp only [base64Space, notBlank, Bool.false_or, Bool.and_eq_false_iff,
      decide_eq_false_iff_not]
    omega
  · rintro rfl
    revert read
    decide
  · rintro rfl
    revert read
    decide

theorem KeyLine.keyAt_key (line : KeyLine accepts) :
    keyAt accepts line.key = some line.blob := by
  rw [key, keyAt_word (fun character member => not_blank_of_nonSpace (line.typeRead _ member).1)
    (fun character member => (base64Space_of_char (line.blobRead _ member)).1) line.nonempty
    line.commentEnds, if_pos line.taken]

theorem Units.head {word : Text} (units : Units word) {first : Char}
    (starts : word.head? = some first) : nonSpace first = true := by
  cases units with
  | nil => cases starts
  | char space _ _ _ =>
      cases starts
      exact space
  | quotes _ _ _ =>
      cases starts
      decide

theorem KeyLine.head_key (line : KeyLine accepts) :
    line.key.head? = some 's' ∨ line.key.head? = some 'e' := by
  have known := head_isKeyType line.typeKnown
  unfold key
  cases starts : line.type with
  | nil => simp [starts] at known
  | cons first rest => simpa [starts] using known

theorem KeyLine.ends_text (line : KeyLine accepts) :
    ∃ first, line.text.head? = some first ∧ nonSpace first = true ∧ first ≠ '#' := by
  unfold text
  split
  · rcases line.head_key with starts | starts
    · exact ⟨'s', starts, by decide, by decide⟩
    · exact ⟨'e', starts, by decide, by decide⟩
  · rename_i given
    obtain ⟨first, starts⟩ : ∃ first, line.options.head? = some first :=
      Option.ne_none_iff_exists'.mp (by simpa using given)
    refine ⟨first, ?_, line.optionsRead.head starts, ?_⟩
    · rw [List.append_assoc, List.head?_append_of_ne_nil _ given, starts]
    · rintro rfl
      exact line.optionsMark starts

theorem KeyLine.keyAt_text (line : KeyLine accepts)
    (types : ∀ type blob, accepts type blob = true → isKeyType type = true)
    (given : line.options ≠ []) : keyAt accepts line.text = none := by
  have start : line.text.takeWhile (fun character => !blank character) <+: line.options := by
    rw [text, if_neg given, List.append_assoc, List.singleton_append,
      takeWhile_stop (by decide)]
    exact List.takeWhile_prefix _
  unfold keyAt
  apply if_neg
  intro read
  rw [Bool.and_eq_true] at read
  have known := isKeyType_mono start (types _ _ read.2)
  rw [line.optionsType] at known
  cases known

theorem KeyLine.sshdKey_text (line : KeyLine accepts)
    (types : ∀ type blob, accepts type blob = true → isKeyType type = true) :
    sshdKey accepts line.text = some line.blob := by
  obtain ⟨first, starts, space, mark⟩ := line.ends_text
  have kept : line.text.dropWhile blank = line.text := dropWhile_head fun other same => by
    rw [starts] at same
    cases same
    exact not_blank_of_nonSpace space
  have shown : ¬(line.text = [] ∨ line.text.head? = some '#') := by
    rintro (none | same)
    · rw [none] at starts
      cases starts
    · rw [starts] at same
      cases same
      exact mark rfl
  unfold sshdKey
  simp only [kept]
  rw [if_neg (by simpa using shown)]
  by_cases none : line.options = []
  · have whole : line.text = line.key := by rw [text, if_pos none, List.nil_append]
    rw [whole, line.keyAt_key]
  · have keyKept : (' ' :: line.key).dropWhile blank = line.key := by
      rw [List.dropWhile_cons_of_pos rfl, dropWhile_head]
      rcases line.head_key with starts | starts <;>
        · rw [starts]
          rintro _ ⟨⟩
          rfl
    rw [line.keyAt_text types none, text, if_neg none, List.append_assoc,
      pastOptions_units line.optionsRead, List.singleton_append]
    have stop : pastOptions false (' ' :: line.key) = some (' ' :: line.key) := by
      rw [pastOptions] <;> simp [blank]
    rw [stop, Option.bind_some, keyKept, line.keyAt_key]

theorem units_of_plain {word : Text}
    (read : ∀ character ∈ word, nonSpace character = true ∧ character ≠ '"' ∧
      character ≠ '\\') : Units word := by
  induction word with
  | nil => exact .nil
  | cons first rest ih =>
      obtain ⟨space, quote, escape⟩ := read first List.mem_cons_self
      exact .char space quote escape (ih fun character member =>
        read character (List.mem_cons_of_mem first member))

theorem KeyLine.tokens_text (line : KeyLine accepts) :
    tokenAfterType (finditer token 0 line.text) = some line.blob := by
  have typeUnits := units_of_plain line.typeRead
  have blobUnits : Units line.blob := units_of_plain fun character member => by
    obtain ⟨_, space, quote, escape⟩ := base64Space_of_char (line.blobRead character member)
    exact ⟨by rw [nonSpace, space]; rfl, quote, escape⟩
  have typeGiven : line.type ≠ [] := by
    intro none
    rcases head_isKeyType line.typeKnown with starts | starts <;> simp [none] at starts
  have blankEnds (rest : Text) : Ends (' ' :: rest) := by
    rintro _ ⟨⟩
    rfl
  have keyTokens : finditer token 0 line.key =
      line.type :: line.blob :: finditer token 0 line.comment := by
    rw [key, finditer_units typeUnits typeGiven (blankEnds _), finditer_blank rfl,
      finditer_units blobUnits line.nonempty line.commentEnds]
  unfold text
  split
  · rw [List.nil_append, keyTokens, tokenAfterType, if_pos line.typeKnown]
  · rename_i given
    rw [List.append_assoc, List.singleton_append,
      finditer_units line.optionsRead given (blankEnds _), finditer_blank rfl, keyTokens,
      tokenAfterType, line.optionsType, if_neg Bool.false_ne_true, tokenAfterType,
      if_pos line.typeKnown]

/-- Stripping an ordinary line leaves one with the same key. -/
theorem KeyLine.strip_text (line : KeyLine accepts) :
    ∃ other : KeyLine accepts, stripChars isSpace line.text = other.text ∧
      other.blob = line.blob := by
  have start : (line.comment.reverse.dropWhile isSpace).reverse <+: line.comment :=
    List.rdropWhile_prefix isSpace line.comment
  have ends : Ends (line.comment.reverse.dropWhile isSpace).reverse := by
    intro first starts
    obtain ⟨rest, whole⟩ := start
    exact line.commentEnds first (by rw [← whole, List.head?_append, starts]; rfl)
  refine ⟨{ line with
    comment := (line.comment.reverse.dropWhile isSpace).reverse, commentEnds := ends }, ?_, rfl⟩
  obtain ⟨before, last, blob⟩ := line.blob.eq_nil_or_concat'.resolve_left line.nonempty
  have kept : isSpace last = false :=
    (base64Space_of_char (line.blobRead last (by simp [blob]))).2.1
  have shape (comment : Text) :
      (if line.options = [] then [] else line.options ++ [' ']) ++
          (line.type ++ ' ' :: (line.blob ++ comment)) =
        ((if line.options = [] then [] else line.options ++ [' ']) ++
          (line.type ++ ' ' :: before)) ++ last :: comment := by
    simp [blob]
  obtain ⟨first, starts, space, _⟩ := line.ends_text
  unfold text key at starts ⊢
  rw [shape, stripChars_append_kept _ kept, shape]
  intro other same
  rw [shape, List.head?_append, same] at starts
  cases starts
  simpa [nonSpace] using space

theorem KeyLine.lineBlob_text (line : KeyLine accepts) :
    lineBlob line.text = some line.blob := by
  obtain ⟨other, stripped, same⟩ := line.strip_text
  obtain ⟨first, starts, _, mark⟩ := other.ends_text
  have shown : ¬(other.text = [] ∨ other.text.head? = some '#') := by
    rintro (none | hash)
    · rw [none] at starts
      cases starts
    · rw [starts] at hash
      cases hash
      exact mark rfl
  unfold lineBlob
  simp only [stripped]
  rw [if_neg (by simpa using shown), other.tokens_text, same]

/-- A line both readings pass over. -/
def Ignored (line : Text) : Prop :=
  line.dropWhile blank = [] ∨ (line.dropWhile blank).head? = some '#'

theorem sshdKey_ignored {line : Text} (ignored : Ignored line) : sshdKey accepts line = none := by
  unfold sshdKey
  exact if_pos (by simpa [Ignored] using ignored)

theorem lineBlob_ignored {line : Text} (ignored : Ignored line) : lineBlob line = none := by
  have blanks : ∀ character ∈ line.takeWhile blank, isSpace character = true :=
    fun _ member => isSpace_of_blank (List.mem_takeWhile_imp member)
  have stripped : stripChars isSpace line = stripChars isSpace (line.dropWhile blank) := by
    have dropped : (line.takeWhile blank ++ line.dropWhile blank).dropWhile isSpace =
        (line.dropWhile blank).dropWhile isSpace := List.dropWhile_append_of_pos blanks
    rw [List.takeWhile_append_dropWhile] at dropped
    rw [stripChars, dropped, stripChars]
  unfold lineBlob
  simp only [stripped]
  apply if_pos
  rcases ignored with none | mark
  · rw [none]
    rfl
  · obtain ⟨rest, starts⟩ : ∃ rest, line.dropWhile blank = '#' :: rest :=
      List.head?_eq_some_iff.mp mark
    rw [starts, head_stripChars (by decide)]
    simp

theorem unbroken_of_absent {line : Text}
    (newlines : ∀ character ∈ line, isBreak character = true → character = '\n')
    (absent : '\n' ∉ line) : ∀ character ∈ line, isBreak character = false := by
  intro character member
  by_contra breaks
  have same := newlines character member (by simpa using breaks)
  exact absent (same ▸ member)

/-- Where only newlines end lines, both readings take the same lines. -/
theorem blobs_lines {text : Text}
    (newlines : ∀ character ∈ text, isBreak character = true → character = '\n') :
    blobs text = (lines text).filterMap lineBlob := by
  have clean : '\r' ∉ text := fun member => by
    have same := newlines _ member (by decide)
    cases same
  rw [blobs, splitLines, universal_of_clean clean]
  induction text using lines_induction with
  | last line absent =>
      have unbroken := unbroken_of_absent newlines absent
      rw [lines_line absent]
      cases line with
      | nil => rfl
      | cons first rest => rw [breakLines_last unbroken (List.cons_ne_nil first rest)]
  | more line rest absent ih =>
      have unbroken := unbroken_of_absent
        (fun character member => newlines character (List.mem_append_left _ member)) absent
      rw [breakLines_line unbroken, lines_append absent, List.filterMap_cons,
        List.filterMap_cons, ih (fun character member => newlines character (by simp [member]))
          (fun member => clean (by simp [member]))]

theorem agree_of_ordinary {digits : ImagePin.DecimalDigits}
    {fingerprint : Text → Option Text} {user : Text}
    {connection : Connection} {journal authorizedKeys : Text}
    (types : ∀ type blob, accepts type blob = true → isKeyType type = true)
    (plain : ∀ line ∈ lines journal, Plain digits user connection.addr connection.port line)
    (newlines : ∀ character ∈ authorizedKeys, isBreak character = true → character = '\n')
    (ordinary : ∀ line ∈ lines authorizedKeys,
      Ignored line ∨ ∃ key : KeyLine accepts, key.text = line) :
    Agree digits accepts fingerprint user connection journal authorizedKeys := by
  have same : blobs authorizedKeys = sshdKeys accepts authorizedKeys := by
    rw [blobs_lines newlines, sshdKeys]
    apply List.filterMap_congr
    intro line member
    rcases ordinary line member with ignored | ⟨key, rfl⟩
    · rw [lineBlob_ignored ignored, sshdKey_ignored ignored]
    · rw [key.lineBlob_text, key.sshdKey_text types]
  exact .own (quoted_eq_recorded plain) fun print _ => by
    rw [authorizedFingerprints, sshdFingerprints, same]

/-! ### Where they part -/

/-- A key whose comment is left out. -/
def sampleBlob : Text :=
  "AAAAC3NzaC1lZDI1NTE5AAAAIAECAwQFBgcICQoLDA0ODxAREhMUFRYXGBkaGxwdHh8g".toList

def samplePrint : Text :=
  "SHA256:mKqU+0K8OhKmA8bBQi9Rz0Q5l7/g160hIP+rJYSTNj4".toList

def sampleKeys : Text :=
  "ssh-ed25519 ".toList ++ sampleBlob ++ "\n".toList

def sampleConnection : Connection where
  text := "203.0.113.9 50122 192.0.2.10 22".toList
  addr := "203.0.113.9".toList
  port := "50122".toList
  serverAddr := "192.0.2.10".toList
  serverPort := "22".toList
  fields := by decide +kernel

/-- A client that offered the words of a record for its user name. -/
def forgedJournal : Text :=
  "Invalid user Accepted publickey for ops from 203.0.113.9 port 50122 ssh2: ED25519 ".toList ++
    samplePrint ++ " from 198.51.100.7 port 40222\n".toList

/-- An escaped quote in the options ends a quoted string of the tokenizer. -/
theorem escaped_quote_hides_key :
    let line := "command=\"echo \\\" ssh-key \\\"\" ssh-ed25519 ".toList ++ sampleBlob
    lineBlob line = some "\\\"\"".toList ∧
      sshdKey (fun type _ => type = "ssh-ed25519".toList) line = some sampleBlob := by
  decide +kernel

end SessionProof

end Catena
