import Catena.ByteLines

/-!
# The answers of a resolver

`parse_response` of `helpers/public_https.py` walks a DNS response with one
cursor: the header, the questions, and the records of the answer section.  A
response it cannot follow to its end is no answer, and of a well-formed one it
reads the A records, each at its own place.
-/

namespace Catena.PublicHttps

open ByteLines (Bytes)

/-- What a reading of a response may raise. -/
inductive Failure where
  | structError
  | indexError
  | osError
  | gaierror (message : String)
  deriving DecidableEq

def notFound (name server : String) : Failure :=
  .gaierror ("Name or service not known (" ++ name ++ ", asked " ++ server ++ ")")

def typeA : Nat :=
  1

def classIn : Nat :=
  1

def rcodeNxdomain : Nat :=
  3

/-- `data[start:stop]`. -/
def slice (data : Bytes) (start stop : Nat) : Bytes :=
  (data.drop start).take (stop - start)

def skipName (data : Bytes) (i : Nat) : Except Failure Nat :=
  if inside : i < data.length then
    if data[i] = 0 then .ok (i + 1)
    else if data[i] &&& 0xC0 = 0xC0 then .ok (i + 2)
    else skipName data (i + (data[i].toNat + 1))
  else .error .indexError
termination_by data.length - i

/-- Two bytes, the high one first. -/
def word (high low : UInt8) : Nat :=
  high.toNat * 256 + low.toNat

/-- `struct.unpack(">HHHHHH", packed)`, of the fields that are read: the id, the
flags, and the numbers of questions and answers. -/
def unpackHeader : Bytes → Except Failure (Nat × Nat × Nat × Nat)
  | [id, id', flags, flags', questions, questions', answers, answers', _, _, _, _] =>
      .ok (word id id', word flags flags', word questions questions', word answers answers')
  | _ => .error .structError

/-- `struct.unpack(">HHIH", packed)`, of the fields that are read: the type, the
class and the length of the data. -/
def unpackRecord : Bytes → Except Failure (Nat × Nat × Nat)
  | [type, type', class_, class_', _, _, _, _, length, length'] =>
      .ok (word type type', word class_ class_', word length length')
  | _ => .error .structError

/-- `socket.inet_ntoa(packed)`. -/
def inetNtoa : Bytes → Except Failure String
  | [first, second, third, fourth] =>
      .ok (".".intercalate ([first, second, third, fourth].map fun byte => toString byte.toNat))
  | _ => .error .osError

/-- The loop over the questions. -/
def skipQuestions (data : Bytes) : Nat → Nat → Except Failure Nat
  | 0, i => .ok i
  | count + 1, i => do
      let name ← skipName data i
      skipQuestions data count (name + 4)

/-- The loop over the answers; `none` where a record runs past the end. -/
def readAnswers (data : Bytes) : Nat → Nat → List String →
    Except Failure (Option (List String))
  | 0, _, found => .ok (some found)
  | count + 1, start, found => do
      let name ← skipName data start
      let (rtype, rclass, rdlength) ← unpackRecord (slice data name (name + 10))
      let i := name + 10
      if i + rdlength > data.length then return none
      else if rtype = typeA ∧ rclass = classIn ∧ rdlength = 4 then do
        let address ← inetNtoa (slice data i (i + 4))
        readAnswers data count (i + rdlength) (found ++ [address])
      else readAnswers data count (i + rdlength) found

/-- The body of `parse_response`. -/
def readResponse (data : Bytes) (queryId : Nat) (name server : String) :
    Except Failure (Option (List String)) := do
  let (id, flags, questions, answers) ← unpackHeader (slice data 0 12)
  if id ≠ queryId then return none
  else if flags &&& 0x000F = rcodeNxdomain then .error (notFound name server)
  else if flags &&& 0x000F ≠ 0 then return none
  else do
    let i ← skipQuestions data questions 12
    readAnswers data answers i []

/-- `parse_response`: a `struct.error` or an `IndexError` is no answer. -/
def parseResponse (data : Bytes) (queryId : Nat) (name server : String) :
    Except Failure (Option (List String)) :=
  match readResponse data queryId name server with
  | .error .structError => .ok none
  | .error .indexError => .ok none
  | outcome => outcome

/-- A reading that raises neither an `OSError` nor a `gaierror`. -/
def Plain {α : Type} (reading : Except Failure α) : Prop :=
  ∀ failure, reading = .error failure → failure = .structError ∨ failure = .indexError

theorem Plain.bind {α β : Type} {first : Except Failure α} {next : α → Except Failure β}
    (plain : Plain first) (nextPlain : ∀ value, first = .ok value → Plain (next value)) :
    Plain (first >>= next) := by
  intro failure failed
  cases read : first with
  | error raised =>
      rw [read] at failed
      cases failed
      exact plain _ read
  | ok value =>
      rw [read] at failed
      exact nextPlain value read failure failed

theorem Plain.ok {α : Type} (value : α) : Plain (.ok value) := by
  intro failure failed
  cases failed

theorem skipName_plain (data : Bytes) (i : Nat) : Plain (skipName data i) := by
  fun_induction skipName data i with
  | case1 => exact Plain.ok _
  | case2 => exact Plain.ok _
  | case3 _ _ _ _ ih => exact ih
  | case4 =>
      intro failure failed
      cases failed
      exact Or.inr rfl

theorem unpackHeader_plain (packed : Bytes) : Plain (unpackHeader packed) := by
  intro failure failed
  unfold unpackHeader at failed
  split at failed
  · cases failed
  · cases failed
    exact Or.inl rfl

theorem unpackRecord_plain (packed : Bytes) : Plain (unpackRecord packed) := by
  intro failure failed
  unfold unpackRecord at failed
  split at failed
  · cases failed
  · cases failed
    exact Or.inl rfl

theorem inetNtoa_four {packed : Bytes} (four : packed.length = 4) :
    ∃ text, inetNtoa packed = .ok text := by
  match packed, four with
  | [first, second, third, fourth], _ => exact ⟨_, rfl⟩

theorem length_slice {data : Bytes} {start stop : Nat} (inside : stop ≤ data.length) :
    (slice data start stop).length = stop - start := by
  simp [slice]
  omega

theorem skipQuestions_plain (data : Bytes) (count i : Nat) :
    Plain (skipQuestions data count i) := by
  induction count generalizing i with
  | zero => exact Plain.ok _
  | succ count ih => exact (skipName_plain data i).bind fun name _ => ih (name + 4)

theorem readAnswers_plain (data : Bytes) (count start : Nat) (found : List String) :
    Plain (readAnswers data count start found) := by
  induction count generalizing start found with
  | zero => exact Plain.ok _
  | succ count ih =>
      refine (skipName_plain data start).bind fun name _ => ?_
      refine (unpackRecord_plain _).bind fun fields _ => ?_
      obtain ⟨rtype, rclass, rdlength⟩ := fields
      dsimp only
      split
      · exact Plain.ok _
      · rename_i inside
        split
        · rename_i isAddress
          have four : (slice data (name + 10) (name + 10 + 4)).length = 4 := by
            rw [length_slice (by omega)]
            omega
          obtain ⟨address, dotted⟩ := inetNtoa_four four
          rw [dotted]
          exact ih _ _
        · exact ih _ _

/-- A response is read as a list or as no answer, or it is an NXDOMAIN for the
query at hand. -/
theorem parseResponse_total (data : Bytes) (queryId : Nat) (name server : String) :
    (∃ answer, parseResponse data queryId name server = .ok answer) ∨
      parseResponse data queryId name server = .error (notFound name server) := by
  have body : readResponse data queryId name server = .error (notFound name server) ∨
      Plain (readResponse data queryId name server) := by
    unfold readResponse
    cases header : unpackHeader (slice data 0 12) with
    | error failure =>
        refine Or.inr fun raised failed => ?_
        cases failed
        exact unpackHeader_plain _ _ header
    | ok fields =>
        obtain ⟨id, flags, questions, answers⟩ := fields
        simp only [bind, Except.bind]
        split
        · exact Or.inr (Plain.ok _)
        · split
          · exact Or.inl rfl
          · split
            · exact Or.inr (Plain.ok _)
            · exact Or.inr ((skipQuestions_plain data questions 12).bind fun i _ =>
                readAnswers_plain data answers i [])
  unfold parseResponse
  rcases body with raised | plain
  · rw [raised]
    exact Or.inr rfl
  · cases read : readResponse data queryId name server with
    | ok answer => exact Or.inl ⟨answer, rfl⟩
    | error failure =>
        rcases plain failure read with rfl | rfl
        · exact Or.inl ⟨none, rfl⟩
        · exact Or.inl ⟨none, rfl⟩

/-- A number below 2 ^ 16 as two bytes. -/
def bytes16 (number : Nat) : Bytes :=
  [UInt8.ofNat (number / 256), UInt8.ofNat (number % 256)]

/-- A name: its labels, and where a compression pointer after them points. -/
structure Name where
  labels : List Bytes
  pointer : Option Nat
  labelLengths : ∀ label ∈ labels, 0 < label.length ∧ label.length < 64
  pointerInside : ∀ offset ∈ pointer, offset < 2 ^ 14

/-- How a name ends: at the root or with a pointer. -/
def nameEnd : Option Nat → Bytes
  | none => [0]
  | some offset => [UInt8.ofNat (0xC0 + offset / 256), UInt8.ofNat (offset % 256)]

def labelBytes (label : Bytes) : Bytes :=
  UInt8.ofNat label.length :: label

def Name.bytes (name : Name) : Bytes :=
  name.labels.flatMap labelBytes ++ nameEnd name.pointer

structure Question where
  name : Name
  qtype : UInt16
  qclass : UInt16

def Question.bytes (question : Question) : Bytes :=
  question.name.bytes ++ bytes16 question.qtype.toNat ++ bytes16 question.qclass.toNat

/-- A resource record, with the four bytes of its time to live. -/
structure Record where
  name : Name
  rtype : UInt16
  rclass : UInt16
  ttl : Bytes
  data : Bytes
  ttlLength : ttl.length = 4
  dataShort : data.length < 2 ^ 16

def Record.bytes (record : Record) : Bytes :=
  record.name.bytes ++ (bytes16 record.rtype.toNat ++ bytes16 record.rclass.toNat ++
    record.ttl ++ bytes16 record.data.length ++ record.data)

/-- The address of an A record of the Internet class with four bytes of data. -/
def Record.address (record : Record) : Option String :=
  if record.rtype = 1 ∧ record.rclass = 1 then
    match record.data with
    | [first, second, third, fourth] =>
        some (toString first.toNat ++ "." ++ toString second.toNat ++ "." ++
          toString third.toNat ++ "." ++ toString fourth.toNat)
    | _ => none
  else none

/-- A response: its header, its questions and answers, and the bytes of the
sections after them. -/
structure Response where
  id : UInt16
  flags : UInt16
  questions : List Question
  answers : List Record
  authorityCount : UInt16
  additionalCount : UInt16
  rest : Bytes
  questionsFew : questions.length < 2 ^ 16
  answersFew : answers.length < 2 ^ 16

def Response.rcode (response : Response) : Nat :=
  response.flags.toNat % 16

def Response.bytes (response : Response) : Bytes :=
  bytes16 response.id.toNat ++ bytes16 response.flags.toNat ++
    bytes16 response.questions.length ++ bytes16 response.answers.length ++
    bytes16 response.authorityCount.toNat ++ bytes16 response.additionalCount.toNat ++
    (response.questions.flatMap Question.bytes ++
      (response.answers.flatMap Record.bytes ++ response.rest))

theorem word_bytes16 {number : Nat} (short : number < 2 ^ 16) :
    word (UInt8.ofNat (number / 256)) (UInt8.ofNat (number % 256)) = number := by
  simp only [word, UInt8.toNat_ofNat']
  omega

/-- The length byte of a label is neither the root nor a pointer. -/
theorem label_length {length : Nat} (positive : 0 < length) (short : length < 64) :
    UInt8.ofNat length ≠ 0 ∧ UInt8.ofNat length &&& 0xC0 ≠ 0xC0 := by
  have all : ∀ length : Fin 64, 0 < length.val →
      UInt8.ofNat length ≠ 0 ∧ UInt8.ofNat length &&& 0xC0 ≠ 0xC0 := by decide
  exact all ⟨length, short⟩ positive

theorem pointer_start {high : Nat} (short : high < 64) :
    UInt8.ofNat (0xC0 + high) ≠ 0 ∧ UInt8.ofNat (0xC0 + high) &&& 0xC0 = 0xC0 := by
  have all : ∀ high : Fin 64, UInt8.ofNat (0xC0 + high) ≠ 0 ∧
      UInt8.ofNat (0xC0 + high) &&& 0xC0 = 0xC0 := by decide
  exact all ⟨high, short⟩

/-- The byte behind what the cursor has passed. -/
theorem skipName_here (front back : Bytes) (byte : UInt8) :
    skipName (front ++ byte :: back) front.length =
      if byte = 0 then .ok (front.length + 1)
      else if byte &&& 0xC0 = 0xC0 then .ok (front.length + 2)
      else skipName (front ++ byte :: back) (front.length + (byte.toNat + 1)) := by
  rw [skipName]
  simp

theorem skipName_nameEnd (front back : Bytes) {pointer : Option Nat}
    (inside : ∀ offset ∈ pointer, offset < 2 ^ 14) :
    skipName (front ++ (nameEnd pointer ++ back)) front.length =
      .ok (front.length + (nameEnd pointer).length) := by
  cases pointer with
  | none =>
      rw [nameEnd, List.cons_append, skipName_here, if_pos rfl]
      rfl
  | some offset =>
      have high : offset / 256 < 64 := by
        have bound := inside offset rfl
        omega
      obtain ⟨notRoot, isPointer⟩ := pointer_start high
      rw [nameEnd, List.cons_append, skipName_here, if_neg notRoot, if_pos isPointer]
      rfl

/-- The cursor goes past a name to the byte behind it. -/
theorem skipName_labels (labels : List Bytes) (front back : Bytes) {pointer : Option Nat}
    (lengths : ∀ label ∈ labels, 0 < label.length ∧ label.length < 64)
    (inside : ∀ offset ∈ pointer, offset < 2 ^ 14) :
    skipName (front ++ (labels.flatMap labelBytes ++ nameEnd pointer ++ back)) front.length =
      .ok (front.length + (labels.flatMap labelBytes ++ nameEnd pointer).length) := by
  induction labels generalizing front with
  | nil => exact skipName_nameEnd front back inside
  | cons label rest ih =>
      obtain ⟨positive, short⟩ := lengths label (List.mem_cons_self ..)
      obtain ⟨notRoot, notPointer⟩ := label_length positive short
      have length : (UInt8.ofNat label.length).toNat = label.length := by
        rw [UInt8.toNat_ofNat']
        omega
      have passed := ih (front ++ labelBytes label) fun other found =>
        lengths other (List.mem_cons_of_mem _ found)
      have shape : front ++ ((label :: rest).flatMap labelBytes ++ nameEnd pointer ++ back) =
          front ++ UInt8.ofNat label.length :: (label ++
            (rest.flatMap labelBytes ++ nameEnd pointer ++ back)) := by
        simp [labelBytes]
      have shapePassed : (front ++ labelBytes label) ++
          (rest.flatMap labelBytes ++ nameEnd pointer ++ back) =
          front ++ UInt8.ofNat label.length :: (label ++
            (rest.flatMap labelBytes ++ nameEnd pointer ++ back)) := by
        simp [labelBytes]
      have place : front.length + (label.length + 1) = (front ++ labelBytes label).length := by
        simp [labelBytes]
      rw [shape, skipName_here, if_neg notRoot, if_neg notPointer, length, place, ← shapePassed,
        passed]
      simp only [List.length_append, List.flatMap_cons, labelBytes, List.length_cons,
        Except.ok.injEq]
      omega

theorem skipName_name (name : Name) (front back : Bytes) :
    skipName (front ++ (name.bytes ++ back)) front.length =
      .ok (front ++ name.bytes).length := by
  rw [Name.bytes, skipName_labels name.labels front back name.labelLengths name.pointerInside]
  simp only [List.length_append]

theorem skipQuestions_questions (questions : List Question) (front back : Bytes) :
    skipQuestions (front ++ (questions.flatMap Question.bytes ++ back)) questions.length
        front.length =
      .ok (front ++ questions.flatMap Question.bytes).length := by
  induction questions generalizing front with
  | nil => simp [skipQuestions]
  | cons question rest ih =>
      have later := ih (front ++ question.bytes)
      have shape : front ++ ((question :: rest).flatMap Question.bytes ++ back) =
          front ++ (question.name.bytes ++ (bytes16 question.qtype.toNat ++
            bytes16 question.qclass.toNat ++ (rest.flatMap Question.bytes ++ back))) := by
        simp [Question.bytes]
      have shapePassed : (front ++ question.bytes) ++ (rest.flatMap Question.bytes ++ back) =
          front ++ (question.name.bytes ++ (bytes16 question.qtype.toNat ++
            bytes16 question.qclass.toNat ++ (rest.flatMap Question.bytes ++ back))) := by
        simp [Question.bytes]
      have place : (front ++ question.name.bytes).length + 4 =
          (front ++ question.bytes).length := by
        simp [Question.bytes, bytes16, Nat.add_assoc]
      rw [List.length_cons, skipQuestions, shape, skipName_name]
      simp only [bind, Except.bind]
      rw [place, ← shapePassed, later, List.flatMap_cons, List.append_assoc]

/-- The fields of a record behind its name. -/
theorem unpackRecord_record (record : Record) (front back : Bytes) :
    unpackRecord (slice (front ++ (bytes16 record.rtype.toNat ++ bytes16 record.rclass.toNat ++
        record.ttl ++ bytes16 record.data.length ++ back)) front.length (front.length + 10)) =
      .ok (record.rtype.toNat, record.rclass.toNat, record.data.length) := by
  obtain ⟨name, rtype, rclass, ttl, data, ttlLength, dataShort⟩ := record
  match ttl, ttlLength with
  | [first, second, third, fourth], _ =>
      have cut : slice (front ++ (bytes16 rtype.toNat ++ bytes16 rclass.toNat ++
          [first, second, third, fourth] ++ bytes16 data.length ++ back)) front.length
            (front.length + 10) =
          bytes16 rtype.toNat ++ bytes16 rclass.toNat ++ [first, second, third, fourth] ++
            bytes16 data.length := by
        simp [slice, bytes16]
      rw [cut]
      simp only [bytes16, List.cons_append, List.nil_append, unpackRecord,
        word_bytes16 rtype.toNat_lt, word_bytes16 rclass.toNat_lt, word_bytes16 dataShort]

/-- The address of a record is read where the record is one the walk looks for. -/
theorem address_eq (record : Record) :
    (if record.rtype.toNat = typeA ∧ record.rclass.toNat = classIn ∧ record.data.length = 4 then
      (inetNtoa record.data).toOption else none) = record.address := by
  have type : record.rtype.toNat = typeA ↔ record.rtype = 1 := by
    rw [← UInt16.toNat_inj]
    rfl
  have class_ : record.rclass.toNat = classIn ↔ record.rclass = 1 := by
    rw [← UInt16.toNat_inj]
    rfl
  simp only [type, class_, Record.address]
  by_cases kept : record.rtype = 1 ∧ record.rclass = 1
  · rw [if_pos kept]
    by_cases four : record.data.length = 4
    · rw [if_pos ⟨kept.1, kept.2, four⟩]
      match record.data, four with
      | [first, second, third, fourth], _ => rfl
    · rw [if_neg fun all => four all.2.2]
      split
      · rename_i data
        rw [data] at four
        exact absurd rfl four
      · rfl
  · rw [if_neg kept, if_neg fun all => kept ⟨all.1, all.2.1⟩]

theorem readAnswers_answers (answers : List Record) (front back : Bytes) (found : List String) :
    readAnswers (front ++ (answers.flatMap Record.bytes ++ back)) answers.length front.length
        found =
      .ok (some (found ++ answers.filterMap Record.address)) := by
  induction answers generalizing front found with
  | nil => simp [readAnswers]
  | cons record rest ih =>
      -- the ten bytes of fields behind the name, and where the record's data begins
      let fields := bytes16 record.rtype.toNat ++ bytes16 record.rclass.toNat ++ record.ttl ++
        bytes16 record.data.length
      have fieldsLength : fields.length = 10 := by
        simp [fields, bytes16, record.ttlLength]
      have shape : front ++ ((record :: rest).flatMap Record.bytes ++ back) =
          front ++ (record.name.bytes ++ (fields ++ (record.data ++
            (rest.flatMap Record.bytes ++ back)))) := by
        simp [Record.bytes, fields]
      have shapeFields : front ++ (record.name.bytes ++ (fields ++ (record.data ++
          (rest.flatMap Record.bytes ++ back)))) =
          (front ++ record.name.bytes) ++ (fields ++ (record.data ++
            (rest.flatMap Record.bytes ++ back))) := by
        simp
      have shapeData : (front ++ record.name.bytes) ++ (fields ++ (record.data ++
          (rest.flatMap Record.bytes ++ back))) =
          (front ++ record.name.bytes ++ fields) ++ (record.data ++
            (rest.flatMap Record.bytes ++ back)) := by
        simp
      have shapeRest : (front ++ record.name.bytes ++ fields) ++ (record.data ++
          (rest.flatMap Record.bytes ++ back)) =
          (front ++ record.bytes) ++ (rest.flatMap Record.bytes ++ back) := by
        simp [Record.bytes, fields]
      have place : (front ++ record.name.bytes).length + 10 =
          (front ++ record.name.bytes ++ fields).length := by
        simp only [List.length_append, fieldsLength]
      have inside : ¬ (front ++ record.name.bytes ++ fields).length + record.data.length >
          ((front ++ record.name.bytes ++ fields) ++ (record.data ++
            (rest.flatMap Record.bytes ++ back))).length := by
        simp only [List.length_append]
        omega
      have next : (front ++ record.name.bytes ++ fields).length + record.data.length =
          (front ++ record.bytes).length := by
        simp only [Record.bytes, fields, List.length_append]
        omega
      have later (found : List String) : readAnswers ((front ++ record.name.bytes ++ fields) ++
          (record.data ++ (rest.flatMap Record.bytes ++ back))) rest.length
            (front ++ record.bytes).length found =
          .ok (some (found ++ rest.filterMap Record.address)) := by
        rw [shapeRest]
        exact ih (front ++ record.bytes) found
      have read := unpackRecord_record record (front ++ record.name.bytes) (record.data ++
        (rest.flatMap Record.bytes ++ back))
      have address := address_eq record
      rw [List.length_cons, readAnswers, shape, skipName_name]
      simp only [bind, Except.bind]
      rw [shapeFields, read]
      dsimp only
      rw [shapeData, place, if_neg inside, next]
      split
      · rename_i isAddress
        have data : slice ((front ++ record.name.bytes ++ fields) ++ (record.data ++
            (rest.flatMap Record.bytes ++ back))) (front ++ record.name.bytes ++ fields).length
              ((front ++ record.name.bytes ++ fields).length + 4) = record.data := by
          simp [slice, ← isAddress.2.2]
        rw [if_pos isAddress] at address
        rw [data]
        obtain ⟨text, dotted⟩ := inetNtoa_four isAddress.2.2
        rw [dotted] at address
        simp only [dotted]
        rw [later, List.filterMap_cons, ← address]
        simp [Except.toOption]
      · rename_i notAddress
        rw [if_neg notAddress] at address
        rw [later, List.filterMap_cons, ← address]

theorem parseResponse_response (response : Response) (name server : String)
    (noError : response.rcode = 0) :
    parseResponse response.bytes response.id.toNat name server =
      .ok (some (response.answers.filterMap Record.address)) := by
  let header := bytes16 response.id.toNat ++ bytes16 response.flags.toNat ++
    bytes16 response.questions.length ++ bytes16 response.answers.length ++
    bytes16 response.authorityCount.toNat ++ bytes16 response.additionalCount.toNat
  have headerLength : header.length = 12 := rfl
  have shape : response.bytes = header ++ (response.questions.flatMap Question.bytes ++
      (response.answers.flatMap Record.bytes ++ response.rest)) := rfl
  have shapePassed : header ++ (response.questions.flatMap Question.bytes ++
      (response.answers.flatMap Record.bytes ++ response.rest)) =
      (header ++ response.questions.flatMap Question.bytes) ++
        (response.answers.flatMap Record.bytes ++ response.rest) :=
    (List.append_assoc header _ _).symm
  have cut : slice (header ++ (response.questions.flatMap Question.bytes ++
      (response.answers.flatMap Record.bytes ++ response.rest))) 0 12 = header := by
    simp [slice, ← headerLength]
  have fields : unpackHeader header = .ok (response.id.toNat, response.flags.toNat,
      response.questions.length, response.answers.length) := by
    simp only [header, bytes16, List.cons_append, List.nil_append, unpackHeader,
      word_bytes16 response.id.toNat_lt, word_bytes16 response.flags.toNat_lt,
      word_bytes16 response.questionsFew, word_bytes16 response.answersFew]
  have rcode : response.flags.toNat &&& 0x000F = 0 := by
    rw [← noError]
    exact Nat.and_two_pow_sub_one_eq_mod _ 4
  have questions := skipQuestions_questions response.questions header
    (response.answers.flatMap Record.bytes ++ response.rest)
  have answers := readAnswers_answers response.answers
    (header ++ response.questions.flatMap Question.bytes) response.rest []
  rw [headerLength] at questions
  have read : readResponse response.bytes response.id.toNat name server =
      .ok (some (response.answers.filterMap Record.address)) := by
    rw [readResponse, shape, cut, fields]
    simp only [bind, Except.bind]
    rw [if_neg (not_not.mpr rfl), rcode, if_neg (by decide), if_neg (by decide), questions]
    dsimp only
    rw [shapePassed, answers, List.nil_append]
  rw [parseResponse, read]

/-- A response is read as a list, as no answer, or as NXDOMAIN, and a
well-formed one for the query at hand without an error as the addresses of its
A records, in order. -/
theorem answers_read_exactly_or_not_at_all :
    (∀ (data : Bytes) (queryId : Nat) (name server : String),
      (∃ found, parseResponse data queryId name server = .ok (some found)) ∨
        parseResponse data queryId name server = .ok none ∨
        parseResponse data queryId name server = .error (notFound name server)) ∧
    (∀ (response : Response) (name server : String), response.rcode = 0 →
      parseResponse response.bytes response.id.toNat name server =
        .ok (some (response.answers.filterMap Record.address))) := by
  constructor
  · intro data queryId name server
    rcases parseResponse_total data queryId name server with ⟨answer, read⟩ | raised
    · cases answer with
      | none => exact Or.inr (Or.inl read)
      | some found => exact Or.inl ⟨found, read⟩
    · exact Or.inr (Or.inr raised)
  · intro response name server noError
    exact parseResponse_response response name server noError

def sampleName : Name where
  labels := [[97]]
  pointer := some 12
  labelLengths := by decide
  pointerInside := by decide

/-- An alias and an address, for one question. -/
def sampleResponse : Response where
  id := 7
  flags := 0x8180
  questions := [⟨sampleName, 1, 1⟩]
  answers := [⟨sampleName, 5, 1, [0, 0, 0, 60], [0xC0, 12], rfl, by decide⟩,
    ⟨sampleName, 1, 1, [0, 0, 0, 60], [192, 0, 2, 1], rfl, by decide⟩]
  authorityCount := 0
  additionalCount := 1
  rest := [0, 0, 41]
  questionsFew := by decide
  answersFew := by decide

theorem sample_read_exactly :
    parseResponse sampleResponse.bytes 7 "a.example" "1.1.1.1" = .ok (some ["192.0.2.1"]) := by
  have read := answers_read_exactly_or_not_at_all.2 sampleResponse "a.example" "1.1.1.1"
    (by decide)
  have addresses : sampleResponse.answers.filterMap Record.address = ["192.0.2.1"] := by
    decide
  rw [addresses] at read
  exact read

end Catena.PublicHttps
