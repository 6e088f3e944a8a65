import Catena.PyJson
import Catena.PyTextForms
import Catena.Runs

/-!
# The realm's mail settings

The sign-in realm follows the panel's outgoing mail settings while they are
the ones Catena wrote, which a record in the realm tells: a fingerprint of the
compared fields, written many tasks after the import it describes.  A converge
that stops in between leaves settings of Catena's own that differ from the
record, and the next one takes them for a hand edit.
-/

namespace Catena

namespace MailSettings

open Runs

/-- An `smtpServer` map. -/
abbrev Smtp := PyDict String Json

/-- The compared fields, in the source's order. -/
def fieldNames : List String :=
  ["host", "port", "from", "fromDisplayName", "replyTo", "replyToDisplayName",
    "envelopeFrom", "user", "auth", "ssl", "starttls"]

def flags : List String :=
  ["auth", "ssl", "starttls"]

/-- What the filters and Keycloak compute with: Python's `str` of a value, the
canonical JSON text of a map of texts, SHA-256, and the map Keycloak holds
after an import of another. -/
structure Tools where
  py : Builtins
  dumps : PyDict String String → String
  sha256 : String → String
  stores : Smtp → Smtp

/-- The realm as a converge reads it; one that does not exist yet has neither. -/
structure Realm where
  smtpServer : Option Smtp
  record : Option String

section Filters

variable (tools : Tools)

/-- One compared field as text. -/
def text (key : String) (value : Option Json) : String :=
  let plain :=
    match value with
    | none => ""
    | some .null => ""
    | some value => PyText.strip (value.toText tools.py)
  if key ∈ flags then PyText.lower plain else plain

def project (smtp : Option Smtp) : PyDict String String :=
  fieldNames.filterMap fun key =>
    let found := text tools key ((smtp.getD []).get key)
    if found = "" then none else some (key, found)

/-- `keycloak_mail_fingerprint`. -/
def fingerprint (smtp : Option Smtp) : String :=
  tools.sha256 (tools.dumps (project tools smtp))

/-- A map of texts as a JSON map. -/
def asSmtp (fields : PyDict String String) : Smtp :=
  fields.map fun field => (field.1, .str field.2)

def keycloakMailFollows (realm : Realm) : Bool :=
  let current := project tools realm.smtpServer
  match realm.record with
  | none => true
  | some recorded =>
    current = [] || fingerprint tools (some (asSmtp current)) = recorded

/-- `keycloak_mail_record_sets`: the fingerprint its arguments record. -/
def keycloakMailRecordSets (realm : Realm) (wanted : Smtp) : Option String :=
  let wantedPrint := fingerprint tools (some wanted)
  if fingerprint tools realm.smtpServer ≠ wantedPrint then none
  else if realm.record = some wantedPrint then none
  else some wantedPrint

/-- The imports, which carry the mail settings when they follow. -/
def Realm.imported (realm : Realm) (wanted : Smtp) : Realm :=
  if keycloakMailFollows tools realm then
    { realm with smtpServer := some (tools.stores wanted) }
  else realm

/-- The last task, which records what Catena wrote. -/
def Realm.recorded (realm : Realm) (wanted : Smtp) : Realm :=
  match keycloakMailRecordSets tools realm wanted with
  | some printed => { realm with record := some printed }
  | none => realm

/-- A converge, with the hand edits of the Email tab between its import and
its record, or its stop there, and a hand edit outside a converge. -/
inductive Step where
  | converge (wanted : Smtp) (between : List (Option Smtp)) (completes : Bool)
  | edit (smtp : Option Smtp)

def Realm.edited (realm : Realm) (smtp : Option Smtp) : Realm :=
  { realm with smtpServer := smtp }

def Realm.step (realm : Realm) : Step → Realm
  | .converge wanted between completes =>
    let held := between.foldl Realm.edited (realm.imported tools wanted)
    if completes then held.recorded tools wanted else held
  | .edit smtp => realm.edited smtp

end Filters

section Projection

variable (tools : Tools)

theorem text_str (key value : String) :
    text tools key (some (.str value)) =
      if key ∈ flags then PyText.lower (PyText.strip value) else PyText.strip value :=
  rfl

/-- A compared field is its own text. -/
theorem text_text (key : String) (value : Option Json) :
    text tools key (some (.str (text tools key value))) = text tools key value := by
  rw [text_str]
  have stripped : ∀ plain : String, PyText.strip plain = plain →
      (if key ∈ flags then PyText.lower (PyText.strip
          (if key ∈ flags then PyText.lower plain else plain))
        else PyText.strip (if key ∈ flags then PyText.lower plain else plain)) =
      if key ∈ flags then PyText.lower plain else plain := by
    intro plain same
    split
    · rw [← same, PyText.strip_lower_strip, PyText.lower_lower]
    · exact same
  unfold text
  cases value with
  | none => exact stripped "" PyText.strip_empty
  | some value =>
    cases value with
    | null => exact stripped "" PyText.strip_empty
    | bool => exact stripped _ (PyText.strip_strip _)
    | int => exact stripped _ (PyText.strip_strip _)
    | float => exact stripped _ (PyText.strip_strip _)
    | str => exact stripped _ (PyText.strip_strip _)
    | arr => exact stripped _ (PyText.strip_strip _)
    | obj => exact stripped _ (PyText.strip_strip _)

theorem text_none (key : String) : text tools key none = "" := by
  have empty : (if key ∈ flags then PyText.lower "" else "") = "" := by
    split <;> rfl
  exact empty

/-- Looking a name up in the projection gives its text, unless that is empty. -/
theorem get_filterMap (names : List String) (value : String → String) (wanted : String) :
    PyDict.get (names.filterMap fun key =>
      if value key = "" then none else some (key, value key)) wanted =
      if wanted ∈ names ∧ value wanted ≠ "" then some (value wanted) else none := by
  induction names with
  | nil => rfl
  | cons name rest ih =>
    by_cases empty : value name = ""
    · simp only [List.filterMap_cons, empty, if_true, ih, List.mem_cons]
      by_cases same : wanted = name
      · subst same
        simp [empty]
      · simp [same]
    · simp only [List.filterMap_cons, empty, if_false, PyDict.get_cons, ih, List.mem_cons]
      by_cases same : name = wanted
      · subst same
        simp [empty]
      · simp [same, Ne.symm same]

theorem get_asSmtp (fields : PyDict String String) (key : String) :
    PyDict.get (asSmtp fields) key = (PyDict.get fields key).map Json.str := by
  induction fields with
  | nil => rfl
  | cons field rest ih =>
    obtain ⟨name, value⟩ := field
    change (if name = key then _ else _) = Option.map Json.str (if name = key then _ else _)
    split
    · rfl
    · exact ih

theorem project_asSmtp (smtp : Option Smtp) :
    project tools (some (asSmtp (project tools smtp))) = project tools smtp := by
  unfold project
  apply List.filterMap_congr
  intro key inside
  have found : text tools key ((asSmtp (fieldNames.filterMap fun key =>
      if text tools key ((smtp.getD []).get key) = "" then none
      else some (key, text tools key ((smtp.getD []).get key)))).get key) =
      text tools key ((smtp.getD []).get key) := by
    rw [get_asSmtp, get_filterMap]
    split
    case isTrue there => exact text_text tools key _
    case isFalse absent =>
      have empty : text tools key ((smtp.getD []).get key) = "" := by
        by_contra full
        exact absent ⟨inside, full⟩
      rw [empty]
      exact text_none tools key
  simp only [Option.getD_some, found]

theorem fingerprint_asSmtp (smtp : Option Smtp) :
    fingerprint tools (some (asSmtp (project tools smtp))) = fingerprint tools smtp := by
  simp only [fingerprint, project_asSmtp]

theorem follows_iff (realm : Realm) :
    keycloakMailFollows tools realm = true ↔
      project tools realm.smtpServer = [] ∨ realm.record = none ∨
        realm.record = some (fingerprint tools realm.smtpServer) := by
  unfold keycloakMailFollows
  cases realm.record with
  | none => simp
  | some recorded =>
    simp only [fingerprint_asSmtp, Bool.or_eq_true, decide_eq_true_eq, reduceCtorEq,
      false_or, Option.some.injEq]
    exact or_congr Iff.rfl eq_comm

end Projection

section Runs

variable {tools : Tools} {realm : Realm}

/-- The import stores the compared fields as given. -/
def Faithful (tools : Tools) : Prop :=
  ∀ wanted, project tools (some (tools.stores wanted)) = project tools (some wanted)

theorem recorded_smtpServer (realm : Realm) (wanted : Smtp) :
    (realm.recorded tools wanted).smtpServer = realm.smtpServer := by
  unfold Realm.recorded
  split <;> rfl

/-- A converge that nobody edits under leaves the wanted fields exactly when
it follows or finds them there. -/
theorem completes_wanted_iff (faithful : Faithful tools) (realm : Realm) (wanted : Smtp) :
    project tools (realm.step tools (.converge wanted [] true)).smtpServer =
        project tools (some wanted) ↔
      keycloakMailFollows tools realm = true ∨
        project tools realm.smtpServer = project tools (some wanted) := by
  simp only [Realm.step, List.foldl_nil, if_true, recorded_smtpServer]
  unfold Realm.imported
  split
  case isTrue follows => simp [follows, faithful wanted]
  case isFalse stays => simp [stays]

/-- Where the settings differ from the record, a converge makes no change of
its own. -/
theorem converge_keeps_edit {recorded : String} (record : realm.record = some recorded)
    (held : project tools realm.smtpServer ≠ [])
    (edited : fingerprint tools realm.smtpServer ≠ recorded)
    (wanted : Smtp) (between : List (Option Smtp)) (completes : Bool) :
    (realm.step tools (.converge wanted between completes)).smtpServer =
      (between.foldl Realm.edited realm).smtpServer := by
  have stays : realm.imported tools wanted = realm := by
    unfold Realm.imported
    rw [if_neg]
    rw [follows_iff, record]
    intro follows
    cases follows with
    | inl empty => exact held empty
    | inr rest =>
      cases rest with
      | inl absent => cases absent
      | inr same => exact edited (Option.some.inj same).symm
  simp only [Realm.step, stays]
  split
  · exact recorded_smtpServer _ _
  · rfl

/-- A converge that completes leaves the fields it wants, unless edited under. -/
def LeavesWanted (tools : Tools) (realm : Realm) (taken : Step) : Prop :=
  ∀ wanted, taken = .converge wanted [] true →
    project tools (realm.step tools taken).smtpServer = project tools (some wanted)

/-- A converge changes nothing in settings that differ from the record. -/
def KeepsEdits (tools : Tools) (realm : Realm) (taken : Step) : Prop :=
  ∀ wanted between completes, taken = .converge wanted between completes →
    ∀ recorded, realm.record = some recorded → project tools realm.smtpServer ≠ [] →
      fingerprint tools realm.smtpServer ≠ recorded →
      (realm.step tools taken).smtpServer = (between.foldl Realm.edited realm).smtpServer

/-- Before a converge that completes, the settings are empty, unrecorded, as
recorded, or already the wanted ones. -/
def Settled (tools : Tools) (realm : Realm) (taken : Step) : Prop :=
  ∀ wanted, taken = .converge wanted [] true →
    (project tools realm.smtpServer = [] ∨ realm.record = none ∨
        realm.record = some (fingerprint tools realm.smtpServer)) ∨
      project tools realm.smtpServer = project tools (some wanted)

/-- Every completed converge of a run leaves its wanted fields, and none
changes an edit, exactly when the settings are settled before each. -/
theorem follows_panel_iff_settled (faithful : Faithful tools) (realm : Realm)
    (steps : List Step) :
    (Throughout (Realm.step tools) (LeavesWanted tools) realm steps ∧
      Throughout (Realm.step tools) (KeepsEdits tools) realm steps) ↔
    Throughout (Realm.step tools) (Settled tools) realm steps := by
  have agree (realm : Realm) (taken : Step) :
      LeavesWanted tools realm taken ↔ Settled tools realm taken := by
    unfold LeavesWanted Settled
    constructor
    · intro leaves wanted same
      have wants := leaves wanted same
      subst same
      rw [← follows_iff]
      exact (completes_wanted_iff faithful realm wanted).mp wants
    · intro settled wanted same
      have before := settled wanted same
      subst same
      rw [← follows_iff] at before
      exact (completes_wanted_iff faithful realm wanted).mpr before
  have keeps : Throughout (Realm.step tools) (KeepsEdits tools) realm steps := by
    have always (realm : Realm) (taken : Step) : KeepsEdits tools realm taken := by
      intro wanted between completes same recorded record held edited
      subst same
      exact converge_keeps_edit record held edited wanted between completes
    exact throughout_of_always always
  rw [throughout_congr agree]
  exact and_iff_left keeps

/-- Nobody edits, and after a converge that stopped before its record the
wanted fields stay, until one completes or they are empty. -/
def Patient (tools : Tools) : Option Smtp → List Step → Prop
  | _, [] => True
  | _, .edit _ :: _ => False
  | owed, .converge wanted between completes :: rest =>
    between = [] ∧
      (∀ left, owed = some left → project tools (some left) = [] ∨
        project tools (some wanted) = project tools (some left)) ∧
      Patient tools (if completes then none else some wanted) rest

/-- The settings are as recorded, or those a stopped converge left. -/
def Owes (tools : Tools) (realm : Realm) (owed : Option Smtp) : Prop :=
  keycloakMailFollows tools realm = true ∨
    ∃ left, owed = some left ∧
      project tools realm.smtpServer = project tools (some left)

theorem imported_wanted (faithful : Faithful tools) {wanted : Smtp}
    (before : keycloakMailFollows tools realm = true ∨
      project tools realm.smtpServer = project tools (some wanted)) :
    project tools (realm.imported tools wanted).smtpServer = project tools (some wanted) := by
  unfold Realm.imported
  split
  case isTrue => exact faithful wanted
  case isFalse stays =>
    cases before with
    | inl follows => exact absurd follows stays
    | inr same => exact same

/-- Once the realm holds the wanted fields, the record is of what it holds. -/
theorem recorded_follows {wanted : Smtp}
    (same : project tools realm.smtpServer = project tools (some wanted)) :
    keycloakMailFollows tools (realm.recorded tools wanted) = true := by
  have printed : fingerprint tools realm.smtpServer = fingerprint tools (some wanted) := by
    simp only [fingerprint, same]
  rw [follows_iff, recorded_smtpServer]
  right
  right
  unfold Realm.recorded keycloakMailRecordSets
  rw [if_neg (by simp [printed])]
  by_cases already : realm.record = some (fingerprint tools (some wanted))
  · rw [if_pos already, already, printed]
  · rw [if_neg already, printed]

/-- Patient converges from a realm without a record are all settled. -/
theorem patient_settled (faithful : Faithful tools) {owed : Option Smtp}
    {steps : List Step} (owes : Owes tools realm owed)
    (patient : Patient tools owed steps) :
    Throughout (Realm.step tools) (Settled tools) realm steps := by
  induction steps generalizing realm owed with
  | nil => trivial
  | cons taken rest ih =>
    cases taken with
    | edit smtp => exact patient.elim
    | converge wanted between completes =>
      obtain ⟨rfl, steady, patient⟩ := patient
      have before : keycloakMailFollows tools realm = true ∨
          project tools realm.smtpServer = project tools (some wanted) := by
        cases owes with
        | inl follows => exact .inl follows
        | inr owed =>
          obtain ⟨left, isOwed, same⟩ := owed
          cases steady left isOwed with
          | inl empty =>
            left
            rw [follows_iff, same]
            exact .inl empty
          | inr wants =>
            right
            rw [same, wants]
      have holds := imported_wanted faithful before
      constructor
      · intro other same
        cases same
        rw [← follows_iff]
        exact before
      · refine ih ?_ patient
        cases completes with
        | true => exact .inl (recorded_follows holds)
        | false => exact .inr ⟨wanted, rfl, holds⟩

end Runs

section Samples

def hostOnly (host : String) : Smtp :=
  [("host", .str host)]

/-- Tools for settings of one plain field: the canonical text of such a map and
its digests for the hosts below, with an import that stores what it is given. -/
def sampleTools : Tools where
  py := Builtins.unused
  dumps fields := fields.foldr (fun field text =>
    "\x7b\"" ++ field.1 ++ "\":\"" ++ field.2 ++ "\"\x7d" ++ text) ""
  sha256 text :=
    if text = "\x7b\"host\":\"a\"\x7d" then
      "f624db42c3ba28b3014cd6148de38e24cd778600412596c8c2c99b8bf7107fb5"
    else if text = "\x7b\"host\":\"b\"\x7d" then
      "9636ff45fac65213b26ae3039ebe9083fcd9fb8f5021e0c06d47d0c2055fa4fb"
    else "5fa449b3e0ae853cfcfdb6698381fb038a6a55fc31c4b6eb021d91b3924a3f6d"
  stores wanted := wanted

theorem sampleTools_faithful : Faithful sampleTools :=
  fun _ => rfl

def newRealm : Realm :=
  ⟨none, none⟩

/-- A second converge that stops before its record, and then a third one that
wants other settings. -/
def stoppedSteps : List Step :=
  [.converge (hostOnly "a") [] true, .converge (hostOnly "b") [] false,
    .converge (hostOnly "c") [] true]

/-- The settings a stopped converge wrote are taken for a hand edit: the next
panel change does not reach the realm. -/
theorem stopped_converge_stops_following :
    ¬ ∀ (tools : Tools) (realm : Realm) (steps : List Step), Faithful tools →
        realm.record = none →
        (∀ taken ∈ steps, ∃ wanted completes, taken = .converge wanted [] completes) →
        Throughout (Realm.step tools) (LeavesWanted tools) realm steps := by
  intro claimed
  have all := claimed sampleTools newRealm stoppedSteps sampleTools_faithful rfl
    (by
      intro taken member
      simp only [stoppedSteps, List.mem_cons, List.not_mem_nil, or_false] at member
      rcases member with rfl | rfl | rfl
      · exact ⟨_, _, rfl⟩
      · exact ⟨_, _, rfl⟩
      · exact ⟨_, _, rfl⟩)
  have last := all.2.2.1 (hostOnly "c") rfl
  exact absurd last (by decide)

/-- Converges that complete follow every change of the panel. -/
theorem completed_converges_follow :
    Throughout (Realm.step sampleTools) (LeavesWanted sampleTools) newRealm
      [.converge (hostOnly "a") [] true, .converge (hostOnly "b") [] true] := by
  have settled : Throughout (Realm.step sampleTools) (Settled sampleTools) newRealm
      [.converge (hostOnly "a") [] true, .converge (hostOnly "b") [] true] := by
    have owes : Owes sampleTools newRealm none := .inl rfl
    apply patient_settled sampleTools_faithful owes
    simp [Patient]
  exact ((follows_panel_iff_settled sampleTools_faithful newRealm _).mpr settled).1

end Samples

end MailSettings

end Catena
