import Catena.EmailCode
import Mathlib.Tactic

/-!
# What one request can do to a session

Every request to the step has one of five effects on the session's notes and
calls.  The bounds and the mailbox results are case analyses over them and do
not look at the handlers again.  That the answers hide the directory is read
off the handlers themselves.
-/

namespace Catena

namespace EmailCode

open JavaLang

/-- The session after some more clock readings. -/
def Session.at (session : Session) (readings : Nat) : Session :=
  { session with readings := readings }

section Notes

variable (session : Session) (note wanted : Note) (value : Text)

theorem getAuthNote_set :
    (session.setAuthNote note value).getAuthNote wanted =
      if note = wanted then some value else session.getAuthNote wanted :=
  PyDict.get_set _ _ _ _

theorem getAuthNote_remove :
    (session.removeAuthNote note).getAuthNote wanted =
      if note = wanted then none else session.getAuthNote wanted :=
  PyDict.get_erase _ _ _

@[simp]
theorem getAuthNote_call (made : Call) :
    (session.call made).getAuthNote wanted = session.getAuthNote wanted :=
  rfl

@[simp]
theorem getAuthNote_at (readings : Nat) :
    (session.at readings).getAuthNote wanted = session.getAuthNote wanted :=
  rfl

@[simp]
theorem calls_at (readings : Nat) : (session.at readings).calls = session.calls :=
  rfl

@[simp]
theorem at_at (first second : Nat) :
    (session.at first).at second = session.at second :=
  rfl

@[simp]
theorem readings_at (readings : Nat) : (session.at readings).readings = readings :=
  rfl

@[simp]
theorem at_self : session.at session.readings = session :=
  rfl

@[simp]
theorem calls_set : (session.setAuthNote note value).calls = session.calls :=
  rfl

@[simp]
theorem calls_remove : (session.removeAuthNote note).calls = session.calls :=
  rfl

theorem calls_call (made : Call) :
    (session.call made).calls = session.calls ++ [made] :=
  rfl

/-- A number written to a note is read back. -/
@[simp]
theorem parse_toText {number : Int} (range : IsLong number) :
    parse (some (toText number)) = number := by
  simp [parse, parseLong_toText range]

end Notes

section Writers

theorem calls_wrong (session : Session) : (wrong session).2.calls = session.calls := by
  unfold wrong
  cases session.getAuthNote .address <;> simp only <;> split <;> rfl

theorem readings_wrong (session : Session) :
    (wrong session).2.readings = session.readings := by
  unfold wrong
  cases session.getAuthNote .address <;> simp only <;> split <;> rfl

theorem draws_wrong (session : Session) : (wrong session).2.draws = session.draws := by
  unfold wrong
  cases session.getAuthNote .address <;> simp only <;> split <;> rfl

/-- A refusal counts one more wrong post and drops the code at the fifth; the
other notes of the code stay. -/
theorem getAuthNote_wrong (session : Session) (wanted : Note)
    (plain : wanted ≠ .attemptedUsername) :
    (wrong session).2.getAuthNote wanted =
      if wanted = .wrong then
        some (toText (long (parse (session.getAuthNote .wrong) + 1)))
      else if wanted = .code ∧
          maxWrong ≤ long (parse (session.getAuthNote .wrong) + 1) then none
      else session.getAuthNote wanted := by
  have counted : ∀ middle : Session,
      (∀ note, note ≠ Note.attemptedUsername →
        middle.getAuthNote note = session.getAuthNote note) →
      ((if maxWrong ≤ long (parse (middle.getAuthNote .wrong) + 1) then
          (middle.setAuthNote .wrong
            (toText (long (parse (middle.getAuthNote .wrong) + 1)))).removeAuthNote .code
        else middle.setAuthNote .wrong
          (toText (long (parse (middle.getAuthNote .wrong) + 1)))).getAuthNote wanted) =
      if wanted = .wrong then
        some (toText (long (parse (session.getAuthNote .wrong) + 1)))
      else if wanted = .code ∧
          maxWrong ≤ long (parse (session.getAuthNote .wrong) + 1) then none
      else session.getAuthNote wanted := by
    intro middle same
    rw [same .wrong (by decide)]
    split
    case isTrue many =>
      rw [getAuthNote_remove, getAuthNote_set, same wanted plain]
      cases wanted <;> simp_all
    case isFalse few =>
      rw [getAuthNote_set, same wanted plain]
      cases wanted <;> simp_all
  unfold wrong
  cases session.getAuthNote .address with
  | none => exact counted session fun _ _ => rfl
  | some address =>
    apply counted (session.setAuthNote .attemptedUsername address)
    intro note different
    rw [getAuthNote_set, if_neg (Ne.symm different)]

/-- What a send leaves in the notes and hands to the job. -/
theorem send_spec (services : Services) (realmId : Text) (session : Session) (address : Text) :
    let sent := send services realmId session address
    sent.getAuthNote .address = some address ∧
      sent.getAuthNote .code = some (services.randomString session.draws) ∧
      sent.getAuthNote .issuedAt = some (toText (services.clock session.readings)) ∧
      sent.getAuthNote .sends =
        some (toText (long (parse (session.getAuthNote .sends) + 1))) ∧
      sent.getAuthNote .wrong = some (toText 0) ∧
      sent.calls = session.calls ++ [.submit
        ⟨realmId, session.clientId, address, services.randomString session.draws⟩
        (services.clock session.readings)] := by
  have unfolded := send.eq_1 services realmId session address
  simp only [Session.call, Session.setAuthNote, Session.getAuthNote, getAsLong,
    PyDict.get_set] at unfolded
  rw [unfolded]
  simp [Session.getAuthNote, PyDict.get_set]

end Writers

variable (services : Services)

/-- The gate lets a new code through, by the given clock reading. -/
def Open (session : Session) (reading : Nat) : Prop :=
  parse (session.getAuthNote .sends) < maxSends ∧
    (parse (session.getAuthNote .issuedAt) ≠ 0 →
      long (long (parse (session.getAuthNote .issuedAt) +
        resendIntervalSeconds * 1000) - services.clock reading) ≤ 0)

/-- The held code is alive, by the given clock reading. -/
def Live (session : Session) (reading : Nat) : Prop :=
  parse (session.getAuthNote .issuedAt) ≠ 0 ∧
    long (services.clock reading - parse (session.getAuthNote .issuedAt)) ≤
      codeLifetimeSeconds * 1000

/-- The effects of a request.  A refusal follows either no comparison or one
of the posted code with the held one. -/
inductive Effect (context : Context) (session : Session) (request : Request) :
    Response → Session → Prop where
  | shown (response : Response) (readings : Nat)
      (plain : response.succeeds = false) (later : session.readings ≤ readings) :
      Effect context session request response (session.at readings)
  | issued (response : Response) (address : Text) (reading readings : Nat)
      (plain : response.succeeds = false) (later : session.readings ≤ reading)
      (passed : Open services session reading) (after : reading + 1 < readings) :
      Effect context session request response
        ((send services context.realm.id (session.at (reading + 1)) address).at readings)
  | refused (readings : Nat) (later : session.readings ≤ readings) :
      Effect context session request (wrong (session.at readings)).1
        (wrong (session.at readings)).2
  | compared (given expected : Text) (readings : Nat)
      (later : session.readings ≤ readings)
      (held : session.getAuthNote .code = some expected) :
      Effect context session request
        (wrong ((session.at readings).call (.isEqual given expected))).1
        (wrong ((session.at readings).call (.isEqual given expected))).2
  | signedIn (posted : Posted) (code address : Text) (user : User) (reading : Nat)
      (asked : request = .action posted)
      (codeForm : posted.containsKey .address = false ∧
        posted.containsKey .resend = false)
      (typed : trim ((posted.getFirst .code).getD []) = code)
      (held : session.getAuthNote .code = some code)
      (noted : session.getAuthNote .address = some address)
      (later : session.readings ≤ reading) (alive : Live services session reading)
      (found : find services context.realm address = some user)
      (allowed : eligible context.realm (some user) = true) :
      Effect context session request (.success user)
        ((session.at (reading + 1)).call (.isEqual code code)).cleared

/-- Asking whether the code is alive only reads the clock. -/
theorem codeIsLive_spec (session : Session) :
    ∃ readings, session.readings ≤ readings ∧
      (codeIsLive services session).2 = session.at readings ∧
      ((codeIsLive services session).1 = true →
        readings = session.readings + 1 ∧ Live services session session.readings) := by
  by_cases held : (session.getAuthNote .code).isSome ∧
      parse (session.getAuthNote .issuedAt) ≠ 0
  · refine ⟨session.readings + 1, by omega, ?_, ?_⟩
    · simp only [codeIsLive, if_pos held]
      rfl
    · intro alive
      simp only [codeIsLive, if_pos held, getAsLong] at alive
      exact ⟨rfl, held.2, of_decide_eq_true alive⟩
  · refine ⟨session.readings, le_refl _, ?_, ?_⟩
    · simp only [codeIsLive, if_neg held]
      rfl
    · simp [codeIsLive, if_neg held]

/-- A gate that lets through has read the clock once and written nothing. -/
theorem gate_spec (session : Session) :
    ∃ readings, session.readings ≤ readings ∧
      (gate services session).2 = session.at readings ∧
      ((gate services session).1 = none →
        readings = session.readings + 1 ∧ Open services session session.readings) := by
  by_cases many : maxSends ≤ parse (session.getAuthNote .sends)
  · refine ⟨session.readings, le_refl _, ?_, ?_⟩
    · simp only [gate, if_pos many]
      rfl
    · simp [gate, if_pos many]
  · refine ⟨session.readings + 1, by omega, ?_, ?_⟩
    · simp only [gate, if_neg many]
      split <;> rfl
    · intro passed
      simp only [gate, if_neg many] at passed
      refine ⟨rfl, by omega, ?_⟩
      intro set
      by_contra soon
      rw [if_pos ⟨set, not_le.mp soon⟩] at passed
      cases passed

@[simp]
theorem readings_send (realmId : Text) (session : Session) (address : Text) :
    (send services realmId session address).readings = session.readings + 1 :=
  rfl

section Requests

variable {services : Services} {context : Context} {session : Session}
  {request : Request}

theorem issue_effect (address : Text) :
    Effect services context session request
      (issue services context session address).1
      (issue services context session address).2 := by
  obtain ⟨readings, later, same, opened⟩ := gate_spec services session
  unfold issue
  cases outcome : gate services session with
  | mk refused after =>
    rw [outcome] at same opened
    cases refused with
    | some page =>
      subst same
      exact .shown _ _ rfl later
    | none =>
      obtain ⟨rfl, passed⟩ := opened rfl
      subst same
      exact .issued _ address session.readings (session.readings + 2) rfl
        (le_refl _) passed (by omega)

theorem addressPost_effect (typed : Option Text) :
    Effect services context session request
      (addressPost services context session typed).1
      (addressPost services context session typed).2 := by
  have either (address : Text) (invalid : Prop) [Decidable invalid] :
      Effect services context session request
        (if invalid then
          (Response.forceChallenge ⟨.address, some .addressInvalid, []⟩, session)
        else issue services context session address).1
        (if invalid then
          (Response.forceChallenge ⟨.address, some .addressInvalid, []⟩, session)
        else issue services context session address).2 := by
    split
    · exact .shown _ session.readings rfl (le_refl _)
    · exact issue_effect address
  exact either _ _

theorem resendPost_effect :
    Effect services context session request
      (resendPost services context session).1
      (resendPost services context session).2 := by
  unfold resendPost
  cases session.getAuthNote .address with
  | none => exact .shown _ session.readings rfl (le_refl _)
  | some address => exact issue_effect address

theorem authenticate_effect :
    Effect services context session request
      (authenticate services context session).1
      (authenticate services context session).2 := by
  obtain ⟨first, firstLater, firstSame, -⟩ := codeIsLive_spec services session
  obtain ⟨second, secondLater, secondSame, -⟩ :=
    codeIsLive_spec services (session.at first)
  obtain ⟨third, thirdLater, thirdSame, opened⟩ := gate_spec services (session.at first)
  simp only [readings_at] at secondLater thirdLater
  unfold authenticate
  cases context.user with
  | none =>
    simp only [firstSame]
    exact .shown _ first rfl firstLater
  | some known =>
    simp only [firstSame]
    split
    · simp only [secondSame]
      exact .shown _ second rfl (by omega)
    · cases outcome : gate services (session.at first) with
      | mk refused after =>
        rw [outcome] at thirdSame opened
        cases refused with
        | some page =>
          subst thirdSame
          exact .shown _ third rfl (by omega)
        | none =>
          obtain ⟨rfl, passed⟩ := opened rfl
          subst thirdSame
          obtain ⟨fourth, fourthLater, fourthSame, -⟩ := codeIsLive_spec services
            (send services context.realm.id (session.at (first + 1)) (addressOf known))
          simp only [readings_send, readings_at] at fourthLater
          simp only [readings_at, at_at]
          rw [fourthSame]
          exact .issued _ (addressOf known) first fourth rfl firstLater passed (by omega)

theorem matched_effect {posted : Posted} {code address : Text}
    (asked : request = .action posted)
    (codeForm : posted.containsKey .address = false ∧
      posted.containsKey .resend = false)
    (typed : trim ((posted.getFirst .code).getD []) = code)
    (held : session.getAuthNote .code = some code)
    (noted : session.getAuthNote .address = some address)
    (alive : Live services session session.readings) :
    Effect services context session request
      (matched services context
        ((session.at (session.readings + 1)).call (.isEqual code code)) address).1
      (matched services context
        ((session.at (session.readings + 1)).call (.isEqual code code)) address).2 := by
  have refused : Effect services context session request _ _ :=
    .compared code code (session.readings + 1) (by omega) held
  unfold matched
  cases found : find services context.realm address with
  | none => exact refused
  | some user =>
    simp only
    split
    · exact refused
    · rename_i allowed
      simp only [Bool.or_eq_true, Bool.not_eq_true', not_or, Bool.not_eq_false] at allowed
      exact .signedIn posted code address user session.readings asked codeForm typed held noted
        (le_refl _) alive found allowed.1

theorem codePost_effect {posted : Posted} (asked : request = .action posted)
    (codeForm : posted.containsKey .address = false ∧
      posted.containsKey .resend = false) :
    Effect services context session request
      (codePost services context session (posted.getFirst .code)).1
      (codePost services context session (posted.getFirst .code)).2 := by
  have unread : Effect services context session request _ _ :=
    .refused session.readings (le_refl _)
  obtain ⟨readings, later, same, alive⟩ := codeIsLive_spec services session
  simp only [codePost]
  cases held : session.getAuthNote .code with
  | none => exact unread
  | some expected =>
    cases noted : session.getAuthNote .address with
    | none => exact unread
    | some address =>
      simp only [same]
      split
      case isFalse => exact .refused readings later
      case isTrue live =>
        obtain ⟨rfl, lives⟩ := alive live
        split
        case isTrue right =>
          rw [right]
          exact matched_effect asked codeForm right held noted lives
        case isFalse =>
          exact .compared _ expected _ later held

theorem handle_effect (services : Services) (context : Context) (session : Session)
    (request : Request) :
    Effect services context session request
      (handle services context session request).1
      (handle services context session request).2 := by
  cases request with
  | authenticate => exact authenticate_effect
  | action posted =>
    simp only [handle, action]
    split
    case isTrue => exact addressPost_effect _
    case isFalse notAddress =>
      split
      case isTrue => exact resendPost_effect
      case isFalse notResend =>
        exact codePost_effect rfl
          ⟨eq_false_of_ne_true notAddress, eq_false_of_ne_true notResend⟩

end Requests

section Directories

/-- The responses of a list of requests, each in its own context, and the
session they leave. -/
def answers (services : Services) :
    Session → List (Context × Request) → List Response × Session
  | session, [] => ([], session)
  | session, (context, request) :: rest =>
    let answered := handle services context session request
    let after := answers services answered.2 rest
    (answered.1 :: after.1, after.2)

/-- Past the match of a code, the directory decides only whether the request
succeeds. -/
theorem matched_hides (services : Services) (first second : Realm) (session : Session)
    (address : Text)
    (firstRefused : (matched services ⟨first, none⟩ session address).1.succeeds = false)
    (secondRefused : (matched services ⟨second, none⟩ session address).1.succeeds = false) :
    matched services ⟨first, none⟩ session address =
      matched services ⟨second, none⟩ session address := by
  have refusal (realm : Realm)
      (refused : (matched services ⟨realm, none⟩ session address).1.succeeds = false) :
      matched services ⟨realm, none⟩ session address = wrong session := by
    unfold matched at refused ⊢
    cases found : find services realm address with
    | none => rfl
    | some user =>
      simp only [found, Option.any_none, Bool.or_false] at refused ⊢
      by_cases allowed : (!eligible realm (some user)) = true
      · rw [if_pos allowed]
      · rw [if_neg allowed] at refused
        cases refused
  rw [refusal first firstRefused, refusal second secondRefused]

theorem codePost_hides (services : Services) (first second : Realm) (session : Session)
    (typed : Option Text)
    (firstRefused :
      (codePost services ⟨first, none⟩ session typed).1.succeeds = false)
    (secondRefused :
      (codePost services ⟨second, none⟩ session typed).1.succeeds = false) :
    codePost services ⟨first, none⟩ session typed =
      codePost services ⟨second, none⟩ session typed := by
  simp only [codePost] at firstRefused secondRefused ⊢
  cases held : session.getAuthNote .code with
  | none => rfl
  | some expected =>
    cases noted : session.getAuthNote .address with
    | none => rfl
    | some address =>
      simp only [held, noted] at firstRefused secondRefused ⊢
      by_cases live : (codeIsLive services session).1 = true
      · simp only [live, if_true] at firstRefused secondRefused ⊢
        by_cases right : trim (typed.getD []) = expected
        · simp only [if_pos right] at firstRefused secondRefused ⊢
          exact matched_hides services first second _ address firstRefused secondRefused
        · simp only [if_neg right]
      · simp only [if_neg live]

/-- While no user is known, a request that succeeds in neither of two
directories is answered the same in both. -/
theorem handle_hides (services : Services) {first second : Realm}
    (sameRealm : first.id = second.id) (session : Session) (request : Request)
    (firstRefused :
      (handle services ⟨first, none⟩ session request).1.succeeds = false)
    (secondRefused :
      (handle services ⟨second, none⟩ session request).1.succeeds = false) :
    handle services ⟨first, none⟩ session request =
      handle services ⟨second, none⟩ session request := by
  have issues (address : Text) : issue services ⟨first, none⟩ session address =
      issue services ⟨second, none⟩ session address := by
    simp only [issue, sameRealm]
  cases request with
  | authenticate => rfl
  | action posted =>
    simp only [handle, action] at firstRefused secondRefused ⊢
    by_cases address : posted.containsKey .address = true
    · simp only [if_pos address, addressPost, issues]
    · by_cases resend : posted.containsKey .resend = true
      · simp only [if_neg address, if_pos resend, resendPost, issues]
      · simp only [if_neg address, if_neg resend] at firstRefused secondRefused ⊢
        exact codePost_hides services first second session _ firstRefused secondRefused

/-- A visit to the step in two directories of one realm. -/
structure Visit where
  first : Realm
  second : Realm
  sameRealm : first.id = second.id
  request : Request

/-- The visit as the first directory sees it, with no known user. -/
def Visit.inFirst (visit : Visit) : Context × Request :=
  (⟨visit.first, none⟩, visit.request)

/-- The visit as the second directory sees it, with no known user. -/
def Visit.inSecond (visit : Visit) : Context × Request :=
  (⟨visit.second, none⟩, visit.request)

/-- While no user is known, the answers and the notes of a session are the
same in any two directories, as long as no request succeeds in one of them. -/
theorem answers_hide_directory (services : Services) (session : Session)
    (visits : List Visit)
    (firstRefused : ∀ response ∈
      (answers services session (visits.map Visit.inFirst)).1,
        response.succeeds = false)
    (secondRefused : ∀ response ∈
      (answers services session (visits.map Visit.inSecond)).1,
        response.succeeds = false) :
    (answers services session (visits.map Visit.inFirst)).1 =
      (answers services session (visits.map Visit.inSecond)).1 ∧
    (answers services session (visits.map Visit.inFirst)).2.notes =
      (answers services session (visits.map Visit.inSecond)).2.notes := by
  induction visits generalizing session with
  | nil => exact ⟨rfl, rfl⟩
  | cons visit rest ih =>
    simp only [List.map_cons, answers, List.mem_cons, forall_eq_or_imp] at firstRefused
    simp only [List.map_cons, answers, List.mem_cons, forall_eq_or_imp] at secondRefused
    have same : handle services visit.inFirst.1 session visit.inFirst.2 =
        handle services visit.inSecond.1 session visit.inSecond.2 :=
      handle_hides services visit.sameRealm session visit.request firstRefused.1
        secondRefused.1
    rw [← same] at secondRefused
    obtain ⟨responses, notes⟩ := ih _ firstRefused.2 secondRefused.2
    simp only [List.map_cons, answers]
    rw [← same, responses, notes]
    exact ⟨rfl, rfl⟩

end Directories

section Samples

/-- A clock that moves by forty seconds a reading until it stands still, one
code, and a lookup by username, then by email. -/
def sampleServices : Services where
  clock reading := min (40000 * (reading + 1 : Int)) 4000000
  clock_long := by
    intro reading
    unfold IsLong
    omega
  randomString _ := "123456".toList
  findUserByNameOrEmail realm address :=
    realm.users.find? fun user => user.username = address ∨ user.email = some address

def sampleUser : User where
  id := "u".toList
  username := "bob".toList
  email := some "b@old".toList
  enabled := true
  serviceAccountClientLink := none
  roles := []
  permanentlyLockedOut := false
  temporarilyDisabled := false

/-- A realm with both tier roles, a mail host and the given accounts. -/
def sampleRealm (users : List User) : Realm where
  id := "r".toList
  smtpConfig := some [("host".toList, "smtp".toList)]
  bruteForceProtected := false
  roles := [(tierStaffRole, "s".toList), (tierAdminRole, "a".toList)]
  clients := []
  users := users

def freshSession : Session where
  clientId := "c".toList
  notes := []
  readings := 0
  draws := 0
  calls := []

def addressPosted (address : String) : Request :=
  .action [(.address, [address.toList])]

def codePosted (code : String) : Request :=
  .action [(.code, [code.toList])]

/-- A known and an unknown address are answered alike, for a wrong code too. -/
theorem sample_answers_hide_directory :
    let visits : List Visit :=
      [⟨sampleRealm [sampleUser], sampleRealm [], rfl, addressPosted "bob"⟩,
        ⟨sampleRealm [sampleUser], sampleRealm [], rfl, codePosted "1"⟩]
    (answers sampleServices freshSession (visits.map Visit.inFirst)).1 =
        (answers sampleServices freshSession (visits.map Visit.inSecond)).1 ∧
      (answers sampleServices freshSession (visits.map Visit.inFirst)).2.notes =
        (answers sampleServices freshSession (visits.map Visit.inSecond)).2.notes :=
  answers_hide_directory sampleServices freshSession
    [⟨sampleRealm [sampleUser], sampleRealm [], rfl, addressPosted "bob"⟩,
      ⟨sampleRealm [sampleUser], sampleRealm [], rfl, codePosted "1"⟩]
    (by decide) (by decide)

end Samples

end EmailCode

end Catena
