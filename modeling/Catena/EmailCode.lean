import Catena.JavaLang
import Catena.PyDict

/-!
# The clients' emailed sign-in code

`CatenaClientEmailCodeAuthenticator` asks for an email address and signs in
the client who types the code mailed to it.  The handlers read and write the
notes of one authentication session; a background job looks the address up
and mails the code.

The clock, the drawn codes and Keycloak's own account lookup are parameters.
A session counts the readings and the draws it has made, and keeps the calls
it made on its collaborators.
-/

namespace Catena

namespace EmailCode

open JavaLang

/-- What the step reads of an account, its lockout state included. -/
structure User where
  id : Text
  username : Text
  email : Option Text
  enabled : Bool
  serviceAccountClientLink : Option Text
  roles : List Text
  permanentlyLockedOut : Bool
  temporarilyDisabled : Bool
  deriving DecidableEq

/-- What the step reads of a realm; `roles` and `clients` give the roles by
name and the roles of each client. -/
structure Realm where
  id : Text
  smtpConfig : Option (PyDict Text Text)
  bruteForceProtected : Bool
  roles : PyDict Text Text
  clients : PyDict Text (List Text)
  users : List User
  deriving DecidableEq

def User.hasRole (user : User) (role : Text) : Bool :=
  user.roles.contains role

def tierAdminRole : Text := "catena-tier-admin".toList
def tierStaffRole : Text := "catena-tier-staff".toList
def managementClient : Text := "realm-management".toList

def maxSends : Int := 5
def resendIntervalSeconds : Int := 30
def codeLifetimeSeconds : Int := 600
def maxAddressLength : Nat := 255
def maxWrong : Int := 5

/-- The notes of the session the step uses; the last one is the note the
lockout reads. -/
inductive Note where
  | address
  | code
  | issuedAt
  | sends
  | wrong
  | attemptedUsername
  deriving DecidableEq, Repr

/-- The message keys of the page. -/
inductive Message where
  | addressInvalid
  | codeInvalid
  | tooSoon
  | limit
  deriving DecidableEq, Repr

/-- Which of its two forms the page shows. -/
inductive PageState where
  | address
  | code
  deriving DecidableEq, Repr

structure Page where
  state : PageState
  error : Option Message
  params : List Int
  deriving DecidableEq, Repr

/-- What a handler answers.  A failure challenge carries the event error and
the flow error of a wrong code; a success marks the email of the account
verified and signs it in. -/
inductive Response where
  | challenge (page : Page)
  | forceChallenge (page : Page)
  | failureChallenge (page : Page)
  | success (user : User)
  deriving DecidableEq

def Response.succeeds : Response → Bool
  | success _ => true
  | _ => false

/-- A code handed to the background job. -/
structure Job where
  realmId : Text
  clientId : Text
  address : Text
  code : Text
  deriving DecidableEq

/-- A call the handlers made: a job submitted, with the time noted as its
issue, or a posted code compared with the held one. -/
inductive Call where
  | submit (job : Job) (issuedAt : Int)
  | isEqual (given expected : Text)
  deriving DecidableEq

structure Session where
  clientId : Text
  notes : PyDict Note Text
  readings : Nat
  draws : Nat
  calls : List Call
  deriving DecidableEq

def Session.getAuthNote (session : Session) (note : Note) : Option Text :=
  session.notes.get note

def Session.setAuthNote (session : Session) (note : Note) (value : Text) :
    Session :=
  { session with notes := session.notes.set note value }

def Session.removeAuthNote (session : Session) (note : Note) : Session :=
  { session with notes := session.notes.erase note }

def Session.call (session : Session) (made : Call) : Session :=
  { session with calls := session.calls ++ [made] }

/-- The clock's readings and the generated codes in their order, and
`KeycloakModelUtils.findUserByNameOrEmail`, with `none` where it finds no
account or raises. -/
structure Services where
  clock : Nat → Int
  clock_long : ∀ reading, IsLong (clock reading)
  randomString : Nat → Text
  findUserByNameOrEmail : Realm → Text → Option User

/-- What a handler reads of its flow context: the realm as the request finds
it and the user the flow already knows. -/
structure Context where
  realm : Realm
  user : Option User

/-- The parameters of the form the step reads. -/
inductive Param where
  | address
  | code
  | resend
  deriving DecidableEq, Repr

/-- The posted form: every parameter with its values. -/
abbrev Posted := PyDict Param (List Text)

def Posted.containsKey (posted : Posted) (param : Param) : Bool :=
  (PyDict.get posted param).isSome

def Posted.getFirst (posted : Posted) (param : Param) : Option Text :=
  (PyDict.get posted param).bind List.head?

/-- A note as a number; what is no number counts as zero. -/
def parse (note : Option Text) : Int :=
  match note with
  | none => 0
  | some text => (parseLong text).getD 0

/-- The address a known user's code goes to: their email, else their
username. -/
def addressOf (user : User) : Text :=
  match user.email with
  | none => user.username
  | some email => if isBlank email then user.username else email

def hasMailSettings (realm : Realm) : Bool :=
  match realm.smtpConfig with
  | none => false
  | some smtp =>
    match smtp.get "host".toList with
    | none => false
    | some host => !isBlank host

/-- Whether the account may sign in with a code. -/
def eligible (realm : Realm) (found : Option User) : Bool :=
  match found with
  | none => false
  | some user =>
    if !hasMailSettings realm || !user.enabled ||
        user.serviceAccountClientLink.isSome || (user.email.all isBlank) then
      false
    else if realm.bruteForceProtected &&
        (user.permanentlyLockedOut || user.temporarilyDisabled) then
      false
    else
      match realm.roles.get tierStaffRole, realm.roles.get tierAdminRole with
      | some staff, some admin =>
        if user.hasRole staff || user.hasRole admin then false
        else
          match realm.clients.get managementClient with
          | none => true
          | some roles => roles.all fun role => !user.hasRole role
      | _, _ => false

section Handlers

variable (services : Services)

def getAsLong (session : Session) : Int × Session :=
  (services.clock session.readings,
    { session with readings := session.readings + 1 })

def codeIsLive (session : Session) : Bool × Session :=
  let issuedAt := parse (session.getAuthNote .issuedAt)
  if (session.getAuthNote .code).isSome ∧ issuedAt ≠ 0 then
    let now := (getAsLong services session).1
    let session := (getAsLong services session).2
    (decide (long (now - issuedAt) ≤ codeLifetimeSeconds * 1000), session)
  else (false, session)

/-- The code page with the wait or limit message when a new code is not
allowed yet. -/
def gate (session : Session) : Option Page × Session :=
  if maxSends ≤ parse (session.getAuthNote .sends) then
    (some ⟨.code, some .limit, []⟩, session)
  else
    let issuedAt := parse (session.getAuthNote .issuedAt)
    let now := (getAsLong services session).1
    let session := (getAsLong services session).2
    let waitMillis := long (long (issuedAt + resendIntervalSeconds * 1000) - now)
    if issuedAt ≠ 0 ∧ 0 < waitMillis then
      (some ⟨.code, some .tooSoon, [(long (waitMillis + 999)).tdiv 1000]⟩, session)
    else (none, session)

def send (realmId : Text) (session : Session) (address : Text) : Session :=
  let code := services.randomString session.draws
  let session := { session with draws := session.draws + 1 }
  let session := session.setAuthNote .address address
  let session := session.setAuthNote .code code
  let now := (getAsLong services session).1
  let session := (getAsLong services session).2
  let session := session.setAuthNote .issuedAt (toText now)
  let session := session.setAuthNote .sends
    (toText (long (parse (session.getAuthNote .sends) + 1)))
  let session := session.setAuthNote .wrong (toText 0)
  let session := session.setAuthNote .attemptedUsername address
  session.call (.submit ⟨realmId, session.clientId, address, code⟩ now)

def authenticate (context : Context) (session : Session) : Response × Session :=
  -- the page at the end reads the clock again
  let shown (session : Session) : Response × Session :=
    let (live, session) := codeIsLive services session
    (.challenge ⟨if live then .code else .address, none, []⟩, session)
  match context.user with
  | none => shown session
  | some known =>
    let (live, session) := codeIsLive services session
    if live then shown session
    else
      match gate services session with
      | (some refused, session) => (.challenge refused, session)
      | (none, session) =>
        shown (send services context.realm.id session (addressOf known))

/-- The end of an address and of a resend post: past the gate, a new code. -/
def issue (context : Context) (session : Session) (address : Text) :
    Response × Session :=
  match gate services session with
  | (some refused, session) => (.forceChallenge refused, session)
  | (none, session) =>
    (.forceChallenge ⟨.code, none, []⟩,
      send services context.realm.id session address)

def addressPost (context : Context) (session : Session) (typed : Option Text) :
    Response × Session :=
  let address :=
    match context.user with
    | some known => addressOf known
    | none => trim (typed.getD [])
  if address = [] ∨ maxAddressLength < length address then
    (.forceChallenge ⟨.address, some .addressInvalid, []⟩, session)
  else issue services context session address

def resendPost (context : Context) (session : Session) : Response × Session :=
  match session.getAuthNote .address with
  | none => (.forceChallenge ⟨.address, none, []⟩, session)
  | some address => issue services context session address

/-- The one answer to a code that does not sign in. -/
def wrong (session : Session) : Response × Session :=
  let session :=
    match session.getAuthNote .address with
    | none => session
    | some address => session.setAuthNote .attemptedUsername address
  let wrongs := long (parse (session.getAuthNote .wrong) + 1)
  let session := session.setAuthNote .wrong (toText wrongs)
  let session :=
    if maxWrong ≤ wrongs then session.removeAuthNote .code else session
  (.failureChallenge ⟨.code, some .codeInvalid, []⟩, session)

def find (realm : Realm) (address : Text) : Option User :=
  services.findUserByNameOrEmail realm address

/-- The five notes a success removes. -/
def Session.cleared (session : Session) : Session :=
  [Note.address, .code, .issuedAt, .sends, .wrong].foldl
    Session.removeAuthNote session

/-- The part of a code post after the code has matched. -/
def matched (context : Context) (session : Session) (address : Text) :
    Response × Session :=
  match find services context.realm address with
  | none => wrong session
  | some user =>
    if !eligible context.realm (some user) ||
        context.user.any (fun known => known.id ≠ user.id) then
      wrong session
    else (.success user, session.cleared)

def codePost (context : Context) (session : Session) (typed : Option Text) :
    Response × Session :=
  let given := trim (typed.getD [])
  match session.getAuthNote .code, session.getAuthNote .address with
  | some expected, some address =>
    let (live, session) := codeIsLive services session
    if live then
      let session := session.call (.isEqual given expected)
      if given = expected then matched services context session address
      else wrong session
    else wrong session
  | _, _ => wrong session

/-- A request to the step: the flow reaches it, or its form is posted. -/
inductive Request where
  | authenticate
  | action (posted : Posted)
  deriving DecidableEq

def action (context : Context) (session : Session) (posted : Posted) :
    Response × Session :=
  if posted.containsKey .address then
    addressPost services context session (posted.getFirst .address)
  else if posted.containsKey .resend then
    resendPost services context session
  else codePost services context session (posted.getFirst .code)

def handle (context : Context) (session : Session) : Request → Response × Session
  | .authenticate => authenticate services context session
  | .action posted => action services context session posted

/-- A mail sent: the code, the address it was asked for and the mailbox of
the account the address found. -/
structure Mail where
  address : Text
  code : Text
  email : Text
  deriving DecidableEq

/-- The background job; `none` where it mails nothing. -/
def deliver (getRealm : Text → Option Realm) (job : Job) : Option Mail :=
  match getRealm job.realmId with
  | none => none
  | some realm =>
    match find services realm job.address with
    | none => none
    | some user =>
      if eligible realm (some user) then
        some ⟨job.address, job.code, user.email.getD []⟩
      else none

end Handlers

end EmailCode

end Catena
