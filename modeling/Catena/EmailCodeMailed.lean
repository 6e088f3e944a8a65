import Catena.EmailCodeEffects
import Catena.Runs

/-!
# Which mailbox a code post verifies

The address of a code is looked up twice: by the background job that picks
the mailbox, and again by the code post that marks the email of the account
it finds as verified.  Directory changes may fall in between.
-/

namespace Catena

namespace EmailCode

open JavaLang Runs

/-- One authentication session, the directory around it, and the mails its
jobs sent. -/
structure World where
  session : Session
  realm : Realm
  mails : List Mail

/-- What can happen: a request of the session, with the user its flow knows,
the background delivery of a job, or a change of the directory. -/
inductive Step where
  | request (user : Option User) (request : Request)
  | deliver (job : Job)
  | alter (realm : Realm)

/-- The jobs among the calls. -/
def submitted (calls : List Call) : List Job :=
  calls.filterMap fun
    | .submit job _ => some job
    | .isEqual _ _ => none

section Runs

variable (services : Services)

/-- A job runs only when it was submitted; it looks the realm up by its id. -/
def World.step (world : World) : Step → World
  | .request user request =>
    { world with
      session := (handle services ⟨world.realm, user⟩ world.session request).2 }
  | .deliver job =>
    if job ∈ submitted world.session.calls then
      { world with
        mails := world.mails ++ (deliver services
          (fun id => if id = world.realm.id then some world.realm else none) job).toList }
    else world
  | .alter realm => { world with realm := realm }

def World.run (world : World) (steps : List Step) : World :=
  Runs.run (World.step services) world steps

/-- The step marks the email of `user` verified and signs the user in, for a
post of `code`. -/
def SignsIn (world : World) (step : Step) (user : User) (code : Text) : Prop :=
  ∃ known posted, step = .request known (.action posted) ∧
    trim ((posted.getFirst .code).getD []) = code ∧
    (handle services ⟨world.realm, known⟩ world.session (.action posted)).1 =
      .success user

/-- A post of the code form carries only what some mail carried. -/
def PostsMailed (world : World) : Step → Prop
  | .request _ (.action posted) =>
    posted.containsKey .address = false → posted.containsKey .resend = false →
      ∃ mail ∈ world.mails, mail.code = trim ((posted.getFirst .code).getD [])
  | _ => True

/-- A directory change leaves the address of a mailed code that is still held
with the mailbox the code went to, or with no account that may sign in. -/
def KeepsMailbox (world : World) : Step → Prop
  | .alter realm => ∀ mail ∈ world.mails,
      world.session.getAuthNote .code = some mail.code →
      ∀ user, find services realm mail.address = some user →
        eligible realm (some user) = true → user.email = some mail.email
  | _ => True

end Runs

/-- The beginning of a session: nothing noted, issued or mailed. -/
structure World.Started (world : World) : Prop where
  notes : ∀ note, note ≠ .attemptedUsername → world.session.getAuthNote note = none
  calls : world.session.calls = []
  draws : world.session.draws = 0
  mails : world.mails = []

/-- The invariant of the runs: the held code was submitted for the noted
address, the codes are the drawn ones in order, and while a mailed code is
held its address finds the mailbox it went to. -/
structure Traced (services : Services) (world : World) : Prop where
  held : ∀ code, world.session.getAuthNote .code = some code →
    ∃ job ∈ submitted world.session.calls, job.code = code ∧
      world.session.getAuthNote .address = some job.address
  codes : (submitted world.session.calls).map Job.code =
    (List.range world.session.draws).map services.randomString
  jobs : ∀ mail ∈ world.mails, ∃ job ∈ submitted world.session.calls,
    job.address = mail.address ∧ job.code = mail.code
  boxes : ∀ mail ∈ world.mails,
    world.session.getAuthNote .code = some mail.code →
    ∀ user, find services world.realm mail.address = some user →
      eligible world.realm (some user) = true → user.email = some mail.email

/-- The first codes a generator draws are all different. -/
def Distinct (services : Services) (draws : Nat) : Prop :=
  ∀ first second, first < second → second < draws →
    services.randomString first ≠ services.randomString second

theorem submitted_append (calls : List Call) (made : Call) :
    submitted (calls ++ [made]) =
      submitted calls ++ (match made with
        | .submit job _ => [job]
        | .isEqual _ _ => []) := by
  cases made <;> simp [submitted]

theorem eligible_email {realm : Realm} {user : User}
    (allowed : eligible realm (some user) = true) :
    user.email = some (user.email.getD []) := by
  cases present : user.email with
  | none => simp [eligible, present] at allowed
  | some email => rfl

variable {services : Services} {world : World}

theorem World.Started.traced (started : world.Started) : Traced services world where
  held := by
    intro code held
    rw [started.notes .code (by decide)] at held
    cases held
  codes := by
    rw [started.calls, started.draws]
    rfl
  jobs := by simp [started.mails]
  boxes := by simp [started.mails]

/-- Two jobs of one code are one job of one address, as long as the drawn
codes differ. -/
theorem Traced.code_unique (traced : Traced services world)
    (distinct : Distinct services world.session.draws) {first second : Job}
    (firstIn : first ∈ submitted world.session.calls)
    (secondIn : second ∈ submitted world.session.calls)
    (same : first.code = second.code) : first = second := by
  have drawn : ((List.range world.session.draws).map services.randomString).Nodup := by
    rw [List.nodup_map_iff_inj_on List.nodup_range]
    intro left leftIn right rightIn equal
    rw [List.mem_range] at leftIn rightIn
    by_contra different
    cases lt_or_gt_of_ne different with
    | inl below => exact distinct left right below rightIn equal
    | inr above => exact distinct right left above leftIn equal.symm
  rw [← traced.codes] at drawn
  exact List.inj_on_of_nodup_map drawn firstIn secondIn same

/-- A session that drew no code and kept its pair, or dropped the code, is
traced as before. -/
theorem Traced.session (traced : Traced services world) {session : Session}
    (calls : submitted session.calls = submitted world.session.calls)
    (draws : session.draws = world.session.draws)
    (pair : ∀ code, session.getAuthNote .code = some code →
      world.session.getAuthNote .code = some code ∧
        session.getAuthNote .address = world.session.getAuthNote .address) :
    Traced services { world with session := session } where
  held := by
    intro code held
    obtain ⟨before, address⟩ := pair code held
    obtain ⟨job, member, own, noted⟩ := traced.held code before
    refine ⟨job, ?_, own, ?_⟩
    · rw [calls]
      exact member
    · rw [address]
      exact noted
  codes := by
    simp only [calls, draws]
    exact traced.codes
  jobs := by
    simp only [calls]
    exact traced.jobs
  boxes := by
    intro mail member held
    exact traced.boxes mail member (pair mail.code held).1

theorem Traced.wrong (traced : Traced services world) {session : Session}
    (calls : submitted session.calls = submitted world.session.calls)
    (draws : session.draws = world.session.draws)
    (notes : ∀ note, session.getAuthNote note = world.session.getAuthNote note) :
    Traced services { world with session := (wrong session).2 } := by
  apply traced.session
  · rw [calls_wrong, calls]
  · rw [draws_wrong, draws]
  · intro code held
    rw [getAuthNote_wrong session .code (by decide), if_neg (by decide)] at held
    rw [getAuthNote_wrong session .address (by decide), if_neg (by decide),
      if_neg (by simp), notes]
    split at held
    · cases held
    · rw [notes] at held
      exact ⟨held, rfl⟩

/-- A new code is no code a mail carried. -/
theorem Traced.send (traced : Traced services world) (readings after : Nat)
    (realmId address : Text)
    (distinct : Distinct services (world.session.draws + 1)) :
    Traced services { world with
      session := (send services realmId (world.session.at readings) address).at after } := by
  obtain ⟨noted, code, -, -, -, calls⟩ :=
    send_spec services realmId (world.session.at readings) address
  have jobs : submitted
      (EmailCode.send services realmId (world.session.at readings) address).calls =
      submitted world.session.calls ++ [⟨realmId, world.session.clientId, address,
        services.randomString world.session.draws⟩] := by
    rw [calls, submitted_append]
    rfl
  constructor
  · intro held found
    simp only [getAuthNote_at, calls_at] at found ⊢
    rw [code] at found
    cases found
    rw [jobs, noted]
    exact ⟨_, List.mem_append_right _ (List.mem_singleton.mpr rfl), rfl, rfl⟩
  · simp only [calls_at]
    rw [jobs, List.map_append, traced.codes]
    change _ = (List.range (world.session.draws + 1)).map services.randomString
    rw [List.range_succ, List.map_append]
    rfl
  · intro mail member
    obtain ⟨job, old, same⟩ := traced.jobs mail member
    simp only [calls_at]
    rw [jobs]
    exact ⟨job, List.mem_append_left _ old, same⟩
  · intro mail member held
    simp only [getAuthNote_at] at held
    rw [code] at held
    obtain ⟨job, old, -, own⟩ := traced.jobs mail member
    have drawn : job.code ∈ (List.range world.session.draws).map services.randomString := by
      rw [← traced.codes]
      exact List.mem_map_of_mem old
    obtain ⟨index, below, same⟩ := List.mem_map.mp drawn
    rw [List.mem_range] at below
    have again : services.randomString index =
        services.randomString world.session.draws := by
      rw [same, own]
      exact (Option.some.inj held).symm
    exact absurd again (distinct index world.session.draws below (by omega))

/-- No step takes back a draw. -/
theorem draws_step (world : World) (step : Step) :
    world.session.draws ≤ (world.step services step).session.draws := by
  cases step with
  | request user request =>
    have effect := handle_effect services ⟨world.realm, user⟩ world.session request
    simp only [World.step]
    generalize (handle services ⟨world.realm, user⟩ world.session request).1 = response at effect
    generalize (handle services ⟨world.realm, user⟩ world.session request).2 = after at effect
    cases effect with
    | shown => exact le_refl _
    | issued _ address reading readings => exact Nat.le_succ _
    | refused => rw [draws_wrong]; exact le_refl _
    | compared => rw [draws_wrong]; exact le_refl _
    | signedIn => exact le_refl _
  | deliver job =>
    simp only [World.step]
    split <;> exact le_refl _
  | alter realm => exact le_refl _

theorem deliver_spec {getRealm : Text → Option Realm} {job : Job} {mail : Mail}
    (sent : deliver services getRealm job = some mail) :
    ∃ realm user, getRealm job.realmId = some realm ∧ mail.address = job.address ∧
      mail.code = job.code ∧ find services realm job.address = some user ∧
      eligible realm (some user) = true ∧ user.email = some mail.email := by
  unfold deliver at sent
  cases there : getRealm job.realmId with
  | none => simp [there] at sent
  | some realm =>
    cases found : find services realm job.address with
    | none => simp [there, found] at sent
    | some user =>
      simp only [there, found] at sent
      split at sent
      case isTrue allowed =>
        cases sent
        exact ⟨realm, user, rfl, rfl, rfl, found, allowed, eligible_email allowed⟩
      case isFalse => cases sent

/-- Every step that keeps the mailbox of a held code keeps the invariant. -/
theorem Traced.step (traced : Traced services world) (step : Step)
    (kept : KeepsMailbox services world step)
    (distinct : Distinct services (world.step services step).session.draws) :
    Traced services (world.step services step) := by
  cases step with
  | request user request =>
    have effect := handle_effect services ⟨world.realm, user⟩ world.session request
    simp only [World.step] at distinct ⊢
    generalize (handle services ⟨world.realm, user⟩ world.session request).1 = response at effect
    generalize (handle services ⟨world.realm, user⟩ world.session request).2 = after
      at effect distinct ⊢
    cases effect with
    | shown _ readings => exact traced.session rfl rfl fun _ held => ⟨held, rfl⟩
    | issued _ address reading readings =>
      exact traced.send (reading + 1) readings world.realm.id address distinct
    | refused readings => exact traced.wrong rfl rfl fun _ => rfl
    | compared given expected readings =>
      refine traced.wrong ?_ rfl fun _ => rfl
      rw [calls_call, submitted_append]
      simp
    | signedIn posted code address user reading =>
      apply traced.session
      · simp only [Session.cleared, List.foldl, calls_remove]
        rw [calls_call, submitted_append]
        simp
      · rfl
      · intro held found
        simp [Session.cleared, getAuthNote_remove] at found
  | deliver job =>
    simp only [World.step]
    split
    case isFalse => exact traced
    case isTrue member =>
      have fresh : ∀ mail, mail ∈ (deliver services
          (fun id => if id = world.realm.id then some world.realm else none) job).toList →
          mail.address = job.address ∧ mail.code = job.code ∧
            ∃ user, find services world.realm job.address = some user ∧
              user.email = some mail.email := by
        intro mail sent
        rw [Option.mem_toList] at sent
        obtain ⟨realm, user, there, address, code, found, -, email⟩ := deliver_spec sent
        have own : realm = world.realm := by
          split at there
          · exact (Option.some.inj there).symm
          · cases there
        subst own
        exact ⟨address, code, user, found, email⟩
      constructor
      · exact traced.held
      · exact traced.codes
      · intro mail inside
        cases List.mem_append.mp inside with
        | inl old => exact traced.jobs mail old
        | inr new =>
          obtain ⟨address, code, -⟩ := fresh mail new
          exact ⟨job, member, address.symm, code.symm⟩
      · intro mail inside held user found allowed
        cases List.mem_append.mp inside with
        | inl old => exact traced.boxes mail old held user found allowed
        | inr new =>
          obtain ⟨address, -, there, same, email⟩ := fresh mail new
          change find services world.realm mail.address = some user at found
          rw [address, same] at found
          cases found
          exact email
  | alter realm =>
    constructor
    · exact traced.held
    · exact traced.codes
    · exact traced.jobs
    · exact kept

theorem Traced.run (traced : Traced services world) (steps : List Step)
    (kept : Throughout (World.step services) (KeepsMailbox services) world steps)
    (distinct : Distinct services (world.run services steps).session.draws) :
    Traced services (world.run services steps) := by
  apply @invariant_ahead _ _ (World.step services) (KeepsMailbox services) world steps
    (Traced services) fun world => Distinct services world.session.draws
  · intro before step traced kept distinct
    exact traced.step step kept distinct
  · intro before step distinct first second below inside
    exact distinct first second below (lt_of_lt_of_le inside (draws_step before step))
  · exact traced
  · exact kept
  · exact distinct

/-- In a run whose drawn codes differ and whose directory changes leave a
mailed code that is still held with its mailbox, an email that a code post
marks verified is one this code was mailed to. -/
theorem signIn_verifies_mailed (started : world.Started) (steps : List Step) (step : Step)
    (posts : Throughout (World.step services) PostsMailed world (steps ++ [step]))
    (kept : Throughout (World.step services) (KeepsMailbox services) world steps)
    (distinct : Distinct services (world.run services steps).session.draws)
    (user : User) (code : Text)
    (signs : SignsIn services (world.run services steps) step user code) :
    ∃ mail ∈ (world.run services steps).mails,
      mail.code = code ∧ user.email = some mail.email := by
  have traced : Traced services (world.run services steps) :=
    started.traced.run steps kept distinct
  have mailed : PostsMailed (world.run services steps) step :=
    (throughout_append.mp posts).2
  generalize world.run services steps = now at traced mailed distinct signs
  obtain ⟨known, posted, asked, typed, succeeded⟩ := signs
  subst asked
  have effect := handle_effect services ⟨now.realm, known⟩ now.session (.action posted)
  generalize (handle services ⟨now.realm, known⟩ now.session (.action posted)).2 = after at effect
  rw [succeeded] at effect
  cases effect with
  | shown _ _ plain => cases plain
  | issued _ _ _ _ plain => cases plain
  | signedIn form held address _ reading same plainForm given holds noted _ _ found allowed =>
    cases same
    rw [typed] at given
    subst given
    obtain ⟨mail, member, carried⟩ := mailed plainForm.1 plainForm.2
    rw [typed] at carried
    obtain ⟨job, jobIn, own, jobNoted⟩ := traced.held code holds
    obtain ⟨mailJob, mailJobIn, mailAddress, mailCode⟩ := traced.jobs mail member
    have one : mailJob = job :=
      traced.code_unique distinct mailJobIn jobIn (by rw [mailCode, carried, own])
    subst one
    rw [noted] at jobNoted
    have sameAddress : mail.address = address := by
      rw [← mailAddress]
      exact (Option.some.inj jobNoted).symm
    rw [← sameAddress] at found
    rw [← carried] at holds
    exact ⟨mail, member, carried, traced.boxes mail member holds user found allowed⟩

section Samples

/-- The account of the sample after its email was edited. -/
def movedUser : User :=
  { sampleUser with email := some "b@new".toList }

def sampleWorld : World :=
  ⟨freshSession, sampleRealm [sampleUser], []⟩

theorem sampleWorld_started : sampleWorld.Started where
  notes := by
    intro note _
    rfl
  calls := rfl
  draws := rfl
  mails := rfl

/-- The username is posted and the job mails the code. -/
def mailedSteps : List Step :=
  [.request none (addressPosted "bob"),
    .deliver ⟨"r".toList, "c".toList, "bob".toList, "123456".toList⟩]

/-- The same, and then the email of the account is edited. -/
def editedSteps : List Step :=
  [.request none (addressPosted "bob"),
    .deliver ⟨"r".toList, "c".toList, "bob".toList, "123456".toList⟩,
    .alter (sampleRealm [movedUser])]

def sampleMail : Mail :=
  ⟨"bob".toList, "123456".toList, "b@old".toList⟩

/-- With the directory left alone, the verified email is the mailed one. -/
theorem sample_signIn_verifies_mailed :
    ∃ mail ∈ (sampleWorld.run sampleServices mailedSteps).mails,
      mail.code = "123456".toList ∧ sampleUser.email = some mail.email :=
  signIn_verifies_mailed sampleWorld_started mailedSteps
    (.request none (codePosted "123456"))
    ⟨fun plain => absurd plain (by decide), trivial,
      fun _ _ => ⟨sampleMail, by decide, rfl⟩, trivial⟩
    ⟨trivial, trivial, trivial⟩
    (by
      intro first second below inside
      have draws : (sampleWorld.run sampleServices mailedSteps).session.draws = 1 := by
        decide
      omega)
    sampleUser "123456".toList
    ⟨none, [(.code, ["123456".toList])], rfl, by decide, by decide⟩

/-- The email of the account is edited between the delivery and the code post:
the new email is marked verified although no mail went to it. -/
theorem edited_email_verified_unmailed :
    ¬ ∀ (services : Services) (world : World) (steps : List Step) (step : Step)
        (user : User) (code : Text), world.Started →
        Throughout (World.step services) PostsMailed world (steps ++ [step]) →
        SignsIn services (world.run services steps) step user code →
        ∃ mail ∈ (world.run services steps).mails,
          mail.code = code ∧ user.email = some mail.email := by
  intro claimed
  obtain ⟨mail, member, -, email⟩ := claimed sampleServices sampleWorld
    editedSteps (.request none (codePosted "123456")) movedUser "123456".toList sampleWorld_started
    ⟨fun plain => absurd plain (by decide), trivial, trivial,
      fun _ _ => ⟨sampleMail, by decide, rfl⟩, trivial⟩
    ⟨none, [(.code, ["123456".toList])], rfl, by decide, by decide⟩
  have mails : (sampleWorld.run sampleServices editedSteps).mails = [sampleMail] := by
    decide
  rw [mails, List.mem_singleton] at member
  subst member
  exact absurd email (by decide)

end Samples

end EmailCode

end Catena
