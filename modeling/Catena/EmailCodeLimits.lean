import Catena.EmailCodeEffects

/-!
# The bounds on codes and guesses

Over a whole session before its first success, at most five codes are issued,
half a minute apart, each is compared with at most five wrong posts, and the
held code is the last one issued, for the address noted beside it.
-/

namespace Catena

namespace EmailCode

open JavaLang

/-- One issued code: the job it was submitted to, the time noted for it, and
the posts compared with the held code while it was the last one. -/
structure Issue where
  job : Job
  issuedAt : Int
  compared : List (Text × Text)
  deriving DecidableEq

/-- The comparisons that did not match. -/
def Issue.misses (issue : Issue) : Nat :=
  (issue.compared.filter fun pair => pair.1 ≠ pair.2).length

def record (issues : List Issue) : Call → List Issue
  | .submit job issuedAt => ⟨job, issuedAt, []⟩ :: issues
  | .isEqual given expected =>
    match issues with
    | [] => []
    | latest :: earlier =>
      { latest with compared := (given, expected) :: latest.compared } :: earlier

/-- The codes a session issued, the last one first. -/
def issues (calls : List Call) : List Issue :=
  calls.foldl record []

theorem issues_append (calls : List Call) (made : Call) :
    issues (calls ++ [made]) = record (issues calls) made := by
  simp [issues]

/-- Every comparison was with the issued code, and few of them missed. -/
structure Issue.Guarded (issue : Issue) : Prop where
  own : ∀ pair ∈ issue.compared, pair.2 = issue.job.code
  few : (issue.misses : Int) ≤ maxWrong

/-- What the notes say of the last issue.  `slack` is one between a missed
comparison and the count of it. -/
structure Latest (session : Session) (slack : Nat) (issue : Issue) : Prop where
  issuedAt : parse (session.getAuthNote .issuedAt) = issue.issuedAt
  address : session.getAuthNote .address = some issue.job.address
  code : ∀ code, session.getAuthNote .code = some code →
    code = issue.job.code ∧
      (issue.misses : Int) ≤ parse (session.getAuthNote .wrong) + slack ∧
      0 ≤ parse (session.getAuthNote .wrong) ∧
      parse (session.getAuthNote .wrong) < maxWrong

/-- The invariant of a session before its first success. -/
structure Tracked (services : Services) (slack : Nat) (session : Session) : Prop where
  sends : parse (session.getAuthNote .sends) = (issues session.calls).length
  bound : ((issues session.calls).length : Int) ≤ maxSends
  spaced : (issues session.calls).Pairwise fun later earlier =>
    earlier.issuedAt + resendIntervalSeconds * 1000 ≤ later.issuedAt
  guarded : ∀ issue ∈ issues session.calls, issue.Guarded
  past : ∀ issue ∈ issues session.calls, ∃ reading < session.readings,
    issue.issuedAt = services.clock reading
  unissued : issues session.calls = [] →
    session.getAuthNote .issuedAt = none ∧ session.getAuthNote .code = none ∧
      session.getAuthNote .address = none
  latest : ∀ issue earlier, issues session.calls = issue :: earlier →
    Latest session slack issue

/-- A clock that starts after zero and never goes back. -/
structure Forward (services : Services) : Prop where
  positive : ∀ reading, 0 < services.clock reading
  monotone : Monotone services.clock

variable {services : Services} {session : Session} {slack : Nat}

theorem Tracked.at (tracked : Tracked services slack session) {readings : Nat}
    (later : session.readings ≤ readings) :
    Tracked services slack (session.at readings) where
  sends := tracked.sends
  bound := tracked.bound
  spaced := tracked.spaced
  guarded := tracked.guarded
  past := by
    intro issue member
    obtain ⟨reading, before, same⟩ := tracked.past issue member
    exact ⟨reading, lt_of_lt_of_le before later, same⟩
  unissued := tracked.unissued
  latest := by
    intro issue earlier shape
    have said := tracked.latest issue earlier shape
    exact ⟨said.issuedAt, said.address, said.code⟩

/-- A comparison with the held code is put down to the last issue. -/
theorem Tracked.compare (tracked : Tracked services 0 session) {expected : Text}
    (given : Text) (held : session.getAuthNote .code = some expected) :
    Tracked services 1 (session.call (.isEqual given expected)) := by
  cases shape : issues session.calls with
  | nil =>
    have absent := (tracked.unissued shape).2.1
    rw [held] at absent
    cases absent
  | cons latest earlier =>
    have said := tracked.latest latest earlier shape
    obtain ⟨own, counted, -, below⟩ := said.code expected held
    have grown : issues (session.call (.isEqual given expected)).calls =
        { latest with compared := (given, expected) :: latest.compared } :: earlier := by
      rw [calls_call, issues_append, shape]
      rfl
    have missed : (Issue.misses
        { latest with compared := (given, expected) :: latest.compared } : Int) ≤
        latest.misses + 1 := by
      simp only [Issue.misses, List.filter_cons]
      split <;> simp
    have guarded := tracked.guarded latest (by simp [shape])
    have spaced := tracked.spaced
    have bound := tracked.bound
    have sends := tracked.sends
    rw [shape] at spaced bound sends
    constructor
    · rw [grown]
      exact sends
    · rw [grown]
      exact bound
    · rw [grown]
      exact List.pairwise_cons.mpr (List.pairwise_cons.mp spaced)
    · rw [grown]
      intro issue member
      cases List.mem_cons.mp member with
      | inl first =>
        subst first
        constructor
        · intro pair inside
          cases List.mem_cons.mp inside with
          | inl same =>
            subst same
            exact own
          | inr before => exact guarded.own pair before
        · simp only [Nat.cast_zero, add_zero] at counted
          omega
      | inr before => exact tracked.guarded issue (by simp [shape, before])
    · rw [grown]
      intro issue member
      cases List.mem_cons.mp member with
      | inl first =>
        subst first
        exact tracked.past latest (by simp [shape])
      | inr before => exact tracked.past issue (by simp [shape, before])
    · intro empty
      rw [grown] at empty
      cases empty
    · intro issue rest same
      rw [grown] at same
      cases same
      constructor
      · exact said.issuedAt
      · exact said.address
      · intro code found
        obtain ⟨isOwn, counts, notNegative, under⟩ := said.code code found
        refine ⟨isOwn, ?_, notNegative, under⟩
        simp only [getAuthNote_call, Nat.cast_zero, add_zero, Nat.cast_one] at counts ⊢
        omega

theorem Tracked.wrong (tracked : Tracked services slack session) (small : slack ≤ 1) :
    Tracked services 0 (wrong session).2 where
  sends := by
    rw [calls_wrong, getAuthNote_wrong session .sends (by decide)]
    exact tracked.sends
  bound := by
    rw [calls_wrong]
    exact tracked.bound
  spaced := by
    rw [calls_wrong]
    exact tracked.spaced
  guarded := by
    rw [calls_wrong]
    exact tracked.guarded
  past := by
    rw [calls_wrong, readings_wrong]
    exact tracked.past
  unissued := by
    intro empty
    rw [calls_wrong] at empty
    obtain ⟨issuedAt, code, address⟩ := tracked.unissued empty
    rw [getAuthNote_wrong session .issuedAt (by decide),
      getAuthNote_wrong session .code (by decide),
      getAuthNote_wrong session .address (by decide)]
    simp [issuedAt, code, address]
  latest := by
    intro issue earlier shape
    rw [calls_wrong] at shape
    have said := tracked.latest issue earlier shape
    constructor
    · rw [getAuthNote_wrong session .issuedAt (by decide)]
      exact said.issuedAt
    · rw [getAuthNote_wrong session .address (by decide)]
      exact said.address
    · intro code held
      rw [getAuthNote_wrong session .code (by decide)] at held
      simp only [reduceCtorEq, if_false, true_and] at held
      split at held
      case isTrue => cases held
      case isFalse few =>
        obtain ⟨own, counted, notNegative, below⟩ := said.code code held
        have exactly : long (parse (session.getAuthNote .wrong) + 1) =
            parse (session.getAuthNote .wrong) + 1 := by
          apply long_of_isLong
          unfold IsLong
          simp only [maxWrong] at below
          omega
        have range : IsLong (parse (session.getAuthNote .wrong) + 1) := by
          unfold IsLong
          simp only [maxWrong] at below
          omega
        have wrongNote : parse ((EmailCode.wrong session).2.getAuthNote .wrong) =
            parse (session.getAuthNote .wrong) + 1 := by
          rw [getAuthNote_wrong session .wrong (by decide), if_pos rfl, exactly,
            parse_toText range]
        rw [wrongNote]
        rw [exactly] at few
        refine ⟨own, ?_, by omega, by omega⟩
        push_cast
        omega

/-- By an open gate, the last issue is half a minute old. -/
theorem Open.spaced {reading : Nat} (forward : Forward services)
    (tracked : Tracked services slack session) (later : session.readings ≤ reading)
    (passed : Open services session reading) {issue : Issue}
    (member : issue ∈ issues session.calls) :
    issue.issuedAt + resendIntervalSeconds * 1000 ≤ services.clock (reading + 1) := by
  cases shape : issues session.calls with
  | nil => simp [shape] at member
  | cons latest earlier =>
    have said := tracked.latest latest earlier shape
    obtain ⟨issueReading, before, noted⟩ := tracked.past latest (by simp [shape])
    have positive := forward.positive issueReading
    have steps : services.clock issueReading ≤ services.clock reading :=
      forward.monotone (by omega)
    have next : services.clock reading ≤ services.clock (reading + 1) :=
      forward.monotone (by omega)
    have range := services.clock_long reading
    have waited := passed.2 (by rw [said.issuedAt, noted]; omega)
    rw [long_long_sub, said.issuedAt, noted, long_of_isLong] at waited
    · have latestSpaced : latest.issuedAt + resendIntervalSeconds * 1000 ≤
          services.clock (reading + 1) := by
        rw [noted]
        omega
      rw [shape] at member
      cases List.mem_cons.mp member with
      | inl first =>
        subst first
        exact latestSpaced
      | inr old =>
        have spaced := tracked.spaced
        rw [shape] at spaced
        have apart := (List.pairwise_cons.mp spaced).1 issue old
        simp only [resendIntervalSeconds] at apart latestSpaced ⊢
        omega
    · unfold IsLong at range ⊢
      simp only [resendIntervalSeconds]
      omega

theorem Tracked.send {reading : Nat} (forward : Forward services)
    (tracked : Tracked services 0 session) (later : session.readings ≤ reading)
    (passed : Open services session reading) (realmId address : Text) :
    Tracked services 0
      (send services realmId (session.at (reading + 1)) address) := by
  obtain ⟨noted, code, issuedAt, sends, wrongs, calls⟩ :=
    send_spec services realmId (session.at (reading + 1)) address
  rw [readings_at] at issuedAt calls
  have few : parse (session.getAuthNote .sends) < maxSends := passed.1
  have count := tracked.sends
  have next : long (parse (session.getAuthNote .sends) + 1) =
      (issues session.calls).length + 1 := by
    rw [count] at few ⊢
    apply long_of_isLong
    unfold IsLong
    simp only [maxSends] at few
    omega
  have grown := congrArg issues calls
  rw [issues_append, calls_at] at grown
  constructor
  · rw [sends, getAuthNote_at, next, grown]
    rw [parse_toText]
    · simp [record]
    · rw [count] at few
      unfold IsLong
      simp only [maxSends] at few
      omega
  · rw [grown]
    rw [count] at few
    simp only [record, List.length_cons]
    push_cast
    omega
  · rw [grown]
    apply List.pairwise_cons.mpr
    constructor
    · intro issue member
      exact passed.spaced forward tracked later member
    · exact tracked.spaced
  · rw [grown]
    intro issue member
    cases List.mem_cons.mp member with
    | inl first =>
      subst first
      constructor
      · intro pair inside
        cases inside
      · simp [Issue.misses, maxWrong]
    | inr old => exact tracked.guarded issue old
  · rw [grown]
    intro issue member
    cases List.mem_cons.mp member with
    | inl first =>
      subst first
      exact ⟨reading + 1, by simp, rfl⟩
    | inr old =>
      obtain ⟨issueReading, before, noted⟩ := tracked.past issue old
      refine ⟨issueReading, ?_, noted⟩
      simp only [readings_send, readings_at]
      omega
  · intro empty
    rw [grown] at empty
    cases empty
  · intro issue earlier shape
    rw [grown] at shape
    cases shape
    constructor
    · rw [issuedAt, parse_toText (services.clock_long _)]
    · exact noted
    · intro held found
      rw [code] at found
      cases found
      rw [wrongs, parse_toText (by decide)]
      refine ⟨rfl, ?_, le_refl _, by decide⟩
      simp [Issue.misses]

/-- Every request but a success keeps the invariant. -/
theorem Tracked.handle (forward : Forward services)
    (tracked : Tracked services 0 session) (context : Context) (request : Request)
    (plain : (handle services context session request).1.succeeds = false) :
    Tracked services 0 (handle services context session request).2 := by
  have effect := handle_effect services context session request
  generalize (EmailCode.handle services context session request).1 = response at effect plain
  generalize (EmailCode.handle services context session request).2 = after at effect
  cases effect with
  | shown _ readings _ later => exact tracked.at later
  | issued _ address reading readings _ later passed next =>
    have sent := tracked.send forward later passed context.realm.id address
    apply sent.at
    simp only [readings_send, readings_at]
    omega
  | refused readings later => exact (tracked.at later).wrong (by omega)
  | compared given expected readings later held =>
    have holds : (session.at readings).getAuthNote .code = some expected := held
    exact ((tracked.at later).compare given holds).wrong (le_refl _)
  | signedIn posted code address user reading => cases plain

/-- A session the step has not been in: its five notes are unset. -/
structure Fresh (session : Session) : Prop where
  notes : ∀ note, note ≠ .attemptedUsername → session.getAuthNote note = none
  calls : session.calls = []

theorem Fresh.tracked (fresh : Fresh session) : Tracked services 0 session := by
  have none_issued : issues session.calls = [] := by
    rw [fresh.calls]
    rfl
  constructor
  · rw [none_issued, fresh.notes .sends (by decide)]
    rfl
  · rw [none_issued]
    decide
  · rw [none_issued]
    exact List.Pairwise.nil
  · simp [none_issued]
  · simp [none_issued]
  · intro _
    exact ⟨fresh.notes .issuedAt (by decide), fresh.notes .code (by decide),
      fresh.notes .address (by decide)⟩
  · intro issue earlier shape
    rw [none_issued] at shape
    cases shape

/-- The invariant holds all along a session without a success. -/
theorem Tracked.answers (forward : Forward services)
    (tracked : Tracked services 0 session) (visits : List (Context × Request))
    (plain : ∀ response ∈ (answers services session visits).1,
      response.succeeds = false) :
    Tracked services 0 (answers services session visits).2 := by
  induction visits generalizing session with
  | nil => exact tracked
  | cons visit rest ih =>
    simp only [EmailCode.answers, List.mem_cons, forall_eq_or_imp] at plain ⊢
    exact ih (tracked.handle forward visit.1 visit.2 plain.1) plain.2

/-- A success is for the last issue, of the address noted with it, by a post
of its code within its lifetime. -/
theorem Tracked.success (forward : Forward services)
    (tracked : Tracked services 0 session) {context : Context} {request : Request}
    {user : User}
    (succeeded :
      (EmailCode.handle services context session request).1 = .success user) :
    ∃ issue earlier posted reading,
      issues session.calls = issue :: earlier ∧
        request = .action posted ∧
        trim ((posted.getFirst .code).getD []) = issue.job.code ∧
        find services context.realm issue.job.address = some user ∧
        session.readings ≤ reading ∧ issue.issuedAt ≤ services.clock reading ∧
        services.clock reading - issue.issuedAt ≤ codeLifetimeSeconds * 1000 := by
  have effect := handle_effect services context session request
  generalize (EmailCode.handle services context session request).2 = after at effect
  rw [succeeded] at effect
  cases effect with
  | shown _ _ plain => cases plain
  | issued _ _ _ _ plain => cases plain
  | signedIn posted code address _ reading asked _ typed held noted later alive found =>
    cases shape : issues session.calls with
    | nil =>
      have absent := (tracked.unissued shape).2.1
      rw [held] at absent
      cases absent
    | cons issue earlier =>
      have said := tracked.latest issue earlier shape
      obtain ⟨own, -⟩ := said.code code held
      have same : address = issue.job.address := by
        have both := said.address
        rw [noted] at both
        exact Option.some.inj both
      obtain ⟨issueReading, before, noticed⟩ := tracked.past issue (by simp [shape])
      have positive := forward.positive issueReading
      have steps : services.clock issueReading ≤ services.clock reading :=
        forward.monotone (by omega)
      have range := services.clock_long reading
      have lives := alive.2
      rw [said.issuedAt, long_of_isLong] at lives
      · refine ⟨issue, earlier, posted, reading, rfl, asked, ?_, ?_, later, ?_, lives⟩
        · rw [typed, own]
        · rw [← same]
          exact found
        · rw [noticed]
          exact steps
      · rw [noticed]
        unfold IsLong at range ⊢
        omega

/-- Before its first success, a session issues at most `maxSends` codes, at
least `resendIntervalSeconds` apart; each is compared with at most `maxWrong`
posts that miss; the held code was submitted for the noted address; and a
success is for that pair, within the code's lifetime. -/
theorem guesses_bounded (forward : Forward services) (fresh : Fresh session)
    (visits : List (Context × Request))
    (plain : ∀ response ∈ (answers services session visits).1,
      response.succeeds = false) :
    let after := (answers services session visits).2
    let issued := issues after.calls
    (issued.length : Int) ≤ maxSends ∧
      (issued.Pairwise fun later earlier =>
        earlier.issuedAt + resendIntervalSeconds * 1000 ≤ later.issuedAt) ∧
      (∀ issue ∈ issued, (∀ pair ∈ issue.compared, pair.2 = issue.job.code) ∧
        (issue.misses : Int) ≤ maxWrong) ∧
      (∀ code, after.getAuthNote .code = some code →
        ∃ issue earlier, issued = issue :: earlier ∧ issue.job.code = code ∧
          after.getAuthNote .address = some issue.job.address ∧
          (issue.misses : Int) < maxWrong) ∧
      ∀ context request user,
        (handle services context after request).1 = .success user →
        ∃ issue earlier posted reading,
          issued = issue :: earlier ∧ request = .action posted ∧
            trim ((posted.getFirst .code).getD []) = issue.job.code ∧
            find services context.realm issue.job.address = some user ∧
            after.readings ≤ reading ∧ issue.issuedAt ≤ services.clock reading ∧
            services.clock reading - issue.issuedAt ≤ codeLifetimeSeconds * 1000 := by
  have tracked := fresh.tracked.answers forward visits plain
  refine ⟨tracked.bound, tracked.spaced, ?_, ?_, ?_⟩
  · intro issue member
    have guarded := tracked.guarded issue member
    exact ⟨guarded.own, guarded.few⟩
  · intro code held
    cases shape : issues (answers services session visits).2.calls with
    | nil =>
      have absent := (tracked.unissued shape).2.1
      rw [held] at absent
      cases absent
    | cons issue earlier =>
      have said := tracked.latest issue earlier shape
      obtain ⟨own, counted, -, below⟩ := said.code code held
      refine ⟨issue, earlier, rfl, own.symm, said.address, ?_⟩
      simp only [Nat.cast_zero, add_zero] at counted
      omega
  · intro context request user succeeded
    exact tracked.success forward succeeded

theorem sampleServices_forward : Forward sampleServices where
  positive := by
    intro reading
    apply lt_min <;> omega
  monotone := by
    intro first second later
    apply min_le_min_right
    omega

theorem freshSession_fresh : Fresh freshSession where
  notes := by
    intro note _
    rfl
  calls := rfl

/-- A code is issued, missed once and then typed right. -/
theorem sample_guesses_bounded :
    let context : Context := ⟨sampleRealm [sampleUser], none⟩
    let after := (answers sampleServices freshSession
      [(context, addressPosted "bob"), (context, codePosted "1")]).2
    ((issues after.calls).length : Int) ≤ maxSends ∧
      (issues after.calls).map Issue.misses = [1] ∧
      (handle sampleServices context after (codePosted "123456")).1 =
        .success sampleUser :=
  ⟨(guesses_bounded sampleServices_forward freshSession_fresh
      [(⟨sampleRealm [sampleUser], none⟩, addressPosted "bob"),
        (⟨sampleRealm [sampleUser], none⟩, codePosted "1")] (by decide)).1,
    by decide, by decide⟩

end EmailCode

end Catena
