import Catena.DispatchRuns

/-!
# What a switch that goes through leaves

From any host, a switch that returns ok leaves the keys, the rules, the link and
the generations of its own request and nothing else, and a second one finds
nothing to do.
-/

namespace Catena.Dispatch

open PyText

section Settled

variable {sha256 : Text → Text} {py : Builtins} {cfg : Config}

variable (sha256) in
/-- The host is on this request's generation and holds nothing of another. -/
structure Settled (cfg : Config) (pub : Text) (host : Host) : Prop where
  keys : host.keys.map universal = some (panelKeys (generation sha256 cfg) pub)
  sudoers : (host.files .sudoers).map universal = some (cfg.rule sha256)
  acceptenv : (host.files .acceptenv).map universal =
    some (acceptenvRule cfg.runnerUser cfg.names)
  sudoersNext : host.files .sudoersNext = none
  acceptenvNext : host.files .acceptenvNext = none
  link : host.link = .symlink (dispatcherPath (generation sha256 cfg))
  intact : host.intact (generation sha256 cfg) cfg.files = true
  alone : ∀ name, name ≠ generation sha256 cfg → host.entry name = none

/-- Whatever is true on the way. -/
theorem anyhow {α : Type} {program : PathProg α} {holds : Host → Prop}
    {ends : α → Host → Prop} {host : Host}
    (yields : Prog.Yields perform holds ends program host) :
    Prog.Yields perform (fun _ => True) ends program host :=
  Prog.Yields.weaken yields fun _ _ => trivial

/-- The rules are in the main files, the keys and the directory in place; what read as
it should is as it was. -/
structure InPlace (path : Rendered) (before after : Host) : Prop where
  entry : after.entry path.gen = before.reinstalled path.gen path.entry path.dispatcher
  keys : after.keys = rewritten before.keys path.panelKeys
  rule : after.files .sudoers = rewritten (before.files .sudoers) path.rule
  accept : after.files .acceptenv = rewritten (before.files .acceptenv) path.accept

theorem InPlace.agree {path : Rendered} {reach : Reach} {before now next : Host}
    (inPlace : InPlace path before now) (agrees : Agree reach now next)
    (names : ¬ reach.names path.gen) (keys : ¬ reach.keys) (rule : ¬ reach.slots .sudoers)
    (accept : ¬ reach.slots .acceptenv) : InPlace path before next where
  entry := (agrees.entry _ names).trans inPlace.entry
  keys := (agrees.keys keys).trans inPlace.keys
  rule := (agrees.files _ rule).trans inPlace.rule
  accept := (agrees.files _ accept).trans inPlace.accept

theorem writeKeys_yields (cfg : Config) (content : Text) (host : Host) :
    Prog.Yields perform (fun _ => True) (fun _ after => Keyed content host after)
      (writeKeys cfg content) host := by
  apply Prog.Always.weaken ((writeKeys_always cfg content host).mono ?_) fun _ _ => trivial
  intro outcome after _ ended value ok
  subst ok
  exact ended

theorem place_yields {path : Rendered} (host : Host) {β : Type}
    {ends : β → Host → Prop} {next : Bool → Bool → Bool → Bool → PathProg β}
    (rest : ∀ installed rekeyed ruled placed after, InPlace path host after →
      Prog.Yields perform (fun _ => True) ends (next installed rekeyed ruled placed) after) :
    Prog.Yields perform (fun _ => True) ends (do
      let installed ← installGeneration path.gen path.entry path.dispatcher
      let rekeyed ← writeKeys path.cfg path.panelKeys
      let ruled ← write .sudoers path.rule 0o440 visudo
      let placed ← placeSshd .acceptenv path.accept
      next installed rekeyed ruled placed) host := by
  apply (anyhow (installGeneration_reinstalls path.gen path.entry path.dispatcher host)).bind
  rintro installed first _ ⟨installing, entry⟩
  apply (writeKeys_yields path.cfg path.panelKeys first).bind
  intro rekeyed second _ keyed
  apply (anyhow (write_rewrites .sudoers path.rule 0o440 visudo second)).bind
  rintro ruled third _ ⟨writing, rule⟩
  have placing := Prog.Yields.mono (placeSshd_rewrites .acceptenv path.accept third)
    fun _ _ changing holds => And.intro changing.agrees holds
  apply (anyhow placing).bind
  rintro placed fourth _ ⟨agrees, accept⟩
  apply rest
  constructor
  · rw [agrees.entry _ not_false, writing.agrees.entry _ not_false,
      keyed.agrees.entry _ not_false]
    exact entry
  · rw [agrees.keys not_false, writing.agrees.keys not_false, keyed.rewrites,
      installing.keys not_false]
  · rw [agrees.files _ (by simp [fileReach]), rule, keyed.agrees.files _ not_false,
      installing.files _ not_false]
  · rw [accept, writing.agrees.files _ (by simp [fileReach]), keyed.agrees.files _ not_false,
      installing.files _ not_false]

/-- The `-next` files, and nothing else. -/
def nextReach : Reach :=
  ⟨fun slot => slot = .sudoersNext ∨ slot = .acceptenvNext, fun _ => False, False, False⟩

theorem proveRetired_yields (path : Rendered) (host : Host) :
    Prog.Yields perform (fun _ => True) (fun _ after => Agree noReach host after)
      (proveRetired py path) host := by
  unfold proveRetired
  apply (anyhow (only_yields (only_prove py path.cfg path.panelKey path.gen) host)).bind
  intro reasons proved _ agrees
  split
  · have restores : (restoreNext path).Only (Within nextReach) :=
      only_restoreNext (Or.inl rfl) (Or.inr rfl)
    apply (anyhow (only_yields restores proved)).bind
    intro _ _ _ _
    exact Prog.Yields.raise trivial
  · exact Prog.Yields.pure trivial agrees

/-- The `-next` files are gone when the rules have settled. -/
structure Cleared (before after : Host) : Prop where
  agrees : Agree nextReach before after
  sudoersNext : after.files .sudoersNext = none
  acceptenvNext : after.files .acceptenvNext = none

theorem Cleared.quiet {before now next : Host} (cleared : Cleared before now)
    (agrees : Agree noReach now next) : Cleared before next where
  agrees := cleared.agrees.trans agrees.ofNoReach
  sudoersNext := (agrees.files _ not_false).trans cleared.sudoersNext
  acceptenvNext := (agrees.files _ not_false).trans cleared.acceptenvNext

theorem settleRules_yields (path : Rendered) (touched placed : Bool) (host : Host) :
    Prog.Yields perform (fun _ => True) (fun _ after => Cleared host after)
      (settleRules py path touched placed) host := by
  have proved (again : Bool) {now : Host} (cleared : Cleared host now) :
      Prog.Yields perform (fun _ => True) (fun _ after => Cleared host after)
        (if again then proveRetired py path else pure ()) now := by
    split
    · exact (proveRetired_yields path now).mono fun _ _ _ agrees => cleared.quiet agrees
    · exact Prog.Yields.pure trivial cleared
  unfold settleRules
  apply (anyhow (remove_yields .sudoersNext host)).bind
  rintro unruled first _ ⟨firstChanging, firstGone⟩
  apply (anyhow (remove_yields .acceptenvNext first)).bind
  rintro unaccepted second _ ⟨secondChanging, secondGone⟩
  have cleared : Cleared host second := by
    constructor
    · exact (firstChanging.agrees.widen (fun _ same => Or.inl same)
        (fun _ inside => inside.elim) (fun inside => inside.elim) fun inside => inside.elim).trans
        (secondChanging.agrees.widen (fun _ same => Or.inr same)
          (fun _ inside => inside.elim) (fun inside => inside.elim) fun inside => inside.elim)
    · rw [secondChanging.agrees.files _ (by simp [fileReach])]
      exact firstGone
    · exact secondGone
  extract_lets rest
  split
  · apply (anyhow (only_yields only_sshdReload second)).bind
    intro _ third _ agrees
    exact proved _ (cleared.quiet agrees)
  · exact proved _ cleared

/-- The link, and nothing else. -/
def linkReach : Reach :=
  ⟨fun _ => False, fun _ => False, False, True⟩

theorem link_yields (path target : Text) (host : Host) :
    Prog.Yields perform (fun _ => True)
      (fun _ after => Agree linkReach host after ∧ after.link = .symlink target)
      (link path target) host := by
  have quiet {now : Host} {op : Op} (agrees : Agree linkReach host now)
      (within : Within linkReach op) :
      Prog.Yields perform (fun _ => True) (fun _ after => Agree linkReach host after)
        (ask op) now :=
    ask_yields op trivial (fun _ => trivial)
      fun choice _ _ => agrees.trans (agree_perform within now choice)
  unfold link
  have read : Prog.Yields perform (fun _ => True)
      (fun held after => after = host ∧
        (held = some target → host.link = .symlink target)) (ask .readLink) host := by
    apply ask_yields .readLink trivial (fun _ => trivial)
    intro choice held ok
    have acted := perform_of_ok rfl ok
    rw [acted] at ok ⊢
    refine ⟨rfl, ?_⟩
    cases ok
    cases host.link with
    | symlink held =>
        intro same
        cases same
        rfl
    | absent => exact fun same => by cases same
    | other => exact fun same => by cases same
  apply read.bind
  rintro held now _ ⟨rfl, same⟩
  split
  · rename_i found
    exact Prog.Yields.pure trivial ⟨Agree.refl _ _, same found⟩
  · apply (quiet (Agree.refl _ _) (by trivial)).bind
    intro _ cleared _ clearedAgrees
    have drafted : Prog.Yields perform (fun _ => True)
        (fun _ after => Agree linkReach now after ∧ after.linkTmp = some target)
        (ask (.symlinkTmp target)) cleared := by
      apply ask_yields (.symlinkTmp target) trivial (fun _ => trivial)
      intro choice _ ok
      refine ⟨clearedAgrees.trans (agree_perform (by trivial) cleared choice), ?_⟩
      rw [perform_of_ok rfl ok]
      rfl
    apply drafted.bind
    rintro _ made _ ⟨madeAgrees, tmp⟩
    have replaced : Prog.Yields perform (fun _ => True)
        (fun _ after => Agree linkReach now after ∧ after.link = .symlink target)
        (ask .replaceLink) made := by
      apply ask_yields .replaceLink trivial (fun _ => trivial)
      intro choice _ ok
      refine ⟨madeAgrees.trans (agree_perform (by trivial) made choice), ?_⟩
      rw [perform_of_ok rfl ok]
      simp only [act, tmp]
    apply replaced.bind
    rintro _ placed _ ⟨placedAgrees, linked⟩
    have noted : Prog.Yields perform (fun _ => True)
        (fun _ after => Agree noReach placed after) (ask (.record [path])) placed :=
      quiet_yields trivial (by trivial) fun _ _ => trivial
    apply noted.bind
    intro _ final _ agrees
    exact Prog.Yields.pure trivial ⟨placedAgrees.trans agrees.ofNoReach,
      (agrees.link not_false).trans linked⟩

/-- One name under the generations directory. -/
def nameReach (name : Text) : Reach :=
  ⟨fun _ => False, fun other => other = name, False, False⟩

theorem removeTree_gone {host : Host} {choice : Choice} {name : Text}
    (ok : (perform host choice (.removeTree name false)).2 = .ok ()) :
    (perform host choice (.removeTree name false)).1.entry name = none := by
  unfold perform at ok ⊢
  split
  · rename_i failure raises
    rw [raises] at ok
    cases ok
  · rename_i raises
    rw [raises] at ok
    simp only [act, Host.removeTree] at ok ⊢
    split
    · rw [entry_dropEntry, if_pos rfl]
    · rename_i other
      split at ok
      · rename_i plain files held
        exact (other plain files held).elim
      · cases ok

theorem unlinkEntry_gone {host : Host} {choice : Choice} {name : Text}
    (ok : (perform host choice (.unlinkEntry name)).2 = .ok ()) :
    (perform host choice (.unlinkEntry name)).1.entry name = none := by
  have acted := perform_of_ok rfl ok
  rw [acted] at ok ⊢
  simp only [act] at ok ⊢
  split at ok
  · rw [entry_dropEntry, if_pos rfl]
  · rw [entry_dropEntry, if_pos rfl]
  · cases ok

theorem kind_absent {host : Host} {name : Text} (absent : host.kind name = .absent) :
    host.entry name = none := by
  unfold Host.kind at absent
  split at absent
  · assumption
  · cases absent
  · cases absent
  · cases absent

/-- A removal that goes through leaves nothing of that name. -/
theorem removed_yields {name path : Text} {op : Op} {host now : Host}
    (agrees : Agree (nameReach name) host now) (within : Within (nameReach name) op)
    (gone : ∀ choice value, (perform now choice op).2 = .ok value →
      (perform now choice op).1.entry name = none) :
    Prog.Yields perform (fun _ => True)
      (fun _ after => Agree (nameReach name) host after ∧ after.entry name = none) (do
        let _ ← ask op
        let _ ← ask (.record [path])
        return true) now := by
  have removes : Prog.Yields perform (fun _ => True)
      (fun _ after => Agree (nameReach name) host after ∧ after.entry name = none)
      (ask op) now :=
    ask_yields op trivial (fun _ => trivial) fun choice value ok =>
      ⟨agrees.trans (agree_perform within now choice), gone choice value ok⟩
  apply removes.bind
  rintro _ after _ ⟨afterAgrees, absent⟩
  have noted : Prog.Yields perform (fun _ => True)
      (fun _ final => Agree noReach after final) (ask (.record [path])) after :=
    quiet_yields trivial (by trivial) fun _ _ => trivial
  apply noted.bind
  intro _ final _ quiet
  exact Prog.Yields.pure trivial ⟨afterAgrees.trans quiet.ofNoReach,
    (quiet.entry name not_false).trans absent⟩

theorem removeGeneration_yields (name : Text) (host : Host) :
    Prog.Yields perform (fun _ => True)
      (fun _ after => Agree (nameReach name) host after ∧ after.entry name = none)
      (removeGeneration name) host := by
  unfold removeGeneration
  have asked : Prog.Yields perform (fun _ => True)
      (fun kind after => after = host ∧ kind = host.kind name) (ask (.kindOf name)) host := by
    apply ask_yields (.kindOf name) trivial (fun _ => trivial)
    intro choice kind ok
    have acted := perform_of_ok rfl ok
    rw [acted] at ok ⊢
    cases ok
    exact ⟨rfl, rfl⟩
  apply asked.bind
  rintro kind now _ ⟨rfl, same⟩
  cases kind with
  | absent => exact Prog.Yields.pure trivial ⟨Agree.refl _ _, kind_absent same.symm⟩
  | directory =>
      exact removed_yields (Agree.refl _ _) (by exact rfl) fun _ _ ok => removeTree_gone ok
  | symlink =>
      exact removed_yields (Agree.refl _ _) (by exact rfl) fun _ _ ok => unlinkEntry_gone ok
  | file =>
      exact removed_yields (Agree.refl _ _) (by exact rfl) fun _ _ ok => unlinkEntry_gone ok

/-- Every listed name but one is gone. -/
structure Removed (gen : Text) (names : List Text) (before after : Host) : Prop where
  agrees : Agree ⟨fun _ => False, fun name => name ≠ gen ∧ name ∈ names, False, False⟩
    before after
  gone : ∀ name ∈ names, name ≠ gen → after.entry name = none

theorem removeOthers_yields (gen : Text) (names : List Text) (host : Host) :
    Prog.Yields perform (fun _ => True) (fun _ after => Removed gen names host after)
      (removeOthers gen names) host := by
  induction names generalizing host with
  | nil =>
      exact Prog.Yields.pure trivial
        ⟨Agree.refl _ _, fun name found => absurd found List.not_mem_nil⟩
  | cons other rest ih =>
      have widened {before after : Host} (removed : Removed gen rest before after) :
          Agree ⟨fun _ => False, fun name => name ≠ gen ∧ name ∈ other :: rest, False, False⟩
            before after :=
        removed.agrees.widen (fun _ inside => inside)
          (fun _ inside => ⟨inside.1, List.mem_cons_of_mem _ inside.2⟩)
          (fun inside => inside) fun inside => inside
      unfold removeOthers
      split
      · rename_i ne
        apply (removeGeneration_yields other host).bind
        rintro _ after _ ⟨agrees, absent⟩
        apply (ih after).mono
        intro _ final _ removed
        constructor
        · refine Agree.trans (agrees.widen (fun _ inside => inside) ?_
            (fun inside => inside) fun inside => inside) (widened removed)
          intro name same
          rw [show name = other from same]
          exact ⟨ne, List.mem_cons_self ..⟩
        · intro name found differs
          by_cases listed : name ∈ rest
          · exact removed.gone name listed differs
          · have same : name = other := (List.mem_cons.mp found).resolve_right listed
            rw [removed.agrees.entry name fun inside => listed inside.2, same]
            exact absent
      · rename_i same
        apply (ih host).mono
        intro _ final _ removed
        refine ⟨widened removed, ?_⟩
        intro name found differs
        rcases List.mem_cons.mp found with rfl | listed
        · exact absurd differs same
        · exact removed.gone name listed differs

/-- Once the rest of RETIRE is done: the link, and no other generation. -/
structure Tidied (path : Rendered) (before after : Host) : Prop where
  agrees : Agree ⟨fun _ => False, fun name => name ≠ path.gen, False, True⟩ before after
  link : after.link = .symlink (dispatcherPath path.gen)
  alone : ∀ name, name ≠ path.gen → after.entry name = none

theorem tidy_yields (path : Rendered) (host : Host) :
    Prog.Yields perform (fun _ => True) (fun _ after => Tidied path host after)
      (tidy path) host := by
  unfold tidy
  apply (link_yields path.cfg.link (dispatcherPath path.gen) host).bind
  rintro _ first _ ⟨linkAgrees, linked⟩
  have listed : Prog.Yields perform (fun _ => True)
      (fun names after => after = first ∧
        ∀ name, name ∉ names → first.entry name = none) (ask .listGenerations) first := by
    apply ask_yields .listGenerations trivial (fun _ => trivial)
    intro choice names ok
    have acted := perform_of_ok rfl ok
    rw [acted] at ok ⊢
    refine ⟨rfl, ?_⟩
    cases ok
    intro name absent
    rw [List.mem_mergeSort] at absent
    exact (PyDict.get_eq_none_iff first.generations name).mpr absent
  apply listed.bind
  rintro names second _ ⟨rfl, unlisted⟩
  apply (removeOthers_yields path.gen names second).bind
  intro _ third _ removed
  have stale : Prog.Yields perform (fun _ => True)
      (fun _ after => Agree noReach third after)
      (ask .listProofDirs) third :=
    quiet_yields trivial (by trivial) fun _ _ => trivial
  apply stale.bind
  intro dirs fourth _ dirsAgree
  apply (anyhow (only_yields (only_removeStale dirs) fourth)).mono
  intro _ final _ agrees
  have quiet : Agree noReach third final := dirsAgree.trans agrees
  constructor
  · refine Agree.trans (linkAgrees.widen (fun _ inside => inside)
      (fun _ inside => inside.elim) (fun inside => inside) fun _ => trivial) ?_
    exact Agree.trans (removed.agrees.widen (fun _ inside => inside)
      (fun _ inside => inside.1) (fun inside => inside) fun inside => inside.elim)
      quiet.ofNoReach
  · rw [quiet.link not_false, removed.agrees.link not_false]
    exact linked
  · intro name other
    rw [quiet.entry name not_false]
    by_cases found : name ∈ names
    · exact removed.gone name found other
    · rw [removed.agrees.entry name fun inside => found inside.2]
      exact unlisted name found

/-- The request's own texts hold no carriage return. -/
structure Config.ReadsBack (cfg : Config) : Prop where
  clean : cfg.Clean
  runnerUser : '\r' ∉ cfg.runnerUser

theorem header_clean : '\r' ∉ header := by
  decide

theorem names_clean (valid : cfg.Valid py) : '\r' ∉ join [' '] cfg.names := by
  intro found
  rcases mem_join found with separator | ⟨name, named, inName⟩
  · exact absurd (List.mem_singleton.mp separator) (by decide)
  · have solid := (names_solid valid name named).2 _ inName
    exact absurd solid (by decide)

theorem isGeneration_clean {gen : Text} (named : IsGeneration gen) : '\r' ∉ gen := by
  intro found
  exact absurd (List.all_eq_true.mp named.2 _ found) (by decide)

theorem accept_clean (valid : cfg.Valid py) (user : '\r' ∉ cfg.runnerUser) :
    '\r' ∉ acceptenvRule cfg.runnerUser cfg.names := by
  simp only [acceptenvRule, List.mem_append, not_or]
  and_intros
  · exact header_clean
  · decide
  · exact user
  · decide
  · decide
  · exact names_clean valid
  · decide
  · decide

theorem rule_clean (valid : cfg.Valid py) (user : '\r' ∉ cfg.runnerUser)
    (named : IsGeneration (generation sha256 cfg)) : '\r' ∉ cfg.rule sha256 := by
  have path : '\r' ∉ dispatcherPath (generation sha256 cfg) := by
    simp only [dispatcherPath, List.mem_append, List.mem_cons, not_or]
    and_intros
    · decide
    · decide
    · exact isGeneration_clean named
    · decide
  simp only [Config.rule, sudoRule, List.mem_append, not_or]
  and_intros
  · exact header_clean
  · decide +kernel
  · exact user
  · decide
  · decide
  · exact user
  · decide
  · exact names_clean valid
  · decide
  · exact user
  · decide
  · exact path
  · decide

theorem panelKeys_clean {gen pub : Text} (named : IsGeneration gen)
    (isKey : isPanelKey pub = true) : '\r' ∉ panelKeys gen pub := by
  simp only [panelKeys, List.mem_append, not_or]
  and_intros
  · exact header_clean
  · intro found
    exact absurd (keyLine_unbroken named isKey _ found) (by decide)
  · decide

theorem retire_settles {start : Host} (valid : cfg.Valid py) (readsBack : cfg.ReadsBack)
    (renders : Renders (start.rendered sha256 cfg) start) (host : Host) :
    Prog.Yields perform (fun _ => True)
      (fun _ after => Settled sha256 cfg start.panelKey after ∧
        InPlace (start.rendered sha256 cfg) host after)
      (retire py (start.rendered sha256 cfg)) host := by
  have rule : '\r' ∉ cfg.rule sha256 :=
    rule_clean valid readsBack.runnerUser renders.named
  have accept : '\r' ∉ acceptenvRule cfg.runnerUser cfg.names :=
    accept_clean valid readsBack.runnerUser
  have keys : '\r' ∉ (start.rendered sha256 cfg).panelKeys :=
    panelKeys_clean renders.named renders.isKey
  have reads (held : Option Text) {content : Text} (clean : '\r' ∉ content) :
      (rewritten held content).map universal = some content := by
    rw [reads_rewritten, universal_of_clean clean]
  unfold retire
  apply @place_yields (start.rendered sha256 cfg) host
  intro installed rekeyed ruled placed first inPlace
  apply (settleRules_yields (start.rendered sha256 cfg) _ placed first).bind
  intro _ second _ cleared
  apply (tidy_yields (start.rendered sha256 cfg) second).mono
  intro _ final _ tidied
  have kept : InPlace (start.rendered sha256 cfg) host final :=
    (inPlace.agree cleared.agrees not_false not_false (by simp [nextReach])
      (by simp [nextReach])).agree tidied.agrees (fun differs => differs rfl) not_false
      not_false not_false
  refine ⟨?_, kept⟩
  constructor
  · rw [kept.keys]
    exact reads _ keys
  · rw [kept.rule]
    exact reads _ rule
  · rw [kept.accept]
    exact reads _ accept
  · rw [tidied.agrees.files _ not_false]
    exact cleared.sudoersNext
  · rw [tidied.agrees.files _ not_false]
    exact cleared.acceptenvNext
  · exact tidied.link
  · exact intact_reinstalled kept.entry readsBack.clean.entry readsBack.clean.dispatcher
  · exact tidied.alone

/-- RETIRE makes of the second host what it makes of the first. -/
structure Onward (path : Rendered) (before after : Host) : Prop where
  entry : after.reinstalled path.gen path.entry path.dispatcher =
    before.reinstalled path.gen path.entry path.dispatcher
  keys : rewritten after.keys path.panelKeys = rewritten before.keys path.panelKeys
  sudoers : after.files .sudoers = before.files .sudoers
  acceptenv : after.files .acceptenv = before.files .acceptenv

theorem InPlace.onward {path : Rendered} {first second third : Host}
    (inPlace : InPlace path second third) (onward : Onward path first second) :
    InPlace path first third where
  entry := inPlace.entry.trans onward.entry
  keys := inPlace.keys.trans onward.keys
  rule := by rw [inPlace.rule, onward.sudoers]
  accept := by rw [inPlace.accept, onward.acceptenv]

theorem reinstalled_again {before after : Host} {gen entry dispatcher : Text}
    (held : after.entry gen = before.reinstalled gen entry dispatcher) :
    after.reinstalled gen entry dispatcher = before.reinstalled gen entry dispatcher := by
  rw [Host.reinstalled]
  split
  · exact held
  · rename_i damaged
    unfold Host.reinstalled at held ⊢
    split at held
    · rename_i isIntact
      rw [intact_congr held] at damaged
      exact absurd isIntact damaged
    · rename_i replaced
      exact (if_neg replaced).symm

/-- The keys read as they did, and nothing else has changed. -/
structure SameReading (before now : Host) : Prop where
  agrees : Agree keysReach before now
  keys : now.keys.map universal = before.keys.map universal

theorem SameReading.quiet {before now next : Host} (same : SameReading before now)
    (agrees : Agree noReach now next) : SameReading before next where
  agrees := same.agrees.trans agrees.ofNoReach
  keys := by rw [agrees.keys not_false, same.keys]

theorem removeKeys_yields (cfg : Config) (host : Host) :
    Prog.Yields perform (fun _ => True)
      (fun _ after => Agree keysReach host after ∧ after.keys = none) (removeKeys cfg) host := by
  have unlinked : Prog.Yields perform (fun _ => True)
      (fun _ after => Agree keysReach host after ∧ after.keys = none)
      (ask .unlinkKeys) host := by
    apply ask_yields .unlinkKeys trivial (fun _ => trivial)
    intro choice removed ok
    refine ⟨agree_perform (by trivial) host choice, ?_⟩
    rw [perform_of_ok rfl ok, act]
  unfold removeKeys
  apply unlinked.bind
  rintro removed now _ ⟨agrees, gone⟩
  split
  · have noted : Prog.Yields perform (fun _ => True) (fun _ after => Agree noReach now after)
        (ask (.record [keysPath cfg])) now :=
      quiet_yields trivial (by trivial) fun _ _ => trivial
    apply noted.bind
    intro _ after _ quiet
    exact Prog.Yields.pure trivial
      ⟨agrees.trans quiet.ofNoReach, (quiet.keys not_false).trans gone⟩
  · exact Prog.Yields.pure trivial ⟨agrees, gone⟩

theorem putBackKeys_yields (cfg : Config) (held : Option Text) (host : Host) :
    Prog.Yields perform (fun _ => True)
      (fun _ after => Agree keysReach host after ∧ after.keys.map universal = held.map universal)
      (putBackKeys cfg (held.map universal)) host := by
  cases held with
  | none =>
      apply (removeKeys_yields cfg host).bind
      rintro _ after _ ⟨agrees, gone⟩
      refine Prog.Yields.pure trivial ⟨agrees, ?_⟩
      rw [gone]
  | some stored =>
      apply (writeKeys_yields cfg (universal stored) host).bind
      intro _ after _ keyed
      refine Prog.Yields.pure trivial ⟨keyed.agrees, ?_⟩
      rw [keyed.keys, universal_of_clean (not_mem_universal stored)]
      rfl

theorem proveBeside_keeps (cfg : Config) (gen : Text) (host : Host) :
    Prog.Yields perform (fun _ => True) (fun _ after => SameReading host after)
      (proveBeside py cfg gen (host.keys.map universal)) host := by
  have asked {op : Op} {now : Host} (same : SameReading host now) (quiet : Within noReach op) :
      Prog.Yields perform (fun _ => True) (fun _ after => SameReading host after)
        (ask op) now :=
    ask_yields op trivial (fun _ => trivial) fun choice _ _ =>
      same.quiet (agree_perform quiet now choice)
  have here : SameReading host host := ⟨Agree.refl _ _, rfl⟩
  unfold proveBeside
  apply (asked here (by trivial)).bind
  intro dir made _ madeSame
  have proved : Prog.Yields perform (fun _ => True) (fun _ after => SameReading host after) (do
      let ran ← ask (.run (["/usr/bin/ssh-keygen", "-q", "-t", "ed25519", "-N", "", "-C",
        "", "-f"].map String.toList ++ [proofKey dir]))
      if ran.code ≠ 0 then
        return ["ssh-keygen could not mint the proof key: " ++ tail ran.stderr]
      else do
        let pub ← ask (.readProofPub dir)
        let expires ← ask .expires
        let _ ← writeKeys cfg
          (proofKeys gen (host.keys.map universal) (stripChars isSpace pub) expires)
        Prog.tryFinally (prove py cfg (proofKey dir) gen)
          (putBackKeys cfg (host.keys.map universal))) made := by
    apply (asked madeSame (by trivial)).bind
    intro ran minted _ mintedSame
    split
    · exact Prog.Yields.pure trivial mintedSame
    · apply (asked mintedSame (by trivial)).bind
      intro pub known _ knownSame
      apply (asked knownSame (by trivial)).bind
      intro expires timed _ timedSame
      apply (writeKeys_yields cfg _ timed).bind
      intro _ opened _ keyed
      have proves : Prog.Yields perform (fun _ => True)
          (fun _ after => Agree keysReach host after) (prove py cfg (proofKey dir) gen) opened := by
        apply (anyhow (only_yields (only_prove py cfg (proofKey dir) gen) opened)).mono
        intro _ after _ agrees
        exact (timedSame.agrees.trans keyed.agrees).trans (Agree.ofNoReach agrees)
      apply Prog.Yields.tryFinally proves
      intro after _
      apply (putBackKeys_yields cfg host.keys after).mono
      rintro _ final _ ⟨back, keys⟩ _ agrees
      exact ⟨agrees.trans back, keys⟩
  apply Prog.Yields.tryFinally proved
  intro after _
  have removed : Prog.Yields perform (fun _ => True) (fun _ final => Agree noReach after final)
      (ask (.removeProofDir dir)) after :=
    quiet_yields trivial (by trivial) fun _ _ => trivial
  apply removed.mono
  intro _ final _ agrees _ same
  exact same.quiet agrees

theorem proof_keeps (path : Rendered) (host : Host) :
    Prog.Yields perform (fun _ => True) (fun _ after => SameReading host after)
      (proof py path (host.keys.map universal)) host := by
  unfold proof
  apply (anyhow (only_yields only_sshdReload host)).bind
  intro _ loaded _ agrees
  have same : loaded.keys = host.keys := @Agree.keys noReach _ _ agrees not_false
  rw [← same]
  apply (proveBeside_keeps path.cfg path.gen loaded).bind
  intro reasons proved _ proving
  split
  · exact Prog.Yields.raise trivial
  · refine Prog.Yields.pure trivial ⟨agrees.ofNoReach.trans proving.agrees, ?_⟩
    rw [proving.keys, same]

/-- What a part achieves it has achieved where what undoes it did not run. -/
theorem onFailure_returns {α : Type} {program : PathProg α} {cleanup : PathProg Unit}
    {ends : α → Host → Prop} {host : Host}
    (yields : Prog.Yields perform (fun _ => True) ends program host) :
    Prog.Yields perform (fun _ => True) ends (onFailure program cleanup) host := by
  apply @onFailure_yields _ _ _ _ (fun _ => True)
  · apply Prog.Always.mono yields
    intro outcome after _ ended
    cases outcome with
    | ok value => exact ended value rfl
    | error failure => trivial
  · exact fun after _ => Prog.yields_true cleanup after

theorem beside_keeps (path : Rendered) (host : Host) :
    Prog.Yields perform (fun _ => True)
      (fun _ after => Agree (besideReach path.gen) host after ∧ after.keys = host.keys ∧
        after.entry path.gen = host.reinstalled path.gen path.entry path.dispatcher)
      (beside path) host := by
  unfold beside
  apply (anyhow (installGeneration_reinstalls path.gen path.entry path.dispatcher host)).bind
  rintro _ first _ ⟨installing, entry⟩
  apply (anyhow (write_rewrites .sudoersNext path.rule 0o440 visudo first)).bind
  rintro _ second _ ⟨writing, _⟩
  have placing := Prog.Yields.mono (placeSshd_rewrites .acceptenvNext path.accept second)
    fun _ _ changing _ => changing.agrees
  apply (anyhow placing).bind
  intro _ third _ agrees
  refine Prog.Yields.pure trivial ⟨?_, ?_, ?_⟩
  · have built : Agree (besideReach path.gen) host first :=
      installing.widen (fun _ inside => inside.elim) (fun _ inside => inside)
        (fun inside => inside.elim) fun inside => inside.elim
    have ruled : Agree (besideReach path.gen) first second :=
      writing.agrees.widen (fun _ same => Or.inl same) (fun _ inside => inside.elim)
        (fun inside => inside.elim) fun inside => inside.elim
    exact (built.trans ruled).trans (agrees.widen (fun _ same => Or.inr same)
      (fun _ inside => inside.elim) (fun inside => inside.elim) fun inside => inside.elim)
  · rw [agrees.keys not_false, writing.agrees.keys not_false, installing.keys not_false]
  · rw [agrees.entry _ not_false, writing.agrees.entry _ not_false, entry]

theorem switched_keeps (path : Rendered) (host : Host) :
    Prog.Yields perform (fun _ => True) (fun _ after => Agree noReach host after)
      (switched py path) host := by
  unfold switched
  apply (anyhow (only_yields (only_prove py path.cfg path.panelKey path.gen) host)).bind
  intro reasons proved _ agrees
  split
  · exact Prog.Yields.raise trivial
  · exact Prog.Yields.pure trivial agrees

/-- The move leaves the keys as they would be written: it only runs where they do not
read so. -/
theorem move_onward (path : Rendered) (host : Host)
    (differs : host.keys.map universal ≠ some path.panelKeys) :
    Prog.Yields perform (fun _ => True) (fun _ after => Onward path host after)
      (move py path (host.keys.map universal)) host := by
  unfold move
  apply (onFailure_returns (beside_keeps path host)).bind
  rintro _ first _ ⟨building, keys, entry⟩
  rw [← keys] at differs ⊢
  apply (onFailure_returns (proof_keeps path first)).bind
  intro _ second _ same
  apply (onFailure_returns (writeKeys_yields path.cfg path.panelKeys second)).bind
  intro _ third _ keyed
  apply (onFailure_returns (switched_keeps path third)).mono
  intro _ final _ quiet
  have later : Agree keysReach first final :=
    (same.agrees.trans keyed.agrees).trans quiet.ofNoReach
  have main (slot : Slot) (isMain : slot = .sudoers ∨ slot = .acceptenv) :
      final.files slot = host.files slot := by
    rw [later.files slot not_false, building.files slot]
    rcases isMain with rfl | rfl <;> simp [besideReach]
  constructor
  · exact reinstalled_again ((later.entry _ not_false).trans entry)
  · have written : final.keys = some path.panelKeys := by
      rw [quiet.keys not_false, keyed.rewrites, rewritten_of_differs]
      rwa [same.keys]
    rw [written, rewritten_some, ← keys, rewritten_of_differs differs]
  · exact main _ (Or.inl rfl)
  · exact main _ (Or.inr rfl)

theorem moveTo_onward (path : Rendered) (host : Host) (running : Running)
    (runs : host.keys.map universal = some path.panelKeys → running = .generation path.gen) :
    Prog.Yields perform (fun _ => True) (fun _ after => Onward path host after)
      (moveTo py path (host.keys.map universal) running) host := by
  unfold moveTo
  split
  · rename_i other
    exact move_onward path host fun same => other (runs same)
  · exact Prog.Yields.pure trivial ⟨rfl, rfl, rfl, rfl⟩

theorem verdict_returns (gen : Text) (ok : Bool) (summary : String) (host : Host) :
    Prog.Yields perform (fun _ => True) (fun answer after => answer.ok = ok ∧ after = host)
      (verdict gen ok summary) host := by
  unfold verdict
  apply (@still_yields (fun _ => True) .recorded host trivial (by rfl)).bind
  rintro wrote after _ rfl
  exact Prog.Yields.pure trivial ⟨rfl, rfl⟩

theorem refused_settles {holds : Verdict → Host → Prop} (gen : Text) (summary : String)
    (host : Host) :
    Prog.Yields perform (fun _ => True) (fun answer after => answer.ok = true → holds answer after)
      (verdict gen false summary) host := by
  apply (verdict_returns gen false summary host).mono
  rintro answer after _ ⟨notOk, _⟩ ok
  rw [notOk] at ok
  cases ok

theorem switchFrom_settles {start : Host} (valid : cfg.Valid py) (readsBack : cfg.ReadsBack)
    (renders : Renders (start.rendered sha256 cfg) start) (running : Running) (host : Host)
    (runs : host.keys.map universal = some (start.rendered sha256 cfg).panelKeys →
      running = .generation (start.rendered sha256 cfg).gen) :
    Prog.Yields perform (fun _ => True)
      (fun answer after => answer.ok = true → Settled sha256 cfg start.panelKey after ∧
        InPlace (start.rendered sha256 cfg) host after)
      (switchFrom py (start.rendered sha256 cfg) (host.keys.map universal) running) host := by
  have moves : Prog.Yields perform (fun _ => True)
      (fun moved after => (∀ answer, moved = some answer → answer.ok = false) ∧
        (moved = none → Onward (start.rendered sha256 cfg) host after))
      (onRefused (do
        moveTo py (start.rendered sha256 cfg) (host.keys.map universal) running
        return none) fun message => do
          return some (← refusal running (start.rendered sha256 cfg).gen message)) host := by
    apply onRefused_yields
    · apply (moveTo_onward (start.rendered sha256 cfg) host running runs).bind
      intro _ after _ onward
      refine Prog.Yields.pure trivial ⟨?_, fun _ => onward⟩
      intro answer isSome
      cases isSome
    · intro message after _
      apply (verdict_returns _ false _ after).bind
      rintro answer final _ ⟨notOk, _⟩
      refine Prog.Yields.pure trivial ⟨?_, ?_⟩
      · intro other same
        cases same
        exact notOk
      · intro isNone
        cases isNone
  unfold switchFrom
  apply moves.bind
  rintro moved after _ ⟨notOk, onward⟩
  cases moved with
  | some answer =>
      refine Prog.Yields.pure trivial ?_
      intro ok
      rw [notOk answer rfl] at ok
      cases ok
  | none =>
      apply onRefused_yields
      · apply (retire_settles valid readsBack renders after).bind
        rintro _ retired _ ⟨settled, inPlace⟩
        apply (@still_yields (fun _ => True) .recorded retired trivial (by rfl)).bind
        rintro wrote final _ rfl
        apply (verdict_returns _ true _ final).mono
        rintro answer last _ ⟨_, rfl⟩ _
        exact ⟨settled, inPlace.onward (onward rfl)⟩
      · intro message failed _
        exact refused_settles _ _ failed

/-- What an ok answer says of the request and the host. -/
structure SettledBy (sha256 : Text → Text) (py : Builtins) (cfg : Config) (start after : Host) :
    Prop where
  valid : cfg.Valid py
  renders : Renders (start.rendered sha256 cfg) start
  settled : Settled sha256 cfg start.panelKey after
  inPlace : InPlace (start.rendered sha256 cfg) start after
  panelPub : after.panelPub = start.panelPub

theorem panelPub_kept {α : Type} (program : PathProg α) (host : Host) :
    program.Always perform (fun after => after.panelPub = host.panelPub)
      (fun _ after => after.panelPub = host.panelPub) host := by
  have all : program.Only (Within ⟨fun _ => True, fun _ => True, True, True⟩) := by
    induction program with
    | done outcome => trivial
    | step op next ih =>
        refine ⟨?_, fun answer => ih answer⟩
        cases op <;> trivial
  apply ((Only.agree all host (Agree.refl _ host)).weaken fun _ agrees => agrees.panelPub).mono
  intro _ _ same _
  exact same

theorem running_of_panelKeys {start : Host} (renders : Renders (start.rendered sha256 cfg) start)
    {keys : Option Text} (same : keys = some (start.rendered sha256 cfg).panelKeys) :
    runningGeneration (lineFor keys (keyBlob start.panelKey)) =
      .generation (start.rendered sha256 cfg).gen := by
  have named : IsGeneration (generation sha256 cfg) := renders.named
  rw [same]
  exact (congrArg runningGeneration (lineFor_panelKeys named renders.isKey renders.blob)).trans
    (runningGeneration_keyLine named start.panelKey)

theorem switchKeys_settles {start : Host} (valid : cfg.Valid py) (readsBack : cfg.ReadsBack)
    (renders : Renders (start.rendered sha256 cfg) start) :
    Prog.Yields perform (fun _ => True)
      (fun answer after => answer.ok = true → Settled sha256 cfg start.panelKey after ∧
        InPlace (start.rendered sha256 cfg) start after)
      (switchKeys py (start.rendered sha256 cfg) (keyBlob start.panelKey)) start := by
  unfold switchKeys
  apply (@started_yields _ _ (fun _ => True) _ _ trivial (readKeys_yields start)).bind
  rintro read after _ ⟨unchanged, held⟩
  subst unchanged
  cases read with
  | error message => exact refused_settles _ _ after
  | ok keys =>
      obtain rfl := held keys rfl
      exact switchFrom_settles valid readsBack renders _ after fun same =>
        running_of_panelKeys renders same

theorem switch_settles (hex : HexDigest sha256) (readsBack : cfg.ReadsBack) (start : Host) :
    Prog.Yields perform (fun _ => True)
      (fun answer after => answer.ok = true → SettledBy sha256 py cfg start after)
      (switch py sha256 cfg) start := by
  have kept := panelPub_kept (switch py sha256 cfg) start
  have settles : Prog.Yields perform (fun _ => True)
      (fun answer after => answer.ok = true → cfg.Valid py ∧
        Renders (start.rendered sha256 cfg) start ∧
        Settled sha256 cfg start.panelKey after ∧
        InPlace (start.rendered sha256 cfg) start after) (switch py sha256 cfg) start := by
    unfold switch
    split
    · refine Prog.Yields.pure trivial ?_
      intro ok
      cases ok
    · rename_i valid
      apply (@read_yields (fun _ => True) .readPanelPub start trivial rfl rfl
        (start.panelPub.map universal) fun _ => rfl).bind
      rintro _ after _ ⟨unchanged, rfl⟩
      subst unchanged
      dsimp only
      split
      · exact refused_settles _ _ after
      · rename_i blob
        split
        · exact refused_settles _ _ after
        · rename_i isKey
          rw [Bool.not_eq_true', Bool.not_eq_false] at isKey
          have renders : Renders (after.rendered sha256 cfg) after :=
            ⟨hex.isGeneration cfg, rfl, isKey, blob⟩
          apply (@started_yields _ _ (fun _ => True) _ _ trivial (openKeys_yields after)).bind
          rintro opened host _ ⟨rfl, _⟩
          split
          · exact refused_settles _ _ host
          · apply Prog.Yields.tryFinally (switchKeys_settles valid readsBack renders)
            intro last _
            apply (@still_yields (fun _ => True) .closeKeys last trivial (by rfl)).mono
            rintro _ final _ rfl answer settled ok
            exact ⟨valid, renders, settled ok⟩
  apply Prog.Always.weaken ((Prog.Always.and settles kept).mono ?_) fun _ _ => trivial
  rintro outcome after _ ⟨ended, same⟩ answer isOk ok
  obtain ⟨valid, renders, settled, inPlace⟩ := ended answer isOk ok
  exact ⟨valid, renders, settled, inPlace, same⟩

end Settled

end Catena.Dispatch
