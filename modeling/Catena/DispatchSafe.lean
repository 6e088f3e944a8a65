import Catena.DispatchStages

/-!
# The panel keeps a path it can dispatch through

Whole histories of switches, each to any generation, with any outcome of every
command, and each possibly cut off between any two operations.  The generation
the panel's line names stays usable as long as each run finds the rules of
another running generation in the main files, and its own directory intact.
-/

namespace Catena.Dispatch

open PyText

def Host.panelKey (host : Host) : Text :=
  stripChars isSpace ((host.panelPub.map universal).getD [])

def Host.panelLine (host : Host) : Option Text :=
  lineFor host.keys (keyBlob host.panelKey)

/-- What the panel's line runs. -/
def Host.running (host : Host) : Running :=
  runningGeneration host.panelLine

/-- A regular file with this text, up to line ends. -/
def HasText (files : PyDict Text Node) (name content : Text) : Prop :=
  ∃ plain stored, PyDict.get files name = some (.regular plain stored) ∧
    universal stored = universal content

/-- The file carries the rule, up to line ends. -/
def Carries (file : Option Text) (rule : Text) : Prop :=
  ∃ content, file = some content ∧ universal rule <:+: universal content

/-- The drop-in accepts the name. -/
def Accepts (file : Option Text) (name : Text) : Prop :=
  ∃ content, file = some content ∧ name ∈ acceptedNames content

section Safety

variable (sha256 : Text → Text)

/-- The sudo rule of a generation's dispatcher. -/
def Config.rule (cfg : Config) : Text :=
  sudoRule cfg.runnerUser (dispatcherPath (generation sha256 cfg)) cfg.names

/-- The two executables of a generation. -/
def Config.files (cfg : Config) : List (Text × Text) :=
  generationFiles (text cfg.entry) (text cfg.dispatcher)

/-- The directory of a generation holds its entry and its dispatcher. -/
def HasDirectory (host : Host) (cfg : Config) : Prop :=
  ∃ plain files, host.entry (generation sha256 cfg) = some (.directory plain files) ∧
    ∀ file ∈ cfg.files, HasText files file.1 file.2

/-- A generation the panel can dispatch through. -/
structure Serves (host : Host) (cfg : Config) : Prop where
  directory : HasDirectory sha256 host cfg
  rule : Carries (host.files .sudoers) (cfg.rule sha256) ∨
    Carries (host.files .sudoersNext) (cfg.rule sha256)
  names : ∀ name ∈ cfg.names, Accepts (host.files .acceptenv) name ∨
    Accepts (host.files .acceptenvNext) name

structure MainServes (host : Host) (cfg : Config) : Prop where
  directory : HasDirectory sha256 host cfg
  rule : Carries (host.files .sudoers) (cfg.rule sha256)
  names : ∀ name ∈ cfg.names, Accepts (host.files .acceptenv) name

variable (py : Builtins)

/-- A request whose passthrough names may be rendered. -/
def Config.Valid (cfg : Config) : Prop :=
  passthroughProblem py cfg.passthrough = none

/-- The generation the panel's line names is usable; the rules of a path an
install wrote are as they were. -/
@[irreducible]
def Usable (legacy : Option Text × Option Text) (host : Host) : Prop :=
  match host.running with
  | .none => False
  | .legacy => host.files .sudoers = legacy.1 ∧ host.files .acceptenv = legacy.2
  | .generation gen => ∃ cfg : Config, cfg.Valid py ∧ generation sha256 cfg = gen ∧
      Serves sha256 host cfg

/-- The scripts read back as they are written. -/
def Config.Clean (cfg : Config) : Prop :=
  ∀ file ∈ cfg.files, '\r' ∉ file.2

/-- What a run has to find: where its own generation runs, an intact directory;
where another one does, that one's rules in the main files. -/
@[irreducible]
def Ready (host : Host) (cfg : Config) : Prop :=
  if host.running = .generation (generation sha256 cfg) then
    host.intact (generation sha256 cfg) cfg.files = true ∧ Serves sha256 host cfg
  else
    cfg.Clean ∧ ∀ gen, host.running = .generation gen →
      ∃ other : Config, other.Valid py ∧ generation sha256 other = gen ∧
        MainServes sha256 host other

variable {sha256 py} {cfg : Config} {legacy : Option Text × Option Text}

theorem Config.Clean.entry (clean : cfg.Clean) : '\r' ∉ text cfg.entry :=
  clean ("entry".toList, _) (List.mem_cons_self ..)

theorem Config.Clean.dispatcher (clean : cfg.Clean) : '\r' ∉ text cfg.dispatcher :=
  clean ("dispatcher".toList, _) (List.mem_cons_of_mem _ (List.mem_cons_self ..))

theorem MainServes.serves {host : Host} (serves : MainServes sha256 host cfg) :
    Serves sha256 host cfg :=
  ⟨serves.directory, Or.inl serves.rule, fun name found => Or.inl (serves.names name found)⟩

section Agreement

variable {before after : Host} (agrees : Agree noReach before after)

include agrees

theorem running_agree : after.running = before.running := by
  simp only [Host.running, Host.panelLine, Host.panelKey, agrees.panelPub,
    agrees.keys not_false]

theorem HasDirectory.agree (held : HasDirectory sha256 before cfg) :
    HasDirectory sha256 after cfg := by
  obtain ⟨plain, files, found, texts⟩ := held
  exact ⟨plain, files, (agrees.entry _ not_false).trans found, texts⟩

theorem Serves.agree (serves : Serves sha256 before cfg) : Serves sha256 after cfg := by
  have files (slot : Slot) : after.files slot = before.files slot :=
    agrees.files slot not_false
  constructor
  · exact serves.directory.agree agrees
  · rw [files, files]
    exact serves.rule
  · intro name found
    rw [files, files]
    exact serves.names name found

theorem MainServes.agree (serves : MainServes sha256 before cfg) :
    MainServes sha256 after cfg := by
  have files (slot : Slot) : after.files slot = before.files slot :=
    agrees.files slot not_false
  constructor
  · exact serves.directory.agree agrees
  · rw [files]
    exact serves.rule
  · intro name found
    rw [files]
    exact serves.names name found

/-- Usability is a matter of the key, the keys, the rule files and the
generations. -/
theorem Usable.agree (usable : Usable sha256 py legacy before) :
    Usable sha256 py legacy after := by
  unfold Usable at usable ⊢
  rw [running_agree agrees]
  split at usable
  · exact usable
  · rw [agrees.files _ not_false, agrees.files _ not_false]
    exact usable
  · obtain ⟨other, valid, named, serves⟩ := usable
    exact ⟨other, valid, named, serves.agree agrees⟩

theorem Ready.agree (ready : Ready sha256 py before cfg) : Ready sha256 py after cfg := by
  unfold Ready at ready ⊢
  rw [running_agree agrees]
  split at ready
  · rename_i runs
    rw [if_pos runs, Host.intact, agrees.entry _ not_false]
    exact ⟨ready.1, ready.2.agree agrees⟩
  · rename_i runs
    rw [if_neg runs]
    refine ⟨ready.1, ?_⟩
    intro gen running
    obtain ⟨other, valid, named, serves⟩ := ready.2 gen running
    exact ⟨other, valid, named, serves.agree agrees⟩

end Agreement

theorem hasDirectory_of_intact {host : Host}
    (intact : host.intact (generation sha256 cfg) cfg.files = true) :
    HasDirectory sha256 host cfg := by
  unfold Host.intact at intact
  split at intact
  · rename_i files held
    rw [Bool.and_eq_true, List.all_eq_true] at intact
    refine ⟨true, files, held, ?_⟩
    intro file found
    have plain := intact.2 file found
    unfold Host.holdsPlain at plain
    split at plain
    · rename_i content stored
      rw [beq_iff_eq] at plain
      refine ⟨true, content, stored, ?_⟩
      rw [← plain, universal_of_clean (not_mem_universal content)]
    · cases plain
  · cases intact

theorem carries_of_reads {host : Host} {slot : Slot} {rule : Text}
    (reads : Reads host slot rule) : Carries (host.files slot) rule := by
  obtain ⟨content, held, same⟩ := Option.map_eq_some_iff.mp reads
  exact ⟨content, held, same ▸ List.infix_rfl⟩

theorem acceptedNames_universal (content : Text) :
    acceptedNames (universal content) = acceptedNames content := by
  rw [acceptedNames, acceptedNames, splitLines_universal]

theorem accepts_of_reads {host : Host} {slot : Slot} (valid : cfg.Valid py)
    (reads : Reads host slot (acceptenvRule cfg.runnerUser cfg.names)) :
    ∀ name ∈ cfg.names, Accepts (host.files slot) name := by
  intro name found
  obtain ⟨content, held, same⟩ := Option.map_eq_some_iff.mp reads
  refine ⟨content, held, ?_⟩
  rw [← acceptedNames_universal content, same, acceptedNames_universal]
  exact acceptedNames_acceptenvRule cfg.runnerUser (names_solid valid) name found

/-- What a move may change before the panel's line moves. -/
def besideReach (gen : Text) : Reach :=
  ⟨fun slot => slot = .sudoersNext ∨ slot = .acceptenvNext,
    fun name => name = gen ∨ name = buildName gen, True, False⟩

/-- The panel's line, the main files and the running generation are as the run
found them. -/
structure Before (gen : Text) (start now : Host) : Prop where
  agrees : Agree (besideReach gen) start now
  line : now.panelLine = start.panelLine

theorem panelLine_of_keys {before after : Host} (panelPub : after.panelPub = before.panelPub)
    (keys : after.keys = before.keys) : after.panelLine = before.panelLine := by
  simp only [Host.panelLine, Host.panelKey, panelPub, keys]

theorem Before.refl (gen : Text) (start : Host) : Before gen start start :=
  ⟨Agree.refl _ _, rfl⟩

/-- A part that leaves the keys alone, within the move's reach. -/
theorem Before.after {gen : Text} {start now next : Host} {reach : Reach}
    (before : Before gen start now) (agrees : Agree reach now next)
    (slots : ∀ slot, reach.slots slot → slot = .sudoersNext ∨ slot = .acceptenvNext)
    (names : ∀ name, reach.names name → name = gen ∨ name = buildName gen)
    (keys : ¬ reach.keys) (link : ¬ reach.link) : Before gen start next where
  agrees := before.agrees.trans
    (agrees.widen slots names (fun _ => trivial) fun inside => link inside)
  line := (panelLine_of_keys agrees.panelPub (agrees.keys keys)).trans before.line

theorem Before.quiet {gen : Text} {start now next : Host}
    (before : Before gen start now) (agrees : Agree noReach now next) :
    Before gen start next :=
  before.after agrees (fun _ inside => inside.elim) (fun _ inside => inside.elim)
    not_false not_false

theorem isHex_buildName {gen other : Text} (named : IsGeneration other) :
    other ≠ buildName gen := by
  rintro rfl
  have dot : isHex '.' = true :=
    List.all_eq_true.mp named.2 '.' (List.mem_cons_self ..)
  exact absurd dot (by decide)

theorem isGeneration_of_running {line : Option Text} {gen : Text}
    (runs : runningGeneration line = .generation gen) : IsGeneration gen := by
  unfold runningGeneration at runs
  split at runs
  · cases runs
  · split at runs
    · rename_i found
      cases runs
      obtain ⟨command, -, entry⟩ := Option.bind_eq_some_iff.mp found
      unfold entryGeneration at entry
      split at entry
      · dsimp only at entry
        split at entry
        · rename_i shape
          cases entry
          exact ⟨shape.1, shape.2.1⟩
        · cases entry
      · cases entry
    · cases runs

/-- Before the switch, what ran still runs. -/
theorem usable_of_before {start now : Host} (usable : Usable sha256 py legacy start)
    (ready : Ready sha256 py start cfg)
    (other : start.running ≠ .generation (generation sha256 cfg))
    (before : Before (generation sha256 cfg) start now) : Usable sha256 py legacy now := by
  rw [Ready, if_neg other] at ready
  have running : now.running = start.running := by
    rw [Host.running, before.line, Host.running]
  have sudoers : now.files .sudoers = start.files .sudoers :=
    before.agrees.files _ (by simp [besideReach])
  have acceptenv : now.files .acceptenv = start.files .acceptenv :=
    before.agrees.files _ (by simp [besideReach])
  unfold Usable at usable ⊢
  rw [running]
  cases runs : start.running with
  | none =>
      rw [runs] at usable
      exact usable
  | legacy =>
      rw [runs] at usable
      rw [sudoers, acceptenv]
      exact usable
  | generation gen =>
      obtain ⟨held, valid, named, serves⟩ := ready.2 gen runs
      have distinct : gen ≠ generation sha256 cfg := by
        rintro rfl
        exact other runs
      have untouched : now.entry gen = start.entry gen := by
        apply before.agrees.entry
        rintro (same | built)
        · exact distinct same
        · exact isHex_buildName (isGeneration_of_running runs) built
      refine ⟨held, valid, named, MainServes.serves ⟨?_, ?_, ?_⟩⟩
      · obtain ⟨plain, files, found, texts⟩ := serves.directory
        refine ⟨plain, files, ?_, texts⟩
        rw [named] at found ⊢
        rw [untouched, found]
      · rw [sudoers]
        exact serves.rule
      · rw [acceptenv]
        exact serves.names

/-- The generation is in place beside the running one. -/
structure Fit (path : Rendered) (host : Host) : Prop where
  intact : host.intact path.gen (generationFiles path.entry path.dispatcher) = true
  rule : Reads host .sudoersNext path.rule
  accept : Reads host .acceptenvNext path.accept

theorem intact_congr {before after : Host} {gen : Text}
    (same : after.entry gen = before.entry gen) (files : List (Text × Text)) :
    after.intact gen files = before.intact gen files := by
  rw [Host.intact, Host.intact, same]

theorem reads_congr {before after : Host} {slot : Slot} {content : Text}
    (same : after.files slot = before.files slot) (reads : Reads before slot content) :
    Reads after slot content := by
  rw [Reads, same]
  exact reads

/-- A part that leaves the rule files and the generation alone. -/
theorem Fit.after {path : Rendered} {now next : Host} {reach : Reach}
    (fit : Fit path now) (agrees : Agree reach now next) (slots : ∀ slot, ¬ reach.slots slot)
    (names : ¬ reach.names path.gen) : Fit path next where
  intact := by
    rw [intact_congr (agrees.entry _ names)]
    exact fit.intact
  rule := reads_congr (agrees.files _ (slots _)) fit.rule
  accept := reads_congr (agrees.files _ (slots _)) fit.accept

theorem beside_yields {path : Rendered} {start now : Host}
    (before : Before path.gen start now) (entryClean : '\r' ∉ path.entry)
    (dispatcherClean : '\r' ∉ path.dispatcher) :
    Prog.Yields perform (Before path.gen start)
      (fun _ after => Before path.gen start after ∧ Fit path after) (beside path) now := by
  have installing {host after : Host} (here : Before path.gen start host)
      (agrees : Agree (generationReach path.gen) host after) : Before path.gen start after :=
    here.after agrees (fun _ inside => inside.elim) (fun _ inside => inside)
      not_false not_false
  have changing {host after : Host} {slot : Slot} {target : Option Text → Prop}
      (next : slot = .sudoersNext ∨ slot = .acceptenvNext)
      (here : Before path.gen start host) (changed : Changing slot target host after) :
      Before path.gen start after :=
    here.after changed.agrees (fun other same => same ▸ next) (fun _ inside => inside.elim)
      not_false not_false
  unfold beside
  apply (Prog.Yields.weaken (installGeneration_yields entryClean dispatcherClean now)
    fun _ => installing before).bind
  rintro _ installed installedBefore ⟨_, intact⟩
  apply (Prog.Yields.weaken (write_yields .sudoersNext path.rule 0o440 visudo installed)
    fun _ => changing (Or.inl rfl) installedBefore).bind
  rintro _ ruled ruledBefore ⟨writing, rule⟩
  have placing := Prog.Yields.mono
    (placeSshd_yields .acceptenvNext path.accept ruled)
    fun _ after placed reads => And.intro placed reads
  apply (placing.weaken fun _ => changing (Or.inr rfl) ruledBefore).bind
  rintro _ placed placedBefore ⟨changed, accept⟩
  refine Prog.Yields.pure placedBefore ⟨placedBefore, ?_, ?_, accept⟩
  · rw [intact_congr (changed.agrees.entry _ not_false),
      intact_congr (writing.agrees.entry _ not_false)]
    exact intact
  · exact reads_congr (changed.agrees.files _ (by simp [fileReach])) rule

/-- Only the keys have changed, and the panel's line is the same. -/
theorem Before.keying {gen content : Text} {start now next : Host}
    (before : Before gen start now) (keying : Keying content now next)
    (sameLine : lineFor (some content) (keyBlob start.panelKey) = start.panelLine) :
    Before gen start next where
  agrees := before.agrees.trans (keying.agrees.widen (fun _ inside => inside.elim)
    (fun _ inside => inside.elim) (fun _ => trivial) fun inside => inside.elim)
  line := by
    have key : next.panelKey = start.panelKey := by
      simp only [Host.panelKey, keying.agrees.panelPub, before.agrees.panelPub]
    rcases keying.keys with same | new
    · exact (panelLine_of_keys keying.agrees.panelPub same).trans before.line
    · rw [Host.panelLine, new, key]
      exact sameLine

/-- The generation is in place, and the panel's line has not moved. -/
structure BeforeFit (path : Rendered) (start now : Host) : Prop where
  before : Before path.gen start now
  fit : Fit path now

theorem BeforeFit.quiet {path : Rendered} {start now next : Host}
    (here : BeforeFit path start now) (agrees : Agree noReach now next) :
    BeforeFit path start next :=
  ⟨here.before.quiet agrees, here.fit.after agrees (fun _ => not_false) not_false⟩

theorem BeforeFit.keying {path : Rendered} {content : Text} {start now next : Host}
    (here : BeforeFit path start now) (keying : Keying content now next)
    (sameLine : lineFor (some content) (keyBlob start.panelKey) = start.panelLine) :
    BeforeFit path start next :=
  ⟨here.before.keying keying sameLine,
    here.fit.after keying.agrees (fun _ => not_false) not_false⟩

structure ReadKeys (start : Host) (kept : Text) : Prop where
  clean : '\r' ∉ kept
  line : lineFor (some kept) (keyBlob start.panelKey) = start.panelLine

theorem proofKeys_line {start : Host} {kept line : Text} (read : ReadKeys start kept)
    (found : start.panelLine = some line) (gen pub expires : Text) :
    lineFor (some (proofKeys gen (some kept) pub expires)) (keyBlob start.panelKey) =
      start.panelLine := by
  have same := read.line.trans found
  rw [found]
  exact lineFor_append read.clean same _

theorem keysWrite_yields {path : Rendered} {start now : Host} {content : Text}
    (here : BeforeFit path start now) (cfg : Config)
    (sameLine : lineFor (some content) (keyBlob start.panelKey) = start.panelLine) :
    Prog.Yields perform (BeforeFit path start) (fun _ _ => True)
      (writeKeys cfg content) now := by
  apply Prog.Always.weaken ((writeKeys_always cfg content now).mono ?_)
  · intro after keying
    exact here.keying keying sameLine
  · intro _ _ _ _ _ _
    trivial

theorem ask_beforeFit {path : Rendered} {start now : Host} {op : Op}
    (here : BeforeFit path start now) (quiet : Within noReach op) :
    Prog.Yields perform (BeforeFit path start) (fun _ _ => True) (ask op) now :=
  Prog.Yields.mono (quiet_yields here quiet fun _ => here.quiet) fun _ _ _ _ => trivial

theorem prove_beforeFit {path : Rendered} {start now : Host}
    (here : BeforeFit path start now) (cfg : Config) (key gen : Text) :
    Prog.Yields perform (BeforeFit path start) (fun _ _ => True)
      (prove py cfg key gen) now := by
  apply Prog.Yields.mono
    (Prog.Yields.weaken (only_yields (only_prove py cfg key gen) now) fun _ => here.quiet)
  intro _ _ _ _
  trivial

theorem proveBeside_yields {path : Rendered} {start now : Host} {kept line : Text}
    (here : BeforeFit path start now) (read : ReadKeys start kept)
    (found : start.panelLine = some line) (cfg : Config) :
    Prog.Yields perform (BeforeFit path start) (fun _ _ => True)
      (proveBeside py cfg path.gen (some kept)) now := by
  unfold proveBeside
  apply (ask_beforeFit here (by trivial)).bind
  intro dir made madeHere _
  have proved : Prog.Yields perform (BeforeFit path start) (fun _ _ => True) (do
      let ran ← ask (.run (["/usr/bin/ssh-keygen", "-q", "-t", "ed25519", "-N", "", "-C",
        "", "-f"].map String.toList ++ [proofKey dir]))
      if ran.code ≠ 0 then
        return ["ssh-keygen could not mint the proof key: " ++ tail ran.stderr]
      else do
        let pub ← ask (.readProofPub dir)
        let expires ← ask .expires
        let _ ← writeKeys cfg
          (proofKeys path.gen (some kept) (stripChars isSpace pub) expires)
        Prog.tryFinally (prove py cfg (proofKey dir) path.gen)
          (putBackKeys cfg (some kept))) made := by
    apply (ask_beforeFit madeHere (by trivial)).bind
    intro ran minted mintedHere _
    split
    · exact Prog.Yields.pure mintedHere trivial
    · apply (ask_beforeFit mintedHere (by trivial)).bind
      intro pub known knownHere _
      apply (ask_beforeFit knownHere (by trivial)).bind
      intro expires timed timedHere _
      apply (keysWrite_yields timedHere cfg
        (proofKeys_line read found _ _ expires)).bind
      intro _ opened openedHere _
      apply Prog.Yields.tryFinally (prove_beforeFit openedHere cfg _ _)
      intro after afterHere
      apply (keysWrite_yields afterHere cfg read.line).bind
      intro _ closed closedHere _
      exact Prog.Yields.pure closedHere fun _ _ => trivial
  apply Prog.Yields.tryFinally proved
  intro after afterHere
  have removed : Prog.Yields perform (BeforeFit path start) (fun _ _ => True)
      (ask (.removeProofDir dir)) after :=
    ask_beforeFit afterHere (by trivial)
  exact removed.mono fun _ _ _ _ _ _ => trivial

theorem proof_yields {path : Rendered} {start now : Host} {kept line : Text}
    (here : BeforeFit path start now) (read : ReadKeys start kept)
    (found : start.panelLine = some line) :
    Prog.Yields perform (BeforeFit path start) (fun _ _ => True)
      (proof py path (some kept)) now := by
  have reloads := Prog.Yields.weaken (only_yields only_sshdReload now) fun _ => here.quiet
  unfold proof
  apply reloads.bind
  intro _ loaded loadedHere _
  apply (proveBeside_yields loadedHere read found path.cfg).bind
  intro reasons proved provedHere _
  split
  · exact Prog.Yields.raise provedHere
  · exact Prog.Yields.pure provedHere trivial

def PanelLine (path : Rendered) (start host : Host) : Prop :=
  host.panelLine = some (keyLine (entryPath path.gen) start.panelKey false [])

/-- The panel's line has moved to the generation, and what ran before is still
there to go back to. -/
structure Switched (path : Rendered) (start now : Host) : Prop where
  agrees : Agree (besideReach path.gen) start now
  line : PanelLine path start now
  fit : Fit path now

theorem Switched.quiet {path : Rendered} {start now next : Host}
    (switched : Switched path start now) (agrees : Agree noReach now next) :
    Switched path start next where
  agrees := switched.agrees.trans agrees.ofNoReach
  line := (panelLine_of_keys agrees.panelPub (agrees.keys not_false)).trans switched.line
  fit := switched.fit.after agrees (fun _ => not_false) not_false

theorem panelLine_of_read {host : Host} {content : Text}
    (keys : host.keys.map universal = some (universal content)) :
    host.panelLine = lineFor (some content) (keyBlob host.panelKey) := by
  obtain ⟨stored, held, same⟩ := Option.map_eq_some_iff.mp keys
  rw [Host.panelLine, held, ← lineFor_universal stored, same, lineFor_universal]

theorem BeforeFit.sameKeys {path : Rendered} {start now next : Host}
    (here : BeforeFit path start now) (agrees : Agree keysReach now next)
    (same : next.keys = now.keys) : BeforeFit path start next where
  before :=
    { agrees := here.before.agrees.trans (agrees.widen (fun _ inside => inside.elim)
        (fun _ inside => inside.elim) (fun _ => trivial) fun inside => inside.elim)
      line := (panelLine_of_keys agrees.panelPub same).trans here.before.line }
  fit := here.fit.after agrees (fun _ => not_false) not_false

theorem BeforeFit.switched {path : Rendered} {start now next : Host}
    (here : BeforeFit path start now) (agrees : Agree keysReach now next)
    (line : PanelLine path start next) : Switched path start next where
  agrees := here.before.agrees.trans (agrees.widen (fun _ inside => inside.elim)
    (fun _ inside => inside.elim) (fun _ => trivial) fun inside => inside.elim)
  line := line
  fit := here.fit.after agrees (fun _ => not_false) not_false

/-- The rendered keys run the generation. -/
structure Renders (path : Rendered) (start : Host) : Prop where
  named : IsGeneration path.gen
  keys : path.panelKeys = panelKeys path.gen start.panelKey
  isKey : isPanelKey start.panelKey = true
  blob : keyBlob start.panelKey ≠ []

theorem Renders.line {path : Rendered} {start host : Host} (renders : Renders path start)
    (panelPub : host.panelPub = start.panelPub)
    (keys : host.keys.map universal = some (universal path.panelKeys)) :
    PanelLine path start host := by
  have key : host.panelKey = start.panelKey := by
    simp only [Host.panelKey, panelPub]
  rw [PanelLine, panelLine_of_read keys, renders.keys, key]
  exact lineFor_panelKeys renders.named renders.isKey renders.blob

/-- What a part leaves when it returns, and when it fails. -/
def Leaves {α : Type} (ends : α → Host → Prop) (failed : Host → Prop) :
    Except Failure α → Host → Prop
  | .ok value, after => ends value after
  | .error _, after => failed after

theorem moveKeys_always {path : Rendered} {start now : Host} (renders : Renders path start)
    (here : BeforeFit path start now) :
    (writeKeys path.cfg path.panelKeys).Always perform
      (fun after => BeforeFit path start after ∨ Switched path start after)
      (Leaves (fun _ after => Switched path start after) (BeforeFit path start)) now := by
  have panelPub {after : Host} (agrees : Agree keysReach now after) :
      after.panelPub = start.panelPub :=
    agrees.panelPub.trans here.before.agrees.panelPub
  apply Prog.Always.weaken ((writeKeys_always path.cfg path.panelKeys now).mono ?_)
  · intro after keying
    rcases keying.keys with same | new
    · exact Or.inl (here.sameKeys keying.agrees same)
    · have reads : after.keys.map universal = some (universal path.panelKeys) := by
        rw [new]
        rfl
      exact Or.inr (here.switched keying.agrees
        (renders.line (panelPub keying.agrees) reads))
  · intro outcome after keying ended
    cases outcome with
    | ok value =>
        exact here.switched ended.agrees (renders.line (panelPub ended.agrees) ended.keys)
    | error failure => exact here.sameKeys keying.agrees ended

/-- What runs after a failure finds what the failure left. -/
theorem onFailure_yields {α : Type} {program : PathProg α} {cleanup : PathProg Unit}
    {holds failed : Host → Prop} {ends : α → Host → Prop} {host : Host}
    (first : program.Always perform holds (Leaves ends failed) host)
    (undone : ∀ after, failed after →
      Prog.Yields perform holds (fun _ _ => True) cleanup after) :
    Prog.Yields perform holds ends (onFailure program cleanup) host := by
  unfold Prog.Yields onFailure Prog.tryExcept
  rw [Prog.always_andThen]
  refine first.mono ?_
  intro outcome after here ended
  cases outcome with
  | ok value =>
      refine ⟨here, ?_⟩
      intro result ok
      cases ok
      exact ended
  | error failure =>
      apply (undone after ended).bind
      intro _ final finalHere _
      exact Prog.Yields.raise finalHere

/-- A part that keeps to a stage fails in that stage. -/
theorem always_of_yields {α : Type} {program : PathProg α} {stage holds : Host → Prop}
    {ends : α → Host → Prop} {host : Host} (yields : Prog.Yields perform stage ends program host)
    (implied : ∀ after, stage after → holds after) :
    program.Always perform holds
      (Leaves (fun value after => stage after ∧ ends value after) stage) host := by
  apply Prog.Always.weaken (Prog.Always.mono yields ?_) implied
  intro outcome after here ended
  cases outcome with
  | ok value => exact ⟨here, ended value rfl⟩
  | error failure => exact here

theorem undo_yields {gen : Text} {start now : Host} (before : Before gen start now)
    (reloaded : Bool) :
    Prog.Yields perform (Before gen start) (fun _ _ => True) (undo gen reloaded) now := by
  have only := @only_undo ⟨fun slot => slot = .sudoersNext ∨ slot = .acceptenvNext,
    fun name => name = gen, False, False⟩ gen rfl (Or.inl rfl) (Or.inr rfl) reloaded
  apply Prog.Yields.mono (Prog.Yields.weaken (only_yields only now) ?_)
  · intro _ _ _ _
    trivial
  · intro after agrees
    exact before.after agrees (fun _ inside => inside) (fun _ inside => Or.inl inside)
      not_false not_false

/-- The keys the run found are put back. -/
theorem restoreKeys_yields {path : Rendered} {start now : Host} {kept : Text}
    (switched : Switched path start now) (read : ReadKeys start kept) :
    Prog.Yields perform
      (fun after => Before path.gen start after ∨ Switched path start after)
      (fun _ after => Before path.gen start after)
      (putBackKeys path.cfg (some kept)) now := by
  have widened {after : Host} (agrees : Agree keysReach now after) :
      Agree (besideReach path.gen) start after :=
    switched.agrees.trans (agrees.widen (fun _ inside => inside.elim)
      (fun _ inside => inside.elim) (fun _ => trivial) fun inside => inside.elim)
  have lineBack {after : Host} (agrees : Agree keysReach now after)
      (keys : after.keys.map universal = some (universal kept)) :
      after.panelLine = start.panelLine := by
    have key : after.panelKey = start.panelKey := by
      simp only [Host.panelKey, agrees.panelPub, switched.agrees.panelPub]
    rw [panelLine_of_read keys, key]
    exact read.line
  have writing : Prog.Yields perform
      (fun after => Before path.gen start after ∨ Switched path start after)
      (fun _ after => Before path.gen start after) (writeKeys path.cfg kept) now := by
    apply Prog.Always.weaken ((writeKeys_always path.cfg kept now).mono ?_)
    · intro after keying
      rcases keying.keys with same | new
      · right
        exact ⟨widened keying.agrees,
          (panelLine_of_keys keying.agrees.panelPub same).trans switched.line,
          switched.fit.after keying.agrees (fun _ => not_false) not_false⟩
      · left
        have reads : after.keys.map universal = some (universal kept) := by
          rw [new]
          rfl
        exact ⟨widened keying.agrees, lineBack keying.agrees reads⟩
    · intro outcome after _ ended value ok
      subst ok
      exact ⟨widened ended.agrees, lineBack ended.agrees ended.keys⟩
  apply writing.bind
  intro _ after here before
  exact Prog.Yields.pure here before

variable (sha256) in
/-- What a run renders for its request, with the key it found. -/
def Host.rendered (start : Host) (cfg : Config) : Rendered :=
  render cfg (generation sha256 cfg) (cfg.panelKeyDir ++ "/id_ed25519".toList)
    start.panelKey

variable (sha256) in
/-- The panel dispatches through this request's generation. -/
structure Serving (cfg : Config) (start now : Host) : Prop where
  panelPub : now.panelPub = start.panelPub
  running : now.running = .generation (generation sha256 cfg)
  intact : now.intact (generation sha256 cfg) cfg.files = true
  rule : Carries (now.files .sudoers) (cfg.rule sha256) ∨
    Carries (now.files .sudoersNext) (cfg.rule sha256)
  names : ∀ name ∈ cfg.names, Accepts (now.files .acceptenv) name ∨
    Accepts (now.files .acceptenvNext) name

theorem usable_of_serving {start now : Host} (valid : cfg.Valid py)
    (serving : Serving sha256 cfg start now) : Usable sha256 py legacy now := by
  unfold Usable
  rw [serving.running]
  exact ⟨cfg, valid, rfl, hasDirectory_of_intact serving.intact, serving.rule, serving.names⟩

theorem running_of_panelLine {path : Rendered} {start now : Host}
    (renders : Renders path start) (line : PanelLine path start now) :
    now.running = .generation path.gen := by
  rw [Host.running, line]
  exact runningGeneration_keyLine renders.named start.panelKey

theorem serving_of_switched {start now : Host} (valid : cfg.Valid py)
    (renders : Renders (start.rendered sha256 cfg) start)
    (switched : Switched (start.rendered sha256 cfg) start now) :
    Serving sha256 cfg start now where
  panelPub := switched.agrees.panelPub
  running := running_of_panelLine renders switched.line
  intact := switched.fit.intact
  rule := Or.inr (carries_of_reads switched.fit.rule)
  names name found := Or.inr (accepts_of_reads valid switched.fit.accept name found)

theorem running_of_keys {before after : Host} (panelPub : after.panelPub = before.panelPub)
    (keys : after.keys = before.keys) : after.running = before.running := by
  rw [Host.running, Host.running, panelLine_of_keys panelPub keys]

theorem retireKeys_yields {start now : Host}
    (renders : Renders (start.rendered sha256 cfg) start)
    (serving : Serving sha256 cfg start now) :
    Prog.Yields perform (Serving sha256 cfg start) (fun _ _ => True)
      (writeKeys cfg (start.rendered sha256 cfg).panelKeys) now := by
  apply Prog.Always.weaken ((writeKeys_always cfg _ now).mono fun _ _ _ _ _ _ => trivial)
  intro after keying
  have panelPub := keying.agrees.panelPub.trans serving.panelPub
  have files (slot : Slot) : after.files slot = now.files slot :=
    keying.agrees.files slot not_false
  constructor
  · exact panelPub
  · rcases keying.keys with same | new
    · rw [running_of_keys keying.agrees.panelPub same]
      exact serving.running
    · have reads : after.keys.map universal =
          some (universal (start.rendered sha256 cfg).panelKeys) := by
        rw [new]
        rfl
      exact running_of_panelLine renders (renders.line panelPub reads)
  · rw [intact_congr (keying.agrees.entry _ not_false)]
    exact serving.intact
  · rw [files, files]
    exact serving.rule
  · rw [files, files]
    exact serving.names

theorem Serving.changing {start now next : Host} {slot : Slot}
    {target : Option Text → Prop} (serving : Serving sha256 cfg start now)
    (changing : Changing slot target now next)
    (rule : Carries (next.files .sudoers) (cfg.rule sha256) ∨
      Carries (next.files .sudoersNext) (cfg.rule sha256))
    (names : ∀ name ∈ cfg.names, Accepts (next.files .acceptenv) name ∨
      Accepts (next.files .acceptenvNext) name) : Serving sha256 cfg start next where
  panelPub := changing.agrees.panelPub.trans serving.panelPub
  running := by
    rw [running_of_keys changing.agrees.panelPub (changing.agrees.keys not_false)]
    exact serving.running
  intact := by
    rw [intact_congr (changing.agrees.entry _ not_false)]
    exact serving.intact
  rule := rule
  names := names

theorem carries_self (rule : Text) : Carries (some rule) rule :=
  ⟨rule, rfl, List.infix_rfl⟩

theorem retireRule_yields {start now : Host} (serving : Serving sha256 cfg start now)
    (mode : Nat) (check : List Text) :
    Prog.Yields perform (Serving sha256 cfg start)
      (fun _ after => Reads after .sudoers (cfg.rule sha256))
      (write .sudoers (cfg.rule sha256) mode check) now := by
  have ends := Prog.Yields.mono (write_yields .sudoers (cfg.rule sha256) mode check now)
    fun _ _ _ ended => ended.2
  apply ends.weaken
  intro after writing
  have others {slot : Slot} (ne : slot ≠ .sudoers) : after.files slot = now.files slot :=
    writing.agrees.files slot ne
  apply serving.changing writing
  · rcases writing.file with same | new
    · rw [same, others (by decide)]
      exact serving.rule
    · rw [new]
      exact Or.inl (carries_self _)
  · rw [others (by decide), others (by decide)]
    exact serving.names

theorem accepts_universal {file : Option Text} {name : Text} (accepts : Accepts file name) :
    Accepts (file.map universal) name := by
  obtain ⟨content, rfl, found⟩ := accepts
  refine ⟨universal content, rfl, ?_⟩
  rw [acceptedNames_universal]
  exact found

theorem retireAccept_yields {start now : Host} (valid : cfg.Valid py)
    (serving : Serving sha256 cfg start now)
    (ruled : Reads now .sudoers (cfg.rule sha256)) :
    Prog.Yields perform (Serving sha256 cfg start)
      (fun _ after => Reads after .sudoers (cfg.rule sha256) ∧
        Reads after .acceptenv (acceptenvRule cfg.runnerUser cfg.names))
      (placeSshd .acceptenv (acceptenvRule cfg.runnerUser cfg.names)) now := by
  have placed := Prog.Yields.mono
    (placeSshd_yields .acceptenv (acceptenvRule cfg.runnerUser cfg.names) now)
    fun _ after changing reads => And.intro
      (reads_congr (changing.agrees.files .sudoers (by simp [fileReach])) ruled) reads
  apply placed.weaken
  intro after changing
  have others {slot : Slot} (ne : slot ≠ .acceptenv) : after.files slot = now.files slot :=
    changing.agrees.files slot ne
  apply serving.changing changing
  · rw [others (by decide), others (by decide)]
    exact serving.rule
  · intro name found
    rw [others (by decide : Slot.acceptenvNext ≠ .acceptenv)]
    rcases changing.file with same | new | back
    · rw [same]
      exact serving.names name found
    · rw [new]
      exact Or.inl ⟨_, rfl,
        acceptedNames_acceptenvRule cfg.runnerUser (names_solid valid) name found⟩
    · rw [back]
      exact (serving.names name found).imp_left accepts_universal

/-- What may still change once the main files hold the rules. -/
def tidyReach (gen : Text) : Reach :=
  ⟨fun slot => slot = .sudoersNext ∨ slot = .acceptenvNext, fun name => name ≠ gen, False,
    True⟩

/-- The rest of RETIRE leaves the main files and the generation alone. -/
theorem Serving.tidied {start now next : Host} (valid : cfg.Valid py)
    (serving : Serving sha256 cfg start now)
    (ruled : Reads now .sudoers (cfg.rule sha256))
    (accepted : Reads now .acceptenv (acceptenvRule cfg.runnerUser cfg.names))
    (agrees : Agree (tidyReach (generation sha256 cfg)) now next) :
    Serving sha256 cfg start next where
  panelPub := agrees.panelPub.trans serving.panelPub
  running := by
    rw [running_of_keys agrees.panelPub (agrees.keys not_false)]
    exact serving.running
  intact := by
    rw [intact_congr (agrees.entry _ (by simp [tidyReach]))]
    exact serving.intact
  rule := Or.inl (carries_of_reads
    (reads_congr (agrees.files _ (by simp [tidyReach])) ruled))
  names name found := Or.inl (accepts_of_reads valid
    (reads_congr (agrees.files _ (by simp [tidyReach])) accepted) name found)

theorem retire_yields {start now : Host} (valid : cfg.Valid py)
    (renders : Renders (start.rendered sha256 cfg) start)
    (serving : Serving sha256 cfg start now) :
    Prog.Yields perform (Serving sha256 cfg start) (fun _ _ => True)
      (retire py (start.rendered sha256 cfg)) now := by
  unfold retire
  have compared : Prog.Yields perform (Serving sha256 cfg start) (fun _ _ => True)
      (installGeneration (generation sha256 cfg) (text cfg.entry) (text cfg.dispatcher))
      now := by
    refine ⟨serving, fun choice => ?_⟩
    rw [perform_isIntact]
    have intact : now.intact (generation sha256 cfg)
        (generationFiles (text cfg.entry) (text cfg.dispatcher)) = true :=
      serving.intact
    simp only [Prog.andThen, Prog.onOk, intact, if_true]
    exact Prog.Yields.pure serving trivial
  apply compared.bind
  intro installed first firstServing _
  apply (retireKeys_yields renders firstServing).bind
  intro rekeyed second secondServing _
  apply (retireRule_yields secondServing 0o440 visudo).bind
  intro ruled third thirdServing rule
  apply (retireAccept_yields valid thirdServing rule).bind
  rintro placed fourth fourthServing ⟨fourthRule, fourthAccept⟩
  have only : (do
      settleRules py (start.rendered sha256 cfg) (installed || rekeyed || ruled) placed
      tidy (start.rendered sha256 cfg)).Only
        (Within (tidyReach (generation sha256 cfg))) :=
    (only_settleRules py (Or.inl rfl) (Or.inr rfl) _ _).bind fun _ =>
      only_tidy (fun _ ne => ne) trivial
  apply Prog.Yields.mono (Prog.Yields.weaken (only_yields only fourth)
    fun _ => fourthServing.tidied valid fourthRule fourthAccept)
  intro _ _ _ _
  trivial

theorem move_yields {start now : Host} {kept line : Text}
    (usable : ∀ after, Before (generation sha256 cfg) start after →
      Usable sha256 py legacy after)
    (valid : cfg.Valid py) (renders : Renders (start.rendered sha256 cfg) start)
    (clean : cfg.Clean) (read : ReadKeys start kept) (found : start.panelLine = some line)
    (before : Before (generation sha256 cfg) start now) :
    Prog.Yields perform (Usable sha256 py legacy)
      (fun _ after => Serving sha256 cfg start after)
      (move py (start.rendered sha256 cfg) (some kept)) now := by
  have undone (reloaded : Bool) {after : Host}
      (here : Before (generation sha256 cfg) start after) :
      Prog.Yields perform (Usable sha256 py legacy) (fun _ _ => True)
        (undo (generation sha256 cfg) reloaded) after :=
    (undo_yields here reloaded).weaken usable
  have serves {after : Host} (switched : Switched (start.rendered sha256 cfg) start after) :
      Usable sha256 py legacy after :=
    usable_of_serving valid (serving_of_switched valid renders switched)
  unfold move
  have besides : Prog.Yields perform (Usable sha256 py legacy)
      (fun _ after => BeforeFit (start.rendered sha256 cfg) start after)
      (onFailure (beside (start.rendered sha256 cfg)) (undo (generation sha256 cfg) false))
      now := by
    have placed := @beside_yields (start.rendered sha256 cfg) start now before
      clean.entry clean.dispatcher
    apply onFailure_yields
    · apply (always_of_yields placed usable).mono
      intro outcome after _ ended
      cases outcome with
      | ok value => exact ⟨ended.1, ended.2.2⟩
      | error failure => exact ended
    · intro after here
      exact undone false here
  apply besides.bind
  intro _ placed _ placedHere
  have proofs : Prog.Yields perform (Usable sha256 py legacy)
      (fun _ after => BeforeFit (start.rendered sha256 cfg) start after)
      (onFailure (proof py (start.rendered sha256 cfg) (some kept))
        (undo (generation sha256 cfg) true)) placed := by
    apply onFailure_yields
    · apply (always_of_yields (proof_yields placedHere read found)
        fun after here => usable after here.before).mono
      intro outcome after _ ended
      cases outcome with
      | ok value => exact ended.1
      | error failure => exact ended
    · intro after here
      exact undone true here.before
  apply proofs.bind
  intro _ proven _ provenHere
  have moves : Prog.Yields perform (Usable sha256 py legacy)
      (fun _ after => Switched (start.rendered sha256 cfg) start after)
      (onFailure (writeKeys cfg (start.rendered sha256 cfg).panelKeys)
        (undo (generation sha256 cfg) true)) proven := by
    apply onFailure_yields
    · apply (moveKeys_always renders provenHere).weaken
      rintro after (here | switched)
      · exact usable after here.before
      · exact serves switched
    · intro after here
      exact undone true here.before
  apply moves.bind
  intro _ moved _ movedSwitched
  apply onFailure_yields
  · have checks : Prog.Yields perform (Switched (start.rendered sha256 cfg) start)
        (fun _ _ => True) (switched py (start.rendered sha256 cfg)) moved := by
      have proves := Prog.Yields.weaken (only_yields (only_prove py cfg
        (start.rendered sha256 cfg).panelKey (generation sha256 cfg)) moved)
        fun _ => movedSwitched.quiet
      apply proves.bind
      intro reasons proved provedSwitched _
      split
      · exact Prog.Yields.raise provedSwitched
      · exact Prog.Yields.pure provedSwitched trivial
    apply (always_of_yields checks fun _ => serves).mono
    intro outcome after _ ended
    cases outcome with
    | ok value => exact serving_of_switched valid renders ended.1
    | error failure => exact ended
  · intro after here
    have restores : Prog.Yields perform (Usable sha256 py legacy)
        (fun _ after => Before (generation sha256 cfg) start after)
        (putBackKeys cfg (some kept)) after := by
      apply (restoreKeys_yields here read).weaken
      rintro final (back | still)
      · exact usable final back
      · exact serves still
    apply restores.bind
    intro _ back _ backBefore
    exact undone true backBefore

end Safety

end Catena.Dispatch
