import Mathlib.Data.List.Induction
import Catena.DispatchSafe

/-!
# Histories of switches

One whole switch keeps the generation the panel's line names usable, at every
point it can be cut at, and so does every history of switches, each of which
finds what it has to.
-/

namespace Catena.Dispatch

open PyText

section Runs

variable {sha256 : Text → Text} {py : Builtins} {cfg : Config}
  {legacy : Option Text × Option Text}

def HexDigest (sha256 : Text → Text) : Prop :=
  ∀ message, (sha256 message).length = 64 ∧ (sha256 message).all isHex = true

theorem HexDigest.isGeneration (hex : HexDigest sha256) (cfg : Config) :
    IsGeneration (generation sha256 cfg) := by
  obtain ⟨length, digits⟩ := hex cfg.hashed
  rw [List.all_eq_true] at digits
  constructor
  · rw [generation, List.length_take]
    omega
  · rw [generation, List.all_eq_true]
    intro digit found
    exact digits digit (List.mem_of_mem_take found)

/-- Operations that leave the host as it is. -/
def Still : Op → Bool
  | .readPanelPub => true
  | .openKeys => true
  | .closeKeys => true
  | .readKeys => true
  | .recorded => true
  | _ => false

theorem perform_still {op : Op} (still : Still op = true) (host : Host) (choice : Choice) :
    (perform host choice op).1 = host := by
  unfold perform
  cases op <;> first | cases still; done | (split <;> rfl)

theorem still_yields {holds : Host → Prop} {op : Op} {host : Host} (here : holds host)
    (still : Still op = true) :
    Prog.Yields perform holds (fun _ after => after = host) (ask op) host :=
  ask_yields op here (fun choice => (perform_still still host choice).symm ▸ here)
    fun choice _ _ => perform_still still host choice

theorem read_yields {holds : Host → Prop} (op : Op) {host : Host} (here : holds host)
    (still : Still op = true) (whole : FailsWhole op = true) (answer : Res op)
    (answers : ∀ choice, act host choice op = (host, .ok answer)) :
    Prog.Yields perform holds (fun value after => after = host ∧ value = answer)
      (ask op) host := by
  apply ask_yields op here
  · intro choice
    rw [perform_still still]
    exact here
  · intro choice value ok
    refine ⟨perform_still still host choice, ?_⟩
    rw [perform_of_ok whole ok, answers] at ok
    exact (Except.ok.inj ok).symm

theorem verdict_yields {holds : Host → Prop} {host : Host} (here : holds host)
    (gen : Text) (ok : Bool) (summary : String) :
    Prog.Yields perform holds (fun _ _ => True) (verdict gen ok summary) host := by
  unfold verdict
  apply (still_yields here (by rfl)).bind
  intro wrote after stays _
  exact Prog.Yields.pure stays trivial

/-- Either the program returns, or the handler of its refusal does. -/
theorem onRefused_yields {α : Type} {program : PathProg α} {handler : String → PathProg α}
    {holds : Host → Prop} {ends : α → Host → Prop} {host : Host}
    (first : Prog.Yields perform holds ends program host)
    (handled : ∀ message after, holds after →
      Prog.Yields perform holds ends (handler message) after) :
    Prog.Yields perform holds ends (onRefused program handler) host := by
  apply Prog.Yields.tryExcept first (fun _ here => here)
  intro failure after here
  cases failure with
  | refused message => exact handled message after here
  | osError reason => exact Prog.Yields.raise here
  | other => exact Prog.Yields.raise here

/-- A part that changes nothing, in a state that holds. -/
theorem started_yields {α : Type} {program : PathProg α} {holds : Host → Prop}
    {ends : α → Host → Prop} {start : Host} (here : holds start)
    (first : Prog.Yields perform (fun after => after = start) ends program start) :
    Prog.Yields perform holds (fun value after => after = start ∧ ends value after)
      program start := by
  apply Prog.Yields.weaken (first.mono fun _ _ same ended => And.intro same ended)
  intro after same
  rw [same]
  exact here

/-- The keys are read, or a refusal is the answer. -/
theorem readKeys_yields (start : Host) : Prog.Yields perform (fun after => after = start)
    (fun read _ => ∀ keys, read = .ok keys → keys = start.keys.map universal)
    (onRefused (do
      let keys ← ask .readKeys
      return (Except.ok keys : Except String (Option Text))) fun message =>
        return .error message) start := by
  apply onRefused_yields
  · apply (@read_yields (fun after => after = start) .readKeys start rfl rfl rfl
      (start.keys.map universal) fun _ => rfl).bind
    rintro keys after here ⟨_, same⟩
    refine Prog.Yields.pure here ?_
    intro held ok
    cases ok
    exact same
  · intro message after here
    exact Prog.Yields.pure here fun _ ok => by cases ok

theorem openKeys_yields (start : Host) : Prog.Yields perform (fun after => after = start)
    (fun _ _ => True)
    (onRefused (do
      let _ ← ask .openKeys
      return none) fun message => return some message) start := by
  apply onRefused_yields
  · apply (@still_yields (fun after => after = start) .openKeys start rfl (by rfl)).bind
    intro _ _ here _
    exact Prog.Yields.pure here trivial
  · intro message _ here
    exact Prog.Yields.pure here trivial

theorem serving_of_ready {start : Host} (ready : Ready sha256 py start cfg)
    (runs : start.running = .generation (generation sha256 cfg)) :
    Serving sha256 cfg start start := by
  rw [Ready, if_pos runs] at ready
  exact ⟨rfl, runs, ready.1, ready.2.rule, ready.2.names⟩

theorem panelLine_of_usable {start : Host} (usable : Usable sha256 py legacy start) :
    ∃ line, start.panelLine = some line := by
  cases found : start.panelLine with
  | none =>
      have runs : start.running = .none := by
        rw [Host.running, found]
        rfl
      rw [Usable, runs] at usable
      exact usable.elim
  | some line => exact ⟨line, rfl⟩

theorem moveTo_yields {start : Host} {kept : Text} (usable : Usable sha256 py legacy start)
    (ready : Ready sha256 py start cfg) (valid : cfg.Valid py)
    (renders : Renders (start.rendered sha256 cfg) start) (read : ReadKeys start kept) :
    Prog.Yields perform (Usable sha256 py legacy)
      (fun _ after => Serving sha256 cfg start after)
      (moveTo py (start.rendered sha256 cfg) (some kept) start.running) start := by
  unfold moveTo
  split
  · rename_i other
    obtain ⟨line, found⟩ := panelLine_of_usable usable
    have clean : cfg.Clean := by
      have differs : start.running ≠ .generation (generation sha256 cfg) := other
      rw [Ready, if_neg differs] at ready
      exact ready.1
    exact move_yields (fun after before => usable_of_before usable ready other before) valid
      renders clean read found (Before.refl _ start)
  · rename_i same
    exact Prog.Yields.pure usable (serving_of_ready ready (not_not.mp same))

theorem switchFrom_yields {start : Host} {kept : Text}
    (usable : Usable sha256 py legacy start) (ready : Ready sha256 py start cfg)
    (valid : cfg.Valid py) (renders : Renders (start.rendered sha256 cfg) start)
    (read : ReadKeys start kept) :
    Prog.Yields perform (Usable sha256 py legacy) (fun _ _ => True)
      (switchFrom py (start.rendered sha256 cfg) (some kept) start.running) start := by
  have moves : Prog.Yields perform (Usable sha256 py legacy)
      (fun moved after => moved = none → Serving sha256 cfg start after)
      (onRefused (do
        moveTo py (start.rendered sha256 cfg) (some kept) start.running
        return none) fun message => do
          return some (← refusal start.running (start.rendered sha256 cfg).gen message))
      start := by
    apply onRefused_yields
    · apply (moveTo_yields usable ready valid renders read).bind
      intro _ after here serving
      exact Prog.Yields.pure here fun _ => serving
    · intro message after here
      apply (verdict_yields here _ false _).bind
      intro answer final stays _
      exact Prog.Yields.pure stays fun isNone => by cases isNone
  unfold switchFrom
  apply moves.bind
  intro moved after here serving
  cases moved with
  | some answer => exact Prog.Yields.pure here trivial
  | none =>
      have served := serving rfl
      apply onRefused_yields
      · apply ((retire_yields valid renders served).weaken
          fun _ => usable_of_serving valid).bind
        intro _ retired stays _
        apply (still_yields stays (by rfl)).bind
        intro wrote final finalHere _
        exact verdict_yields finalHere _ true _
      · intro message failed stays
        exact verdict_yields stays _ false _

theorem readKeys_of_keys {start : Host} {kept : Text}
    (found : start.keys.map universal = some kept) : ReadKeys start kept := by
  obtain ⟨stored, held, rfl⟩ := Option.map_eq_some_iff.mp found
  refine ⟨not_mem_universal stored, ?_⟩
  rw [Host.panelLine, held, lineFor_universal]

theorem lineFor_read (host : Host) :
    lineFor (host.keys.map universal) (keyBlob host.panelKey) = host.panelLine := by
  rw [Host.panelLine]
  cases host.keys with
  | none => rfl
  | some stored => exact lineFor_universal stored _

theorem switchKeys_yields {start : Host} (usable : Usable sha256 py legacy start)
    (ready : Ready sha256 py start cfg) (valid : cfg.Valid py)
    (renders : Renders (start.rendered sha256 cfg) start) :
    Prog.Yields perform (Usable sha256 py legacy) (fun _ _ => True)
      (switchKeys py (start.rendered sha256 cfg) (keyBlob start.panelKey)) start := by
  unfold switchKeys
  apply (started_yields usable (readKeys_yields start)).bind
  rintro read after _ ⟨unchanged, held⟩
  subst unchanged
  cases read with
  | error message => exact verdict_yields usable _ false _
  | ok keys =>
      have sameKeys := held keys rfl
      obtain ⟨line, found⟩ := panelLine_of_usable usable
      cases keys with
      | none =>
          rw [← lineFor_read, ← sameKeys] at found
          cases found
      | some kept =>
          have line : lineFor (some kept) (keyBlob after.panelKey) = after.panelLine := by
            rw [sameKeys]
            exact lineFor_read after
          dsimp only
          rw [line]
          exact switchFrom_yields usable ready valid renders (readKeys_of_keys sameKeys.symm)

/-- One switch keeps the panel's path, wherever it is cut. -/
theorem switch_yields (hex : HexDigest sha256) {start : Host}
    (usable : Usable sha256 py legacy start) (ready : Ready sha256 py start cfg) :
    Prog.Yields perform (Usable sha256 py legacy) (fun _ _ => True)
      (switch py sha256 cfg) start := by
  unfold switch
  split
  · exact Prog.Yields.pure usable trivial
  · rename_i valid
    apply (read_yields .readPanelPub usable rfl rfl (start.panelPub.map universal)
      fun _ => rfl).bind
    rintro _ after _ ⟨unchanged, rfl⟩
    subst unchanged
    dsimp only
    split
    · exact verdict_yields usable _ false _
    · rename_i blob
      split
      · exact verdict_yields usable _ false _
      · rename_i isKey
        rw [Bool.not_eq_true', Bool.not_eq_false] at isKey
        have renders : Renders (after.rendered sha256 cfg) after :=
          ⟨hex.isGeneration cfg, rfl, isKey, blob⟩
        apply (started_yields usable (openKeys_yields after)).bind
        rintro opened host _ ⟨rfl, _⟩
        split
        · exact verdict_yields usable _ false _
        · apply Prog.Yields.tryFinally (switchKeys_yields usable ready valid renders)
          intro final here
          have closes : Prog.Yields perform (Usable sha256 py legacy)
              (fun _ after => after = final) (ask .closeKeys) final :=
            still_yields here (by rfl)
          exact closes.mono fun _ _ _ _ _ _ => trivial

/-- One run: its request, and all that is not up to it.  The run is cut off where
the choices end. -/
structure Attempt where
  cfg : Config
  choices : List Choice

variable (sha256 py) in
/-- A run starts with nothing written. -/
def Host.attempt (host : Host) (attempt : Attempt) : Host :=
  ((switch py sha256 attempt.cfg).run perform attempt.choices { host with wrote := [] }).1

variable (sha256 py) in
/-- One run after another. -/
def Host.attempts (host : Host) (history : List Attempt) : Host :=
  history.foldl (Host.attempt sha256 py) host

theorem attempt_usable (hex : HexDigest sha256) {host : Host} {attempt : Attempt}
    (usable : Usable sha256 py legacy host) (ready : Ready sha256 py host attempt.cfg) :
    Usable sha256 py legacy (host.attempt sha256 py attempt) := by
  have started : Agree noReach host { host with wrote := [] } :=
    ⟨rfl, fun _ _ => rfl, fun _ _ => rfl, fun _ => rfl, fun _ => rfl⟩
  exact (switch_yields hex (usable.agree started) (ready.agree started)).run attempt.choices

end Runs

theorem carries_named {sha256 : Text → Text} {cfg : Config} {content : Text}
    (carries : Carries (some content) (cfg.rule sha256)) {character : Char}
    (found : character ∈ universal (dispatcherPath (generation sha256 cfg) ++ ['\n'])) :
    character ∈ universal content := by
  obtain ⟨_, same, part⟩ := carries
  cases same
  have path : dispatcherPath (generation sha256 cfg) ++ ['\n'] =
      '/' :: ((dispatcherPath (generation sha256 cfg)).tail ++ ['\n']) := rfl
  have suffix : universal (dispatcherPath (generation sha256 cfg) ++ ['\n']) <:+:
      universal (cfg.rule sha256) := by
    rw [Config.rule, sudoRule, List.append_assoc _ (dispatcherPath _), path,
      universal_append_next _ (by decide)]
    exact (List.suffix_append _ _).isInfix
  exact part.subset (suffix.subset found)

def sampleConfig (dispatcher : String) : Config where
  runnerUser := "catena-admin-runner".toList
  runnerHome := "/var/lib/catena-admin-runner".toList
  panelKeyDir := "/opt/catena/panel/ssh".toList
  link := "/usr/local/sbin/catena-admin-runner".toList
  passthrough := .arr [.str "CATENA_ACTOR"]
  entry := "#!/bin/sh\n".toList
  dispatcher := dispatcher.toList

def firstConfig : Config := sampleConfig "#!/bin/sh\necho 1\n"

def secondConfig : Config := sampleConfig "#!/bin/sh\necho 2\n"

def thirdConfig : Config := sampleConfig "#!/bin/sh\necho 3\n"

def sampleSha256 (message : Text) : Text :=
  match message[26]? with
  | some '1' => "503e663fcd557dfa82da59a0b722069c09f93897f69f13bf8adc0b29b8b1439c".toList
  | some '2' => "cb3328ed36600b25f58f95681a50060d15c10f6ca9691832992c478040aa0aa8".toList
  | some '3' => "4b7b6d04a0daae99324707936977fabad23d4bed873d51d2d847807fc60016bf".toList
  | _ => List.replicate 64 '0'

theorem sampleSha256_hex : HexDigest sampleSha256 := by
  intro message
  unfold sampleSha256
  split
  · decide
  · decide
  · decide
  · decide

def samplePub : Text :=
  "ssh-ed25519 AAAAC3NzaC1lZDI1NTE5 panel".toList

def sampleHost : Host where
  panelPub := some (samplePub ++ ['\n'])
  runner := (998, 998)
  keysOwned := ⟨998, 998, 0o600⟩
  keys := some (panelKeys (generation sampleSha256 firstConfig) samplePub)
  keysTmp := none
  files slot := match slot with
    | .sudoers => some (firstConfig.rule sampleSha256)
    | .acceptenv => some (acceptenvRule firstConfig.runnerUser firstConfig.names)
    | _ => none
  tmps _ := none
  loaded := (none, none)
  generations := [(generation sampleSha256 firstConfig,
    installed (text firstConfig.entry) (text firstConfig.dispatcher))]
  link := .symlink (dispatcherPath (generation sampleSha256 firstConfig))
  linkTmp := none
  proofDirs := []
  nextDir := 0
  wrote := []

def Choice.exits (stderr : String) : Choice :=
  ⟨none, ⟨1, [], stderr.toList⟩, [], []⟩

/-- The two dispatches of a proof that goes through. -/
def provenBy (cfg : Config) : List Choice :=
  [⟨none, ⟨0, "dispatch-path-proof ".toList ++ generation sampleSha256 cfg ++
      "\narrived CATENA_ACTOR\n".toList, []⟩, [], []⟩,
    ⟨none, ⟨2, [], entryRefusal.toList⟩, [], []⟩]

/-- A switch to the second sample, in which `visudo` refuses the main file. -/
def retireRefused : Attempt where
  cfg := secondConfig
  choices := List.replicate 40 .ok ++ provenBy secondConfig ++ List.replicate 12 .ok ++
    provenBy secondConfig ++ List.replicate 5 .ok ++ [.exits "parse error"] ++
    List.replicate 3 .ok

/-- A switch to the third sample, in which no proof key can be minted. -/
def moveRefused : Attempt where
  cfg := thirdConfig
  choices := List.replicate 26 .ok ++ [.exits "no space left"] ++ List.replicate 20 .ok

theorem sampleHost_mainServes : MainServes sampleSha256 sampleHost firstConfig where
  directory := hasDirectory_of_intact (by decide)
  rule := carries_self _
  names name found := ⟨_, rfl, acceptedNames_acceptenvRule _
    (names_solid (rfl : passthroughProblem Builtins.unused _ = none)) name found⟩

theorem sampleHost_running :
    sampleHost.running = .generation (generation sampleSha256 firstConfig) := by
  decide

theorem sampleHost_usable : Usable sampleSha256 Builtins.unused
    (sampleHost.files .sudoers, sampleHost.files .acceptenv) sampleHost := by
  rw [Usable, sampleHost_running]
  exact ⟨firstConfig, rfl, rfl, sampleHost_mainServes.serves⟩

theorem lostHost_state :
    let lost := sampleHost.attempts sampleSha256 Builtins.unused [retireRefused, moveRefused]
    lost.running = .generation (generation sampleSha256 secondConfig) ∧
      lost.files .sudoers = some (firstConfig.rule sampleSha256) ∧
      lost.files .sudoersNext = none := by
  decide +kernel

theorem not_usable_of_rules {lost : Host} {legacy : Option Text × Option Text}
    (running : lost.running = .generation (generation sampleSha256 secondConfig))
    (sudoers : lost.files .sudoers = some (firstConfig.rule sampleSha256))
    (sudoersNext : lost.files .sudoersNext = none) :
    ¬ Usable sampleSha256 Builtins.unused legacy lost := by
  intro usable
  unfold Usable at usable
  rw [running] at usable
  obtain ⟨cfg, -, named, serves⟩ := usable
  rcases serves.rule with held | heldNext
  · rw [sudoers] at held
    have eight : '8' ∈ universal (firstConfig.rule sampleSha256) := by
      apply carries_named held
      rw [named]
      decide
    exact absurd eight (by decide +kernel)
  · rw [sudoersNext] at heldNext
    obtain ⟨_, isSome, -⟩ := heldNext
    cases isSome

theorem sampleHost_ready : Ready sampleSha256 Builtins.unused sampleHost secondConfig := by
  have other : generation sampleSha256 firstConfig ≠ generation sampleSha256 secondConfig := by
    decide
  rw [Ready, sampleHost_running, if_neg fun same => other (Running.generation.inj same)]
  constructor
  · unfold Config.Clean
    decide
  · intro gen running
    exact ⟨firstConfig, rfl, Running.generation.inj running, sampleHost_mainServes⟩

end Catena.Dispatch
