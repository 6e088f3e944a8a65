import Catena.DispatchFrames

/-!
# What the parts of the switch achieve

For each part of the switch, what it has put in place when it returns, and what
the file it works on holds at every point it can be cut at.
-/

namespace Catena.Dispatch

open PyText

/-- Reading the file gives the text, up to line ends. -/
def Reads (host : Host) (slot : Slot) (content : Text) : Prop :=
  (host.files slot).map universal = some (universal content)

def fileReach (slot : Slot) : Reach :=
  ⟨fun other => other = slot, fun _ => False, False, False⟩

/-- Everything is as it was. -/
def noReach : Reach :=
  ⟨fun _ => False, fun _ => False, False, False⟩

theorem Agree.widen {narrow wide : Reach} {before after : Host}
    (agrees : Agree narrow before after) (slots : ∀ slot, narrow.slots slot → wide.slots slot)
    (names : ∀ name, narrow.names name → wide.names name) (keys : narrow.keys → wide.keys)
    (link : narrow.link → wide.link) : Agree wide before after where
  panelPub := agrees.panelPub
  files slot outside := agrees.files slot fun inside => outside (slots slot inside)
  entry name outside := agrees.entry name fun inside => outside (names name inside)
  keys outside := agrees.keys fun inside => outside (keys inside)
  link outside := agrees.link fun inside => outside (link inside)

theorem Agree.ofNoReach {reach : Reach} {before after : Host}
    (agrees : Agree noReach before after) : Agree reach before after :=
  agrees.widen (fun _ inside => inside.elim) (fun _ inside => inside.elim)
    (fun inside => inside.elim) (fun inside => inside.elim)

theorem ask_yields {holds : Host → Prop} (op : Op) {answered : Res op → Host → Prop}
    {host : Host} (here : holds host) (after : ∀ choice, holds (perform host choice op).1)
    (answers : ∀ choice value, (perform host choice op).2 = .ok value →
      answered value (perform host choice op).1) :
    Prog.Yields perform holds answered (ask op) host :=
  Prog.Yields.call here after answers

/-- The operation changes nothing a later part relies on. -/
theorem quiet_yields {holds : Host → Prop} {op : Op} {host : Host} (here : holds host)
    (quiet : Within noReach op)
    (stays : ∀ after, Agree noReach host after → holds after) :
    Prog.Yields perform holds (fun _ after => Agree noReach host after) (ask op) host :=
  ask_yields op here (fun choice => stays _ (agree_perform quiet host choice))
    fun choice _ _ => agree_perform quiet host choice

def FailsWhole : Op → Bool
  | .removeTree _ _ => false
  | .isIntact _ _ => false
  | .removeProofDir _ => false
  | .record _ => false
  | .recorded => false
  | _ => true

theorem perform_of_ok {host : Host} {choice : Choice} {op : Op} {value : Res op}
    (whole : FailsWhole op = true) (ok : (perform host choice op).2 = .ok value) :
    perform host choice op = act host choice op := by
  unfold perform at ok ⊢
  split
  · rename_i failure raises
    rw [raises] at ok
    cases op <;> first | (cases ok; done) | cases whole
  · rfl

/-- A program within a reach leaves everything else as it was. -/
theorem only_yields {α : Type} {reach : Reach} {program : PathProg α}
    (only : program.Only (Within reach)) (host : Host) :
    Prog.Yields perform (Agree reach host) (fun _ after => Agree reach host after)
      program host :=
  Prog.Always.mono (Only.agree only host (Agree.refl reach host))
    fun _ _ agrees _ _ _ => agrees

theorem perform_readFile_ok {host : Host} {choice : Choice} {slot : Slot}
    {held : Option Text} (read : (perform host choice (.readFile slot)).2 = .ok held) :
    held = (host.files slot).map universal := by
  rw [perform_of_ok rfl read] at read
  cases read
  rfl

theorem perform_isIntact (host : Host) (choice : Choice) (gen : Text)
    (files : List (Text × Text)) :
    perform host choice (.isIntact gen files) = (host, .ok (host.intact gen files)) := by
  unfold perform
  split <;> rfl

/-- What a file holds once a text is written that it may already read as. -/
def rewritten (held : Option Text) (content : Text) : Option Text :=
  if held.map universal = some content then held else some content

theorem reads_rewritten (held : Option Text) (content : Text) :
    (rewritten held content).map universal = some (universal content) := by
  unfold rewritten
  split
  · rename_i same
    obtain ⟨stored, -, rfl⟩ := Option.map_eq_some_iff.mp same
    rw [same, universal_of_clean (not_mem_universal stored)]
  · rfl

@[simp] theorem rewritten_some (content : Text) :
    rewritten (some content) content = some content := by
  simp [rewritten]

theorem rewritten_of_differs {held : Option Text} {content : Text}
    (differs : held.map universal ≠ some content) : rewritten held content = some content :=
  if_neg differs

/-- A file holds the text itself unless it read as it and was left alone. -/
theorem rewritten_eq_some_iff {held : Option Text} {content : Text} :
    rewritten held content = some content ↔
      (held.map universal = some content → held = some content) := by
  unfold rewritten
  split
  · rename_i same
    exact ⟨fun exact _ => exact, fun exact => exact same⟩
  · rename_i differs
    exact ⟨fun _ same => absurd same differs, fun _ => rfl⟩

/-- While a rule file is worked on it holds what it held, or a target. -/
structure Changing (slot : Slot) (target : Option Text → Prop) (before now : Host) :
    Prop where
  agrees : Agree (fileReach slot) before now
  file : now.files slot = before.files slot ∨ target (now.files slot)

abbrev Writing (slot : Slot) (content : Text) : Host → Host → Prop :=
  Changing slot fun held => held = some content

theorem Changing.ofNoReach {slot : Slot} {target : Option Text → Prop}
    {before now : Host} (agrees : Agree noReach before now) :
    Changing slot target before now :=
  ⟨agrees.ofNoReach, Or.inl (agrees.files slot not_false)⟩

theorem Changing.after {slot : Slot} {target : Option Text → Prop}
    {before now next : Host} (changing : Changing slot target before now)
    (agrees : Agree noReach now next) : Changing slot target before next where
  agrees := changing.agrees.trans agrees.ofNoReach
  file := by
    rw [agrees.files slot not_false]
    exact changing.file

theorem Changing.trans {slot : Slot} {first second third : Option Text → Prop}
    {before now next : Host} (changed : Changing slot first before now)
    (changing : Changing slot second now next)
    (firstThird : ∀ held, first held → third held)
    (secondThird : ∀ held, second held → third held) : Changing slot third before next where
  agrees := changed.agrees.trans changing.agrees
  file := by
    rcases changing.file with same | target
    · rw [same]
      exact changed.file.imp_right (firstThird _)
    · exact Or.inr (secondThird _ target)

theorem chmodTmp_tmps (host : Host) (choice : Choice) (slot : Slot) (mode : Nat) :
    (perform host choice (.chmodTmp slot mode)).1.tmps = host.tmps := by
  unfold perform
  split <;> rfl

theorem run_tmps (host : Host) (choice : Choice) (argv : List Text) :
    (perform host choice (.run argv)).1.tmps = host.tmps := by
  unfold perform
  split
  · rfl
  · simp only [act]
    split <;> rfl

/-- The temporary is there, and nothing else has changed. -/
structure Drafted (slot : Slot) (content : Text) (before now : Host) : Prop where
  agrees : Agree noReach before now
  tmp : now.tmps slot = some content

theorem accepted_yields {slot : Slot} {content : Text} {before now : Host}
    (drafted : Drafted slot content before now) (check : List Text) :
    Prog.Yields perform (Writing slot content before)
      (fun _ after => Drafted slot content before after)
      (write.accepted slot check) now := by
  have here : Writing slot content before now := .ofNoReach drafted.agrees
  cases check with
  | nil => exact Prog.Yields.pure here drafted
  | cons command arguments =>
      have ranCheck : Prog.Yields perform (Writing slot content before)
          (fun _ after => Drafted slot content before after)
          (ask (.run (command :: arguments ++ [slot.path ++ ".tmp".toList]))) now := by
        apply ask_yields (.run _) here
        · intro choice
          exact here.after (agree_perform (by trivial) now choice)
        · intro choice ran _
          refine ⟨drafted.agrees.trans (agree_perform (by trivial) now choice), ?_⟩
          rw [run_tmps]
          exact drafted.tmp
      apply ranCheck.bind
      intro ran after writing draftedAfter
      split
      · apply (quiet_yields writing (by trivial) fun _ => writing.after).bind
        intro _ final finalWriting _
        exact Prog.Yields.raise finalWriting
      · exact Prog.Yields.pure writing draftedAfter

theorem replaceFile_yields {slot : Slot} {content : Text} {before now : Host}
    (drafted : Drafted slot content before now) :
    Prog.Yields perform (Writing slot content before)
      (fun _ after => Writing slot content before after ∧ after.files slot = some content)
      (ask (.replaceFile slot)) now := by
  have here : Writing slot content before now := .ofNoReach drafted.agrees
  have agrees (choice : Choice) :
      Agree (fileReach slot) before (perform now choice (.replaceFile slot)).1 :=
    drafted.agrees.ofNoReach.trans (agree_perform (by exact rfl) now choice)
  have replaced (choice : Choice) :
      (perform now choice (.replaceFile slot)).1.files slot = before.files slot ∨
        (perform now choice (.replaceFile slot)).1.files slot = some content := by
    unfold perform
    split
    · exact Or.inl (drafted.agrees.files slot not_false)
    · simp only [act, drafted.tmp]
      exact Or.inr (Function.update_self ..)
  apply ask_yields (.replaceFile slot) here
  · intro choice
    exact ⟨agrees choice, replaced choice⟩
  · intro choice _ ok
    refine ⟨⟨agrees choice, replaced choice⟩, ?_⟩
    rw [perform_of_ok rfl ok]
    simp only [act, drafted.tmp]
    exact Function.update_self ..

theorem write_rewrites (slot : Slot) (content : Text) (mode : Nat) (check : List Text)
    (host : Host) :
    Prog.Yields perform (Writing slot content host)
      (fun _ after => Writing slot content host after ∧
        after.files slot = rewritten (host.files slot) content)
      (write slot content mode check) host := by
  have here : Writing slot content host host := .ofNoReach (Agree.refl _ _)
  unfold write
  have read : Prog.Yields perform (Writing slot content host)
      (fun held after => Agree noReach host after ∧
        held = (host.files slot).map universal) (ask (.readFile slot)) host := by
    apply ask_yields (.readFile slot) here
    · intro choice
      exact .ofNoReach (agree_perform (by trivial) host choice)
    · intro choice held ok
      exact ⟨agree_perform (by trivial) host choice, perform_readFile_ok ok⟩
  apply read.bind
  rintro held now writing ⟨agrees, rfl⟩
  split
  · rename_i same
    refine Prog.Yields.pure writing ⟨writing, ?_⟩
    rw [agrees.files slot not_false, rewritten, if_pos same]
  · rename_i differs
    have drafting : Prog.Yields perform (Writing slot content host)
        (fun _ after => Drafted slot content host after)
        (ask (.writeTmp slot content)) now := by
      apply ask_yields (.writeTmp slot content) writing
      · intro choice
        exact writing.after (agree_perform (by trivial) now choice)
      · intro choice _ ok
        refine ⟨agrees.trans (agree_perform (by trivial) now choice), ?_⟩
        rw [perform_of_ok rfl ok]
        exact Function.update_self ..
    apply drafting.bind
    intro _ drafted draftedWriting isDrafted
    have chmod : Prog.Yields perform (Writing slot content host)
        (fun _ after => Drafted slot content host after)
        (ask (.chmodTmp slot mode)) drafted := by
      apply ask_yields (.chmodTmp slot mode) draftedWriting
      · intro choice
        exact draftedWriting.after (agree_perform (by trivial) drafted choice)
      · intro choice _ _
        refine ⟨isDrafted.agrees.trans (agree_perform (by trivial) drafted choice), ?_⟩
        rw [chmodTmp_tmps]
        exact isDrafted.tmp
    apply chmod.bind
    intro _ ready _ isReady
    apply (accepted_yields isReady check).bind
    intro _ passed _ isPassed
    apply (replaceFile_yields isPassed).bind
    rintro _ replaced _ ⟨replacedWriting, holds⟩
    apply (quiet_yields replacedWriting (by trivial) fun _ => replacedWriting.after).bind
    intro _ final finalWriting finalAgrees
    refine Prog.Yields.pure finalWriting ⟨finalWriting, ?_⟩
    rw [finalAgrees.files slot not_false, holds, rewritten_of_differs differs]

theorem write_yields (slot : Slot) (content : Text) (mode : Nat) (check : List Text)
    (host : Host) :
    Prog.Yields perform (Writing slot content host)
      (fun _ after => Writing slot content host after ∧ Reads after slot content)
      (write slot content mode check) host := by
  apply (write_rewrites slot content mode check host).mono
  rintro _ after _ ⟨writing, holds⟩
  refine ⟨writing, ?_⟩
  rw [Reads, holds]
  exact reads_rewritten _ _

theorem remove_yields (slot : Slot) (host : Host) :
    Prog.Yields perform (Changing slot (fun held => held = none) host)
      (fun _ after => Changing slot (fun held => held = none) host after ∧
        after.files slot = none) (remove slot) host := by
  have here : Changing slot (fun held => held = none) host host :=
    .ofNoReach (Agree.refl _ _)
  unfold remove
  have asked : Prog.Yields perform (Changing slot (fun held => held = none) host)
      (fun present after => Agree noReach host after ∧
        present = (host.files slot).isSome) (ask (.hasFile slot)) host := by
    apply ask_yields (.hasFile slot) here
    · intro choice
      exact .ofNoReach (agree_perform (by trivial) host choice)
    · intro choice present ok
      refine ⟨agree_perform (by trivial) host choice, ?_⟩
      rw [perform_of_ok rfl ok] at ok
      cases ok
      rfl
  apply asked.bind
  rintro present now changing ⟨agrees, rfl⟩
  split
  · have removed (choice : Choice) : Changing slot (fun held => held = none) host
        (perform now choice (.unlinkFile slot)).1 := by
      refine ⟨agrees.ofNoReach.trans (agree_perform (by exact rfl) now choice), ?_⟩
      unfold perform
      split
      · exact Or.inl (agrees.files slot not_false)
      · exact Or.inr (Function.update_self ..)
    have unlinked : Prog.Yields perform (Changing slot (fun held => held = none) host)
        (fun _ after => Changing slot (fun held => held = none) host after ∧
          after.files slot = none) (ask (.unlinkFile slot)) now := by
      apply ask_yields (.unlinkFile slot) changing
      · exact removed
      · intro choice _ ok
        refine ⟨removed choice, ?_⟩
        rw [perform_of_ok rfl ok]
        exact Function.update_self ..
    apply unlinked.bind
    rintro _ after _ ⟨afterChanging, gone⟩
    apply (quiet_yields afterChanging (by trivial) fun _ => afterChanging.after).bind
    intro _ final finalChanging finalAgrees
    refine Prog.Yields.pure finalChanging ⟨finalChanging, ?_⟩
    rw [finalAgrees.files slot not_false]
    exact gone
  · rename_i absent
    refine Prog.Yields.pure changing ⟨changing, ?_⟩
    rw [agrees.files slot not_false]
    simpa using absent

/-- What a drop-in holds while it is placed: the new text, or what was there with
its line ends translated. -/
def Placed (slot : Slot) (content : Text) (before : Host) (held : Option Text) : Prop :=
  held = some content ∨ held = (before.files slot).map universal

theorem putBack_yields (slot : Slot) (content : Text) (mode : Nat) {before now : Host}
    (placing : Changing slot (Placed slot content before) before now) :
    Prog.Yields perform (Changing slot (Placed slot content before) before)
      (fun _ _ => True)
      (putBack slot ((before.files slot).map universal) mode) now := by
  generalize same : (before.files slot).map universal = held
  cases held with
  | none =>
      apply (Prog.Yields.weaken (remove_yields slot now) fun after changing =>
        placing.trans changing (fun _ placed => placed)
          fun held gone => Or.inr (gone.trans same.symm)).bind
      intro _ after changing _
      exact Prog.Yields.pure changing trivial
  | some kept =>
      apply (Prog.Yields.weaken (write_yields slot kept mode [] now)
        fun after changing => placing.trans changing (fun _ placed => placed)
          fun held written => Or.inr (written.trans same.symm)).bind
      intro _ after changing _
      exact Prog.Yields.pure changing trivial

theorem placeSshd_rewrites (slot : Slot) (content : Text) (host : Host) :
    Prog.Yields perform (Changing slot (Placed slot content host) host)
      (fun _ after => after.files slot = rewritten (host.files slot) content)
      (placeSshd slot content) host := by
  have here : Changing slot (Placed slot content host) host host :=
    .ofNoReach (Agree.refl _ _)
  unfold placeSshd
  have read : Prog.Yields perform (Changing slot (Placed slot content host) host)
      (fun held after => Agree noReach host after ∧
        held = (host.files slot).map universal) (ask (.readFile slot)) host := by
    apply ask_yields (.readFile slot) here
    · intro choice
      exact .ofNoReach (agree_perform (by trivial) host choice)
    · intro choice held ok
      exact ⟨agree_perform (by trivial) host choice, perform_readFile_ok ok⟩
  apply read.bind
  rintro before now placing ⟨unread, rfl⟩
  have written : Prog.Yields perform (Changing slot (Placed slot content host) host)
      (fun _ after => after.files slot = rewritten (host.files slot) content)
      (write slot content 0o644 []) now := by
    apply Prog.Yields.mono
      (Prog.Yields.weaken (write_rewrites slot content 0o644 [] now) fun after changing =>
        placing.trans changing (fun _ placed => placed) fun held new => Or.inl new)
    rintro _ after _ ⟨_, holds⟩
    rw [holds, unread.files slot not_false]
  apply written.bind
  intro changed after afterPlacing holds
  split
  · have checked := quiet_yields afterPlacing
      (by trivial : Within noReach (.run ["/usr/sbin/sshd".toList, "-t".toList]))
      fun _ => afterPlacing.after
    apply checked.bind
    intro ran tested testedPlacing agrees
    split
    · apply (putBack_yields slot content 0o644 testedPlacing).bind
      intro _ final finalPlacing _
      exact Prog.Yields.raise finalPlacing
    · refine Prog.Yields.pure testedPlacing ?_
      rw [agrees.files slot not_false]
      exact holds
  · exact Prog.Yields.pure afterPlacing holds

theorem placeSshd_yields (slot : Slot) (content : Text) (host : Host) :
    Prog.Yields perform (Changing slot (Placed slot content host) host)
      (fun _ after => Reads after slot content) (placeSshd slot content) host := by
  apply (placeSshd_rewrites slot content host).mono
  intro _ after _ holds
  rw [Reads, holds]
  exact reads_rewritten _ _

def keysReach : Reach :=
  ⟨fun _ => False, fun _ => False, True, False⟩

/-- While the keys are written they are what they were, or the new text. -/
structure Keying (content : Text) (before now : Host) : Prop where
  agrees : Agree keysReach before now
  keys : now.keys = before.keys ∨ now.keys = some content

theorem Keying.ofNoReach {content : Text} {before now : Host}
    (agrees : Agree noReach before now) : Keying content before now :=
  ⟨agrees.ofNoReach, Or.inl (agrees.keys not_false)⟩

theorem Keying.after {content : Text} {before now next : Host}
    (keying : Keying content before now) (agrees : Agree noReach now next) :
    Keying content before next where
  agrees := keying.agrees.trans agrees.ofNoReach
  keys := by
    rw [agrees.keys not_false]
    exact keying.keys

/-- The new keys are in place. -/
structure Keyed (content : Text) (before now : Host) : Prop where
  agrees : Agree keysReach before now
  rewrites : now.keys = rewritten before.keys content

theorem Keyed.keys {content : Text} {before now : Host} (keyed : Keyed content before now) :
    now.keys.map universal = some (universal content) := by
  rw [keyed.rewrites]
  exact reads_rewritten _ _

/-- What a write of the keys leaves: the new keys, or on a failure what was
there. -/
def KeysOutcome {α : Type} (content : Text) (before : Host) :
    Except Failure α → Host → Prop
  | .ok _, after => Keyed content before after
  | .error _, after => after.keys = before.keys

theorem ask_always {holds : Host → Prop} (op : Op)
    {ends : Except Failure (Res op) → Host → Prop} {host : Host} (here : holds host)
    (after : ∀ choice, holds (perform host choice op).1)
    (answers : ∀ choice, ends (perform host choice op).2 (perform host choice op).1) :
    (ask op).Always perform holds ends host :=
  ⟨here, fun choice => ⟨after choice, answers choice⟩⟩

theorem replaceKeys_always {content : Text} {before now : Host}
    (agrees : Agree noReach before now) (tmp : now.keysTmp = some content)
    (differs : before.keys.map universal ≠ some content) :
    (ask .replaceKeys).Always perform (Keying content before)
      (KeysOutcome content before) now := by
  have reaches (choice : Choice) :
      Agree keysReach before (perform now choice .replaceKeys).1 :=
    agrees.ofNoReach.trans (agree_perform (by trivial) now choice)
  apply ask_always .replaceKeys (Keying.ofNoReach agrees)
  · intro choice
    refine ⟨reaches choice, ?_⟩
    unfold perform
    split
    · exact Or.inl (agrees.keys not_false)
    · right
      simp [act, tmp]
  · intro choice
    cases answer : (perform now choice .replaceKeys).2 with
    | ok value =>
        refine ⟨reaches choice, ?_⟩
        rw [perform_of_ok rfl answer, rewritten_of_differs differs]
        simp [act, tmp]
    | error failure =>
        unfold perform at answer ⊢
        split
        · exact agrees.keys not_false
        · rename_i raises
          rw [raises] at answer
          simp [act, tmp] at answer

/-- An operation before the keys are replaced. -/
theorem beforeKeys_bind {content : Text} {before now : Host} {op : Op} {α : Type}
    {next : Res op → PathProg α} (agrees : Agree noReach before now)
    (quiet : Within noReach op)
    (rest : ∀ choice value, (perform now choice op).2 = .ok value →
      Agree noReach before (perform now choice op).1 →
      (next value).Always perform (Keying content before) (KeysOutcome content before)
        (perform now choice op).1) :
    (ask op >>= next).Always perform (Keying content before)
      (KeysOutcome content before) now := by
  have stays (choice : Choice) : Agree noReach before (perform now choice op).1 :=
    agrees.trans (agree_perform quiet now choice)
  apply Prog.Always.call_bind (Keying.ofNoReach agrees)
  · intro choice value ok
    exact rest choice value ok (stays choice)
  · intro choice failure _
    exact ⟨Keying.ofNoReach (stays choice), (stays choice).keys not_false⟩

/-- The keys are replaced, and a failure leaves them as they were. -/
theorem writeKeys_always (cfg : Config) (content : Text) (host : Host) :
    (writeKeys cfg content).Always perform (Keying content host)
      (KeysOutcome content host) host := by
  unfold writeKeys
  apply beforeKeys_bind (Agree.refl _ _) (by trivial)
  intro choice held ok agrees
  split
  · rename_i same
    refine ⟨.ofNoReach agrees, agrees.ofNoReach, ?_⟩
    rw [perform_of_ok rfl ok] at ok
    cases ok
    rw [agrees.keys not_false, rewritten, if_pos same]
  · rename_i other
    have differs : host.keys.map universal ≠ some content := by
      rw [perform_of_ok rfl ok] at ok
      cases ok
      exact other
    have replaced : (do
        let _ ← ask .unlinkKeysTmp
        let _ ← ask (.writeKeysTmp content)
        ask .replaceKeys).Always perform (Keying content host)
          (KeysOutcome content host) (perform host choice .readKeys).1 := by
      apply beforeKeys_bind agrees (by trivial)
      intro clearing _ _ cleared
      apply beforeKeys_bind cleared (by trivial)
      intro writing _ wrote drafted
      refine replaceKeys_always drafted ?_ differs
      rw [perform_of_ok rfl wrote]
      rfl
    rw [Prog.bind_eq, Prog.always_andThen]
    unfold Prog.tryExcept
    rw [Prog.always_andThen]
    refine replaced.mono ?_
    intro outcome after keying ended
    cases outcome with
    | ok value =>
        refine ⟨keying, ?_⟩
        refine ⟨keying, fun noting => ?_⟩
        have noted : (perform after noting (.record [keysPath cfg])).2 = .ok () := by
          unfold perform
          split <;> rfl
        have agreed := agree_perform
          (by trivial : Within noReach (.record [keysPath cfg])) after noting
        have keyed : Keyed content host (perform after noting (.record [keysPath cfg])).1 :=
          ⟨ended.agrees.trans agreed.ofNoReach, by
            rw [agreed.keys not_false]
            exact ended.rewrites⟩
        simp only [Prog.andThen, Prog.onOk, noted]
        exact ⟨keying.after agreed, keyed⟩
    | error failure =>
        cases failure with
        | refused message => exact ⟨keying, keying, ended⟩
        | osError reason => exact ⟨keying, keying, ended⟩
        | other => exact ⟨keying, keying, ended⟩

def generationReach (gen : Text) : Reach :=
  ⟨fun _ => False, fun name => name = gen ∨ name = buildName gen, False, False⟩

theorem buildName_ne (gen : Text) : buildName gen ≠ gen := by
  intro same
  have lengths : (buildName gen).length = gen.length := congrArg List.length same
  simp only [buildName, List.cons_append, List.length_cons, List.length_append] at lengths
  omega

theorem entry_inDirectory {host : Host} {name : Text} {plain : Bool}
    {files : PyDict Text Node} (held : host.entry name = some (.directory plain files))
    (change : Bool → PyDict Text Node → Entry) :
    (host.inDirectory name change).1.entry name = some (change plain files) := by
  rw [Host.inDirectory, held]
  simp [entry_setEntry]

/-- The directory being built, and everything else but the generation's as it was. -/
structure Building (gen : Text) (built : Entry) (before now : Host) : Prop where
  agrees : Agree (generationReach gen) before now
  entry : now.entry (buildName gen) = some built

theorem build_yields {gen : Text} {built : Entry} {before now : Host} {op : Op}
    (agrees : Agree (generationReach gen) before now)
    (within : Within (generationReach gen) op)
    (entry : ∀ choice value, (perform now choice op).2 = .ok value →
      (perform now choice op).1.entry (buildName gen) = some built) :
    Prog.Yields perform (Agree (generationReach gen) before)
      (fun _ after => Building gen built before after) (ask op) now := by
  have reaches (choice : Choice) :
      Agree (generationReach gen) before (perform now choice op).1 :=
    agrees.trans (agree_perform within now choice)
  exact ask_yields op agrees reaches fun choice value ok =>
    ⟨reaches choice, entry choice value ok⟩

theorem fillFile_yields {gen : Text} {files : PyDict Text Node} {before now : Host}
    (building : Building gen (.directory true files) before now) (file content : Text)
    (next : PathProg Unit) {ends : Unit → Host → Prop}
    (rest : ∀ after, Building gen (.directory true
        (PyDict.set files file (.regular true content))) before after →
      Prog.Yields perform (Agree (generationReach gen) before) ends next after) :
    Prog.Yields perform (Agree (generationReach gen) before) ends (do
      let _ ← ask (.writeIn (buildName gen) file content)
      let _ ← ask (.chmodIn (buildName gen) file)
      next) now := by
  have wrote : Prog.Yields perform (Agree (generationReach gen) before)
      (fun _ after => Building gen (.directory true
        (PyDict.set files file (.regular false content))) before after)
      (ask (.writeIn (buildName gen) file content)) now := by
    apply build_yields building.agrees (by exact Or.inr rfl)
    intro choice _ ok
    rw [perform_of_ok rfl ok]
    exact entry_inDirectory building.entry _
  apply wrote.bind
  intro _ written _ writing
  have marked : Prog.Yields perform (Agree (generationReach gen) before)
      (fun _ after => Building gen (.directory true
        (PyDict.set files file (.regular true content))) before after)
      (ask (.chmodIn (buildName gen) file)) written := by
    apply build_yields writing.agrees (by exact Or.inr rfl)
    intro choice _ ok
    rw [perform_of_ok rfl ok]
    refine (entry_inDirectory writing.entry _).trans ?_
    simp only [PyDict.get_set_same, PyDict.set_set]
  apply marked.bind
  intro _ after _ afterBuilding
  exact rest after afterBuilding

/-- The directory a generation is installed as. -/
def installed (entry dispatcher : Text) : Entry :=
  .directory true [("entry".toList, .regular true entry),
    ("dispatcher".toList, .regular true dispatcher)]

theorem fillDirectory_yields {gen : Text} {before now : Host} (entry dispatcher : Text)
    (building : Building gen (.directory true []) before now) :
    Prog.Yields perform (Agree (generationReach gen) before)
      (fun _ after => Building gen (installed entry dispatcher) before after)
      (fillDirectory (buildName gen) (generationFiles entry dispatcher)) now := by
  apply fillFile_yields building
  intro first firstBuilding
  apply fillFile_yields firstBuilding
  intro second secondBuilding
  exact Prog.Yields.pure secondBuilding.agrees secondBuilding

theorem clearGeneration_yields {gen : Text} {built : Entry} {before now : Host}
    (building : Building gen built before now) :
    Prog.Yields perform (Agree (generationReach gen) before)
      (fun _ after => Building gen built before after) (clearGeneration gen) now := by
  have cleared := only_yields (@only_clearGeneration
    ⟨fun _ => False, fun name => name = gen, False, False⟩ gen rfl) now
  have widened {after : Host} (agrees : Agree
      ⟨fun _ => False, fun name => name = gen, False, False⟩ now after) :
      Agree (generationReach gen) before after :=
    building.agrees.trans (agrees.widen (fun _ inside => inside)
      (fun _ inside => Or.inl inside) (fun inside => inside) fun inside => inside)
  apply Prog.Yields.mono (cleared.weaken fun _ => widened)
  intro _ after _ agrees
  refine ⟨widened agrees, ?_⟩
  rw [agrees.entry (buildName gen) (buildName_ne gen)]
  exact building.entry

theorem entry_rename {host : Host} {source target : Text} {moved : Entry}
    (held : host.entry source = some moved) (ok : (host.rename source target).2 = .ok ()) :
    (host.rename source target).1.entry target = some moved := by
  unfold Host.rename at ok ⊢
  rw [held] at ok ⊢
  split at ok
  · simp_all [entry_setEntry]
  · simp_all [entry_setEntry]
  · cases ok

theorem buildGeneration_yields (gen entry dispatcher : Text) (host : Host) :
    Prog.Yields perform (Agree (generationReach gen) host)
      (fun _ after => Agree (generationReach gen) host after ∧
        after.entry gen = some (installed entry dispatcher))
      (buildGeneration gen (generationFiles entry dispatcher)) host := by
  have here : Agree (generationReach gen) host host := Agree.refl _ _
  unfold buildGeneration
  apply (quiet_yields here (by trivial) fun _ => Agree.ofNoReach).bind
  intro _ based basedAgrees _
  have removed : Prog.Yields perform (Agree (generationReach gen) host)
      (fun _ after => Agree (generationReach gen) host after)
      (ask (.removeTree (buildName gen) true)) based :=
    ask_yields _ basedAgrees
      (fun choice => basedAgrees.trans (agree_perform (by exact Or.inr rfl) based choice))
      fun choice _ _ =>
        basedAgrees.trans (agree_perform (by exact Or.inr rfl) based choice)
  apply removed.bind
  intro _ cleared clearedAgrees _
  have made : Prog.Yields perform (Agree (generationReach gen) host)
      (fun _ after => Building gen (.directory false []) host after)
      (ask (.makeDir (buildName gen))) cleared := by
    apply build_yields clearedAgrees (by exact Or.inr rfl)
    intro choice _ ok
    have acted := perform_of_ok rfl ok
    rw [acted] at ok ⊢
    simp only [act] at ok ⊢
    split at ok
    · simp [entry_setEntry]
    · cases ok
  apply made.bind
  intro _ directory _ isMade
  have marked : Prog.Yields perform (Agree (generationReach gen) host)
      (fun _ after => Building gen (.directory true []) host after)
      (ask (.chmodDir (buildName gen))) directory := by
    apply build_yields isMade.agrees (by exact Or.inr rfl)
    intro choice _ ok
    rw [perform_of_ok rfl ok]
    exact entry_inDirectory isMade.entry _
  apply marked.bind
  intro _ plain _ isPlain
  apply (fillDirectory_yields entry dispatcher isPlain).bind
  intro _ filled _ isFilled
  apply (clearGeneration_yields isFilled).bind
  intro _ free _ isFree
  have renamed : Prog.Yields perform (Agree (generationReach gen) host)
      (fun _ after => Agree (generationReach gen) host after ∧
        after.entry gen = some (installed entry dispatcher))
      (ask (.renameDir (buildName gen) gen)) free := by
    have reaches (choice : Choice) : Agree (generationReach gen) host
        (perform free choice (.renameDir (buildName gen) gen)).1 :=
      isFree.agrees.trans (agree_perform (by exact ⟨Or.inr rfl, Or.inl rfl⟩) free choice)
    apply ask_yields _ isFree.agrees reaches
    intro choice _ ok
    refine ⟨reaches choice, ?_⟩
    have acted := perform_of_ok rfl ok
    rw [acted] at ok ⊢
    exact entry_rename isFree.entry ok
  apply renamed.bind
  rintro _ moved _ ⟨movedAgrees, held⟩
  have noted := quiet_yields movedAgrees (by trivial : Within noReach (.record
    ((generationFiles entry dispatcher).map fun file =>
      generationPath gen ++ '/' :: file.1))) fun after agrees =>
        movedAgrees.trans agrees.ofNoReach
  apply noted.mono
  intro _ after afterAgrees quiet
  refine ⟨afterAgrees, ?_⟩
  rw [quiet.entry gen not_false]
  exact held

theorem intact_installed {host : Host} {gen entry dispatcher : Text}
    (held : host.entry gen = some (installed entry dispatcher))
    (entryClean : '\r' ∉ entry) (dispatcherClean : '\r' ∉ dispatcher) :
    host.intact gen (generationFiles entry dispatcher) = true := by
  have names : (["entry".toList, "dispatcher".toList] : List Text).isPerm
      ["entry".toList, "dispatcher".toList] = true := by
    decide
  have first : Host.holdsPlain [("entry".toList, .regular true entry),
      ("dispatcher".toList, .regular true dispatcher)] ("entry".toList, entry) = true := by
    simp [Host.holdsPlain, PyDict.get, universal_of_clean entryClean]
  have second : Host.holdsPlain [("entry".toList, .regular true entry),
      ("dispatcher".toList, .regular true dispatcher)]
      ("dispatcher".toList, dispatcher) = true := by
    simp [Host.holdsPlain, PyDict.get, universal_of_clean dispatcherClean]
  rw [Host.intact, held]
  simp only [installed, generationFiles, List.map_cons, List.map_nil, names, List.all_cons,
    first, second, List.all_nil, Bool.and_self]

/-- What stands at a generation's name once it is installed. -/
def Host.reinstalled (host : Host) (gen entry dispatcher : Text) : Option Entry :=
  if host.intact gen (generationFiles entry dispatcher) then host.entry gen
  else some (installed entry dispatcher)

/-- An intact directory stays, anything else makes way for a new one. -/
theorem installGeneration_reinstalls (gen entry dispatcher : Text) (host : Host) :
    Prog.Yields perform (Agree (generationReach gen) host)
      (fun _ after => Agree (generationReach gen) host after ∧
        after.entry gen = host.reinstalled gen entry dispatcher)
      (installGeneration gen entry dispatcher) host := by
  have here : Agree (generationReach gen) host host := Agree.refl _ _
  unfold installGeneration
  have compared : Prog.Yields perform (Agree (generationReach gen) host)
      (fun intact after => after = host ∧
        intact = host.intact gen (generationFiles entry dispatcher))
      (ask (.isIntact gen (generationFiles entry dispatcher))) host := by
    apply ask_yields (.isIntact gen (generationFiles entry dispatcher)) here
    · intro choice
      rw [perform_isIntact]
      exact here
    · intro choice intact ok
      rw [perform_isIntact] at ok ⊢
      cases ok
      exact ⟨rfl, rfl⟩
  apply compared.bind
  rintro intact same _ ⟨rfl, rfl⟩
  split
  · rename_i isIntact
    exact Prog.Yields.pure here ⟨here, (if_pos isIntact).symm⟩
  · rename_i damaged
    apply (buildGeneration_yields gen entry dispatcher same).bind
    rintro _ after agrees ⟨_, held⟩
    exact Prog.Yields.pure agrees ⟨agrees, held.trans (if_neg damaged).symm⟩

theorem intact_reinstalled {before after : Host} {gen entry dispatcher : Text}
    (held : after.entry gen = before.reinstalled gen entry dispatcher)
    (entryClean : '\r' ∉ entry) (dispatcherClean : '\r' ∉ dispatcher) :
    after.intact gen (generationFiles entry dispatcher) = true := by
  unfold Host.reinstalled at held
  split at held
  · rename_i isIntact
    rw [Host.intact, held]
    exact isIntact
  · exact intact_installed held entryClean dispatcherClean

theorem installGeneration_yields {gen entry dispatcher : Text} (entryClean : '\r' ∉ entry)
    (dispatcherClean : '\r' ∉ dispatcher) (host : Host) :
    Prog.Yields perform (Agree (generationReach gen) host)
      (fun _ after => Agree (generationReach gen) host after ∧
        after.intact gen (generationFiles entry dispatcher) = true)
      (installGeneration gen entry dispatcher) host := by
  apply (installGeneration_reinstalls gen entry dispatcher host).mono
  rintro _ after _ ⟨agrees, held⟩
  exact ⟨agrees, intact_reinstalled held entryClean dispatcherClean⟩

end Catena.Dispatch
