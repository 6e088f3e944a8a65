import Catena.DispatchHost

/-!
# What the parts of the switch leave alone

For each part of the switch, the rule files, generations and keys its operations
may change; everything else is as it was at every point the part can be cut at.
-/

namespace Catena.Dispatch

open PyText

/-- What a part of the switch may change. -/
structure Reach where
  slots : Slot → Prop
  names : Text → Prop
  keys : Prop
  link : Prop

/-- The operation changes nothing outside the reach. -/
def Within (reach : Reach) : Op → Prop
  | .replaceKeys => reach.keys
  | .unlinkKeys => reach.keys
  | .replaceFile slot => reach.slots slot
  | .unlinkFile slot => reach.slots slot
  | .removeTree name _ => reach.names name
  | .makeDir name => reach.names name
  | .chmodDir name => reach.names name
  | .writeIn name _ _ => reach.names name
  | .chmodIn name _ => reach.names name
  | .unlinkEntry name => reach.names name
  | .renameDir source target => reach.names source ∧ reach.names target
  | .replaceLink => reach.link
  | _ => True

/-- Two hosts agree outside the reach. -/
structure Agree (reach : Reach) (before after : Host) : Prop where
  panelPub : after.panelPub = before.panelPub
  files : ∀ slot, ¬ reach.slots slot → after.files slot = before.files slot
  entry : ∀ name, ¬ reach.names name → after.entry name = before.entry name
  keys : ¬ reach.keys → after.keys = before.keys
  link : ¬ reach.link → after.link = before.link

theorem Agree.refl (reach : Reach) (host : Host) : Agree reach host host :=
  ⟨rfl, fun _ _ => rfl, fun _ _ => rfl, fun _ => rfl, fun _ => rfl⟩

theorem Agree.trans {reach : Reach} {first second third : Host}
    (before : Agree reach first second) (after : Agree reach second third) :
    Agree reach first third where
  panelPub := after.panelPub.trans before.panelPub
  files slot outside := (after.files slot outside).trans (before.files slot outside)
  entry name outside := (after.entry name outside).trans (before.entry name outside)
  keys outside := (after.keys outside).trans (before.keys outside)
  link outside := (after.link outside).trans (before.link outside)

theorem entry_setEntry (host : Host) (name wanted : Text) (entry : Entry) :
    (host.setEntry name entry).entry wanted =
      if name = wanted then some entry else host.entry wanted :=
  PyDict.get_set host.generations name wanted entry

theorem entry_dropEntry (host : Host) (name wanted : Text) :
    (host.dropEntry name).entry wanted =
      if name = wanted then none else host.entry wanted :=
  PyDict.get_erase host.generations name wanted

theorem agree_setEntry {reach : Reach} {name : Text} (inside : reach.names name)
    (host : Host) (entry : Entry) : Agree reach host (host.setEntry name entry) where
  panelPub := rfl
  files _ _ := rfl
  entry wanted outside := by
    have ne : name ≠ wanted := fun same => outside (same ▸ inside)
    rw [entry_setEntry, if_neg ne]
  keys _ := rfl
  link _ := rfl

theorem agree_dropEntry {reach : Reach} {name : Text} (inside : reach.names name)
    (host : Host) : Agree reach host (host.dropEntry name) where
  panelPub := rfl
  files _ _ := rfl
  entry wanted outside := by
    have ne : name ≠ wanted := fun same => outside (same ▸ inside)
    rw [entry_dropEntry, if_neg ne]
  keys _ := rfl
  link _ := rfl

theorem agree_setFile {reach : Reach} {slot : Slot} (inside : reach.slots slot)
    (host : Host) (content : Option Text) : Agree reach host (host.setFile slot content) where
  panelPub := rfl
  files wanted outside := by
    have ne : wanted ≠ slot := fun same => outside (same ▸ inside)
    exact Function.update_of_ne ne _ _
  entry _ _ := rfl
  keys _ := rfl
  link _ := rfl

theorem agree_inDirectory {reach : Reach} {name : Text} (inside : reach.names name)
    (host : Host) (change : Bool → PyDict Text Node → Entry) :
    Agree reach host (host.inDirectory name change).1 := by
  unfold Host.inDirectory
  split
  · exact agree_setEntry inside host _
  · exact Agree.refl reach host

theorem agree_rename {reach : Reach} {source target : Text}
    (inside : reach.names source ∧ reach.names target) (host : Host) :
    Agree reach host (host.rename source target).1 := by
  have moved (entry : Entry) :
      Agree reach host ((host.dropEntry source).setEntry target entry) :=
    (agree_dropEntry inside.1 host).trans (agree_setEntry inside.2 _ entry)
  unfold Host.rename
  split
  · exact moved _
  · exact moved _
  · exact Agree.refl reach host

theorem agree_removeTree {reach : Reach} {name : Text} (inside : reach.names name)
    (host : Host) (ignoreErrors : Bool) :
    Agree reach host (host.removeTree name ignoreErrors).1 := by
  unfold Host.removeTree
  split
  · exact agree_dropEntry inside host
  · exact Agree.refl reach host

theorem agree_thin {reach : Reach} {name : Text} (inside : reach.names name)
    (host : Host) (kept : List Text) : Agree reach host (host.thin name kept) := by
  unfold Host.thin
  split
  · exact agree_setEntry inside host _
  · exact Agree.refl reach host

/-- An operation changes nothing outside its reach. -/
theorem agree_act {reach : Reach} {op : Op} (within : Within reach op) (host : Host)
    (choice : Choice) : Agree reach host (act host choice op).1 := by
  cases op with
  | replaceKeys =>
      simp only [act]
      split
      · exact ⟨rfl, fun _ _ => rfl, fun _ _ => rfl, fun outside => absurd within outside,
          fun _ => rfl⟩
      · exact Agree.refl reach host
  | unlinkKeys =>
      exact ⟨rfl, fun _ _ => rfl, fun _ _ => rfl, fun outside => absurd within outside,
        fun _ => rfl⟩
  | replaceFile slot =>
      simp only [act]
      split
      · rename_i content _
        have replaced := agree_setFile within host (some content)
        exact ⟨replaced.panelPub, replaced.files, replaced.entry, replaced.keys,
          replaced.link⟩
      · exact Agree.refl reach host
  | unlinkFile slot => exact agree_setFile within host none
  | run argv =>
      simp only [act]
      split
      · exact ⟨rfl, fun _ _ => rfl, fun _ _ => rfl, fun _ => rfl, fun _ => rfl⟩
      · exact Agree.refl reach host
  | removeTree name ignoreErrors => exact agree_removeTree within host ignoreErrors
  | makeDir name =>
      simp only [act]
      split
      · exact agree_setEntry within host _
      · exact Agree.refl reach host
  | chmodDir name => exact agree_inDirectory within host _
  | writeIn name file text => exact agree_inDirectory within host _
  | chmodIn name file => exact agree_inDirectory within host _
  | unlinkEntry name =>
      simp only [act]
      split
      · exact agree_dropEntry within host
      · exact agree_dropEntry within host
      · exact Agree.refl reach host
  | renameDir source target => exact agree_rename within host
  | replaceLink =>
      simp only [act]
      split
      · exact ⟨rfl, fun _ _ => rfl, fun _ _ => rfl, fun _ => rfl,
          fun outside => absurd within outside⟩
      · exact Agree.refl reach host
  | _ => exact ⟨rfl, fun _ _ => rfl, fun _ _ => rfl, fun _ => rfl, fun _ => rfl⟩

theorem agree_perform {reach : Reach} {op : Op} (within : Within reach op) (host : Host)
    (choice : Choice) : Agree reach host (perform host choice op).1 := by
  unfold perform
  split
  · rename_i failure raises
    cases op with
    | removeTree name ignoreErrors => exact agree_thin within host choice.kept
    | isIntact gen files => exact agree_act within host choice
    | removeProofDir _ => exact Agree.refl reach host
    | record paths => exact agree_act within host choice
    | recorded => exact agree_act within host choice
    | _ => exact Agree.refl reach host
  · exact agree_act within host choice

/-- A program of operations within the reach changes nothing outside it. -/
theorem Only.agree {α : Type} {reach : Reach} {program : PathProg α}
    (only : program.Only (Within reach)) (start : Host) {host : Host}
    (here : Agree reach start host) :
    program.Always perform (Agree reach start) (fun _ _ => True) host :=
  Prog.Only.always only
    (fun _ within before choice agrees => agrees.trans (agree_perform within before choice))
    here

section Reaches

variable {reach : Reach}

theorem only_ask {op : Op} (within : Within reach op) : (ask op).Only (Within reach) :=
  ⟨within, fun _ => trivial⟩

theorem only_write {slot : Slot} (inside : reach.slots slot) (text : Text) (mode : Nat)
    (check : List Text) : (write slot text mode check).Only (Within reach) := by
  have checked : (write.accepted slot check).Only (Within reach) := by
    cases check with
    | nil => trivial
    | cons command arguments =>
        apply (only_ask (by trivial)).bind
        intro ran
        split
        · apply (only_ask (by trivial)).bind
          intro _
          trivial
        · trivial
  unfold write
  apply (only_ask (by trivial)).bind
  intro held
  split
  · trivial
  · apply (only_ask (by trivial)).bind
    intro _
    apply (only_ask (by trivial)).bind
    intro _
    apply checked.bind
    intro _
    apply (only_ask (by exact inside)).bind
    intro _
    apply (only_ask (by trivial)).bind
    intro _
    trivial

theorem only_remove {slot : Slot} (inside : reach.slots slot) :
    (remove slot).Only (Within reach) := by
  apply (only_ask (by trivial)).bind
  intro present
  split
  · apply (only_ask (by exact inside)).bind
    intro _
    apply (only_ask (by trivial)).bind
    intro _
    trivial
  · trivial

theorem only_removeGeneration {name : Text} (inside : reach.names name) :
    (removeGeneration name).Only (Within reach) := by
  have recorded : (do
      let _ ← ask (.record [generationPath name])
      return true : PathProg Bool).Only (Within reach) :=
    (only_ask (by trivial)).bind fun _ => trivial
  apply (only_ask (by trivial)).bind
  intro kind
  cases kind with
  | absent => trivial
  | directory => exact (only_ask (by exact inside)).bind fun _ => recorded
  | symlink => exact (only_ask (by exact inside)).bind fun _ => recorded
  | file => exact (only_ask (by exact inside)).bind fun _ => recorded

theorem only_putBack {slot : Slot} (inside : reach.slots slot) (content : Option Text)
    (mode : Nat) : (putBack slot content mode).Only (Within reach) := by
  cases content with
  | none => exact (only_remove inside).bind fun _ => trivial
  | some content => exact (only_write inside content mode []).bind fun _ => trivial

theorem only_sshdReload : sshdReload.Only (Within reach) := by
  apply (only_ask (by trivial)).bind
  intro ran
  split <;> trivial

theorem only_placeSshd {slot : Slot} (inside : reach.slots slot) (content : Text) :
    (placeSshd slot content).Only (Within reach) := by
  apply (only_ask (by trivial)).bind
  intro before
  apply (only_write inside content _ []).bind
  intro changed
  split
  · apply (only_ask (by trivial)).bind
    intro ran
    split
    · exact (only_putBack inside before _).bind fun _ => trivial
    · trivial
  · trivial

theorem only_link (inside : reach.link) (path target : Text) :
    (link path target).Only (Within reach) := by
  apply (only_ask (by trivial)).bind
  intro held
  split
  · trivial
  · apply (only_ask (by trivial)).bind
    intro _
    apply (only_ask (by trivial)).bind
    intro _
    apply (only_ask (by exact inside)).bind
    intro _
    exact (only_ask (by trivial)).bind fun _ => trivial

theorem only_fillDirectory {name : Text} (inside : reach.names name)
    (files : List (Text × Text)) : (fillDirectory name files).Only (Within reach) := by
  induction files with
  | nil => trivial
  | cons file rest ih =>
      apply (only_ask (by exact inside)).bind
      intro _
      exact (only_ask (by exact inside)).bind fun _ => ih

theorem only_clearGeneration {gen : Text} (inside : reach.names gen) :
    (clearGeneration gen).Only (Within reach) := by
  apply (only_ask (by trivial)).bind
  intro kind
  split
  · exact only_ask (by exact inside)
  · exact only_ask (by exact inside)

theorem only_buildGeneration {gen : Text} (inside : reach.names gen)
    (beside : reach.names (buildName gen)) (files : List (Text × Text)) :
    (buildGeneration gen files).Only (Within reach) := by
  apply (only_ask (by trivial)).bind
  intro _
  apply (only_ask (by exact beside)).bind
  intro _
  apply (only_ask (by exact beside)).bind
  intro _
  apply (only_ask (by exact beside)).bind
  intro _
  apply (only_fillDirectory beside files).bind
  intro _
  apply (only_clearGeneration inside).bind
  intro _
  apply (only_ask (by exact ⟨beside, inside⟩)).bind
  intro _
  exact only_ask (by trivial)

theorem only_installGeneration {gen : Text} (inside : reach.names gen)
    (beside : reach.names (buildName gen)) (entry dispatcher : Text) :
    (installGeneration gen entry dispatcher).Only (Within reach) := by
  apply (only_ask (by trivial)).bind
  intro intact
  split
  · trivial
  · exact (only_buildGeneration inside beside _).bind fun _ => trivial

theorem only_dispatch (argv : List Text) (more : Nat) :
    (dispatch argv more).Only (Within reach) := by
  induction more with
  | zero => exact only_ask (by trivial)
  | succ more ih =>
      apply (only_ask (by trivial)).bind
      intro ran
      split
      · exact ih
      · trivial

theorem only_prove (py : Builtins) (cfg : Config) (key gen : Text) :
    (prove py cfg key gen).Only (Within reach) := by
  apply (only_ask (by trivial)).bind
  intro nonce
  apply (only_dispatch _ _).bind
  intro ran
  split
  · trivial
  · exact (only_dispatch _ _).bind fun _ => trivial

theorem only_undo {gen : Text} (inside : reach.names gen)
    (rule : reach.slots .sudoersNext) (accept : reach.slots .acceptenvNext)
    (reloaded : Bool) : (undo gen reloaded).Only (Within reach) := by
  apply (only_removeGeneration inside).bind
  intro _
  apply (only_remove rule).bind
  intro _
  apply (only_remove accept).bind
  intro removed
  split
  · exact only_sshdReload
  · trivial

theorem only_beside {path : Rendered} (inside : reach.names path.gen)
    (built : reach.names (buildName path.gen)) (rule : reach.slots .sudoersNext)
    (accept : reach.slots .acceptenvNext) : (beside path).Only (Within reach) := by
  apply (only_installGeneration inside built _ _).bind
  intro _
  apply (only_write rule _ _ _).bind
  intro _
  exact (only_placeSshd accept _).bind fun _ => trivial

theorem only_restoreNext {path : Rendered} (rule : reach.slots .sudoersNext)
    (accept : reach.slots .acceptenvNext) : (restoreNext path).Only (Within reach) := by
  apply (only_write rule _ _ _).bind
  intro _
  apply (only_placeSshd accept _).bind
  intro placed
  split
  · exact only_sshdReload
  · trivial

theorem only_removeOthers {gen : Text} (inside : ∀ name, name ≠ gen → reach.names name)
    (names : List Text) : (removeOthers gen names).Only (Within reach) := by
  induction names with
  | nil => trivial
  | cons other rest ih =>
      rw [removeOthers]
      split
      · rename_i ne
        exact (only_removeGeneration (inside other ne)).bind fun _ => ih
      · exact ih

theorem only_removeStale (dirs : List Nat) : (removeStale dirs).Only (Within reach) := by
  induction dirs with
  | nil => trivial
  | cons dir rest ih => exact (only_ask (by trivial)).bind fun _ => ih

theorem only_proveRetired (py : Builtins) {path : Rendered}
    (rule : reach.slots .sudoersNext) (accept : reach.slots .acceptenvNext) :
    (proveRetired py path).Only (Within reach) := by
  apply (only_prove py _ _ _).bind
  intro reasons
  split
  · exact (only_restoreNext rule accept).bind fun _ => trivial
  · trivial

theorem only_settleRules (py : Builtins) {path : Rendered}
    (rule : reach.slots .sudoersNext) (accept : reach.slots .acceptenvNext)
    (touched placed : Bool) :
    (settleRules py path touched placed).Only (Within reach) := by
  have proved (again : Bool) : (if again then proveRetired py path
      else pure ()).Only (Within reach) := by
    split
    · exact only_proveRetired py rule accept
    · trivial
  apply (only_remove rule).bind
  intro unruled
  apply (only_remove accept).bind
  intro unaccepted
  extract_lets rest
  split
  · exact only_sshdReload.bind fun _ => proved _
  · exact proved _

theorem only_tidy {path : Rendered} (inside : ∀ name, name ≠ path.gen → reach.names name)
    (linked : reach.link) : (tidy path).Only (Within reach) := by
  apply (only_link linked _ _).bind
  intro _
  apply (only_ask (by trivial)).bind
  intro names
  apply (only_removeOthers inside names).bind
  intro _
  apply (only_ask (by trivial)).bind
  intro dirs
  exact only_removeStale dirs

end Reaches

end Catena.Dispatch
