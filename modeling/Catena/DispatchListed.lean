import Catena.DispatchStages
import Catena.StepConditions

/-!
# What a switch lists of what it touches

The places a switch can touch, what stands at each, and the paths it lists.
The condition on a step says that what stood in its way can be listed: no
temporary of an earlier run, and no generation directory that holds more than
the two executables put in its place.
-/

namespace Catena.Dispatch

open PyText

/-- A place a switch can touch. -/
inductive Place where
  | panelPub
  | keys
  | keysTmp
  | slot (rules : Slot)
  | slotTmp (rules : Slot)
  | link
  | linkTmp
  | entry (name : Text)
  | inside (name file : Text)
  deriving DecidableEq

/-- What stands at a place, as far as the host holds its content or target. -/
inductive Thing where
  | regular (content : Option Text)
  | symlink (target : Option Text)
  | directory
  | other
  deriving DecidableEq

/-- `str(host.at(path))`.  A file is known by this path, so the directories on it
are taken to be real ones. -/
def hostPath (path : Text) : Text :=
  '/' :: join ['/'] ((splitOn '/' path).filter fun part => part ≠ [] ∧ part ≠ ['.'])

def Place.path (cfg : Config) : Place → Text
  | panelPub => hostPath (cfg.panelKeyDir ++ "/id_ed25519.pub".toList)
  | keys => hostPath (keysPath cfg)
  | keysTmp => hostPath (keysPath cfg) ++ ".tmp".toList
  | slot rules => rules.path
  | slotTmp rules => rules.path ++ ".tmp".toList
  | link => hostPath cfg.link
  | linkTmp => hostPath cfg.link ++ ".tmp".toList
  | entry name => generationPath name
  | inside name file => generationPath name ++ '/' :: file

def Node.thing : Node → Thing
  | regular _ content => .regular (some content)
  | other => .other

/-- What stands at an entry itself; its directory counts where directories do. -/
def Entry.thing (directories : Bool) : Entry → Option Thing
  | directory _ _ => if directories then some .directory else none
  | symlink => some (.symlink none)
  | file => some (.regular none)

/-- What stands at a name in an entry. -/
def Entry.inside (name : Text) : Entry → Option Thing
  | directory _ files => (PyDict.get files name).map Node.thing
  | symlink => none
  | file => none

def Link.thing : Link → Option Thing
  | absent => none
  | symlink target => some (.symlink (some target))
  | other => some .other

/-- What stands at a place, if anything does. -/
def Host.standing (directories : Bool) (host : Host) : Place → Option Thing
  | .panelPub => host.panelPub.map fun content => .regular (some content)
  | .keys => host.keys.map fun content => .regular (some content)
  | .keysTmp => host.keysTmp.map fun content => .regular (some content)
  | .slot rules => (host.files rules).map fun content => .regular (some content)
  | .slotTmp rules => (host.tmps rules).map fun content => .regular (some content)
  | .link => host.link.thing
  | .linkTmp => host.linkTmp.map fun target => .symlink (some target)
  | .entry name => (host.entry name).bind (Entry.thing directories)
  | .inside name file => (host.entry name).bind (Entry.inside file)

/-- The path is listed, or lies under a directory that is. -/
def Covered (wrote : List Text) (path : Text) : Prop :=
  ∃ listed ∈ wrote, path = listed ∨ listed ≠ [] ∧ (listed ++ ['/']) <+: path

instance (wrote : List Text) (path : Text) : Decidable (Covered wrote path) :=
  inferInstanceAs (Decidable (∃ listed ∈ wrote, _))

theorem Covered.mono {wrote more : List Text} {path : Text} (covered : Covered wrote path)
    (kept : wrote ⊆ more) : Covered more path := by
  obtain ⟨listed, found, under⟩ := covered
  exact ⟨listed, kept found, under⟩

theorem covered_self {wrote : List Text} {path : Text} (listed : path ∈ wrote) :
    Covered wrote path :=
  ⟨path, listed, Or.inl rfl⟩

/-- Whatever differs between two hosts is covered by what the second lists. -/
structure Accounted (directories : Bool) (cfg : Config) (before after : Host) : Prop where
  kept : before.wrote ⊆ after.wrote
  listed : ∀ place, after.standing directories place = before.standing directories place ∨
    Covered after.wrote (place.path cfg)

variable {directories : Bool} {cfg : Config} {gen : Text}

theorem Accounted.refl (host : Host) : Accounted directories cfg host host :=
  ⟨List.Subset.refl _, fun _ => Or.inl rfl⟩

theorem Accounted.trans {first second third : Host}
    (before : Accounted directories cfg first second)
    (after : Accounted directories cfg second third) :
    Accounted directories cfg first third := by
  constructor
  · exact List.Subset.trans before.kept after.kept
  · intro place
    rcases after.listed place with same | covered
    · rcases before.listed place with sameBefore | covered
      · exact Or.inl (same.trans sameBefore)
      · exact Or.inr (covered.mono after.kept)
    · exact Or.inr covered

instance : IsPreorder Host (Accounted directories cfg) where
  refl := Accounted.refl
  trans _ _ _ := Accounted.trans

/-- A host that differs outside the generations directory only. -/
theorem accounted_of_files {before after : Host} (kept : before.wrote ⊆ after.wrote)
    (panelPub : after.panelPub = before.panelPub)
    (keys : after.keys = before.keys ∨ Covered after.wrote (Place.keys.path cfg))
    (keysTmp : after.keysTmp = before.keysTmp)
    (files : ∀ slot, after.files slot = before.files slot ∨ slot.path ∈ after.wrote)
    (tmps : ∀ slot, after.tmps slot = before.tmps slot)
    (link : after.link = before.link ∨ Covered after.wrote (Place.link.path cfg))
    (linkTmp : after.linkTmp = before.linkTmp)
    (generations : after.generations = before.generations) :
    Accounted directories cfg before after := by
  refine ⟨kept, ?_⟩
  have entries (name : Text) : after.entry name = before.entry name := by
    rw [Host.entry, Host.entry, generations]
  intro place
  cases place with
  | panelPub => exact Or.inl (by simp only [Host.standing, panelPub])
  | keys => exact keys.imp (fun same => by simp only [Host.standing, same]) id
  | keysTmp => exact Or.inl (by simp only [Host.standing, keysTmp])
  | slot slot =>
      rcases files slot with same | listed
      · exact Or.inl (by simp only [Host.standing, same])
      · exact Or.inr (covered_self listed)
  | slotTmp slot => exact Or.inl (by simp only [Host.standing, tmps])
  | link => exact link.imp (fun same => by simp only [Host.standing, same]) id
  | linkTmp => exact Or.inl (by simp only [Host.standing, linkTmp])
  | entry name => exact Or.inl (by simp only [Host.standing, entries])
  | inside name file => exact Or.inl (by simp only [Host.standing, entries])

theorem accounted_of_entries {before after : Host} (kept : before.wrote ⊆ after.wrote)
    (only : after = { before with
      generations := after.generations
      wrote := after.wrote })
    (entries : ∀ name, (after.entry name).bind (Entry.thing directories) =
        (before.entry name).bind (Entry.thing directories) ∨
      Covered after.wrote (generationPath name))
    (insides : ∀ name file, (after.entry name).bind (Entry.inside file) =
        (before.entry name).bind (Entry.inside file) ∨
      Covered after.wrote (generationPath name ++ '/' :: file)) :
    Accounted directories cfg before after := by
  refine ⟨kept, ?_⟩
  intro place
  cases place with
  | entry name => exact entries name
  | inside name file => exact insides name file
  | _ => exact Or.inl (by rw [only]; rfl)

/-- A generation put in this place is listed whole. -/
def Replaceable (directories : Bool) (gen : Text) (host : Host) : Prop :=
  match host.entry gen with
  | none => directories = false
  | some (.directory _ files) =>
      ∀ file ∈ files, file.1 = "entry".toList ∨ file.1 = "dispatcher".toList
  | some _ => False

instance (directories : Bool) (gen : Text) (host : Host) :
    Decidable (Replaceable directories gen host) := by
  unfold Replaceable
  split <;> infer_instance

/-- A generation can be put together and moved to its place with everything
listed, or cannot be put together. -/
def Buildable (directories : Bool) (gen : Text) (host : Host) : Prop :=
  match host.entry (buildName gen) with
  | none => Replaceable directories gen host
  | some (.directory _ files) => directories = false ∧ files = [] ∧
      Replaceable directories gen host
  | some _ => True

instance (directories : Bool) (gen : Text) (host : Host) :
    Decidable (Buildable directories gen host) := by
  unfold Buildable
  split <;> infer_instance

/-- A path in its normal form that climbs to no parent. -/
structure Direct (path : Text) : Prop where
  normal : hostPath path = path
  level : ['.', '.'] ∉ splitOn '/' path

instance (path : Text) : Decidable (Direct path) :=
  decidable_of_iff (hostPath path = path ∧ ['.', '.'] ∉ splitOn '/' path)
    ⟨fun both => ⟨both.1, both.2⟩, fun direct => ⟨direct.normal, direct.level⟩⟩

/-- The condition on a step under which all it touches comes to be listed. -/
def Listable (directories : Bool) (cfg : Config) (gen : Text) (host : Host) : Op → Prop
  | .unlinkKeysTmp => host.keysTmp = none ∧ Direct (keysPath cfg)
  | .unlinkKeys => host.keys = none ∨ Direct (keysPath cfg)
  | .writeTmp slot _ => host.tmps slot = none
  | .clearLinkTmp => host.linkTmp = none ∧ Direct cfg.link
  | .makeBase => Buildable directories gen host
  | _ => True

instance (directories : Bool) (cfg : Config) (gen : Text) (host : Host) (op : Op) :
    Decidable (Listable directories cfg gen host op) := by
  unfold Listable
  split <;> infer_instance

/-- Every run whose steps are listable accounts for what it touches. -/
abbrev Lists (directories : Bool) (cfg : Config) (gen : Text) {α : Type}
    (program : PathProg α) : Prop :=
  Prog.Relates act (Listable directories cfg gen) (Accounted directories cfg) program

theorem where_act {α : Type} {meets : Host → Op → Prop} {op : Op} {next : Res op → PathProg α}
    {ends : Except Failure α → Host → Prop} {host : Host} {after : Choice → Host}
    {answer : Choice → Res op}
    (acts : ∀ choice, act host choice op = (after choice, .ok (answer choice)))
    (rest : meets host op → ∀ choice,
      Prog.Where act meets ends (next (answer choice)) (after choice)) :
    Prog.Where act meets ends (ask op >>= next) host := by
  apply Prog.Where.call_bind
  · intro met choice value answered
    rw [acts] at answered ⊢
    cases answered
    exact rest met choice
  · intro met choice failure answered
    rw [acts] at answered
    cases answered

/-- The operation changes nothing that stands anywhere, and lists nothing. -/
def Idle (op : Op) : Prop :=
  ∀ host choice, (act host choice op).1.standing true = host.standing true ∧
    (act host choice op).1.standing false = host.standing false ∧
    (act host choice op).1.wrote = host.wrote

theorem lists_ask {op : Op} (idle : Idle op) : Lists directories cfg gen (ask op) := by
  apply Prog.relates_call
  intro host choice _
  obtain ⟨all, files, wrote⟩ := idle host choice
  refine ⟨by rw [wrote]; exact List.Subset.refl _, fun place => Or.inl ?_⟩
  cases directories with
  | true => rw [all]
  | false => rw [files]

theorem lists_pure {α : Type} (value : α) :
    Lists directories cfg gen (pure value : PathProg α) :=
  Prog.relates_done _

theorem lists_refuse {α : Type} (message : String) :
    Lists directories cfg gen (refuse message : PathProg α) :=
  Prog.relates_done _

theorem idle_run (argv : List Text) : Idle (.run argv) := by
  intro host choice
  simp only [act]
  split
  · exact ⟨rfl, rfl, rfl⟩
  · exact ⟨rfl, rfl, rfl⟩

theorem update_tmps {host : Host} {slot : Slot} (free : host.tmps slot = none)
    (content : Option Text) (wanted : Slot) :
    Function.update (Function.update host.tmps slot content) slot none wanted =
      host.tmps wanted := by
  rw [Function.update_idem, ← free, Function.update_eq_self]

/-- A command a temporary has to pass leaves the temporary, or removes it. -/
theorem accepted_where {host : Host} {slot : Slot} (check : List Text) :
    Prog.Where act (Listable directories cfg gen) (fun outcome after => ∃ loaded,
      after = { host with loaded := loaded } ∧ outcome = .ok () ∨
        after = ({ host with loaded := loaded } : Host).setTmp slot none ∧
          ∃ failure, outcome = .error failure) (write.accepted slot check) host := by
  cases check with
  | nil => exact ⟨host.loaded, Or.inl ⟨rfl, rfl⟩⟩
  | cons command arguments =>
      intro _ choice
      have ran : ∃ loaded, act host choice
          (.run (command :: arguments ++ [slot.path ++ ".tmp".toList])) =
            ({ host with loaded := loaded }, .ok choice.ran) := by
        simp only [act]
        split
        · exact ⟨_, rfl⟩
        · exact ⟨host.loaded, rfl⟩
      obtain ⟨loaded, ran⟩ := ran
      rw [ran]
      simp only [Prog.andThen, Prog.onOk]
      split
      · exact fun _ _ => ⟨loaded, Or.inr ⟨rfl, _, rfl⟩⟩
      · exact ⟨loaded, Or.inl ⟨rfl, rfl⟩⟩

theorem lists_write (slot : Slot) (text : Text) (mode : Nat) (check : List Text) :
    Lists directories cfg gen (write slot text mode check) := by
  intro host
  unfold write
  apply where_act (fun _ => rfl)
  intro _ _
  split
  · exact Accounted.refl host
  · apply where_act (fun _ => rfl)
    intro free _
    apply where_act (fun _ => rfl)
    intro _ _
    have drafted : (host.setTmp slot (some text)).tmps slot = some text :=
      Function.update_self ..
    apply (accepted_where check).bind
    · rintro _ _ ⟨loaded, ⟨rfl, _⟩ | ⟨_, _, failed⟩⟩
      · have replaces (choice : Choice) :
            act { host.setTmp slot (some text) with loaded := loaded } choice
                (.replaceFile slot) =
              ((({ host.setTmp slot (some text) with loaded := loaded } : Host).setFile slot
                (some text)).setTmp slot none, .ok ()) := by
          simp only [act, drafted]
        apply where_act replaces
        intro _ _
        apply where_act (fun _ => rfl)
        intro _ _
        refine accounted_of_files (List.subset_append_left _ _) rfl (Or.inl rfl) rfl ?_
          (update_tmps free _) (Or.inl rfl) rfl rfl
        intro wanted
        by_cases same : wanted = slot
        · subst same
          exact Or.inr (List.mem_append_right _ (List.mem_singleton_self _))
        · exact Or.inl (Function.update_of_ne same _ _)
      · cases failed
    · rintro _ _ ⟨loaded, ⟨_, failed⟩ | ⟨rfl, _, _⟩⟩
      · cases failed
      · exact accounted_of_files (List.Subset.refl _) rfl (Or.inl rfl) rfl
          (fun _ => Or.inl rfl) (update_tmps free _) (Or.inl rfl) rfl rfl

theorem lists_remove (slot : Slot) : Lists directories cfg gen (remove slot) := by
  intro host
  apply where_act (fun _ => rfl)
  intro _ _
  split
  · apply where_act (fun _ => rfl)
    intro _ _
    apply where_act (fun _ => rfl)
    intro _ _
    refine accounted_of_files (List.subset_append_left _ _) rfl (Or.inl rfl) rfl ?_
      (fun _ => rfl) (Or.inl rfl) rfl rfl
    intro wanted
    by_cases same : wanted = slot
    · subst same
      exact Or.inr (List.mem_append_right _ (List.mem_singleton_self _))
    · exact Or.inl (Function.update_of_ne same _ _)
  · exact Accounted.refl host

theorem lists_putBack (slot : Slot) (text : Option Text) (mode : Nat) :
    Lists directories cfg gen (putBack slot text mode) := by
  cases text with
  | none => exact (lists_remove slot).bind fun _ => lists_pure ()
  | some text => exact (lists_write slot text mode []).bind fun _ => lists_pure ()

theorem lists_sshdReload : Lists directories cfg gen sshdReload := by
  apply (lists_ask (idle_run _)).bind
  intro ran
  split
  · exact lists_refuse _
  · exact lists_pure _

theorem lists_placeSshd (slot : Slot) (text : Text) :
    Lists directories cfg gen (placeSshd slot text) := by
  apply (lists_ask fun _ _ => ⟨rfl, rfl, rfl⟩).bind
  intro before
  apply (lists_write slot text _ []).bind
  intro changed
  split
  · apply (lists_ask (idle_run _)).bind
    intro ran
    split
    · exact (lists_putBack slot before _).bind fun _ => lists_refuse _
    · exact lists_pure _
  · exact lists_pure _

theorem lists_writeKeys (text : Text) : Lists directories cfg gen (writeKeys cfg text) := by
  intro host
  apply where_act (fun _ => rfl)
  intro _ _
  split
  · exact Accounted.refl host
  · rintro ⟨free, direct⟩ _ _ _ _ _ _ _
    refine accounted_of_files (List.subset_append_left _ _) rfl (Or.inr ?_) free.symm
      (fun _ => Or.inl rfl) (fun _ => rfl) (Or.inl rfl) rfl rfl
    rw [Place.path, direct.normal]
    exact covered_self (List.mem_append_right _ (List.mem_singleton_self _))

theorem lists_removeKeys : Lists directories cfg gen (removeKeys cfg) := by
  intro host
  apply where_act (fun _ => rfl)
  intro direct _
  split
  · rename_i held
    apply where_act (fun _ => rfl)
    intro _ _
    refine accounted_of_files (List.subset_append_left _ _) rfl ?_ rfl
      (fun _ => Or.inl rfl) (fun _ => rfl) (Or.inl rfl) rfl rfl
    rcases direct with gone | direct
    · exact Or.inl gone.symm
    · right
      rw [Place.path, direct.normal]
      exact covered_self (List.mem_append_right _ (List.mem_singleton_self _))
  · rename_i gone
    have gone : host.keys = none := by simpa using gone
    exact accounted_of_files (List.Subset.refl _) rfl (Or.inl gone.symm) rfl
      (fun _ => Or.inl rfl) (fun _ => rfl) (Or.inl rfl) rfl rfl

theorem lists_putBackKeys (text : Option Text) :
    Lists directories cfg gen (putBackKeys cfg text) := by
  cases text with
  | none => exact lists_removeKeys.bind fun _ => lists_pure ()
  | some text => exact (lists_writeKeys text).bind fun _ => lists_pure ()

theorem lists_link (target : Text) : Lists directories cfg gen (link cfg.link target) := by
  intro host
  have relinks (held : Option Text) : Prog.Where act (Listable directories cfg gen)
      (fun _ after => Accounted directories cfg host after)
      (if held = some target then pure false
      else do
        let _ ← ask .clearLinkTmp
        let _ ← ask (.symlinkTmp target)
        let _ ← ask .replaceLink
        let _ ← ask (.record [cfg.link])
        return true : PathProg Bool) host := by
    split
    · exact Accounted.refl host
    · apply where_act (fun _ => rfl)
      rintro ⟨free, direct⟩ _
      apply where_act (fun _ => rfl)
      intro _ _
      apply where_act (fun _ => rfl)
      intro _ _
      apply where_act (fun _ => rfl)
      intro _ _
      refine accounted_of_files (List.subset_append_left _ _) rfl (Or.inl rfl) rfl
        (fun _ => Or.inl rfl) (fun _ => rfl) (Or.inr ?_) free.symm rfl
      rw [Place.path, direct.normal]
      exact covered_self (List.mem_append_right _ (List.mem_singleton_self _))
  unfold link
  apply where_act (fun _ => rfl)
  intro _ _
  exact relinks _

end Catena.Dispatch
