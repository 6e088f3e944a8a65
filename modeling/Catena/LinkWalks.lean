import Catena.UnpackRefines

/-!
# Walks that stay in the tree

`_resolves_inside` reads the tree as `/` and asks of each link whether it stays
inside.  Where it says so of every link, the kernel stays inside the tree too,
wherever the tree has been moved to: a path without `..` never leaves it, however
many links it goes through.
-/

namespace Catena.Fetch

open PyText Posix

/-- The target of a node, where it is a link. -/
def linkOf : Option Node → Option Name
  | some (.link target) => some target
  | _ => none

theorem linkOf_eq_some {node : Option Node} {target : Name} :
    linkOf node = some target ↔ node = some (.link target) := by
  cases node with
  | none => simp [linkOf]
  | some node => cases node <;> simp [linkOf]

theorem linkOf_of_isDir {tree : Fs} {path : Path} (directory : isDir tree path = true) :
    linkOf (PyDict.get tree path) = none := by
  obtain ⟨mode, held⟩ := isDir_eq_true.mp directory
  rw [held]
  rfl

/-- Without a link on the way, a walk goes along its path until it ends. -/
theorem stride_plain {fs : Fs} {place : Path} {todo : List Name}
    (proper : ∀ name ∈ todo, Proper name)
    (plain : ∀ more, more <+: todo → more ≠ [] →
      linkOf (PyDict.get fs (place ++ more)) = none) :
    (stride fs place todo).2 = .arrived (place ++ todo) ∨
      ∃ errno, (stride fs place todo).2 = .failed errno := by
  induction todo generalizing place with
  | nil => simp [stride]
  | cons part rest ih =>
      obtain ⟨nonempty, notCurrent, notUpper⟩ := proper part (List.mem_cons_self ..)
      have here := plain [part] (List.prefix_append [part] rest) (List.cons_ne_nil _ _)
      rw [stride, if_neg (by simp [nonempty, notCurrent]), if_neg notUpper]
      cases held : PyDict.get fs (place ++ [part]) with
      | none => exact Or.inr ⟨_, rfl⟩
      | some node =>
          cases node with
          | link target =>
              rw [held] at here
              cases here
          | dir mode =>
              have split : place ++ part :: rest = place ++ [part] ++ rest := by simp
              rw [split]
              apply ih fun name found => proper name (List.mem_cons_of_mem _ found)
              intro more under _
              rw [List.append_assoc]
              exact plain (part :: more) (List.cons_prefix_cons.mpr ⟨rfl, under⟩)
                (List.cons_ne_nil _ _)
          | file data mode =>
              dsimp only
              by_cases last : rest = []
              · rw [if_pos last, last]
                exact Or.inl rfl
              · rw [if_neg last]
                exact Or.inr ⟨_, rfl⟩

section Reads

variable {base : Path} {fs tree : Fs} (based : Based base fs tree)

include based

/-- No link leads to the tree. -/
theorem Based.linkOf_base {more : Path} (under : more <+: base) :
    linkOf (PyDict.get fs more) = none := by
  by_cases whole : more = base
  · have same := based.same []
    rw [List.append_nil] at same
    rw [whole, same]
    cases held : PyDict.get tree [] with
    | none => rfl
    | some node =>
        have directory := based.wellFormed.root node held
        cases node with
        | dir mode => rfl
        | file data mode => cases directory
        | link target => cases directory
  · exact linkOf_of_isDir (based.real.parents more under whole)

/-- What `os.path.islink` and `os.readlink` say of an entry, where no link is on
the way to it. -/
theorem Based.linkAt_entry {place : Path} {part : Name}
    (proper : ∀ name ∈ place ++ [part], Proper name)
    (plain : ∀ more, more <+: place → linkOf (PyDict.get tree more) = none) :
    linkAt fs (base ++ (place ++ [part])) = linkOf (PyDict.get tree (place ++ [part])) := by
  cases reached : reaches tree [] place with
  | true =>
      rw [linkAt, based.lstat_entry reached proper]
      cases PyDict.get tree (place ++ [part]) with
      | none => rfl
      | some node => cases node <;> rfl
  | false =>
      have notDir : isDir tree place = false := by
        by_contra directory
        rw [Bool.not_eq_false] at directory
        have found := @WellFormed.reaches_of_isDir tree based.wellFormed [] place directory
        rw [found] at reached
        cases reached
      have absent : PyDict.get tree (place ++ [part]) = none :=
        based.wellFormed.none_below notDir (List.prefix_append ..) (by simp)
      have properPlace : ∀ name ∈ base ++ place, Proper name := by
        intro name found
        rcases List.mem_append.mp found with inBase | inPlace
        · exact based.real.proper name inBase
        · exact proper name (List.mem_append_left _ inPlace)
      have notLinked : ∀ more, more <+: base ++ place → more ≠ [] →
          linkOf (PyDict.get fs ([] ++ more)) = none := by
        intro more under _
        rw [List.nil_append]
        rcases prefix_split under with ⟨inBase, _⟩ | ⟨rest, rfl, inside⟩
        · exact based.linkOf_base inBase
        · rw [based.same]
          exact plain rest inside
      have last : (base ++ (place ++ [part])).getLast? = some part := by simp
      have before : (base ++ (place ++ [part])).dropLast = base ++ place := by
        rw [← List.append_assoc, List.dropLast_concat]
      have located : ∃ errno, locate fs (base ++ (place ++ [part])) = .error errno := by
        rw [locate, last, before]
        rcases stride_plain properPlace notLinked with arrives | ⟨errno, fails⟩
        · cases stepped : stride fs [] (base ++ place) with
          | mk seen stop =>
              rw [stepped] at arrives
              cases arrives
              have isNot : isDir fs (base ++ place) = false := by
                rw [isDir_congr (based.same place)]
                exact notDir
              exact ⟨.notDirectory, by simp [walk, maxLinks, stepped, isNot]⟩
        · cases stepped : stride fs [] (base ++ place) with
          | mk seen stop =>
              rw [stepped] at fails
              cases fails
              exact ⟨errno, by simp [walk, maxLinks, stepped]⟩
      obtain ⟨errno, failed⟩ := located
      rw [absent, linkAt, lstat, failed]
      cases errno <;> rfl

end Reads

def SameLinks (first second : Fs) : Prop :=
  ∀ path, linkOf (PyDict.get first path) = linkOf (PyDict.get second path)

/-- Every place a walk passes is in the tree. -/
def Confined (base : Path) (seen : List Path) : Prop :=
  ∀ place ∈ seen, base <+: place

/-- `_resolves_inside` says of every link of the tree that it stays inside. -/
def Checked (base : Path) (fs tree : Fs) : Prop :=
  ∀ place name target, PyDict.get tree (place ++ [name]) = some (.link target) →
    resolves fs base maxLinks place target [] = true

section Simulation

variable {base moved : Path} {fs tree after next : Fs} (based : Based base fs tree)
  (there : Based moved after next) (links : SameLinks tree next)

include based there links

/-- Where a walk of the moved tree is, the check reads the same link. -/
theorem linkAt_moved {place : Path} {part : Name} (directory : isDir next place = true)
    (part_proper : Proper part) :
    linkAt fs (base ++ (place ++ [part])) = linkOf (PyDict.get next (place ++ [part])) := by
  have properPlace := there.wellFormed.proper place (get_ne_none_of_isDir directory)
  rw [← links]
  apply based.linkAt_entry
  · intro name found
    rcases List.mem_append.mp found with inPlace | last
    · exact properPlace name inPlace
    · rw [List.mem_singleton.mp last]
      exact part_proper
  · intro more under
    rw [links]
    by_cases whole : more = place
    · rw [whole]
      exact linkOf_of_isDir directory
    · exact linkOf_of_isDir (there.wellFormed.isDir_of_below under whole
        (get_ne_none_of_isDir directory))

end Simulation

/-- Where a walk stops at a link of the tree: in a directory of the tree. -/
structure Met (moved : Path) (next : Fs) (spot : Path) (target : Name) (place : Path) : Prop where
  inTree : spot = moved ++ place
  directory : isDir next place = true
  linked : ∃ name, PyDict.get next (place ++ [name]) = some (.link target)

/-- A stretch of a walk stays in the tree, and `ends` holds of where it meets a
link. -/
structure Stretch (moved : Path) (next : Fs) (stretch : List Path × Stop)
    (ends : Path → Name → List Name → Prop) : Prop where
  confined : Confined moved stretch.1
  ends : ∀ spot target onward, stretch.2 = .met spot target onward →
    ∃ place, Met moved next spot target place ∧ ends place target onward

section Stretches

variable {moved : Path} {after next : Fs} (there : Based moved after next)

include there

theorem dropLast_isDir {place : Path} (directory : isDir next place = true)
    (nonempty : place ≠ []) : isDir next place.dropLast = true := by
  rw [← dropLast_leafOf nonempty] at directory
  exact there.wellFormed.closed _ _ (get_ne_none_of_isDir directory)

/-- One component that is neither `.` nor `..`: the walk ends, meets a link, or
enters a directory and goes on. -/
theorem stretch_part {place : Path} {part : Name} {rest : List Name}
    {ends : Path → Name → List Name → Prop} (directory : isDir next place = true)
    (named : Proper part)
    (met : ∀ target, PyDict.get next (place ++ [part]) = some (.link target) →
      ends place target rest)
    (onward : isDir next (place ++ [part]) = true →
      Stretch moved next (stride after (moved ++ (place ++ [part])) rest) ends) :
    Stretch moved next (stride after (moved ++ place) (part :: rest)) ends := by
  have inside : Confined moved [moved ++ place] := by
    intro found listed
    rw [List.mem_singleton.mp listed]
    exact List.prefix_append ..
  rw [stride, if_neg (by simp [named.1, named.2.1]), if_neg named.2.2, List.append_assoc,
    there.same]
  cases held : PyDict.get next (place ++ [part]) with
  | none => exact ⟨inside, fun _ _ _ stops => by cases stops⟩
  | some node =>
      cases node with
      | link target =>
          refine ⟨inside, ?_⟩
          rintro _ _ _ ⟨⟩
          exact ⟨place, ⟨rfl, directory, part, held⟩, met target held⟩
      | dir mode =>
          have entered := onward (isDir_of_get held)
          refine ⟨?_, entered.ends⟩
          intro found listed
          rcases List.mem_cons.mp listed with rfl | later
          · exact List.prefix_append ..
          · exact entered.confined found later
      | file data mode =>
          constructor
          · intro found listed
            rcases List.mem_cons.mp listed with rfl | last
            · exact List.prefix_append ..
            · rw [List.mem_singleton.mp last]
              exact List.prefix_append ..
          · intro spot target further stops
            dsimp only at stops
            split at stops <;> cases stops

/-- Without `..`, a stretch goes down the tree. -/
theorem stretch_level {place : Path} {rest : List Name} (directory : isDir next place = true)
    (level : upper ∉ rest) :
    Stretch moved next (stride after (moved ++ place) rest) (fun _ _ onward =>
      upper ∉ onward) := by
  induction rest generalizing place with
  | nil =>
      rw [stride]
      refine ⟨?_, fun _ _ _ stops => by cases stops⟩
      intro found listed
      rw [List.mem_singleton.mp listed]
      exact List.prefix_append ..
  | cons part rest ih =>
      have levelRest : upper ∉ rest := fun found => level (List.mem_cons_of_mem _ found)
      by_cases skipped : part = [] ∨ part = current
      · rw [stride, if_pos skipped]
        exact ih directory levelRest
      · obtain ⟨nonempty, notCurrent⟩ := not_or.mp skipped
        have notUpper : part ≠ upper := fun same => level (same ▸ List.mem_cons_self ..)
        apply stretch_part there directory ⟨nonempty, notCurrent, notUpper⟩
        · intro _ _
          exact levelRest
        · intro entered
          exact ih entered levelRest

end Stretches

/-- What is left when a stretch meets a link: the check met it too, or it is one of
the path's own. -/
def Onward (passed : Passed) (place : Path) (target : Name) (onward : List Name) : Prop :=
  ∃ more left, onward = more ++ left ∧ upper ∉ left ∧
    (passed = .met place target more ∨ more = [])

section Simulated

variable {base moved : Path} {fs tree after next : Fs} (based : Based base fs tree)
  (there : Based moved after next) (links : SameLinks tree next)

include based there links

/-- Where the check does not climb out, the walk does not. -/
theorem stretch_pass {place : Path} {todo rest : List Name} (directory : isDir next place = true)
    (inside : pass fs base place todo ≠ .outside) (level : upper ∉ rest) :
    Stretch moved next (stride after (moved ++ place) (todo ++ rest))
      (Onward (pass fs base place todo)) := by
  induction todo generalizing place with
  | nil =>
      have down := stretch_level there directory level
      refine ⟨down.confined, ?_⟩
      intro spot target onward stops
      obtain ⟨found, met, levelLeft⟩ := down.ends spot target onward stops
      exact ⟨found, met, [], onward, rfl, levelLeft, Or.inr rfl⟩
  | cons part todo ih =>
      rw [List.cons_append]
      by_cases skipped : part = [] ∨ part = current
      · rw [pass, if_pos skipped] at inside ⊢
        rw [stride, if_pos skipped]
        exact ih directory inside
      · obtain ⟨nonempty, notCurrent⟩ := not_or.mp skipped
        by_cases climbs : part = upper
        · rw [pass, if_neg skipped, if_pos climbs] at inside ⊢
          by_cases atRoot : place = []
          · rw [if_pos atRoot] at inside
            exact absurd rfl inside
          · rw [if_neg atRoot] at inside ⊢
            have above := ih (dropLast_isDir there directory atRoot) inside
            rw [stride, if_neg skipped, if_pos climbs, List.dropLast_append_of_ne_nil atRoot]
            refine ⟨?_, above.ends⟩
            intro found listed
            rcases List.mem_cons.mp listed with rfl | later
            · exact List.prefix_append ..
            · exact above.confined found later
        · have named : Proper part := ⟨nonempty, notCurrent, climbs⟩
          have reads := linkAt_moved based there links directory named
          rw [pass, if_neg skipped, if_neg climbs, reads] at inside ⊢
          apply stretch_part there directory named
          · intro target held
            exact ⟨todo, rest, rfl, level, Or.inl (by rw [held]; rfl)⟩
          · intro entered
            rw [linkOf_of_isDir entered] at inside ⊢
            exact ih entered inside

end Simulated

/-- A link that is followed with fewer expansions left is checked as well. -/
theorem resolves_fewer {fs : Fs} {base place : Path} {target : Name} {todo : List Name}
    {hops : Nat} (resolved : resolves fs base (hops + 1) place target todo = true) :
    resolves fs base hops place target todo = true := by
  induction hops generalizing place target todo with
  | zero => rfl
  | succ hops ih =>
      rw [resolves] at resolved ⊢
      split at resolved
      · cases resolved
      · rename_i relative
        rw [if_neg relative]
        cases passed : pass fs base place (components target ++ todo) with
        | outside =>
            rw [passed] at resolved
            cases resolved
        | finished => rfl
        | met further other rest =>
            rw [passed] at resolved
            exact ih resolved

theorem resolves_mono {fs : Fs} {base place : Path} {target : Name} {todo : List Name}
    {few many : Nat} (fewer : few ≤ many)
    (resolved : resolves fs base many place target todo = true) :
    resolves fs base few place target todo = true := by
  induction fewer with
  | refl => exact resolved
  | step _ ih => exact ih (resolves_fewer resolved)

/-- What a checked link says of the stretch that goes on from it. -/
theorem resolves_step {fs : Fs} {base place : Path} {target : Name} {todo : List Name}
    {hops : Nat} (resolved : resolves fs base (hops + 1) place target todo = true) :
    isAbsolute target = false ∧ pass fs base place (components target ++ todo) ≠ .outside ∧
      ∀ further other rest, pass fs base place (components target ++ todo) =
        .met further other rest → resolves fs base hops further other rest = true := by
  rw [resolves] at resolved
  split at resolved
  · cases resolved
  · rename_i relative
    refine ⟨by simpa using relative, ?_, ?_⟩
    · intro outside
      rw [outside] at resolved
      cases resolved
    · intro further other rest met
      rw [met] at resolved
      exact resolved

theorem confined_append {moved : Path} {first second : List Path} (before : Confined moved first)
    (later : Confined moved second) : Confined moved (first ++ second) :=
  fun found listed => (List.mem_append.mp listed).elim (before found) (later found)

/-- A walk whose first stretch stays in the tree stays in it, where what it does at
a link does. -/
theorem walk_of_stretch {moved : Path} {after next : Fs} {hops : Nat} {place : Path}
    {todo : List Name}
    {ends : Path → Name → List Name → Prop}
    (stretch : Stretch moved next (stride after (moved ++ place) todo) ends)
    (onward : ∀ left, hops = left + 1 → ∀ place target rest, isDir next place = true →
      (∃ name, PyDict.get next (place ++ [name]) = some (.link target)) →
      ends place target rest →
      Confined moved (walk after left (if isAbsolute target then [] else moved ++ place)
        (components target ++ rest)).1) :
    Confined moved (walk after hops (moved ++ place) todo).1 := by
  cases stepped : stride after (moved ++ place) todo with
  | mk seen stop =>
      rw [stepped] at stretch
      have first := stretch.confined
      cases hops with
      | zero =>
          rw [walk, stepped]
          cases stop <;> exact first
      | succ left =>
          rw [walk, stepped]
          cases stop with
          | arrived spot => exact first
          | failed errno => exact first
          | met spot target rest =>
              obtain ⟨here, met, ended⟩ := stretch.ends spot target rest rfl
              rw [met.inTree]
              exact confined_append first
                (onward left rfl here target rest met.directory met.linked ended)

section Walks

variable {base moved : Path} {fs tree after next : Fs} (based : Based base fs tree)
  (there : Based moved after next) (links : SameLinks tree next)
  (checked : Checked base fs tree)

include based there links checked

/-- A walk that has come to a link stays in the tree, whatever it goes on with. -/
theorem walk_from_link {hops : Nat} (within : hops + 1 ≤ maxLinks) {place : Path}
    {target : Name} {todo rest : List Name} (directory : isDir next place = true)
    (resolved : resolves fs base (hops + 1) place target todo = true) (level : upper ∉ rest) :
    Confined moved (walk after hops (if isAbsolute target then [] else moved ++ place)
      (components target ++ (todo ++ rest))).1 := by
  induction hops generalizing place target todo rest with
  | zero =>
      obtain ⟨relative, inside, _⟩ := resolves_step resolved
      rw [if_neg (by simp [relative]), ← List.append_assoc]
      apply walk_of_stretch (stretch_pass based there links directory inside level)
      intro left isSucc
      omega
  | succ hops ih =>
      obtain ⟨relative, inside, further⟩ := resolves_step resolved
      rw [if_neg (by simp [relative]), ← List.append_assoc]
      apply walk_of_stretch (stretch_pass based there links directory inside level)
      rintro left same here other _ entered ⟨name, linked⟩ ⟨more, after, rfl, levelAfter, how⟩
      cases same
      -- The link was met by the check, or has been checked on its own.
      have fromHere : resolves fs base (hops + 1) here other more = true := by
        rcases how with met | alone
        · exact further here other more met
        · have inTree : PyDict.get tree (here ++ [name]) = some (.link other) := by
            rw [← linkOf_eq_some, links, linkOf_eq_some]
            exact linked
          rw [alone]
          exact resolves_mono (by omega) (checked here name other inTree)
      exact ih (by omega) entered fromHere levelAfter

/-- A path without `..` never leaves the tree. -/
theorem walk_confined {path : List Name} (root : isDir next [] = true) (level : upper ∉ path) :
    Confined moved (walk after maxLinks moved path).1 := by
  have down := stretch_level there root level
  rw [List.append_nil] at down
  have walked := @walk_of_stretch moved after next maxLinks [] path
    (fun _ _ onward => upper ∉ onward)
  rw [List.append_nil] at walked
  apply walked down
  rintro left same here target rest entered ⟨name, linked⟩ levelRest
  have inTree : PyDict.get tree (here ++ [name]) = some (.link target) := by
    rw [← linkOf_eq_some, links, linkOf_eq_some]
    exact linked
  have within : left + 1 ≤ maxLinks := by omega
  exact walk_from_link based there links checked within entered
    (resolves_mono within (checked here name target inTree)) levelRest

end Walks

theorem checkAll_inside {base first : Path} {fs : Fs} (rest : List Path)
    (inside : resolvesInside fs base first = true) :
    checkAll base (first :: rest) fs = checkAll base rest fs := by
  conv_lhs => unfold checkAll
  cases linkAt fs (base ++ first) with
  | none => rfl
  | some target =>
      dsimp only
      rw [if_pos inside]

theorem checkAll_outside {base first : Path} {fs : Fs} (rest : List Path)
    (outside : resolvesInside fs base first = false) :
    ∃ message, checkAll base (first :: rest) fs = (.error (.fetch message), fs) := by
  unfold checkAll
  cases read : linkAt fs (base ++ first) with
  | none =>
      rw [resolvesInside, read] at outside
      cases outside
  | some target =>
      dsimp only
      rw [if_neg (by simp [outside])]
      exact ⟨_, rfl⟩

theorem checkAll_ok {base : Path} {fs : Fs} {rels : List Path}
    (passed : (checkAll base rels fs).1 = .ok ()) :
    ∀ rel ∈ rels, resolvesInside fs base rel = true := by
  induction rels with
  | nil => simp
  | cons first rest ih =>
      intro rel listed
      cases inside : resolvesInside fs base first with
      | true =>
          rw [checkAll_inside rest inside] at passed
          rcases List.mem_cons.mp listed with rfl | later
          · exact inside
          · exact ih passed rel later
      | false =>
          obtain ⟨message, failed⟩ := checkAll_outside rest inside
          rw [failed] at passed
          cases passed

/-- The check of the links changes nothing. -/
theorem checkAll_state {base : Path} {fs : Fs} (rels : List Path) :
    (checkAll base rels fs).2 = fs := by
  induction rels with
  | nil => rfl
  | cons first rest ih =>
      cases inside : resolvesInside fs base first with
      | true =>
          rw [checkAll_inside rest inside]
          exact ih
      | false =>
          obtain ⟨message, failed⟩ := checkAll_outside rest inside
          rw [failed]

theorem checkAllLinks_state {base : Path} {fs : Fs} (starts : List Path) :
    (checkAllLinks base starts fs).2 = fs := by
  induction starts with
  | nil => rfl
  | cons start rest ih =>
      have first := @checkAll_state base fs (below fs base start)
      rw [checkAllLinks, bind_apply, checkLinks]
      cases came : checkAll base (below fs base start) fs with
      | mk outcome after =>
          rw [came] at first
          cases first
          cases outcome with
          | error failure => rfl
          | ok value => exact ih

theorem checkAllLinks_ok {base : Path} {fs : Fs} {starts : List Path}
    (passed : (checkAllLinks base starts fs).1 = .ok ()) :
    ∀ start ∈ starts, (checkAll base (below fs base start) fs).1 = .ok () := by
  induction starts with
  | nil => simp
  | cons first rest ih =>
      have state := @checkAll_state base fs (below fs base first)
      rw [checkAllLinks, bind_apply, checkLinks] at passed
      cases came : checkAll base (below fs base first) fs with
      | mk outcome after =>
          rw [came] at passed state
          cases state
          cases outcome with
          | error failure => cases passed
          | ok value =>
              intro start listed
              rcases List.mem_cons.mp listed with rfl | later
              · rw [came]
              · exact ih passed start later

def LinksBelow (starts : List Path) (tree : Fs) : Prop :=
  ∀ path target, PyDict.get tree path = some (.link target) →
    ∃ start ∈ starts, start <+: path ∧ path ≠ start

theorem Based.checked {base : Path} {fs tree : Fs} (based : Based base fs tree)
    {starts : List Path} (below : LinksBelow starts tree)
    (passed : (checkAllLinks base starts fs).1 = .ok ()) : Checked base fs tree := by
  intro place name target held
  obtain ⟨start, listed, under, other⟩ := below _ _ held
  have present : PyDict.get tree (place ++ [name]) ≠ none := by
    rw [held]
    exact Option.some_ne_none _
  have isBelow : place ++ [name] ∈ Fetch.below fs base start := by
    have inFs : PyDict.get fs (base ++ (place ++ [name])) = some (.link target) := by
      rw [based.same, held]
    refine List.mem_filterMap.mpr ⟨_, PyDict.mem_of_get inFs, ?_⟩
    rw [if_pos]
    · simp
    · exact ⟨(List.prefix_append_right_inj base).mpr under, by simpa using other⟩
  have inside := checkAll_ok (checkAllLinks_ok passed start listed) _ isBelow
  have read : linkAt fs (base ++ (place ++ [name])) = some target := by
    rw [based.linkAt_entry (based.wellFormed.proper _ present), held]
    · rfl
    · intro more further
      apply linkOf_of_isDir
      apply based.wellFormed.isDir_of_below (further.trans (List.prefix_append ..)) _ present
      rintro rfl
      exact absurd further.length_le (by simp)
  rw [resolvesInside, read] at inside
  simpa using inside

end Catena.Fetch
