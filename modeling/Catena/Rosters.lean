import Mathlib

/-!
# Rosters

A roster takes entries one after another.  A new entry replaces the ones whose
key, as it was written, is the new entry's trimmed key.  Entries are looked up
by their trimmed keys, and a roster holds one entry for each of them, the last
one given, exactly when no entry with an untrimmed key is followed by another
of its trimmed key.
-/

namespace Roster

variable {α κ : Type*} (written : α → κ) (trim : κ → κ)

/-- The trimmed key of an entry. -/
def key (entry : α) : κ :=
  trim (written entry)

theorem key_of_written {written : α → κ} {trim : κ → κ}
    (idempotent : ∀ text, trim (trim text) = trim text) {entry other : α}
    (same : written entry = key written trim other) :
    key written trim entry = written entry ∧
      key written trim entry = key written trim other := by
  have trimmed : key written trim entry = key written trim other := by
    rw [key, same, key, idempotent]
  exact ⟨trimmed.trans same.symm, trimmed⟩

variable [DecidableEq κ]

/-- A roster with one more entry. -/
def put (roster : List α) (entry : α) : List α :=
  (roster.filter fun other => written other ≠ key written trim entry) ++ [entry]

/-- No later entry replaces this one. -/
def Stays (later : List α) (entry : α) : Prop :=
  ∀ other ∈ later, written entry ≠ key written trim other

instance (later : List α) (entry : α) : Decidable (Stays written trim later entry) :=
  inferInstanceAs (Decidable (∀ other ∈ later, _))

/-- The entries that stay of those given. -/
def kept : List α → List α
  | [] => []
  | entry :: later =>
      if Stays written trim later entry then entry :: kept later else kept later

/-- Only the last entry of a trimmed key may be written with another key. -/
def TrimmedBefore (given : List α) : Prop :=
  given.Pairwise fun earlier later =>
    key written trim earlier = key written trim later →
      written earlier = key written trim earlier

instance (given : List α) : Decidable (TrimmedBefore written trim given) :=
  inferInstanceAs (Decidable (List.Pairwise _ _))

variable {written trim}

/-- Putting entries on a roster keeps what no entry replaces, then the entries
that stay. -/
theorem foldl_put (roster given : List α) :
    given.foldl (put written trim) roster =
      (roster.filter fun entry => Stays written trim given entry) ++ kept written trim given := by
  induction given generalizing roster with
  | nil => simp [Stays, kept]
  | cons entry later ih =>
      have front : (roster.filter fun other => written other ≠ key written trim entry).filter
          (fun other => Stays written trim later other) =
          roster.filter fun other => Stays written trim (entry :: later) other := by
        rw [List.filter_filter]
        apply List.filter_congr
        intro other _
        rw [Bool.eq_iff_iff, Bool.and_eq_true, decide_eq_true_eq, decide_eq_true_eq,
          decide_eq_true_eq, Stays, Stays, List.forall_mem_cons]
        exact and_comm
      rw [List.foldl_cons, ih, put, List.filter_append, front, List.append_assoc, kept]
      by_cases stays : Stays written trim later entry
      · simp [stays]
      · simp [stays]

section Idempotent

variable (idempotent : ∀ text, trim (trim text) = trim text)

include idempotent

theorem mem_keys_kept (given : List α) (wanted : κ) :
    wanted ∈ (kept written trim given).map (key written trim) ↔
      wanted ∈ given.map (key written trim) := by
  induction given with
  | nil => rfl
  | cons entry later ih =>
      rw [kept]
      split
      · rw [List.map_cons, List.map_cons, List.mem_cons, List.mem_cons, ih]
      · rename_i replaced
        simp only [Stays, not_forall, not_not] at replaced
        obtain ⟨other, inLater, same⟩ := replaced
        rw [ih, List.map_cons, List.mem_cons]
        constructor
        · exact Or.inr
        · rintro (rfl | inside)
          · rw [(key_of_written idempotent same).2]
            exact List.mem_map_of_mem inLater
          · exact inside

/-- The trimmed keys of a roster are different from one another exactly when
only last entries were written with another key. -/
theorem nodup_kept_iff (given : List α) :
    ((kept written trim given).map (key written trim)).Nodup ↔
      TrimmedBefore written trim given := by
  induction given with
  | nil => simp [kept, TrimmedBefore]
  | cons entry later ih =>
      rw [TrimmedBefore, List.pairwise_cons, ← TrimmedBefore, ← ih, kept]
      split
      · rename_i stays
        rw [List.map_cons, List.nodup_cons, mem_keys_kept idempotent]
        apply and_congr_left
        intro _
        constructor
        · intro absent other inLater same
          exact absurd (same ▸ List.mem_map_of_mem inLater) absent
        · intro trimmed inside
          obtain ⟨other, inLater, same⟩ := List.mem_map.mp inside
          exact stays other inLater ((trimmed other inLater same.symm).trans same.symm)
      · rename_i replaced
        simp only [Stays, not_forall, not_not] at replaced
        obtain ⟨other, inLater, same⟩ := replaced
        have trimmed := (key_of_written idempotent same).1.symm
        exact ⟨fun distinct => ⟨fun _ _ _ => trimmed, distinct⟩, fun both => both.2⟩

theorem filter_kept {given : List α} (trimmed : TrimmedBefore written trim given)
    (wanted : κ) :
    (kept written trim given).filter (fun entry => key written trim entry = wanted) =
      ((given.filter fun entry => key written trim entry = wanted).getLast?).toList := by
  induction given with
  | nil => rfl
  | cons entry later ih =>
      rw [TrimmedBefore, List.pairwise_cons] at trimmed
      have behind := ih trimmed.2
      by_cases here : key written trim entry = wanted
      · rw [List.filter_cons_of_pos (by simpa using here), kept]
        by_cases again : wanted ∈ later.map (key written trim)
        · obtain ⟨other, inLater, same⟩ := List.mem_map.mp again
          have replaced : ¬ Stays written trim later entry := fun stays =>
            stays other inLater ((trimmed.1 other inLater (here.trans same.symm)).trans
              (here.trans same.symm))
          have nonempty : (later.filter fun entry => key written trim entry = wanted) ≠ [] := by
            intro empty
            have inside : other ∈ later.filter fun entry => key written trim entry = wanted :=
              List.mem_filter.mpr ⟨inLater, by simpa using same⟩
            rw [empty] at inside
            cases inside
          rw [if_neg replaced, behind, List.getLast?_cons_of_ne_nil nonempty]
        · have stays : Stays written trim later entry := by
            intro other inLater same
            exact again ((here ▸ (key_of_written idempotent same).2) ▸
              List.mem_map_of_mem inLater)
          have none : (later.filter fun entry => key written trim entry = wanted) = [] := by
            rw [List.filter_eq_nil_iff]
            intro other inLater same
            exact again (List.mem_map.mpr ⟨other, inLater, by simpa using same⟩)
          rw [if_pos stays, List.filter_cons_of_pos (by simpa using here), behind, none]
          rfl
      · rw [List.filter_cons_of_neg (by simpa using here), kept]
        split
        · rw [List.filter_cons_of_neg (by simpa using here), behind]
        · exact behind

end Idempotent

end Roster
