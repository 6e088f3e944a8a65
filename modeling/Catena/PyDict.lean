import Mathlib.Data.List.Basic
import Mathlib.Tactic.Common

/-!
# Insertion-ordered dictionaries

A Python `dict` as the list of its items in insertion order.  Assigning to a
present key keeps its position and a new key goes last, so a dictionary whose
keys never repeat is determined by its key order and its lookups.
-/

/-- The items of a Python `dict`, in insertion order. -/
abbrev PyDict (K V : Type*) := List (K × V)

namespace PyDict

variable {K V : Type*} [DecidableEq K]

/-- `d.get(key)`. -/
def get : PyDict K V → K → Option V
  | [], _ => none
  | (key, value) :: rest, wanted =>
      if key = wanted then some value else get rest wanted

/-- `d[key] = value`. -/
def set : PyDict K V → K → V → PyDict K V
  | [], key, value => [(key, value)]
  | (present, old) :: rest, key, value =>
      if present = key then (present, value) :: rest
      else (present, old) :: set rest key value

/-- `d.pop(key, None)`, without the value it returns. -/
def erase : PyDict K V → K → PyDict K V
  | [], _ => []
  | (present, value) :: rest, key =>
      if present = key then erase rest key
      else (present, value) :: erase rest key

def keys (items : PyDict K V) : List K :=
  items.map Prod.fst

/-- `dict(pairs)`: a key given twice keeps its first position and its last
value. -/
def ofPairs (pairs : List (K × V)) : PyDict K V :=
  pairs.foldl (fun items pair => set items pair.1 pair.2) []

@[simp]
theorem get_nil (key : K) : get ([] : PyDict K V) key = none :=
  rfl

theorem get_cons (key wanted : K) (value : V) (rest : PyDict K V) :
    get ((key, value) :: rest) wanted =
      if key = wanted then some value else get rest wanted :=
  rfl

theorem get_set (items : PyDict K V) (key wanted : K) (value : V) :
    get (set items key value) wanted =
      if key = wanted then some value else get items wanted := by
  induction items with
  | nil => simp [set, get]
  | cons item rest ih =>
      obtain ⟨present, old⟩ := item
      by_cases same : present = key
      · subst same
        by_cases found : present = wanted <;> simp [set, get, found]
      · by_cases found : present = wanted
        · subst found
          simp [set, get, same, Ne.symm same]
        · simp [set, get, same, found, ih]

@[simp]
theorem get_set_same (items : PyDict K V) (key : K) (value : V) :
    get (set items key value) key = some value := by
  simp [get_set]

theorem get_set_ne (items : PyDict K V) {key wanted : K} (value : V)
    (different : key ≠ wanted) :
    get (set items key value) wanted = get items wanted := by
  simp [get_set, different]

theorem get_erase (items : PyDict K V) (key wanted : K) :
    get (erase items key) wanted =
      if key = wanted then none else get items wanted := by
  induction items with
  | nil => simp [erase]
  | cons item rest ih =>
      obtain ⟨present, old⟩ := item
      by_cases same : present = key
      · subst same
        by_cases found : present = wanted
        · simpa [erase, get, found] using ih
        · simp [erase, get, ih, found]
      · by_cases found : present = wanted
        · subst found
          simp [erase, get, same, Ne.symm same]
        · simp [erase, get, same, found, ih]

theorem get_filter (items : PyDict K V) (keep : K → Prop) [DecidablePred keep]
    (wanted : K) :
    get (items.filter fun item => keep item.1) wanted =
      if keep wanted then get items wanted else none := by
  induction items with
  | nil => simp
  | cons item rest ih =>
      obtain ⟨present, value⟩ := item
      by_cases found : present = wanted
      · subst found
        by_cases kept : keep present
        · simp [kept, get]
        · simpa [kept] using ih
      · by_cases kept : keep present
        · simp [kept, get, found, ih]
        · simp [kept, get, found, ih]

theorem get_eq_none_iff (items : PyDict K V) (key : K) :
    get items key = none ↔ key ∉ keys items := by
  induction items with
  | nil => simp [keys]
  | cons item rest ih =>
      obtain ⟨present, value⟩ := item
      by_cases same : present = key
      · simp [get, keys, same]
      · simp only [get, same, if_false, ih, keys, List.map_cons,
          List.mem_cons, not_or]
        exact ⟨fun absent => ⟨Ne.symm same, absent⟩, fun both => both.2⟩

theorem mem_keys_of_get {items : PyDict K V} {key : K} {value : V}
    (found : get items key = some value) : key ∈ keys items := by
  by_contra absent
  rw [(get_eq_none_iff items key).mpr absent] at found
  simp at found

theorem get_of_mem_keys {items : PyDict K V} {key : K} (member : key ∈ keys items) :
    ∃ value, get items key = some value :=
  Option.ne_none_iff_exists'.mp fun none => (get_eq_none_iff items key).mp none member

theorem mem_of_get {items : PyDict K V} {key : K} {value : V}
    (found : get items key = some value) : (key, value) ∈ items := by
  induction items with
  | nil => simp at found
  | cons item rest ih =>
      obtain ⟨present, old⟩ := item
      by_cases same : present = key
      · simp only [get, same, if_true, Option.some.injEq] at found
        simp [same, found]
      · simp only [get, same, if_false] at found
        exact List.mem_cons_of_mem _ (ih found)

theorem get_of_mem {items : PyDict K V} (nodup : (keys items).Nodup)
    {key : K} {value : V} (member : (key, value) ∈ items) :
    get items key = some value := by
  induction items with
  | nil => simp at member
  | cons item rest ih =>
      obtain ⟨present, old⟩ := item
      simp only [keys, List.map_cons, List.nodup_cons] at nodup
      rcases List.mem_cons.mp member with atHead | later
      · simp only [Prod.mk.injEq] at atHead
        simp [get, atHead.1, atHead.2]
      · have different : present ≠ key := by
          rintro rfl
          exact nodup.1 (List.mem_map_of_mem later)
        simpa [get, different] using ih nodup.2 later

/-- A dictionary does not depend on the order of its items. -/
theorem get_perm {first second : PyDict K V} (nodup : (keys first).Nodup)
    (perm : first.Perm second) (key : K) : get first key = get second key := by
  have nodupSecond : (keys second).Nodup := (perm.map Prod.fst).nodup_iff.mp nodup
  apply Option.ext
  intro value
  constructor
  · intro found
    exact get_of_mem nodupSecond (perm.mem_iff.mp (mem_of_get found))
  · intro found
    exact get_of_mem nodup (perm.mem_iff.mpr (mem_of_get found))

/-- Assigning the value a key already has changes nothing. -/
theorem set_of_get {items : PyDict K V} {key : K} {value : V}
    (found : get items key = some value) : set items key value = items := by
  induction items with
  | nil => simp at found
  | cons item rest ih =>
      obtain ⟨present, old⟩ := item
      by_cases same : present = key
      · simp only [get, same, if_true, Option.some.injEq] at found
        simp [set, same, found]
      · simp only [get, same, if_false] at found
        simp [set, same, ih found]

theorem set_set (items : PyDict K V) (key : K) (first second : V) :
    set (set items key first) key second = set items key second := by
  induction items with
  | nil => simp [set]
  | cons item rest ih =>
      obtain ⟨present, old⟩ := item
      by_cases same : present = key
      · simp [set, same]
      · simp [set, same, ih]

theorem erase_of_get_none {items : PyDict K V} {key : K}
    (absent : get items key = none) : erase items key = items := by
  induction items with
  | nil => rfl
  | cons item rest ih =>
      obtain ⟨present, old⟩ := item
      by_cases same : present = key
      · simp [get, same] at absent
      · simp only [get, same, if_false] at absent
        simp [erase, same, ih absent]

theorem keys_set_of_mem {items : PyDict K V} {key : K}
    (present : key ∈ keys items) (value : V) :
    keys (set items key value) = keys items := by
  induction items with
  | nil => simp [keys] at present
  | cons item rest ih =>
      obtain ⟨first, old⟩ := item
      by_cases same : first = key
      · simp [set, same, keys]
      · have later : key ∈ keys rest := by
          simpa [keys, Ne.symm same] using present
        simpa [set, same, keys] using ih later

theorem keys_set_of_not_mem {items : PyDict K V} {key : K}
    (absent : key ∉ keys items) (value : V) :
    keys (set items key value) = keys items ++ [key] := by
  induction items with
  | nil => rfl
  | cons item rest ih =>
      obtain ⟨first, old⟩ := item
      simp only [keys, List.map_cons, List.mem_cons, not_or] at absent
      simpa [set, Ne.symm absent.1, keys] using ih absent.2

theorem mem_keys_set (items : PyDict K V) (key wanted : K) (value : V) :
    wanted ∈ keys (set items key value) ↔
      wanted = key ∨ wanted ∈ keys items := by
  by_cases present : key ∈ keys items
  · rw [keys_set_of_mem present]
    constructor
    · exact Or.inr
    · rintro (rfl | member)
      · exact present
      · exact member
  · rw [keys_set_of_not_mem present]
    simp [or_comm]

theorem nodup_keys_set {items : PyDict K V} (nodup : (keys items).Nodup)
    (key : K) (value : V) : (keys (set items key value)).Nodup := by
  by_cases present : key ∈ keys items
  · rwa [keys_set_of_mem present]
  · rw [keys_set_of_not_mem present, List.nodup_append]
    refine ⟨nodup, by simp, ?_⟩
    intro first firstMem second secondMem
    rw [List.mem_singleton] at secondMem
    subst secondMem
    exact fun same => present (same ▸ firstMem)

theorem keys_erase (items : PyDict K V) (key : K) :
    keys (erase items key) = (keys items).filter (fun other => other ≠ key) := by
  induction items with
  | nil => rfl
  | cons item rest ih =>
      obtain ⟨present, value⟩ := item
      by_cases same : present = key
      · simpa [erase, same, keys] using ih
      · simpa [erase, same, keys] using ih

theorem nodup_keys_erase {items : PyDict K V} (nodup : (keys items).Nodup)
    (key : K) : (keys (erase items key)).Nodup := by
  rw [keys_erase]
  exact nodup.filter _

theorem nodup_keys_foldl_set (pairs : List (K × V)) {items : PyDict K V}
    (nodup : (keys items).Nodup) :
    (keys (pairs.foldl (fun built pair => set built pair.1 pair.2)
      items)).Nodup := by
  induction pairs generalizing items with
  | nil => exact nodup
  | cons pair rest ih => exact ih (nodup_keys_set nodup pair.1 pair.2)

theorem nodup_keys_ofPairs (pairs : List (K × V)) :
    (keys (ofPairs pairs)).Nodup :=
  nodup_keys_foldl_set pairs (show (keys ([] : PyDict K V)).Nodup by simp [keys])

theorem set_ne_nil (items : PyDict K V) (key : K) (value : V) :
    set items key value ≠ [] := by
  cases items with
  | nil => simp [set]
  | cons item rest =>
      by_cases same : item.1 = key <;> simp [set, same]

theorem eq_nil_of_ofPairs {pairs : List (K × V)} (empty : ofPairs pairs = []) :
    pairs = [] := by
  have nonempty (later : List (K × V)) {items : PyDict K V}
      (start : items ≠ []) :
      later.foldl (fun built pair => set built pair.1 pair.2) items ≠ [] := by
    induction later generalizing items with
    | nil => exact start
    | cons pair rest ih => exact ih (set_ne_nil items pair.1 pair.2)
  cases pairs with
  | nil => rfl
  | cons pair rest =>
      exact absurd empty (nonempty rest (set_ne_nil [] pair.1 pair.2))

theorem set_of_not_mem {items : PyDict K V} {key : K}
    (absent : key ∉ keys items) (value : V) :
    set items key value = items ++ [(key, value)] := by
  induction items with
  | nil => rfl
  | cons item rest ih =>
      obtain ⟨first, old⟩ := item
      simp only [keys, List.map_cons, List.mem_cons, not_or] at absent
      simp [set, Ne.symm absent.1, ih absent.2]

theorem foldl_set_of_nodup (pairs : List (K × V)) (items : PyDict K V)
    (nodup : (keys (items ++ pairs)).Nodup) :
    pairs.foldl (fun built pair => set built pair.1 pair.2) items =
      items ++ pairs := by
  induction pairs generalizing items with
  | nil => simp
  | cons pair rest ih =>
      have absent : pair.1 ∉ keys items := by
        simp only [keys, List.map_append, List.map_cons] at nodup ⊢
        intro member
        exact (List.nodup_append.mp nodup).2.2 _ member _
          (List.mem_cons_self ..) rfl
      rw [List.foldl_cons, set_of_not_mem absent, ih]
      · simp
      · simpa using nodup

/-- Copying a dictionary gives the dictionary. -/
theorem ofPairs_of_nodup {items : PyDict K V} (nodup : (keys items).Nodup) :
    ofPairs items = items := by
  simpa [ofPairs] using foldl_set_of_nodup items [] (by simpa using nodup)

/-- Without repeated keys, the key order and the lookups are the
dictionary. -/
theorem ext_of_keys {first second : PyDict K V}
    (nodup : (keys first).Nodup) (sameKeys : keys first = keys second)
    (sameGets : ∀ key, get first key = get second key) : first = second := by
  induction first generalizing second with
  | nil =>
      cases second with
      | nil => rfl
      | cons item rest => simp [keys] at sameKeys
  | cons item rest ih =>
      cases second with
      | nil => simp [keys] at sameKeys
      | cons other others =>
          obtain ⟨key, value⟩ := item
          obtain ⟨otherKey, otherValue⟩ := other
          simp only [keys, List.map_cons, List.cons.injEq] at sameKeys
          obtain ⟨rfl, restKeys⟩ := sameKeys
          simp only [keys, List.map_cons, List.nodup_cons] at nodup
          have headValue : value = otherValue := by
            simpa [get] using sameGets key
          have restGets : ∀ wanted, get rest wanted = get others wanted := by
            intro wanted
            by_cases atHead : key = wanted
            · subst atHead
              rw [(get_eq_none_iff rest key).mpr nodup.1,
                (get_eq_none_iff others key).mpr]
              change key ∉ others.map Prod.fst
              rw [← restKeys]
              exact nodup.1
            · simpa [get, atHead] using sameGets wanted
          rw [headValue, ih nodup.2 restKeys restGets]

theorem get_append (first second : PyDict K V) (key : K) :
    get (first ++ second) key = (get first key).or (get second key) := by
  induction first with
  | nil => rfl
  | cons item rest ih =>
      obtain ⟨present, value⟩ := item
      by_cases same : present = key
      · simp [get, same]
      · simp [get, same, ih]

theorem get_foldl_set (pairs : List (K × V)) (items : PyDict K V) (key : K) :
    get (pairs.foldl (fun built pair => set built pair.1 pair.2) items) key =
      (get pairs.reverse key).or (get items key) := by
  induction pairs generalizing items with
  | nil => rfl
  | cons pair rest ih =>
      rw [List.foldl_cons, ih, get_set, List.reverse_cons, get_append, Option.or_assoc]
      by_cases same : pair.1 = key <;> simp [get, same]

/-- The last pair of a key counts. -/
theorem get_ofPairs (pairs : List (K × V)) (key : K) :
    get (ofPairs pairs) key = get pairs.reverse key := by
  rw [ofPairs, get_foldl_set, get_nil, Option.or_none]

theorem mem_of_mem_ofPairs {pairs : List (K × V)} {item : K × V}
    (found : item ∈ ofPairs pairs) : item ∈ pairs := by
  have looked := get_of_mem (nodup_keys_ofPairs pairs) found
  rw [get_ofPairs] at looked
  exact List.mem_reverse.mp (mem_of_get looked)

theorem get_ofPairs_eq_none_iff (pairs : List (K × V)) (key : K) :
    get (ofPairs pairs) key = none ↔ key ∉ keys pairs := by
  rw [get_ofPairs, get_eq_none_iff, keys, List.map_reverse, List.mem_reverse]
  rfl

theorem get_ofPairs_of_mem {pairs : List (K × V)} {key : K} {value : V}
    (found : (key, value) ∈ pairs)
    (only : ∀ other, (key, other) ∈ pairs → other = value) :
    get (ofPairs pairs) key = some value := by
  cases looked : get (ofPairs pairs) key with
  | none =>
      have absent := (get_ofPairs_eq_none_iff pairs key).mp looked
      exact absurd (List.mem_map_of_mem found) absent
  | some other =>
      rw [get_ofPairs] at looked
      rw [only other (List.mem_reverse.mp (mem_of_get looked))]

/-- New keys given once each go last, in their order. -/
theorem ofPairs_append {first second : List (K × V)} (nodup : (keys second).Nodup)
    (apart : ∀ key ∈ keys second, key ∉ keys first) :
    ofPairs (first ++ second) = ofPairs first ++ second := by
  have split : ofPairs (first ++ second) =
      second.foldl (fun built pair => set built pair.1 pair.2) (ofPairs first) :=
    List.foldl_append ..
  rw [split]
  apply foldl_set_of_nodup
  rw [keys, List.map_append, List.nodup_append]
  refine ⟨nodup_keys_ofPairs first, nodup, ?_⟩
  rintro key inFirst other inSecond rfl
  have absent := (get_ofPairs_eq_none_iff first key).mpr (apart key inSecond)
  exact (get_eq_none_iff _ _).mp absent inFirst

end PyDict
