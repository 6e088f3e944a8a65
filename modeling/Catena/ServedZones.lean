import Catena.ServiceDrift

/-!
# The domains a host serves

`catena_served_zones` reads the projection that the tunnel engine writes, and
answers with the domains after the primary one.  Whatever keeps it from
answering makes the answer empty; only a clock that does not parse leaves the
age of the projection unchecked.
-/

namespace PyFloat

/-- The number a float is compared as. -/
def rational : PyFloat → ℚ
  | finite value => value
  | _ => 0

/-- `first < second`. -/
def less : PyFloat → PyFloat → Bool
  | nan, _ => false
  | _, nan => false
  | inf, _ => false
  | _, negInf => false
  | negInf, _ => true
  | _, inf => true
  | first, second => first.rational < second.rational

/-- `value / divisor`, for a positive `divisor` that is a binary64 number. -/
def divide : PyFloat → Nat → PyFloat
  | finite value, divisor => nearest (value / divisor)
  | other, _ => other

/-- A number from 1 on is nearest to a positive one. -/
theorem less_nearest {value : ℚ} (large : 1 ≤ value) : less (finite 0) (nearest value) = true := by
  have step := floatStep_pos value
  have magnitude : |value| = value := abs_of_pos (by linarith)
  have stepSmall : floatStep value ≤ value := by
    rw [floatStep, magnitude]
    have positive : (0 : ℚ) < value := by linarith
    have power := Int.zpow_log_le_self (R := ℚ) (b := 2) (by norm_num) positive
    have logNonneg : 0 ≤ Int.log 2 value := by
      have one := Int.log_mono_right (R := ℚ) (b := 2) one_pos large
      rwa [Int.log_one_right] at one
    have exponent : max (-1074) (Int.log 2 value - 52) ≤ Int.log 2 value := by omega
    exact (zpow_le_zpow_right₀ (by norm_num) exponent).trans power
  have quotient : 1 ≤ value / floatStep value := by
    rwa [le_div_iff₀ step, one_mul]
  have rounded : 1 ≤ roundHalfEven (value / floatStep value) := by
    have low : 1 ≤ ⌊value / floatStep value⌋ := Int.le_floor.mpr (by exact_mod_cast quotient)
    unfold roundHalfEven
    dsimp only
    split
    · exact low
    · split
      · omega
      · split
        · exact low
        · omega
  have product : 0 < (roundHalfEven (value / floatStep value) : ℚ) * floatStep value := by
    have one : (1 : ℚ) ≤ roundHalfEven (value / floatStep value) := by exact_mod_cast rounded
    exact mul_pos (by linarith) step
  unfold nearest
  dsimp only
  split
  · rfl
  · split
    · rename_i below
      have lowest : -(2 : ℚ) ^ 1024 ≤ 0 := neg_nonpos.mpr (by positivity)
      exact absurd (product.trans_le below) (not_lt.mpr lowest)
    · exact decide_eq_true product

end PyFloat

namespace Catena

namespace ServedZones

open SwarmService

/-- A `datetime`: what its clock shows, in microseconds since 1970, and the
offset of its time zone, in microseconds, if it has one. -/
structure DateTime where
  shown : Int
  offset : Option Int
  deriving DecidableEq

section Program

-- `fromisoformat` is `none` where `datetime.fromisoformat` raises `ValueError`
variable (py : Builtins) (fromisoformat : List Char → Option DateTime)

/-- `_parse_iso`, for the value `d.get(key)`: an aware datetime's moment, in
microseconds. -/
def parseIso : Option Json → Option Int
  | some (.str value) =>
      let stripped := (PyText.strip value).toList
      if stripped = [] then none
      else
        let text := if stripped.getLast? = some 'Z' then stripped.dropLast ++ "+00:00".toList
          else stripped
        (fromisoformat text).map fun parsed => parsed.shown - parsed.offset.getD 0
  | _ => none

/-- `(reference - generated).total_seconds() / 3600.0`. -/
def ageHours (reference generated : Int) : PyFloat :=
  (PyFloat.nearest ((reference - generated : Int) / 10 ^ 6)).divide 3600

/-- `float(max_age_hours)`, and `0.0` where that is no number. -/
def maxAge (maxAgeHours : Json) : Except FilterError PyFloat :=
  match asFloat py maxAgeHours with
  | .error .typeError => .ok (.finite 0)
  | .error (.valueError _) => .ok (.finite 0)
  | read => read

/-- The stamp is there and, as far as the clock tells, not too old. -/
def isFresh (generatedAt : Option Json) (now : String) (bound : PyFloat) : Bool :=
  if PyFloat.less (.finite 0) bound then
    match parseIso fromisoformat generatedAt, parseIso fromisoformat (some (.str now)) with
    | none, _ => false
    | some _, none => true
    | some generated, some reference => !PyFloat.less bound (ageHours reference generated)
  else true

/-- The name of an entry, if it is a dict. -/
def zoneName : Json → Option String
  | .obj fields => some (PyText.strip (Json.textOr py (PyDict.get fields "zone")))
  | _ => none

/-- One entry's turn of the loop. -/
def collect (out : List String) (entry : Json) : List String :=
  match zoneName py entry with
  | some name => if name ≠ "" ∧ name ∉ out then out ++ [name] else out
  | none => out

def catenaServedZones (raw : String) (schema : Json) (now : String) (maxAgeHours : Json) :
    Except FilterError (List String) :=
  if PyText.strip raw = "" then .ok []
  else
    match py.loads raw with
    | some (.obj fields) =>
        if ((PyDict.get fields "schema").getD .null).pyEq schema then
          match PyDict.get fields "zones" with
          | some (.arr (_ :: others)) =>
              (maxAge py maxAgeHours).map fun bound =>
                if isFresh fromisoformat (PyDict.get fields "generated_at") now bound then
                  others.foldl (collect py) []
                else []
          | _ => .ok []
        else .ok []
    | _ => .ok []

end Program

section Answers

variable {py : Builtins} {fromisoformat : List Char → Option DateTime}

/-- The names of the entries, in their order. -/
def names (py : Builtins) (entries : List Json) : List String :=
  (entries.filterMap (zoneName py)).filter (· ≠ "")

/-- The names of some entries, each once, in their order. -/
structure Lists (py : Builtins) (entries : List Json) (listed : List String) : Prop where
  ordered : listed.Sublist (names py entries)
  nodup : listed.Nodup
  all : ∀ name ∈ names py entries, name ∈ listed

theorem names_append (front : List Json) (entry : Json) :
    names py (front ++ [entry]) = names py front ++ names py [entry] := by
  rw [names, names, names, List.filterMap_append, List.filter_append]

/-- One more entry adds its name at the end, if it has a new one. -/
theorem Lists.collect {front : List Json} {listed : List String}
    (lists : Lists py front listed) (entry : Json) :
    Lists py (front ++ [entry]) (collect py listed entry) := by
  have kept (none_ : names py [entry] = []) : Lists py (front ++ [entry]) listed := by
    have same : names py (front ++ [entry]) = names py front := by
      rw [names_append, none_, List.append_nil]
    exact ⟨same ▸ lists.ordered, lists.nodup, same ▸ lists.all⟩
  rw [ServedZones.collect]
  cases found : zoneName py entry with
  | none => exact kept (by simp [names, found])
  | some name =>
      by_cases blank : name = ""
      · have none_ : names py [entry] = [] := by simp [names, found, blank]
        simpa [blank] using kept none_
      · have one : names py [entry] = [name] := by simp [names, found, blank]
        dsimp only
        split
        · rename_i new
          constructor
          · rw [names_append, one]
            exact lists.ordered.append (List.Sublist.refl _)
          · have nodup := lists.nodup.concat new.2
            simpa using nodup
          · intro other member
            rw [names_append, one, List.mem_append] at member
            rcases member with before | last
            · exact List.mem_append_left _ (lists.all other before)
            · exact List.mem_append_right _ last
        · rename_i old
          have already : name ∈ listed := by
            by_contra absent
            exact old ⟨blank, absent⟩
          constructor
          · rw [names_append]
            exact lists.ordered.trans (List.sublist_append_left ..)
          · exact lists.nodup
          · intro other member
            rw [names_append, one, List.mem_append] at member
            rcases member with before | last
            · exact lists.all other before
            · rw [List.mem_singleton.mp last]
              exact already

theorem lists_foldl (entries : List Json) :
    Lists py entries (entries.foldl (ServedZones.collect py) []) := by
  induction entries using List.reverseRecOn with
  | nil => exact ⟨List.Sublist.refl _, List.nodup_nil, fun _ member => member⟩
  | append_singleton front entry ih =>
      rw [List.foldl_append]
      exact ih.collect entry

theorem Lists.ne_blank {entries : List Json} {listed : List String}
    (lists : Lists py entries listed) {name : String} (member : name ∈ listed) :
    name ≠ "" ∧ PyText.strip name = name := by
  have inNames := lists.ordered.subset member
  rw [names, List.mem_filter, List.mem_filterMap] at inNames
  obtain ⟨⟨entry, _, found⟩, nonblank⟩ := inNames
  refine ⟨by simpa using nonblank, ?_⟩
  cases entry with
  | obj fields =>
      obtain rfl := Option.some.inj found
      exact PyText.strip_strip _
  | _ => cases found

/-- A number of hours that is positive, or the text of one. -/
def Positive : Json → Prop
  | .bool value => value = true
  | .int value => 0 < value
  | .float value => PyFloat.less (.finite 0) value = true
  | .str text => ∃ value, PyText.float text.toList = some value ∧
      PyFloat.less (.finite 0) value = true
  | _ => False

theorem maxAge_positive {maxAgeHours : Json} {bound : PyFloat} (positive : Positive maxAgeHours)
    (read : maxAge py maxAgeHours = .ok bound) : PyFloat.less (.finite 0) bound = true := by
  cases maxAgeHours with
  | bool value =>
      obtain rfl : value = true := positive
      obtain rfl := Except.ok.inj read
      decide
  | int value =>
      have positive : 0 < value := positive
      have large : (1 : ℚ) ≤ value := by exact_mod_cast positive
      have less := PyFloat.less_nearest large
      rw [maxAge, asFloat] at read
      cases number : PyFloat.nearest (value : ℚ) with
      | inf => simp [number] at read
      | negInf => simp [number] at read
      | _ =>
          simp only [number, Except.ok.injEq] at read
          rw [← read, ← number]
          exact less
  | float value =>
      obtain rfl := Except.ok.inj read
      exact positive
  | str text =>
      obtain ⟨value, parsed, less⟩ := positive
      rw [maxAge, asFloat, readFloat, parsed] at read
      obtain rfl := Except.ok.inj read
      exact less
  | _ => cases positive

/-- The names of the other zones, each once and in file order; the primary zone's is not
among them where no later entry has it. -/
structure Others (py : Builtins) (primary : Json) (others : List Json) (listed : List String) :
    Prop where
  ordered : (listed.filter (some · ≠ zoneName py primary)).Sublist
    ((names py others).filter (some · ≠ zoneName py primary))
  all : ∀ name ∈ names py others, some name ≠ zoneName py primary → name ∈ listed
  primary : (∀ name ∈ names py others, some name ≠ zoneName py primary) →
    ∀ name ∈ listed, some name ≠ zoneName py primary

theorem Lists.others {others : List Json} {listed : List String}
    (lists : Lists py others listed) (primary : Json) : Others py primary others listed where
  ordered := lists.ordered.filter _
  all name member _ := lists.all name member
  primary apart name member := apart name (lists.ordered.subset member)

/-- What a non-empty answer rests on: an object of the schema with a stamp
that parses and, as far as the clock tells, is no older than the bound; and the
names of its other zones. -/
structure Served (py : Builtins) (fromisoformat : List Char → Option DateTime) (raw : String)
    (schema : Json) (now : String) (bound : PyFloat) (listed : List String)
    (fields : PyDict String Json) : Prop where
  document : py.loads raw = some (.obj fields)
  schema : ((PyDict.get fields "schema").getD .null).pyEq schema = true
  stamped : ∃ generated,
    parseIso fromisoformat (PyDict.get fields "generated_at") = some generated ∧
    ∀ reference, parseIso fromisoformat (some (.str now)) = some reference →
      PyFloat.less bound (ageHours reference generated) = false
  listed : ∃ primary others, PyDict.get fields "zones" = some (.arr (primary :: others)) ∧
    Others py primary others listed

/-- An answer rests on a current projection, as far as the clock tells, and
names its other zones, none blank and none twice. -/
theorem answer_rests_on_projection {raw now : String} {schema maxAgeHours : Json}
    {listed : List String} (positive : Positive maxAgeHours)
    (answered : catenaServedZones py fromisoformat raw schema now maxAgeHours = .ok listed) :
    (listed ≠ [] → ∃ bound fields, maxAge py maxAgeHours = .ok bound ∧
      PyFloat.less (.finite 0) bound = true ∧
      Served py fromisoformat raw schema now bound listed fields) ∧
    listed.Nodup ∧ ∀ name ∈ listed, name ≠ "" ∧ PyText.strip name = name := by
  have empty : ([] : List String).Nodup ∧
      ∀ name ∈ ([] : List String), name ≠ "" ∧ PyText.strip name = name := by simp
  have nothing (isEmpty : Except.ok (ε := FilterError) [] = .ok listed) :
      (listed ≠ [] → ∃ bound fields, maxAge py maxAgeHours = .ok bound ∧
        PyFloat.less (.finite 0) bound = true ∧
        Served py fromisoformat raw schema now bound listed fields) ∧
      listed.Nodup ∧ ∀ name ∈ listed, name ≠ "" ∧ PyText.strip name = name := by
    obtain rfl := Except.ok.inj isEmpty
    exact ⟨fun nonempty => absurd rfl nonempty, empty⟩
  unfold catenaServedZones at answered
  split at answered
  · exact nothing answered
  · split at answered
    · rename_i fields document
      split at answered
      · rename_i schemaSame
        split at answered
        · rename_i primary others zones
          cases read : maxAge py maxAgeHours with
          | error failure =>
              rw [read] at answered
              cases answered
          | ok bound =>
              rw [read] at answered
              have lists := @lists_foldl py others
              have boundPositive := maxAge_positive positive read
              cases fresh : isFresh fromisoformat (PyDict.get fields "generated_at") now bound with
              | false =>
                  rw [Except.map, fresh] at answered
                  rw [read] at nothing
                  exact nothing answered
              | true =>
                  rw [Except.map, fresh] at answered
                  obtain rfl := Except.ok.inj answered
                  refine ⟨fun _ => ⟨bound, fields, rfl, boundPositive, document, schemaSame, ?_,
                    primary, others, zones, lists.others primary⟩, lists.nodup, fun name => lists.ne_blank⟩
                  rw [isFresh, if_pos boundPositive] at fresh
                  split at fresh
                  · cases fresh
                  · rename_i generated stamp noClock
                    refine ⟨generated, stamp, fun reference clock => ?_⟩
                    rw [noClock] at clock
                    cases clock
                  · rename_i generated reference stamp clock
                    refine ⟨generated, stamp, fun other otherClock => ?_⟩
                    rw [clock] at otherClock
                    obtain rfl := Option.some.inj otherClock
                    simpa using fresh
        · exact nothing answered
      · exact nothing answered
    · exact nothing answered

end Answers

/-- `{"schema": 1, "generated_at": "2020-01-01T00:00:00Z", "zones": [{"zone":
"primary.com"}, {"zone": "second.com"}]}`. -/
def sampleText : String :=
  "\x7b\"schema\": 1, \"generated_at\": \"2020-01-01T00:00:00Z\", \"zones\": " ++
    "[\x7b\"zone\": \"primary.com\"\x7d, \x7b\"zone\": \"second.com\"\x7d]\x7d"

/-- `json.loads` on the sample. -/
def sampleBuiltins : Builtins where
  repr _ := ""
  loads text := if text = sampleText then
    some (.obj [("schema", .int 1), ("generated_at", .str "2020-01-01T00:00:00Z"),
      ("zones", .arr [.obj [("zone", .str "primary.com")], .obj [("zone", .str "second.com")]])])
    else none

/-- `datetime.fromisoformat` on two stamps. -/
def sampleFromisoformat (text : List Char) : Option DateTime :=
  if text = "2020-01-01T00:00:00+00:00".toList then some ⟨1577836800000000, some 0⟩
  else if text = "2020-01-02T00:00:00+00:00".toList then some ⟨1577923200000000, some 0⟩
  else none

theorem sample_rests_on_projection :
    ∃ bound fields, maxAge sampleBuiltins (.int 48) = .ok bound ∧
      PyFloat.less (.finite 0) bound = true ∧
      Served sampleBuiltins sampleFromisoformat sampleText (.int 1) "2020-01-02T00:00:00Z" bound
        ["second.com"] fields :=
  (@answer_rests_on_projection sampleBuiltins sampleFromisoformat sampleText
    "2020-01-02T00:00:00Z" (.int 1) (.int 48) ["second.com"] (Int.natCast_succ_pos 47)
    (by decide +kernel)).1 (by decide)

/-- Without a clock the age is unknown, and a stamped projection is taken. -/
theorem unknown_now_taken :
    ¬∀ (raw now : String) (schema maxAgeHours : Json) (listed : List String),
      Positive maxAgeHours →
      catenaServedZones sampleBuiltins sampleFromisoformat raw schema now maxAgeHours =
        .ok listed →
      listed ≠ [] → parseIso sampleFromisoformat (some (.str now)) ≠ none := by
  intro claimed
  exact claimed sampleText "" (.int 1) (.int 48) ["second.com"] (Int.natCast_succ_pos 47) (by decide +kernel)
    (by decide) (by decide +kernel)

end ServedZones

end Catena
