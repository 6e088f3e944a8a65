import Catena.LoaderAgain

/-!
# The token of the domain a host leaves

A settings write that changes the domain records the outgoing domain's token
in the per-zone map.  The record is made from the domain stored right before
the write, so a domain cleared first leaves no record, and it is made before
the request's own secrets, so a map the request supplies takes its place.
-/

namespace Catena.Store

/-- The stored domain. -/
def zoneOf (py : Builtins) (file : Option Json) : String :=
  PyText.strip (Json.textOr py (PyDict.get (configOf file) "CLOUDFLARE_ZONE"))

/-- The stored token of the domain. -/
def tokenOf (py : Builtins) (file : Option Json) : String :=
  PyText.strip (Json.textOr py (PyDict.get (secretsOf file) "cloudflare_api_token"))

/-- The stored per-zone map, whatever it is. -/
def storedTokens (file : Option Json) : Json :=
  (PyDict.get (secretsOf file) "cloudflare_api_tokens").getD .null

/-- A per-zone map holds a token for a zone. -/
def HoldsToken (tokens : Json) (zone token : String) : Prop :=
  PyDict.get (tokenMap tokens) zone = some (.str token)

/-- The value a request supplies for a key of one of its two parts. -/
def Call.supplied (call : Call) (part key : String) : Option Json :=
  match call.request with
  | .obj fields =>
    match PyDict.get fields part with
    | some (.obj items) => PyDict.get items key
    | _ => none
  | _ => none

/-- The per-zone map a request supplies, unless it is blank. -/
def Call.tokens (call : Call) : Option Json :=
  (call.supplied "secrets" "cloudflare_api_tokens").filter fun value => !value.blank

/-- No part of the request repeats a key, as in every dictionary Python
reads. -/
def Call.Distinct (call : Call) : Prop :=
  ∀ fields part items, call.request = .obj fields →
    PyDict.get fields part = some (.obj items) → (PyDict.keys items).Nodup

def fileAfter (py : Builtins) (calls : List Call) (file : Option Json) : Option Json :=
  (serve py calls file).2

/-- Requests that move a host from a domain held with a token to another
domain, through blank values or at once: `front` leads to the old domain,
after it and until `last` the stored domain is blank. -/
structure Moves (py : Builtins) (file : Option Json) (front blanks : List Call)
    (last : Call) (old new token : String) : Prop where
  left : zoneOf py (fileAfter py front file) = old
  held : tokenOf py (fileAfter py front file) = token
  blank : ∀ before rest, blanks = before ++ rest → before ≠ [] →
    zoneOf py (fileAfter py (front ++ before) file) = ""
  arrives : zoneOf py (fileAfter py (front ++ blanks ++ [last]) file) = new
  oldText : old ≠ ""
  newText : new ≠ ""
  tokenText : token ≠ ""
  differs : new ≠ old

/-- When the write that stores the new domain leaves the old one's token in
the map: a map of its own it supplies holds it, or it supplies none and the
move is direct or the map held the token before. -/
def Records (before : Option Json) (direct : Prop) (last : Call)
    (old token : String) : Prop :=
  match last.tokens with
  | none => direct ∨ HoldsToken (storedTokens before) old token
  | some given =>
    (¬ direct ∧ Json.pyEq (storedTokens before) given = true ∧
        HoldsToken (storedTokens before) old token) ∨
      ((direct ∨ Json.pyEq (storedTokens before) given = false) ∧
        HoldsToken given old token)

/-- A write that names the domain by a value equal to the stored one with
another text, `1` and `true`: the domain stays, and its token is recorded. -/
def Renames (py : Builtins) (before : Option Json) (call : Call) : Prop :=
  ∃ value, call.supplied "config" "CLOUDFLARE_ZONE" = some value ∧
    Json.pyEq ((PyDict.get (configOf before) "CLOUDFLARE_ZONE").getD .null) value = true ∧
    PyText.strip (Json.textOr py (some value)) ≠ "" ∧
    PyText.strip (Json.textOr py (some value)) ≠ zoneOf py before ∧
    zoneOf py before ≠ "" ∧ tokenOf py before ≠ "" ∧
    ¬ HoldsToken (storedTokens before) (zoneOf py before) (tokenOf py before)

/-- A write adds no entry to the map that was neither there nor supplied. -/
def AddsNothing (before after : Option Json) (call : Call) : Prop :=
  ∀ zone value, PyDict.get (tokenMap (storedTokens after)) zone = some value →
    PyDict.get (tokenMap (storedTokens before)) zone = some value ∨
      ∃ given, call.tokens = some given ∧ PyDict.get (tokenMap given) zone = some value

theorem fileAfter_append (py : Builtins) (calls : List Call) (last : Call)
    (file : Option Json) :
    fileAfter py (calls ++ [last]) file =
      (FileRun.exec (dispatch py last) (fileAfter py calls file)).2 := by
  unfold fileAfter
  induction calls generalizing file with
  | nil => rfl
  | cons call rest ih => exact ih _

/-- Equal objects hold the same texts. -/
theorem pyEqFields_text {fields others : List (String × Json)}
    (equal : Json.pyEqFields fields others = true) {key text : String}
    (found : PyDict.get fields key = some (.str text)) :
    PyDict.get others key = some (.str text) := by
  induction fields with
  | nil => cases found
  | cons field rest ih =>
      obtain ⟨name, value⟩ := field
      simp only [Json.pyEqFields, Bool.and_eq_true] at equal
      rw [PyDict.get_cons] at found
      split at found
      · rename_i same
        subst same
        obtain rfl := Option.some.inj found
        cases there : PyDict.get others name with
        | none =>
            rw [there] at equal
            cases equal.1
        | some other =>
            rw [there] at equal
            rw [(Json.str_pyEq_iff text other).mp equal.1]
      · exact ih equal.2 found

theorem HoldsToken.of_pyEq {fields : List (String × Json)} {given : Json}
    {zone token : String} (equal : Json.pyEq (.obj fields) given = true)
    (holds : PyDict.get fields zone = some (.str token)) :
    HoldsToken given zone token := by
  cases given with
  | obj others =>
      simp only [Json.pyEq, Bool.and_eq_true] at equal
      exact pyEqFields_text equal.2 holds
  | float value => cases value <;> simp [Json.pyEq, Json.number] at equal
  | _ => simp [Json.pyEq, Json.number] at equal

/-- An accepted write, as the merge it makes of what its request supplies. -/
structure Writes (py : Builtins) (call : Call) (inputs : Inputs)
    (before after : Option Json) : Prop where
  store : ∃ store, load before = .ok store ∧
    load after = .ok (merge py inputs true store).1
  zone : inputs.zone = call.supplied "config" "CLOUDFLARE_ZONE"
  secrets : ∀ key, PyDict.get inputs.secretItems key = call.supplied "secrets" key
  config : ∀ key, PyDict.get inputs.configItems key = call.supplied "config" key
  secretsNodup : (PyDict.keys inputs.secretItems).Nodup
  configNodup : (PyDict.keys inputs.configItems).Nodup

theorem itemsOf_supplied {call : Call} (distinct : call.Distinct)
    {fields items : List (String × Json)} (request : call.request = .obj fields)
    (part : String) (read : itemsOf ((PyDict.get fields part).getD .null) = .ok items) :
    (∀ key, PyDict.get items key = call.supplied part key) ∧
      (PyDict.keys items).Nodup := by
  cases found : PyDict.get fields part with
  | none =>
      rw [found] at read
      obtain rfl := Except.ok.inj read
      refine ⟨fun key => ?_, by simp [PyDict.keys]⟩
      simp [Call.supplied, request, found]
  | some value =>
      rw [found] at read
      cases value with
      | obj given =>
          simp only [Option.getD_some, itemsOf_obj, Except.ok.injEq] at read
          subst read
          refine ⟨fun key => ?_, distinct fields part given request found⟩
          simp [Call.supplied, request, found]
      | _ =>
          simp only [Option.getD_some, itemsOf] at read
          split at read
          · obtain rfl := Except.ok.inj read
            refine ⟨fun key => ?_, by simp [PyDict.keys]⟩
            simp [Call.supplied, request, found]
          · cases read

theorem requestedZone_supplied {call : Call} {fields items : List (String × Json)}
    {zone : Option Json} (request : call.request = .obj fields)
    (read : requestedZone ((PyDict.get fields "config").getD .null) = .ok zone)
    (listed : itemsOf ((PyDict.get fields "config").getD .null) = .ok items) :
    zone = call.supplied "config" "CLOUDFLARE_ZONE" := by
  cases found : PyDict.get fields "config" with
  | none =>
      rw [found] at read
      obtain rfl := Except.ok.inj read
      simp [Call.supplied, request, found]
  | some value =>
      rw [found] at read listed
      cases value with
      | obj given =>
          simp only [Option.getD_some, requestedZone_obj, Except.ok.injEq] at read
          simp [Call.supplied, request, found, ← read]
      | _ =>
          simp only [Option.getD_some, itemsOf, requestedZone] at read listed
          split at listed
          · rename_i falsy
            rw [if_pos falsy] at read
            obtain rfl := Except.ok.inj read
            simp [Call.supplied, request, found]
          · cases listed

/-- Every request leaves the file as it is, unaccepted, or writes. -/
theorem dispatch_writes (py : Builtins) {call : Call} (distinct : call.Distinct)
    (before : Option Json) :
    ((FileRun.exec (dispatch py call) before).1 ≠ .ok .accepted ∧
        (FileRun.exec (dispatch py call) before).2 = before) ∨
      ∃ inputs, Writes py call inputs before (FileRun.exec (dispatch py call) before).2 := by
  unfold dispatch
  split
  · rename_i fields request
    split
    · left
      simp only [dispatchRead, FileRun.exec_reading_bind]
      cases load before with
      | error failure => exact ⟨by simp, rfl⟩
      | ok store => exact ⟨by simp, rfl⟩
    · rw [exec_dispatchWrite]
      cases written : writtenFile py call.lockHeld fields before with
      | error failure => exact .inl ⟨by simp, rfl⟩
      | ok document =>
          right
          unfold writtenFile at written
          split at written
          · cases written
          · split at written
            · cases written
            · rename_i store read
              cases taken : readInputs ((PyDict.get fields "secrets").getD .null)
                  ((PyDict.get fields "config").getD .null) with
              | error failure =>
                  rw [taken] at written
                  cases written
              | ok inputs =>
                  rw [taken] at written
                  have reread := load_dump
                    (merge_distinctKeys py inputs true (load_distinctKeys read)) written
                  refine ⟨inputs, ?_⟩
                  unfold readInputs at taken
                  cases zoneRead : requestedZone ((PyDict.get fields "config").getD .null) with
                  | error failure => simp [zoneRead, bind, Except.bind] at taken
                  | ok zone =>
                      cases secretsRead : itemsOf ((PyDict.get fields "secrets").getD .null) with
                      | error failure => simp [zoneRead, secretsRead, bind, Except.bind] at taken
                      | ok secretItems =>
                          cases configRead : itemsOf ((PyDict.get fields "config").getD .null) with
                          | error failure =>
                              simp only [zoneRead, secretsRead, configRead, bind,
                                Except.bind] at taken
                              split at taken <;> cases taken
                          | ok configItems =>
                              simp only [zoneRead, secretsRead, configRead, bind,
                                Except.bind] at taken
                              split at taken
                              · obtain rfl := Except.ok.inj taken
                                obtain ⟨secrets, secretsNodup⟩ :=
                                  itemsOf_supplied distinct request "secrets" secretsRead
                                obtain ⟨config, configNodup⟩ :=
                                  itemsOf_supplied distinct request "config" configRead
                                exact
                                  { store := ⟨store, read, reread⟩
                                    zone := requestedZone_supplied request zoneRead configRead
                                    secrets := secrets
                                    config := config
                                    secretsNodup := secretsNodup
                                    configNodup := configNodup }
                              · cases taken
    · exact .inl ⟨by simp [FileRun.exec_throw], rfl⟩
  · exact .inl ⟨by simp [FileRun.exec_throw], rfl⟩

/-- The token step records the outgoing domain's token. -/
def Keeps (py : Builtins) (before : Option Json) (call : Call) : Prop :=
  ∃ value, call.supplied "config" "CLOUDFLARE_ZONE" = some value ∧
    PyText.strip (Json.textOr py (some value)) ≠ "" ∧
    PyText.strip (Json.textOr py (some value)) ≠ zoneOf py before ∧
    zoneOf py before ≠ "" ∧ tokenOf py before ≠ "" ∧
    ¬ HoldsToken (storedTokens before) (zoneOf py before) (tokenOf py before)

/-- The map with the outgoing domain's token in it. -/
def recorded (py : Builtins) (before : Option Json) : PyDict String Json :=
  PyDict.set (tokenMap (storedTokens before)) (zoneOf py before)
    (.str (tokenOf py before))

theorem pyEq_holdsToken (tokens : Json) (zone token : String) :
    Json.pyEq ((PyDict.get (tokenMap tokens) zone).getD .null) (.str token) = true ↔
      HoldsToken tokens zone token := by
  rw [Json.pyEq_str_iff]
  unfold HoldsToken
  cases PyDict.get (tokenMap tokens) zone <;> simp

section Write

variable {py : Builtins} {call : Call} {inputs : Inputs} {before after : Option Json}

/-- The map after the token step. -/
theorem Writes.kept (writes : Writes py call inputs before after) {store : Store}
    (read : load before = .ok store) :
    (Keeps py before call ∧
      PyDict.get (keepOutgoing py inputs.zone store).1.secrets "cloudflare_api_tokens" =
        some (.obj (recorded py before))) ∨
    (¬ Keeps py before call ∧
      PyDict.get (keepOutgoing py inputs.zone store).1.secrets "cloudflare_api_tokens" =
        PyDict.get (secretsOf before) "cloudflare_api_tokens") := by
  have secrets := secretsOf_of_load read
  have config := configOf_of_load read
  rw [writes.zone]
  cases supplied : call.supplied "config" "CLOUDFLARE_ZONE" with
  | none =>
      right
      refine ⟨?_, by rw [secrets]; rfl⟩
      rintro ⟨value, given, _⟩
      rw [supplied] at given
      cases given
  | some value =>
      have only : ∀ other, call.supplied "config" "CLOUDFLARE_ZONE" = some other →
          other = value := by
        intro other given
        rw [supplied] at given
        exact (Option.some.inj given).symm
      have zone : PyText.strip (Json.textOr py (PyDict.get store.config "CLOUDFLARE_ZONE")) =
          zoneOf py before := by
        rw [zoneOf, config]
      have token : PyText.strip (Json.textOr py
          (PyDict.get store.secrets "cloudflare_api_token")) = tokenOf py before := by
        rw [tokenOf, secrets]
      have tokens : (PyDict.get store.secrets "cloudflare_api_tokens").getD .null =
          storedTokens before := by
        rw [storedTokens, secrets]
      simp only [keepOutgoing, preserveToken, zone, token, tokens, keepToken]
      by_cases silent : PyText.strip (Json.textOr py (some value)) = "" ∨
          zoneOf py before = "" ∨
          PyText.strip (Json.textOr py (some value)) = zoneOf py before ∨
          tokenOf py before = ""
      · right
        rw [if_pos silent]
        refine ⟨?_, by rw [secrets]⟩
        rintro ⟨other, given, newText, different, oldText, tokenText, _⟩
        rw [only other given] at newText different
        rcases silent with empty | empty | same | empty
        · exact newText empty
        · exact oldText empty
        · exact different same
        · exact tokenText empty
      · rw [if_neg silent]
        simp only [not_or] at silent
        obtain ⟨newText, oldText, different, tokenText⟩ := silent
        by_cases holds : HoldsToken (storedTokens before) (zoneOf py before) (tokenOf py before)
        · right
          rw [if_pos ((pyEq_holdsToken _ _ _).mpr holds)]
          refine ⟨?_, by rw [secrets]⟩
          rintro ⟨_, _, _, _, _, _, fresh⟩
          exact fresh holds
        · left
          rw [if_neg fun equal => holds ((pyEq_holdsToken _ _ _).mp equal)]
          exact ⟨⟨value, supplied, newText, different, oldText, tokenText, holds⟩,
            PyDict.get_set_same _ _ _⟩

theorem Writes.stored (writes : Writes py call inputs before after) {store : Store}
    (read : load before = .ok store) {kept : Option Json}
    (step : PyDict.get (keepOutgoing py inputs.zone store).1.secrets
      "cloudflare_api_tokens" = kept) :
    storedTokens after =
      match call.tokens with
      | none => kept.getD .null
      | some given => if Json.pyEq (kept.getD .null) given then kept.getD .null else given := by
  obtain ⟨found, loads, reread⟩ := writes.store
  obtain rfl := Except.ok.inj (read.symm.trans loads)
  rw [storedTokens, secretsOf_of_load reread, get_merge_secrets, step,
    Tally.resolve_items (secretDecision true) writes.secretsNodup, writes.secrets]
  unfold Call.tokens
  cases call.supplied "secrets" "cloudflare_api_tokens" with
  | none => rfl
  | some given =>
      by_cases blank : given.blank = true
      · simp [secretDecision, blank, Option.filter]
      · by_cases equal : Json.pyEq (kept.getD .null) given = true
        · simp [secretDecision, blank, equal, Option.filter]
        · simp [secretDecision, blank, equal, Option.filter]

/-- The domain a write stores. -/
theorem Writes.zone_after (writes : Writes py call inputs before after) :
    PyDict.get (configOf after) "CLOUDFLARE_ZONE" =
      match call.supplied "config" "CLOUDFLARE_ZONE" with
      | none => PyDict.get (configOf before) "CLOUDFLARE_ZONE"
      | some value =>
        if Json.pyEq ((PyDict.get (configOf before) "CLOUDFLARE_ZONE").getD .null) value then
          PyDict.get (configOf before) "CLOUDFLARE_ZONE"
        else some value := by
  obtain ⟨store, loads, reread⟩ := writes.store
  rw [configOf_of_load reread, get_merge_config, configOf_of_load loads,
    Tally.resolve_items (configDecision true) writes.configNodup, writes.config]
  cases call.supplied "config" "CLOUDFLARE_ZONE" with
  | none => rfl
  | some value =>
      by_cases equal : Json.pyEq ((PyDict.get store.config "CLOUDFLARE_ZONE").getD .null)
          value = true
      · simp [configDecision, equal]
      · simp [configDecision, equal]

theorem HoldsToken.obj {tokens : Json} {zone token : String}
    (holds : HoldsToken tokens zone token) : ∃ fields, tokens = .obj fields := by
  cases tokens with
  | obj fields => exact ⟨fields, rfl⟩
  | _ => cases holds

/-- A write that stores another domain over the one it finds. -/
theorem Writes.records_direct (writes : Writes py call inputs before after)
    (oldText : zoneOf py before ≠ "") (newText : zoneOf py after ≠ "")
    (differs : zoneOf py after ≠ zoneOf py before) (tokenText : tokenOf py before ≠ "") :
    HoldsToken (storedTokens after) (zoneOf py before) (tokenOf py before) ↔
      Records before True call (zoneOf py before) (tokenOf py before) := by
  obtain ⟨store, loads, _⟩ := writes.store
  have named : ∃ value, call.supplied "config" "CLOUDFLARE_ZONE" = some value ∧
      PyText.strip (Json.textOr py (some value)) = zoneOf py after := by
    have stored := writes.zone_after
    cases supplied : call.supplied "config" "CLOUDFLARE_ZONE" with
    | none =>
        rw [supplied] at stored
        exact absurd (by rw [zoneOf, stored, ← zoneOf]) differs
    | some value =>
        simp only [supplied] at stored
        split at stored
        · exact absurd (by rw [zoneOf, stored, ← zoneOf]) differs
        · exact ⟨value, rfl, by rw [zoneOf, stored]⟩
  obtain ⟨value, supplied, text⟩ := named
  have kept : ∃ fields, HoldsToken (.obj fields) (zoneOf py before) (tokenOf py before) ∧
      ∃ held, PyDict.get (keepOutgoing py inputs.zone store).1.secrets
        "cloudflare_api_tokens" = held ∧ held.getD .null = .obj fields := by
    rcases writes.kept loads with ⟨_, found⟩ | ⟨silent, found⟩
    · exact ⟨recorded py before, PyDict.get_set_same _ _ _, _, found, rfl⟩
    · have holds : HoldsToken (storedTokens before) (zoneOf py before) (tokenOf py before) := by
        by_contra fresh
        exact silent ⟨value, supplied, text ▸ newText, text ▸ differs, oldText, tokenText, fresh⟩
      obtain ⟨fields, map⟩ := holds.obj
      exact ⟨fields, map ▸ holds, _, found, map⟩
  obtain ⟨fields, holds, held, found, map⟩ := kept
  rw [writes.stored loads found, map]
  unfold Records
  cases call.tokens with
  | none => simpa using holds
  | some given =>
      by_cases equal : Json.pyEq (.obj fields) given = true
      · simp only [equal, if_true, not_true, false_and, true_or, true_and, false_or]
        exact ⟨fun _ => HoldsToken.of_pyEq equal holds, fun _ => holds⟩
      · simp [equal]

theorem Writes.records_blank (writes : Writes py call inputs before after)
    (blank : zoneOf py before = "") (old token : String) :
    HoldsToken (storedTokens after) old token ↔ Records before False call old token := by
  obtain ⟨store, loads, _⟩ := writes.store
  have silent : ¬ Keeps py before call := by
    rintro ⟨_, _, _, _, oldText, _⟩
    exact oldText blank
  rcases writes.kept loads with ⟨keeps, _⟩ | ⟨_, found⟩
  · exact absurd keeps silent
  · rw [writes.stored loads found]
    unfold Records
    change HoldsToken (match call.tokens with
      | none => storedTokens before
      | some given => if Json.pyEq (storedTokens before) given then storedTokens before
          else given) old token ↔ _
    cases call.tokens with
    | none => simp
    | some given =>
        by_cases equal : Json.pyEq (storedTokens before) given = true <;> simp [equal]

/-- A write that leaves the domain as it is. -/
theorem Writes.adds_iff (writes : Writes py call inputs before after)
    (stays : zoneOf py after = zoneOf py before) :
    AddsNothing before after call ↔ ¬ (Renames py before call ∧ call.tokens = none) := by
  obtain ⟨store, loads, _⟩ := writes.store
  have keeps_of_renames : Renames py before call → Keeps py before call := by
    rintro ⟨value, supplied, _, rest⟩
    exact ⟨value, supplied, rest⟩
  rcases writes.kept loads with ⟨keeps, found⟩ | ⟨silent, found⟩
  · have renames : Renames py before call := by
      obtain ⟨value, supplied, newText, different, rest⟩ := keeps
      refine ⟨value, supplied, ?_, newText, different, rest⟩
      by_contra unequal
      have stored := writes.zone_after
      simp only [supplied, unequal, if_false] at stored
      exact different (by rw [← stays, zoneOf, stored])
    have fresh : ¬ HoldsToken (storedTokens before) (zoneOf py before) (tokenOf py before) := by
      obtain ⟨_, _, _, _, _, _, fresh⟩ := keeps
      exact fresh
    have map := writes.stored loads found
    cases given : call.tokens with
    | none =>
        rw [given] at map
        simp only [renames, and_self, not_true, iff_false]
        intro adds
        rcases adds (zoneOf py before) (.str (tokenOf py before))
          (by rw [map]; exact PyDict.get_set_same _ _ _) with there | ⟨_, supplied, _⟩
        · exact fresh there
        · rw [given] at supplied
          cases supplied
    | some tokens =>
        simp only [given, Option.getD_some] at map
        simp only [reduceCtorEq, and_false, not_false_iff, iff_true]
        intro zone value entry
        rw [map] at entry
        split at entry
        · rename_i equal
          by_cases same : zone = zoneOf py before
          · subst same
            have text : value = .str (tokenOf py before) := by
              have there : PyDict.get (recorded py before) (zoneOf py before) = some value := entry
              rw [recorded, PyDict.get_set_same] at there
              exact (Option.some.inj there).symm
            subst text
            exact .inr ⟨tokens, given, HoldsToken.of_pyEq equal entry⟩
          · have there : PyDict.get (recorded py before) zone = some value := entry
            rw [recorded, PyDict.get_set_ne _ _ (Ne.symm same)] at there
            exact .inl there
        · exact .inr ⟨tokens, given, entry⟩
  · have notRenames : ¬ Renames py before call := fun renames =>
      silent (keeps_of_renames renames)
    simp only [notRenames, false_and, not_false_iff, iff_true]
    intro zone value entry
    rw [writes.stored loads found] at entry
    cases given : call.tokens with
    | none =>
        rw [given] at entry
        exact .inl entry
    | some tokens =>
        simp only [given] at entry
        split at entry
        · exact .inl entry
        · exact .inr ⟨tokens, rfl, entry⟩

end Write

/-- Over any requests: a move leaves the old domain's token in the map exactly
where the write that stores the new domain records it, and a write that leaves
the domain as it is adds an entry of its own exactly where it renames it. -/
theorem outgoing_token_kept_iff (py : Builtins) (file : Option Json)
    (front blanks : List Call) (last : Call) (distinct : last.Distinct) :
    (∀ old new token, Moves py file front blanks last old new token →
      (HoldsToken (storedTokens (fileAfter py (front ++ blanks ++ [last]) file)) old token ↔
        Records (fileAfter py (front ++ blanks) file) (blanks = []) last old token)) ∧
    ((FileRun.exec (dispatch py last) (fileAfter py front file)).1 = .ok .accepted →
      zoneOf py (fileAfter py (front ++ [last]) file) = zoneOf py (fileAfter py front file) →
      (AddsNothing (fileAfter py front file) (fileAfter py (front ++ [last]) file) last ↔
        ¬ (Renames py (fileAfter py front file) last ∧ last.tokens = none))) := by
  constructor
  · intro old new token moves
    have arrives := moves.arrives
    rw [fileAfter_append] at arrives ⊢
    rcases dispatch_writes py distinct (fileAfter py (front ++ blanks) file) with
      ⟨_, same⟩ | ⟨inputs, writes⟩
    · rw [same] at arrives
      by_cases direct : blanks = []
      · subst direct
        rw [List.append_nil, moves.left] at arrives
        exact absurd arrives.symm moves.differs
      · rw [moves.blank blanks [] (by simp) direct] at arrives
        exact absurd arrives.symm moves.newText
    · by_cases direct : blanks = []
      · subst direct
        simp only [List.append_nil] at writes arrives ⊢
        have records := writes.records_direct (by rw [moves.left]; exact moves.oldText)
          (by rw [arrives]; exact moves.newText)
          (by rw [arrives, moves.left]; exact moves.differs)
          (by rw [moves.held]; exact moves.tokenText)
        rwa [moves.left, moves.held] at records
      · simp only [direct]
        exact writes.records_blank (moves.blank blanks [] (by simp) direct) old token
  · intro accepted stays
    rw [fileAfter_append] at stays ⊢
    rcases dispatch_writes py distinct (fileAfter py front file) with
      ⟨refused, _⟩ | ⟨inputs, writes⟩
    · exact absurd accepted refused
    · exact writes.adds_iff stays

/-- A write of the domain alone. -/
def zoneWrite (zone : String) : Call :=
  ⟨.obj [("op", .str "write"), ("config", .obj [("CLOUDFLARE_ZONE", .str zone)])], false⟩

theorem zoneWrite_distinct (zone : String) : (zoneWrite zone).Distinct := by
  intro fields part items request found
  obtain rfl := Json.obj.inj request
  simp only [PyDict.get_cons, PyDict.get_nil] at found
  split at found
  · cases found
  · split at found
    · obtain rfl := Json.obj.inj (Option.some.inj found)
      simp [PyDict.keys]
    · cases found

theorem direct_move : Moves .unused (sampleFile "p") [] [] (zoneWrite "new.example")
    "old.example" "new.example" "old-token" where
  left := by decide
  held := by decide
  blank before rest whole nonempty := by
    simp only [List.nil_eq, List.append_eq_nil_iff] at whole
    exact absurd whole.1 nonempty
  arrives := by decide
  oldText := by decide
  newText := by decide
  tokenText := by decide
  differs := by decide

/-- A change of domain at once keeps the old domain's token. -/
theorem direct_move_keeps_token :
    HoldsToken (storedTokens (fileAfter .unused [zoneWrite "new.example"] (sampleFile "p")))
      "old.example" "old-token" :=
  ((outgoing_token_kept_iff .unused (sampleFile "p") [] [] (zoneWrite "new.example")
    (zoneWrite_distinct _)).1 _ _ _ direct_move).mpr (.inl rfl)

theorem cleared_move : Moves .unused (sampleFile "p") [] [zoneWrite ""]
    (zoneWrite "new.example") "old.example" "new.example" "old-token" where
  left := by decide
  held := by decide
  blank before rest whole nonempty := by
    obtain ⟨first, later, rfl⟩ := List.exists_cons_of_ne_nil nonempty
    simp only [List.cons_append, List.cons.injEq, List.nil_eq,
      List.append_eq_nil_iff] at whole
    obtain ⟨rfl, rfl, rfl⟩ := whole
    decide
  arrives := by decide
  oldText := by decide
  newText := by decide
  tokenText := by decide
  differs := by decide

/-- A domain cleared before the next is set leaves its token behind. -/
theorem cleared_move_loses_token :
    ¬ ∀ (py : Builtins) (file : Option Json) (front blanks : List Call) (last : Call),
      last.Distinct →
      (∀ old new token, Moves py file front blanks last old new token →
        HoldsToken (storedTokens (fileAfter py (front ++ blanks ++ [last]) file))
          old token) ∧
      ((FileRun.exec (dispatch py last) (fileAfter py front file)).1 = .ok .accepted →
        zoneOf py (fileAfter py (front ++ [last]) file) = zoneOf py (fileAfter py front file) →
        AddsNothing (fileAfter py front file) (fileAfter py (front ++ [last]) file) last) := by
  intro claim
  have holds := (claim .unused (sampleFile "p") [] [zoneWrite ""] (zoneWrite "new.example")
    (zoneWrite_distinct _)).1 _ _ _ cleared_move
  revert holds
  unfold HoldsToken
  decide

end Catena.Store
