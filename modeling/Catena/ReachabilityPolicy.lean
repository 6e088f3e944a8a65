import Catena.Reachability

/-!
# What a rule of the policy lets in

A filter rule opens the SSH port to a connection by its protocols, the addresses its
sources cover and the addresses and ports of its destinations.  `_allows_ssh` says so
only of such rules.
-/

namespace Catena.Tailnet

/-- The addresses a form of a filter rule stands for. -/
inductive Covers : String → Scoped → Prop
  | any (host : Scoped) : Covers "*" host
  | network {spec : String} {network : PyIp.Network} {host : Scoped}
      (read : PyIp.network spec.toList = some network)
      (family : network.version = host.address.version)
      (inside : host.address.value / 2 ^ (network.version.bits - network.prefixLength) =
        network.value / 2 ^ (network.version.bits - network.prefixLength)) : Covers spec host
  | range {low high : List Char} {first last host : Scoped}
      (lowest : ipAddress (.str (String.ofList low)) = .ok first)
      (highest : ipAddress (.str (String.ofList high)) = .ok last)
      (family : first.address.version = host.address.version)
      (below : first.address.value ≤ host.address.value)
      (above : host.address.value ≤ last.address.value) :
      Covers (String.ofList (low ++ '-' :: high)) host
  | one {spec : String} {host : Scoped} (read : ipAddress (.str spec) = .ok host) :
      Covers spec host

/-- A port range starts at or below a port. -/
def StartsBy (first : Json) (port : Int) : Prop :=
  (∃ number, first.number = some number ∧ number ≤ port) ∨ first = .float .negInf

/-- A port range ends at or above a port. -/
def EndsFrom (last : Json) (port : Int) : Prop :=
  (∃ number, last.number = some number ∧ (port : ℚ) ≤ number) ∨ last = .float .inf

/-- A destination of a rule covers the SSH port of an address. -/
structure Reaches (destination : Json) (dst : Scoped) : Prop where
  address : ∃ spec, item destination "IP" = .ok (.str spec) ∧ Covers spec dst
  ports : ∃ ports first last, item destination "Ports" = .ok ports ∧
    item ports "First" = .ok first ∧ item ports "Last" = .ok last ∧
    StartsBy first sshPort ∧ EndsFrom last sshPort

/-- A filter rule lets the first address open SSH to the second. -/
structure Opens (rule : Json) (src dst : Scoped) : Prop where
  protocol : ∃ protocols, field rule "IPProto" = .ok protocols ∧
    (isTrue protocols = false ∨ ∃ listed, protocols = some (.arr listed) ∧
      ∃ number ∈ listed, Json.pyEq (.int tcp) number = true)
  source : ∃ given listed, field rule "SrcIPs" = .ok given ∧
    entries (orNone given) = .ok listed ∧ ∃ spec, .str spec ∈ listed ∧ Covers spec src
  destination : ∃ given listed, field rule "DstPorts" = .ok given ∧
    entries (orNone given) = .ok listed ∧ ∃ destination ∈ listed, Reaches destination dst

theorem anyOf_true {α : Type} {test : α → Except Failure Bool} {values : List α}
    (found : anyOf test values = .ok true) : ∃ value ∈ values, test value = .ok true := by
  induction values with
  | nil => simp [anyOf] at found
  | cons first rest ih =>
      cases outcome : test first with
      | error failure => simp [anyOf, outcome] at found
      | ok answer =>
          cases answer with
          | true => exact ⟨first, List.mem_cons_self, outcome⟩
          | false =>
              simp only [anyOf, outcome] at found
              obtain ⟨value, member, holds⟩ := ih found
              exact ⟨value, List.mem_cons_of_mem _ member, holds⟩

theorem mem_of_mapM_ok {α β : Type} {step : α → Except Failure β} {items : List α}
    {results : List β} (came : items.mapM step = .ok results) :
    ∀ result ∈ results, ∃ item ∈ items, step item = .ok result := by
  induction items generalizing results with
  | nil =>
      simp only [List.mapM_nil, pure, Except.pure, Except.ok.injEq] at came
      subst came
      simp
  | cons first rest ih =>
      rw [List.mapM_cons] at came
      cases stepped : step first with
      | error failure => simp [stepped, bind, Except.bind] at came
      | ok value =>
          cases others : rest.mapM step with
          | error failure => simp [stepped, others, bind, Except.bind] at came
          | ok values =>
              simp only [stepped, others, bind, Except.bind, pure, Except.pure,
                Except.ok.injEq] at came
              subst came
              intro result member
              rcases List.mem_cons.mp member with rfl | member
              · exact ⟨first, List.mem_cons_self, stepped⟩
              · obtain ⟨item, inRest, found⟩ := ih others result member
                exact ⟨item, List.mem_cons_of_mem _ inRest, found⟩

/-- A step that ends well did so in both parts. -/
theorem step_ok {α β : Type} {first : Except Failure α} {next : α → Except Failure β}
    {result : β} (done : first >>= next = .ok result) :
    ∃ value, first = .ok value ∧ next value = .ok result := by
  cases first with
  | error failure => cases done
  | ok value => exact ⟨value, rfl, done⟩

theorem map_ok {α β : Type} {first : Except Failure α} {next : α → β} {result : β}
    (done : first.map next = .ok result) : ∃ value, first = .ok value ∧ next value = result := by
  cases first with
  | error failure => cases done
  | ok value => exact ⟨value, rfl, Except.ok.inj done⟩

theorem Scoped.value_le {first second : Scoped} (upTo : first.upTo second = true) :
    first.address.value ≤ second.address.value := by
  simp only [Scoped.upTo, Bool.or_eq_true, decide_eq_true_eq] at upTo
  cases upTo with
  | inl less => exact Nat.le_of_lt less
  | inr same => rw [same]

theorem inNetwork_covers {spec : String} {host : Scoped}
    (inside : inNetwork spec.toList host.address = some true) : Covers spec host := by
  obtain ⟨network, read, inside⟩ := Option.bind_eq_some_iff.mp inside
  dsimp only at inside
  split_ifs at inside with aligned
  simp only [Option.some.injEq, Bool.and_eq_true, decide_eq_true_eq, PyIp.Network.contains,
    beq_iff_eq, Nat.shiftRight_eq_div_pow] at inside
  exact .network read inside.1 inside.2

theorem splitOn_ne_nil (separator : Char) (text : List Char) :
    PyText.splitOn separator text ≠ [] := by
  cases text with
  | nil => exact List.cons_ne_nil [] []
  | cons first rest =>
      rw [PyText.splitOn]
      split_ifs
      · exact List.cons_ne_nil _ _
      · split <;> exact List.cons_ne_nil _ _

/-- The parts of a text, each but the first behind the character, are the text. -/
theorem flatMap_splitOn {separator : Char} {text word : List Char} {words : List (List Char)}
    (split : PyText.splitOn separator text = word :: words) :
    text = word ++ words.flatMap (separator :: ·) := by
  induction text generalizing word words with
  | nil =>
      cases split
      rfl
  | cons first rest ih =>
      rw [PyText.splitOn] at split
      cases parts : PyText.splitOn separator rest with
      | nil => exact absurd parts (splitOn_ne_nil separator rest)
      | cons next more =>
          rw [parts] at split
          split_ifs at split with same <;> cases split
          · rw [List.nil_append, List.flatMap_cons, same, List.cons_append, ← ih parts]
          · rw [List.cons_append, ← ih parts]

theorem splitOn_pair {α : Type} {read : List Char → α} {found : List Char} {first last : α}
    (ends : (PyText.splitOn '-' found).map read = [first, last]) :
    ∃ low high, found = low ++ '-' :: high ∧ read low = first ∧ read high = last := by
  obtain ⟨low, rest, split, readLow, readRest⟩ := List.map_eq_cons_iff.mp ends
  obtain ⟨high, more, rfl, readHigh, readMore⟩ := List.map_eq_cons_iff.mp readRest
  rw [List.map_eq_nil_iff] at readMore
  subst readMore
  exact ⟨low, high, by simpa using flatMap_splitOn split, readLow, readHigh⟩

/-- `_holds` finds an address in no form that does not cover it. -/
theorem holds_covers {spec : Json} {host : Scoped} (held : holds spec host = .ok true) :
    ∃ found, spec = .str found ∧ Covers found host := by
  cases spec with
  | str found =>
      refine ⟨found, rfl, ?_⟩
      simp only [holds] at held
      split_ifs at held with anything capability slash dash
      · subst anything
        exact .any host
      · cases held
      · cases inside : inNetwork found.toList host.address with
        | none => simp [inside] at held
        | some answer =>
            simp only [inside, Option.getD_some, Except.ok.injEq] at held
            subst held
            exact inNetwork_covers inside
      · split at held
        · rename_i first last ends
          simp only [Except.ok.injEq, Bool.and_eq_true, decide_eq_true_eq] at held
          obtain ⟨⟨⟨ofRange, ofHost⟩, below⟩, above⟩ := held
          obtain ⟨low, high, written, lowest, highest⟩ := splitOn_pair ends
          rw [← @String.ofList_toList found, written]
          exact .range lowest highest (ofRange.trans ofHost) (Scoped.value_le below)
            (Scoped.value_le above)
        · cases held
      · split at held
        · rename_i one read
          simp only [Except.ok.injEq, decide_eq_true_eq] at held
          subst held
          exact .one read
        · cases held
  | null => cases held
  | bool => cases held
  | int => cases held
  | float => cases held
  | arr => cases held
  | obj => cases held

theorem startsBy_of_atMost {first : Json} {port : Int}
    (within : atMost first (.int port) = .ok true) : StartsBy first port := by
  have ofPort : (Json.int port).number = some (port : ℚ) := rfl
  unfold atMost at within
  rw [ofPort] at within
  cases number : first.number with
  | some value =>
      simp only [number, Except.ok.injEq, decide_eq_true_eq] at within
      exact .inl ⟨value, number, within⟩
  | none =>
      simp only [number] at within
      split at within
      · exact .inr rfl
      · cases within
      · cases within

theorem endsFrom_of_atMost {last : Json} {port : Int}
    (within : atMost (.int port) last = .ok true) : EndsFrom last port := by
  have ofPort : (Json.int port).number = some (port : ℚ) := rfl
  unfold atMost at within
  rw [ofPort] at within
  cases number : last.number with
  | some value =>
      simp only [number, Except.ok.injEq, decide_eq_true_eq] at within
      exact .inl ⟨value, number, within⟩
  | none =>
      simp only [number] at within
      split at within
      · exact .inr rfl
      · cases within
      · cases within

theorem destinationHolds_reaches {destination : Json} {dst : Scoped}
    (held : destinationHolds dst destination = .ok true) : Reaches destination dst := by
  obtain ⟨address, named, held⟩ := step_ok held
  obtain ⟨covered, inside, held⟩ := step_ok held
  cases covered with
  | false => cases held
  | true =>
      obtain ⟨ports, given, held⟩ := step_ok held
      obtain ⟨first, starts, held⟩ := step_ok held
      obtain ⟨begun, below, held⟩ := step_ok held
      cases begun with
      | false => cases held
      | true =>
          obtain ⟨again, givenAgain, held⟩ := step_ok held
          obtain ⟨last, ends, above⟩ := step_ok held
          cases given.symm.trans givenAgain
          obtain ⟨spec, rfl, covers⟩ := holds_covers inside
          exact ⟨⟨spec, named, covers⟩, ports, first, last, given, starts, ends,
            startsBy_of_atMost below, endsFrom_of_atMost above⟩

theorem protocol_of_numberIn {protocols : Option Json} (given : isTrue protocols = true)
    (inside : numberIn tcp (orNone protocols) = .ok true) :
    isTrue protocols = false ∨ ∃ listed, protocols = some (.arr listed) ∧
      ∃ number ∈ listed, Json.pyEq (.int tcp) number = true := by
  refine .inr ?_
  cases protocols with
  | none => cases given
  | some value =>
      have kept : orNone (some value) = value := if_pos given
      rw [kept] at inside
      cases value with
      | arr listed =>
          simp only [numberIn, Except.ok.injEq, List.any_eq_true] at inside
          exact ⟨listed, rfl, inside⟩
      | obj => cases inside
      | null => cases inside
      | bool => cases inside
      | int => cases inside
      | float => cases inside
      | str => cases inside

/-- The addresses of a rule that `_allows_ssh` says yes to. -/
theorem addresses_open {rule : Json} {src dst : Scoped}
    (allowed : (do
      let sources ← entries (orNone (← field rule "SrcIPs"))
      if ← anyOf (fun source => holds source src) sources then
        anyOf (destinationHolds dst) (← entries (orNone (← field rule "DstPorts")))
      else return false) = .ok true) :
    (∃ given listed, field rule "SrcIPs" = .ok given ∧
      entries (orNone given) = .ok listed ∧ ∃ spec, .str spec ∈ listed ∧ Covers spec src) ∧
    ∃ given listed, field rule "DstPorts" = .ok given ∧
      entries (orNone given) = .ok listed ∧
        ∃ destination ∈ listed, Reaches destination dst := by
  obtain ⟨given, sources, allowed⟩ := step_ok allowed
  obtain ⟨listed, entered, allowed⟩ := step_ok allowed
  obtain ⟨found, searched, allowed⟩ := step_ok allowed
  cases found with
  | false => cases allowed
  | true =>
      obtain ⟨targets, destinations, allowed⟩ := step_ok allowed
      obtain ⟨targetsListed, targetsEntered, allowed⟩ := step_ok allowed
      obtain ⟨source, isListed, held⟩ := anyOf_true searched
      obtain ⟨spec, rfl, covers⟩ := holds_covers held
      obtain ⟨destination, isTarget, reached⟩ := anyOf_true allowed
      exact ⟨⟨given, listed, sources, entered, spec, isListed, covers⟩,
        targets, targetsListed, destinations, targetsEntered, destination, isTarget,
        destinationHolds_reaches reached⟩

/-- `_allows_ssh` says yes to no rule that does not let the connection in. -/
theorem allowsSsh_opens {rule : Json} {src dst : Scoped}
    (allowed : allowsSsh rule src dst = .ok true) : Opens rule src dst := by
  obtain ⟨protocols, named, allowed⟩ := step_ok allowed
  dsimp only at allowed
  by_cases given : isTrue protocols = true
  · rw [if_pos given] at allowed
    obtain ⟨ofTcp, asked, allowed⟩ := step_ok allowed
    cases ofTcp with
    | false => cases allowed
    | true =>
        obtain ⟨source, destination⟩ := addresses_open allowed
        exact ⟨⟨protocols, named, protocol_of_numberIn given asked⟩, source, destination⟩
  · rw [if_neg given] at allowed
    obtain ⟨source, destination⟩ := addresses_open allowed
    exact ⟨⟨protocols, named, .inl (by simpa using given)⟩, source, destination⟩

theorem mem_pairs {peers : List Peer} {own : List Scoped} {between : List (Scoped × Scoped)}
    (paired : pairs peers own = .ok between) {pair : Scoped × Scoped} (member : pair ∈ between) :
    (∃ peer ∈ peers, ∃ address ∈ peer.addresses, ipAddress address = .ok pair.1) ∧
      pair.2 ∈ own ∧ pair.1.address.version = pair.2.address.version := by
  obtain ⟨sources, read, same⟩ := map_ok paired
  subst same
  obtain ⟨src, isSource, paired⟩ := List.mem_flatMap.mp member
  obtain ⟨dst, isOwn, rfl⟩ := List.mem_map.mp paired
  obtain ⟨dstOwn, family⟩ := List.mem_filter.mp isOwn
  obtain ⟨address, given, came⟩ := mem_of_mapM_ok read src isSource
  obtain ⟨peer, isPeer, ofPeer⟩ := List.mem_flatMap.mp given
  exact ⟨⟨peer, isPeer, address, ofPeer, came⟩, dstOwn, by simpa using family⟩

end Catena.Tailnet
