import Catena.FirewallKernel

/-!
# What a firewall walk without a reason says

Hook by hook, a walk that gives no reason is right about every packet that
agrees with what `rule_matches` decided, as long as no undecided RETURN or
goto stands before the rule by which its chain accepts.
-/

namespace Catena.Firewall

open Chains (Verdict Action Reached Quiet Runs)

theorem eq_nil_of_distinct {reasons : List String} (none : distinct reasons = []) :
    reasons = [] := by
  have pairsNil := PyDict.eq_nil_of_ofPairs (List.map_eq_nil_iff.mp none)
  exact List.map_eq_nil_iff.mp pairsNil

theorem walkHooks_of_walkInbound {own : List PyIp.Address} {tables : Tables}
    (walked : walkInbound own tables = .ok []) : walkHooks own tables inbound [] = .ok [] := by
  unfold walkInbound at walked
  cases outcome : walkHooks own tables inbound [] with
  | error failure => simp [outcome, Except.map] at walked
  | ok reasons =>
      simp only [outcome, Except.map, Except.ok.injEq] at walked
      rw [eq_nil_of_distinct walked]

theorem walkHooks_onlyAdds (own : List PyIp.Address) (tables : Tables)
    (hooks : List (String × String)) {reasons : List String}
    (walked : walkHooks own tables hooks reasons = .ok []) : reasons = [] := by
  induction hooks generalizing reasons with
  | nil => simpa [walkHooks] using walked
  | cons hook rest ih =>
      obtain ⟨label, name⟩ := hook
      unfold walkHooks at walked
      split at walked
      · exact ih walked
      · split at walked
        · exact ih walked
        · rename_i table _ _
          cases chainWalked : walkChain own label table 31 name reasons with
          | error failure => simp [chainWalked] at walked
          | ok outcome =>
              obtain ⟨verdict, between⟩ := outcome
              have betweenNil : between = [] := by
                simp only [chainWalked] at walked
                split at walked
                · simpa using walked
                · split at walked
                  · simp at walked
                  · split at walked
                    · simpa using walked
                    · exact ih walked
              rw [betweenNil] at chainWalked
              exact walkChain_onlyAdds own label table 31 name reasons verdict
                chainWalked

section Hooks

variable {own : List PyIp.Address} {reads : String → Action String}
  {tables : Tables} {packet : String → Chains.Packet String}

/-- The hook has a base chain to walk. -/
def HasChain (tables : Tables) (hook : String × String) (table : Table) : Prop :=
  PyDict.get tables hook.1 = some table ∧ hook.2 ∈ PyDict.keys table.rules

theorem walkHooks_of_no_chain {hook : String × String}
    {rest : List (String × String)} {reasons : List String}
    (absent : ∀ table, ¬ HasChain tables hook table) :
    walkHooks own tables (hook :: rest) reasons =
      walkHooks own tables rest reasons := by
  cases found : PyDict.get tables hook.1 with
  | none => simp [walkHooks, found]
  | some table =>
      have missing : hook.2 ∉ PyDict.keys table.rules :=
        fun present => absent table ⟨found, present⟩
      simp [walkHooks, found, missing]

/-- A hook the walk leaves with no reason: its chain was walked with none, the
policy adds none, and the walk stops there or goes on. -/
theorem walkHooks_of_chain {hook : String × String}
    {rest : List (String × String)} {reasons : List String} {table : Table}
    (chain : HasChain tables hook table)
    (walked : walkHooks own tables (hook :: rest) reasons = .ok []) :
    ∃ verdict,
      walkChain own hook.1 table 31 hook.2 reasons = .ok (verdict, []) ∧
      (verdict = .back → PyDict.get table.policy hook.2 ≠ some "DROP") ∧
      (verdict = .drop ∨ hook.1 = "filter" ∨
        walkHooks own tables rest [] = .ok []) := by
  obtain ⟨found, present⟩ := chain
  simp only [walkHooks, found, present, not_true_eq_false, if_false] at walked
  cases chainWalked : walkChain own hook.1 table 31 hook.2 reasons with
  | error failure => simp [chainWalked] at walked
  | ok outcome =>
      obtain ⟨verdict, between⟩ := outcome
      simp only [chainWalked] at walked
      split at walked
      · rename_i dropped
        simp only [Except.ok.injEq] at walked
        exact ⟨verdict, by rw [walked], by simp [dropped], Or.inl dropped⟩
      · split at walked
        · simp at walked
        · rename_i noPolicy
          have policy : verdict = .back →
              PyDict.get table.policy hook.2 ≠ some "DROP" :=
            fun back drops => noPolicy ⟨back, drops⟩
          split at walked
          · rename_i atFilter
            simp only [Except.ok.injEq] at walked
            exact ⟨verdict, by rw [walked], policy, Or.inr (Or.inl atFilter.2)⟩
          · have betweenNil := walkHooks_onlyAdds own tables rest walked
            rw [betweenNil] at walked
            exact ⟨verdict, by rw [betweenNil], policy, Or.inr (Or.inr walked)⟩

/-- The walk goes past a hook that it does not stop at. -/
theorem walkHooks_past {hook : String × String} {verdict : Verdict} {table : Table}
    (chain : HasChain tables hook table)
    (chainWalked : walkChain own hook.1 table 31 hook.2 [] = .ok (verdict, []))
    (notDropped : verdict ≠ .drop)
    (policy : verdict = .back → PyDict.get table.policy hook.2 ≠ some "DROP")
    (notFilter : hook.1 ≠ "filter") (others : List (String × String)) :
    walkHooks own tables (hook :: others) [] = walkHooks own tables others [] := by
  have notPolicy : ¬ (verdict = .back ∧ PyDict.get table.policy hook.2 = some "DROP") :=
    fun both => policy both.1 both.2
  simp only [walkHooks, chain.1, chain.2, not_true_eq_false, if_false, chainWalked]
  rw [if_neg notDropped, if_neg notPolicy, if_neg fun both => notFilter both.2]

/-- The walk comes to a hook past those before it. -/
def Visits (own : List PyIp.Address) (tables : Tables) (hooks : List (String × String))
    (hook : String × String) : Prop :=
  ∃ before after, hooks = before ++ hook :: after ∧ walkHooks own tables before [] = .ok []

theorem walkHooks_cons {hook : String × String} {rest : List (String × String)}
    (firm : HookFirm own reads tables hook)
    (admissible : Admissible own reads tables packet)
    (walked : walkHooks own tables (hook :: rest) [] = .ok []) :
    ¬ HookDrops own reads tables packet hook ∧
      (hook.1 = "filter" ∨ walkHooks own tables rest [] = .ok [] ∧
        ∀ other, Visits own tables rest other → Visits own tables (hook :: rest) other) := by
  have past (same : ∀ others, walkHooks own tables (hook :: others) [] =
      walkHooks own tables others []) {other : String × String}
      (visits : Visits own tables rest other) : Visits own tables (hook :: rest) other := by
    obtain ⟨before, after, rfl, came⟩ := visits
    exact ⟨hook :: before, after, rfl, by rw [same, came]⟩
  by_cases chain : ∃ table, HasChain tables hook table
  · obtain ⟨table, found, present⟩ := chain
    obtain ⟨verdict, chainWalked, policy, goesOn⟩ :=
      walkHooks_of_chain ⟨found, present⟩ walked
    have quiet := walkChain_quiet (firm.readRight table found) 31 .start
      chainWalked
    constructor
    · rintro ⟨other, otherFound, _, result, runs, drops⟩
      have same : other = table := by
        rw [found] at otherFound
        exact (Option.some.inj otherFound).symm
      subst same
      obtain ⟨notDrop, accepted⟩ := quiet.sound (firm.firm other found)
        (admissible hook.1 other found) .start List.drop_zero runs
      rcases drops with dropped | ⟨cameBack, policyDrops⟩
      · exact notDrop dropped
      · cases verdict with
        | accept => simp [accepted rfl] at cameBack
        | drop => exact quiet.ne_drop rfl
        | back => exact policy rfl policyDrops
    · by_cases filter : hook.1 = "filter"
      · exact Or.inl filter
      · have same := walkHooks_past ⟨found, present⟩ chainWalked quiet.ne_drop policy filter
        rw [same] at walked
        exact Or.inr ⟨walked, fun other => past same⟩
  · have absent : ∀ table, ¬ HasChain tables hook table :=
      fun table present => chain ⟨table, present⟩
    have same (others : List (String × String)) : walkHooks own tables (hook :: others) [] =
        walkHooks own tables others [] := walkHooks_of_no_chain absent
    rw [same] at walked
    refine ⟨?_, Or.inr ⟨walked, fun other => past same⟩⟩
    rintro ⟨table, found, present, _⟩
    exact absent table ⟨found, present⟩

theorem walkHooks_sound {hooks : List (String × String)}
    (filterLast : ∀ hook ∈ hooks.dropLast, hook.1 ≠ "filter")
    (firm : ∀ hook, Visits own tables hooks hook → HookFirm own reads tables hook)
    (admissible : Admissible own reads tables packet)
    (walked : walkHooks own tables hooks [] = .ok []) :
    ∀ hook ∈ hooks, ¬ HookDrops own reads tables packet hook := by
  induction hooks with
  | nil => simp
  | cons hook rest ih =>
      obtain ⟨notDropped, goesOn⟩ :=
        walkHooks_cons (firm hook ⟨[], rest, rfl, rfl⟩) admissible walked
      cases rest with
      | nil => simpa using notDropped
      | cons second others =>
          have notFilter : hook.1 ≠ "filter" := filterLast hook (by simp)
          obtain ⟨restWalked, visits⟩ := goesOn.resolve_left notFilter
          have later := ih (fun other member => filterLast other (by simp [member]))
            (fun other visited => firm other (visits other visited)) restWalked
          intro other member
          rcases List.mem_cons.mp member with rfl | member
          · exact notDropped
          · exact later other member

/-- A walk with no reason is right about every packet, if at the hooks it comes
to every line it reaches is taken for what it is and no undecided RETURN or goto
stands before the rule its chain accepts by. -/
theorem walkInbound_sound (own : List PyIp.Address) (tables : Tables)
    (reads : String → Action String)
    (firm : ∀ hook, Visits own tables inbound hook → HookFirm own reads tables hook)
    (walked : walkInbound own tables = .ok [])
    (packet : String → Chains.Packet String)
    (admissible : Admissible own reads tables packet) :
    ¬ Dropped own reads tables packet := by
  rintro ⟨hook, member, drops⟩
  exact walkHooks_sound (by decide) firm admissible (walkHooks_of_walkInbound walked) hook member
    drops

end Hooks

/-- A server's tailnet address, 100.64.0.7. -/
def sampleOwn : List PyIp.Address :=
  [⟨.v4, 0x64400007⟩]

/-- A filter table that sends the packet to the chain `CH` and drops what
comes back from it. -/
def chainTable (first second : String) : Table :=
  ⟨[("INPUT", "DROP"), ("CH", "-")],
    [("INPUT", ["-A INPUT -j CH"]), ("CH", [first, second])]⟩

def chainTables (first second : String) : Tables :=
  [("filter", chainTable first second)]

def sampleReads (line : String) : Action String :=
  if line = "-A INPUT -j CH" then .jump "CH"
  else if line = "-A CH -s 192.0.2.0/24 -j RETURN" then .back
  else .accept

theorem mem_lines_chainTable {first second name line : String}
    (member : line ∈ (chainTable first second).lines name) :
    line ∈ ["-A INPUT -j CH", first, second] := by
  simp only [chainTable, Table.lines, PyDict.get] at member
  split at member
  · simp_all
  · split at member <;> simp_all

theorem get_chainTables {first second label : String} {table : Table}
    (found : PyDict.get (chainTables first second) label = some table) :
    table = chainTable first second := by
  simp only [chainTables, PyDict.get] at found
  split at found <;> simp_all

/-- Where no line is known to fail, the packet that matches every rule is
admissible. -/
theorem admissible_all {first second : String}
    (possible : ∀ line ∈ ["-A INPUT -j CH", first, second],
      lineAnswer sampleOwn line ≠ some false) :
    Admissible sampleOwn sampleReads (chainTables first second)
      fun _ _ _ => true := by
  intro label table found name place rule ruleFound value answer
  rw [get_chainTables found] at ruleFound
  obtain ⟨line, member, same⟩ :=
    List.mem_map.mp (List.mem_of_getElem? ruleFound)
  subst same
  have notFalse := possible line (mem_lines_chainTable member)
  cases value with
  | true => rfl
  | false => exact absurd answer notFalse

/-- An undecided RETURN is passed over: the walk ends at the ACCEPT after it,
with no reason, and the packet it lets out is dropped by the policy. -/
theorem undecided_return_unreported :
    walkInbound sampleOwn (chainTables "-A CH -s 192.0.2.0/24 -j RETURN"
        "-A CH -j ACCEPT") = .ok [] ∧
      ∃ packet, Admissible sampleOwn sampleReads
          (chainTables "-A CH -s 192.0.2.0/24 -j RETURN" "-A CH -j ACCEPT")
          packet ∧
        Dropped sampleOwn sampleReads
          (chainTables "-A CH -s 192.0.2.0/24 -j RETURN" "-A CH -j ACCEPT")
          packet := by
  refine ⟨by decide, fun _ _ _ => true, ?_, ?_⟩
  · exact admissible_all (by decide)
  · refine ⟨("filter", "INPUT"), by decide, _, rfl, by decide, .back, ?_,
      Or.inr ⟨rfl, by decide⟩⟩
    have inCallee : Runs (kernelChains sampleOwn sampleReads
        (chainTable "-A CH -s 192.0.2.0/24 -j RETURN" "-A CH -j ACCEPT"))
        (fun _ _ => true) "CH" 0 (kernelChains sampleOwn sampleReads
          (chainTable "-A CH -s 192.0.2.0/24 -j RETURN" "-A CH -j ACCEPT") "CH")
        .back :=
      .back rfl rfl
    exact .jumpComesBack rfl rfl inCallee .ended

theorem undecided_accept_sound :
    ¬ Dropped sampleOwn sampleReads
      (chainTables "-A CH -s 192.0.2.0/24 -j ACCEPT" "-A CH -j ACCEPT")
      fun _ _ _ => true := by
  refine walkInbound_sound sampleOwn _ sampleReads ?_ (by decide) _
    (admissible_all (by decide))
  intro hook _
  have readRight : ∀ line ∈ ["-A INPUT -j CH", "-A CH -s 192.0.2.0/24 -j ACCEPT",
      "-A CH -j ACCEPT"],
      ReadRight sampleReads (chainTable "-A CH -s 192.0.2.0/24 -j ACCEPT"
        "-A CH -j ACCEPT") line := by
    simp only [ReadRight]
    decide
  have stays : ∀ line ∈ ["-A INPUT -j CH", "-A CH -s 192.0.2.0/24 -j ACCEPT",
      "-A CH -j ACCEPT"],
      sampleReads line = .jump "CH" ∨ sampleReads line = .accept := by
    decide
  constructor
  · intro table found name place line _ lineFound
    rw [get_chainTables found] at lineFound ⊢
    exact readRight line (mem_lines_chainTable (List.mem_of_getElem? lineFound))
  · intro table found name place rule _ ruleFound mayLeave
    rw [get_chainTables found] at ruleFound
    obtain ⟨line, member, same⟩ :=
      List.mem_map.mp (List.mem_of_getElem? ruleFound)
    subst same
    rcases stays line (mem_lines_chainTable member) with jumps | accepts
    · simp [Chains.MayLeave, jumps] at mayLeave
    · simp [Chains.MayLeave, accepts] at mayLeave

end Catena.Firewall
