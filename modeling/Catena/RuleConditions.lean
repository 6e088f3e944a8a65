import Catena.IpMasks
import Catena.PyFloats
import Catena.PyTextForms
import Catena.RuleMatches

/-!
# The conditions of a rule

A rule as `iptables-save` prints it is a chain, a list of conditions, each of
which may be negated, and a target.  What each condition says of the SSH packet
is true, false, or open where the walk does not model it, and the rule says the
conjunction.  `rule_matches` finds that conjunction as long as `ip_network`
reads the masks of the rule's networks for what they are.
-/

namespace Catena.Firewall

open PyIp (MaskedNetwork)

/-- An interface: a name, or the start of one. -/
inductive Interface where
  | named (name : List Char) (whole : name.getLast? ≠ some '+')
  | starting (start : List Char)

def Interface.text : Interface → List Char
  | named name _ => name
  | starting start => start ++ ['+']

/-- The packet comes in on the tailnet interface. -/
def Interface.holds : Interface → Bool
  | named name _ => name == tailnetIface.toList
  | starting start => start.isPrefixOf tailnetIface.toList

/-- A protocol: all of them, a number, or another name. -/
inductive Protocol where
  | all
  | tcp
  | number (number : Nat)
  | other (name : String) (otherName : name ∉ ["tcp", "6", "all", "0"])

def Protocol.text : Protocol → String
  | all => "all"
  | tcp => "tcp"
  | number count => toString count
  | other name _ => name

def Protocol.holds : Protocol → Bool
  | all => true
  | tcp => true
  | number count => count == 6 || count == 0
  | other _ _ => false

inductive PortRange where
  | one (port : Nat)
  | span (low high : Nat)

def PortRange.text : PortRange → List Char
  | one port => Nat.toDigits 10 port
  | span low high => Nat.toDigits 10 low ++ ':' :: Nat.toDigits 10 high

def PortRange.holds : PortRange → Bool
  | one port => port == 22
  | span low high => low ≤ 22 && 22 ≤ high

inductive ConnectionState where
  | invalid
  | new
  | related
  | established
  | untracked
  | snat
  | dnat
  deriving DecidableEq

def ConnectionState.text : ConnectionState → List Char
  | invalid => "INVALID".toList
  | new => "NEW".toList
  | related => "RELATED".toList
  | established => "ESTABLISHED".toList
  | untracked => "UNTRACKED".toList
  | snat => "SNAT".toList
  | dnat => "DNAT".toList

/-- An option the walk does not model, with its arguments. -/
structure Unmodelled where
  opt : String
  arguments : List String
  starts : opt.toList.head? = some '-'
  unknown : opt ∉ ["-j", "-g", "-A", "-m", "--comment", "-i", "--in-interface", "-p",
    "--protocol", "-d", "--destination", "--dport", "--destination-port", "--dports",
    "--destination-ports", "--ctstate", "--state", "--dst-type"]
  plain : ∀ argument ∈ arguments, startsOption argument = false

inductive Test where
  | inInterface (opt : String) (given : opt ∈ ["-i", "--in-interface"]) (face : Interface)
  | protocol (opt : String) (given : opt ∈ ["-p", "--protocol"]) (protocol : Protocol)
  | destination (opt : String) (given : opt ∈ ["-d", "--destination"]) (text : String)
      (network : MaskedNetwork) (names : PyIp.maskedNetwork text.toList = some network)
      (single : ',' ∉ text.toList)
  | ports (opt : String)
      (given : opt ∈ ["--dport", "--destination-port", "--dports", "--destination-ports"])
      (ranges : List PortRange) (nonempty : ranges ≠ [])
  | states (opt : String) (given : opt ∈ ["--ctstate", "--state"])
      (listed : List ConnectionState) (nonempty : listed ≠ [])
  | dstType (text : String)
  | unmodelled (option : Unmodelled)

def Test.tokens : Test → List String
  | inInterface opt _ face => [opt, String.ofList face.text]
  | protocol opt _ given => [opt, given.text]
  | destination opt _ text _ _ _ => [opt, text]
  | ports opt _ ranges _ => [opt, String.ofList (PyText.join [','] (ranges.map PortRange.text))]
  | states opt _ listed _ =>
      [opt, String.ofList (PyText.join [','] (listed.map ConnectionState.text))]
  | dstType text => ["--dst-type", text]
  | unmodelled option => option.opt :: option.arguments

/-- What a test says of the SSH packet to the address; `none` where the walk
does not decide it. -/
def Test.truth (own : PyIp.Address) : Test → Option Bool
  | inInterface _ _ face => some face.holds
  | protocol _ _ given => some given.holds
  | destination _ _ _ network _ _ => some (network.holds own)
  | ports _ _ ranges _ => some (ranges.any PortRange.holds)
  | states _ _ listed _ => some (decide (ConnectionState.new ∈ listed))
  | dstType text => if text = "LOCAL" then some true else none
  | unmodelled _ => none

/-- The same, with the mask `ip_network` reads in a network; `none` where it
refuses the mask. -/
def Test.read (own : PyIp.Address) : Test → Option (Option Bool)
  | destination _ _ _ network _ _ => (network.readHolds own).map some
  | test => some (test.truth own)

def Test.network? : Test → Option MaskedNetwork
  | destination _ _ _ network _ _ => some network
  | _ => none

/-- A test that may be negated. -/
structure Condition where
  negated : Bool
  test : Test

def Condition.tokens (condition : Condition) : List String :=
  (if condition.negated then ["!"] else []) ++ condition.test.tokens

def Condition.apply (condition : Condition) (value : Option Bool) : Option Bool :=
  if condition.negated then value.map (!·) else value

def Condition.truth (own : PyIp.Address) (condition : Condition) : Option Bool :=
  condition.apply (condition.test.truth own)

def Condition.read (own : PyIp.Address) (condition : Condition) : Option (Option Bool) :=
  (condition.test.read own).map condition.apply

/-- `ip_network` knows the mask of the condition for the prefix length it is. -/
def Condition.hasPrefix (condition : Condition) : Bool :=
  condition.test.network?.all fun network => network.mask.isPrefix network.version

/-- `ip_network` takes the mask of the condition for its complement. -/
def Condition.hasHostMask (condition : Condition) : Bool :=
  condition.test.network?.any fun network => network.mask.isHost network.version

/-- What stands in a rule before its target: a condition, or what says nothing
of the packet, the match extension loaded for a condition and a comment. -/
inductive Part where
  | condition (condition : Condition)
  | extension (name : String)
  | comment (text : String)

def Part.tokens : Part → List String
  | condition given => given.tokens
  | extension name => ["-m", name]
  | comment text => ["--comment", text]

def Part.condition? : Part → Option Condition
  | condition given => some given
  | _ => none

/-- A rule: its chain, its parts, and its target with the target's options. -/
structure SavedRule where
  chain : String
  parts : List Part
  flag : String
  target : List String
  isFlag : flag ∈ ["-j", "-g"]

def SavedRule.tokens (rule : SavedRule) : List String :=
  ["-A", rule.chain] ++ (rule.parts.flatMap Part.tokens ++ rule.flag :: rule.target)

def SavedRule.conditions (rule : SavedRule) : List Condition :=
  rule.parts.filterMap Part.condition?

/-- The conjunction of three-valued statements. -/
def conjunction (values : List (Option Bool)) : Option Bool :=
  if some false ∈ values then some false else if none ∈ values then none else some true

theorem int_toDigits (number : Nat) : PyText.int (Nat.toDigits 10 number) = some (number : Int) := by
  have allDigits : ∀ digit ∈ Nat.toDigits 10 number, digit.isDigit = true := fun digit member =>
    Nat.isDigit_of_mem_toDigits (by decide) (by decide) member
  have nonempty : Nat.toDigits 10 number ≠ [] := Nat.toDigits_ne_nil
  have stripped : PyText.stripChars PyText.isSpace (Nat.toDigits 10 number) =
      Nat.toDigits 10 number := by
    apply PyText.stripChars_of_ends
    · intro character starts
      exact PyText.isSpace_digit (allDigits character (List.mem_of_mem_head? starts))
    · intro character ends
      exact PyText.isSpace_digit (allDigits character (List.mem_of_getLast? ends))
  unfold PyText.int
  rw [stripped]
  split
  · rename_i digits shape
    exact absurd (allDigits '-' (shape ▸ List.mem_cons_self ..)) (by decide)
  · rename_i digits shape
    exact absurd (allDigits '+' (shape ▸ List.mem_cons_self ..)) (by decide)
  · simp [PyText.intDigits_of_digits nonempty allDigits, PyText.digitsValue_toDigits]

theorem colon_notMem_toDigits (number : Nat) : ':' ∉ Nat.toDigits 10 number := by
  intro found
  exact absurd (Nat.isDigit_of_mem_toDigits (by decide) (by decide) found) (by decide)

theorem comma_notMem_range (range : PortRange) : ',' ∉ range.text := by
  have digits (number : Nat) : ',' ∉ Nat.toDigits 10 number := fun found =>
    absurd (Nat.isDigit_of_mem_toDigits (by decide) (by decide) found) (by decide)
  cases range with
  | one port => exact digits port
  | span low high =>
      rw [PortRange.text, List.mem_append, List.mem_cons]
      rintro (inLow | colon | inHigh)
      · exact digits low inLow
      · exact absurd colon (by decide)
      · exact digits high inHigh

def PortRange.bounds : PortRange → Int × Int
  | one port => (port, port)
  | span low high => (low, high)

/-- The ports an argument lists are read as they are. -/
theorem ports_join {ranges : List PortRange} (nonempty : ranges ≠ []) :
    ports (String.ofList (PyText.join [','] (ranges.map PortRange.text))) =
      .ok (ranges.map PortRange.bounds) := by
  have parts : PyText.splitOn ',' (PyText.join [','] (ranges.map PortRange.text)) =
      ranges.map PortRange.text := by
    apply PyText.splitOn_join
    · simpa using nonempty
    · intro part member
      obtain ⟨range, _, rfl⟩ := List.mem_map.mp member
      exact comma_notMem_range range
  rw [ports, String.toList_ofList, parts]
  clear parts nonempty
  induction ranges with
  | nil => rfl
  | cons range rest ih =>
      rw [List.map_cons, List.mapM_cons, ih]
      have nonempty (number : Nat) : Nat.toDigits 10 number ≠ [] := Nat.toDigits_ne_nil
      cases range with
      | one port =>
          have whole : PyText.partition ':' (Nat.toDigits 10 port) = none :=
            PyText.partition_of_notMem (colon_notMem_toDigits port)
          simp [PortRange.text, whole, nonempty, int_toDigits, PortRange.bounds, bind,
            Except.bind, pure, Except.pure]
      | span low high =>
          have cut : PyText.partition ':' (Nat.toDigits 10 low ++ ':' :: Nat.toDigits 10 high) =
              some (Nat.toDigits 10 low, Nat.toDigits 10 high) :=
            PyText.partition_eq_some.mpr ⟨rfl, colon_notMem_toDigits low⟩
          simp [PortRange.text, cut, nonempty, int_toDigits, PortRange.bounds, bind,
            Except.bind, pure, Except.pure]

theorem bounds_hold (range : PortRange) :
    (decide (range.bounds.1 ≤ sshPort) && decide (sshPort ≤ range.bounds.2)) = range.holds := by
  cases range with
  | one port =>
      rw [Bool.eq_iff_iff]
      simp [PortRange.bounds, PortRange.holds, sshPort]
      omega
  | span low high =>
      rw [Bool.eq_iff_iff]
      simp [PortRange.bounds, PortRange.holds, sshPort]

theorem ConnectionState.text_injective : Function.Injective ConnectionState.text := by
  intro first second same
  revert same
  cases first <;> cases second <;> decide

theorem new_mem_states {states : List ConnectionState} (nonempty : states ≠ []) :
    "NEW".toList ∈ PyText.splitOn ',' (PyText.join [','] (states.map ConnectionState.text)) ↔
      ConnectionState.new ∈ states := by
  have absent (state : ConnectionState) : ',' ∉ state.text := by
    cases state <;> decide
  rw [PyText.splitOn_join (by simpa using nonempty) (by simpa using fun state _ => absent state)]
  have name : "NEW".toList = ConnectionState.new.text := rfl
  rw [name, List.mem_map_of_injective ConnectionState.text_injective]

theorem Protocol.text_mem (protocol : Protocol) :
    decide (protocol.text ∈ ["tcp", "6", "all", "0"]) = protocol.holds := by
  cases protocol with
  | all => decide
  | tcp => decide
  | number count =>
      have six : count.repr = "6" ↔ count = 6 :=
        ⟨fun same => Nat.repr_inj.mp same, fun same => same ▸ rfl⟩
      have zero : count.repr = "0" ↔ count = 0 :=
        ⟨fun same => Nat.repr_inj.mp same, fun same => same ▸ rfl⟩
      have word {text : String} {letter : Char} (starts : letter ∈ text.toList)
          (noDigit : letter.isDigit = false) : count.repr ≠ text := by
        intro same
        rw [← same, Nat.repr, String.toList_ofList] at starts
        rw [Nat.isDigit_of_mem_toDigits (by decide) (by decide) starts] at noDigit
        cases noDigit
      have notTcp := @word "tcp" 't' (by decide) (by decide)
      have notAll := @word "all" 'a' (by decide) (by decide)
      have text : (Protocol.number count).text = count.repr := rfl
      rw [text, Protocol.holds, Bool.eq_iff_iff, decide_eq_true_eq]
      simp only [List.mem_cons, List.not_mem_nil, or_false, six, zero, notTcp, notAll, false_or,
        Bool.or_eq_true, beq_iff_eq]
  | other name otherName => simpa [Protocol.text, Protocol.holds] using otherName

theorem Interface.text_holds (face : Interface) :
    (if face.text.getLast? = some '+' then face.text.dropLast.isPrefixOf tailnetIface.toList
      else String.ofList face.text == tailnetIface) = face.holds := by
  cases face with
  | named name whole =>
      rw [Interface.text, if_neg whole, Interface.holds, Bool.eq_iff_iff, beq_iff_eq, beq_iff_eq,
        ← String.toList_inj, String.toList_ofList]
  | starting start =>
      have last : (start ++ ['+']).getLast? = some '+' := by simp
      rw [Interface.text, if_pos last, List.dropLast_concat]
      rfl

/-- What `rule_matches` raises where `ip_network` refuses a network. -/
def refusal : PyError :=
  .valueError "does not appear to be an IPv4 or IPv6 network"

def StartsOption (tokens : List String) : Prop :=
  ∀ token ∈ tokens.head?, startsOption token = true

section Scan

variable {own : PyIp.Address} (ownInside : own.value < 2 ^ own.version.bits)

/-- The arguments of an option that is not modelled are passed over. -/
theorem matchTokens_arguments {arguments rest : List String} {matching : Matching}
    (plain : ∀ argument ∈ arguments, startsOption argument = false) (next : StartsOption rest) :
    matchTokens [own] .arguments matching (arguments ++ rest) =
      matchTokens [own] .option matching rest := by
  induction arguments with
  | nil =>
      cases rest with
      | nil => rfl
      | cons token others =>
          have starts : startsOption token = true := next token rfl
          rw [List.nil_append, matchTokens, matchTokens]
          simp [starts]
  | cons argument others ih =>
      have skipped := plain argument (List.mem_cons_self ..)
      rw [List.cons_append, matchTokens]
      simp only [reduceCtorEq, if_false, skipped, and_self, if_true]
      exact ih fun other found => plain other (List.mem_cons_of_mem _ found)

/-- A modelled option and its argument fold in what they say. -/
theorem matchTokens_modelled {opt arg : String} {rest : List String} {matching : Matching}
    {value : Except PyError (Option Bool)}
    (reads : modelled [own] opt arg = some value)
    (noTarget : opt ∉ ["-j", "-g"]) (noBang : opt ≠ "!")
    (noSkip : opt ∉ ["-A", "-m", "--comment"]) :
    matchTokens [own] .option matching (opt :: arg :: rest) =
      value.bind fun said => matchTokens [own] .option (matching.fold said) rest := by
  rw [matchTokens]
  simp only [reduceCtorEq, if_false, false_and, noTarget, noBang, noSkip, List.headD_cons, reads]
  cases value with
  | error failure => rfl
  | ok said =>
      conv_lhs => rw [matchTokens]
      exact if_pos rfl

include ownInside

/-- What a network's option says, read by `ip_network`. -/
theorem networks_destination {text : String} {network : MaskedNetwork}
    (names : PyIp.maskedNetwork text.toList = some network) (single : ',' ∉ text.toList) :
    (networks text).map (fun nets => some ([own].any fun address =>
        nets.any fun net => address.version == net.version && net.contains address)) =
      match network.readHolds own with
      | some held => .ok (some held)
      | none => .error refusal := by
  have contained := PyIp.contains_of_masked names ownInside
  rw [networks, PyText.splitOn_of_absent single, List.mapM_cons, List.mapM_nil]
  cases read : PyIp.network text.toList with
  | none =>
      rw [read] at contained
      rw [← contained]
      rfl
  | some net =>
      rw [read] at contained
      rw [← contained]
      simp [Except.map, bind, Except.bind, pure, Except.pure]

theorem matchTokens_test {test : Test} {rest : List String} {matching : Matching}
    (next : StartsOption rest) :
    matchTokens [own] .option matching (test.tokens ++ rest) =
      match test.read own with
      | some said => matchTokens [own] .option (matching.fold said) rest
      | none => .error refusal := by
  cases test with
  | inInterface opt given face =>
      have reads : modelled [own] opt (String.ofList face.text) = some (.ok (some face.holds)) := by
        rw [modelled, if_pos given, ← Interface.text_holds]
        simp only [String.toList_ofList]
      have options : opt = "-i" ∨ opt = "--in-interface" := by simpa using given
      rcases options with rfl | rfl <;>
        exact matchTokens_modelled reads (by decide) (by decide) (by decide)
  | protocol opt given protocol =>
      have reads : modelled [own] opt protocol.text = some (.ok (some protocol.holds)) := by
        have options : opt = "-p" ∨ opt = "--protocol" := by simpa using given
        rw [modelled, if_neg (by rcases options with rfl | rfl <;> decide), if_pos given,
          Protocol.text_mem]
      have options : opt = "-p" ∨ opt = "--protocol" := by simpa using given
      rcases options with rfl | rfl <;>
        exact matchTokens_modelled reads (by decide) (by decide) (by decide)
  | destination opt given text network names single =>
      have options : opt = "-d" ∨ opt = "--destination" := by simpa using given
      have reads : modelled [own] opt text = some (match network.readHolds own with
          | some held => .ok (some held)
          | none => .error refusal) := by
        rw [modelled, if_neg (by rcases options with rfl | rfl <;> decide),
          if_neg (by rcases options with rfl | rfl <;> decide), if_pos given,
          networks_destination ownInside names single]
      have scanned (noTarget : opt ∉ ["-j", "-g"]) (noBang : opt ≠ "!")
          (noSkip : opt ∉ ["-A", "-m", "--comment"]) := @matchTokens_modelled own opt text rest
            matching _ reads noTarget noBang noSkip
      have shown := scanned (by rcases options with rfl | rfl <;> decide)
        (by rcases options with rfl | rfl <;> decide)
        (by rcases options with rfl | rfl <;> decide)
      rw [Test.tokens, List.cons_append, List.cons_append, List.nil_append, shown, Test.read]
      cases network.readHolds own with
      | none => rfl
      | some held => rfl
  | ports opt given ranges nonempty =>
      have options : opt = "--dport" ∨ opt = "--destination-port" ∨ opt = "--dports" ∨
          opt = "--destination-ports" := by simpa using given
      have reads : modelled [own] opt
          (String.ofList (PyText.join [','] (ranges.map PortRange.text))) =
            some (.ok (some (ranges.any PortRange.holds))) := by
        have held : (fun range => (fun bounds : Int × Int =>
            decide (bounds.1 ≤ sshPort) && decide (sshPort ≤ bounds.2)) (PortRange.bounds range)) =
            PortRange.holds := funext bounds_hold
        rw [modelled, if_neg (by rcases options with rfl | rfl | rfl | rfl <;> decide),
          if_neg (by rcases options with rfl | rfl | rfl | rfl <;> decide),
          if_neg (by rcases options with rfl | rfl | rfl | rfl <;> decide), if_pos given,
          ports_join nonempty, Except.map, List.any_map, ← held]
        rfl
      rcases options with rfl | rfl | rfl | rfl <;>
        exact matchTokens_modelled reads (by decide) (by decide) (by decide)
  | states opt given listed nonempty =>
      have options : opt = "--ctstate" ∨ opt = "--state" := by simpa using given
      have reads : modelled [own] opt
          (String.ofList (PyText.join [','] (listed.map ConnectionState.text))) =
            some (.ok (some (decide (ConnectionState.new ∈ listed)))) := by
        rw [modelled, if_neg (by rcases options with rfl | rfl <;> decide),
          if_neg (by rcases options with rfl | rfl <;> decide),
          if_neg (by rcases options with rfl | rfl <;> decide),
          if_neg (by rcases options with rfl | rfl <;> decide), if_pos given,
          String.toList_ofList, decide_eq_decide.mpr (new_mem_states nonempty)]
      rcases options with rfl | rfl <;>
        exact matchTokens_modelled reads (by decide) (by decide) (by decide)
  | dstType text =>
      have reads : modelled [own] "--dst-type" text =
          some (.ok (if text = "LOCAL" then some true else none)) := rfl
      exact matchTokens_modelled reads (by decide) (by decide) (by decide)
  | unmodelled option =>
      have unknown := option.unknown
      simp only [List.mem_cons, List.not_mem_nil, or_false, not_or] at unknown
      have noBang : option.opt ≠ "!" := by
        intro same
        have starts := option.starts
        rw [same] at starts
        exact absurd starts (by decide)
      have reads (arg : String) : modelled [own] option.opt arg = none := by
        simp [modelled, unknown]
      rw [Test.tokens, List.cons_append, matchTokens]
      simp only [reduceCtorEq, if_false, false_and, List.mem_cons, List.not_mem_nil, or_false,
        unknown, noBang, reads]
      exact matchTokens_arguments option.plain next

theorem matchTokens_condition {condition : Condition} {rest : List String} {result : Option Bool}
    (next : StartsOption rest) :
    matchTokens [own] .option ⟨result, false⟩ (condition.tokens ++ rest) =
      match condition.read own with
      | some said => matchTokens [own] .option (Matching.fold ⟨result, false⟩ said) rest
      | none => .error refusal := by
  obtain ⟨negated, test⟩ := condition
  cases negated with
  | false =>
      have tokens : Condition.tokens ⟨false, test⟩ = test.tokens := rfl
      have read : Condition.read own ⟨false, test⟩ = test.read own := by
        rw [Condition.read]
        cases test.read own <;> rfl
      rw [tokens, read]
      exact matchTokens_test ownInside next
  | true =>
      have tokens : Condition.tokens ⟨true, test⟩ ++ rest = "!" :: (test.tokens ++ rest) := rfl
      have bang : matchTokens [own] .option ⟨result, false⟩ ("!" :: (test.tokens ++ rest)) =
          matchTokens [own] .option ⟨result, true⟩ (test.tokens ++ rest) := by
        rw [matchTokens]
        simp
      have read : Condition.read own ⟨true, test⟩ =
          (test.read own).map fun said => said.map (!·) := rfl
      rw [tokens, bang, matchTokens_test ownInside next, read]
      cases test.read own with
      | none => rfl
      | some said => rfl

end Scan

theorem startsOption_test (test : Test) (rest : List String) :
    StartsOption (test.tokens ++ rest) := by
  intro token head
  cases test with
  | inInterface opt given face =>
      obtain rfl : opt = token := Option.some.inj head
      simp only [List.mem_cons, List.not_mem_nil, or_false] at given
      rcases given with rfl | rfl <;> decide
  | protocol opt given protocol =>
      obtain rfl : opt = token := Option.some.inj head
      simp only [List.mem_cons, List.not_mem_nil, or_false] at given
      rcases given with rfl | rfl <;> decide
  | destination opt given text network names single =>
      obtain rfl : opt = token := Option.some.inj head
      simp only [List.mem_cons, List.not_mem_nil, or_false] at given
      rcases given with rfl | rfl <;> decide
  | ports opt given ranges nonempty =>
      obtain rfl : opt = token := Option.some.inj head
      simp only [List.mem_cons, List.not_mem_nil, or_false] at given
      rcases given with rfl | rfl | rfl | rfl <;> decide
  | states opt given listed nonempty =>
      obtain rfl : opt = token := Option.some.inj head
      simp only [List.mem_cons, List.not_mem_nil, or_false] at given
      rcases given with rfl | rfl <;> decide
  | dstType text =>
      obtain rfl : "--dst-type" = token := Option.some.inj head
      decide
  | unmodelled option =>
      obtain rfl : option.opt = token := Option.some.inj head
      simp [startsOption, option.starts]

theorem startsOption_part (part : Part) (rest : List String) :
    StartsOption (part.tokens ++ rest) := by
  cases part with
  | condition condition =>
      obtain ⟨negated, test⟩ := condition
      cases negated with
      | false => exact startsOption_test test rest
      | true =>
          intro token head
          obtain rfl : "!" = token := Option.some.inj head
          decide
  | extension name =>
      intro token head
      obtain rfl : "-m" = token := Option.some.inj head
      decide
  | comment text =>
      intro token head
      obtain rfl : "--comment" = token := Option.some.inj head
      decide

theorem conjunction_fold (result said : Option Bool) (values : List (Option Bool)) :
    conjunction ((Matching.fold ⟨result, false⟩ said).result :: values) =
      conjunction (result :: said :: values) := by
  rcases result with _ | _ | _ <;> rcases said with _ | _ | _ <;>
    simp [Matching.fold, conjunction]

/-- A fold leaves no negation pending. -/
theorem fold_eq (matching : Matching) (said : Option Bool) :
    matching.fold said = ⟨(matching.fold said).result, false⟩ := by
  unfold Matching.fold
  generalize (if matching.negate = true then said.map (!·) else said) = value
  dsimp only
  split
  · rfl
  · split <;> rfl

theorem conjunction_eq_false (values : List (Option Bool)) :
    conjunction values = some false ↔ some false ∈ values := by
  unfold conjunction
  split
  · simp [*]
  · split <;> simp [*]

theorem conjunction_eq_true (values : List (Option Bool)) :
    conjunction values = some true ↔ ∀ value ∈ values, value = some true := by
  unfold conjunction
  split
  · rename_i false_
    simp only [Option.some.injEq, Bool.false_eq_true, false_iff]
    exact fun all => absurd (all _ false_) (by decide)
  · rename_i noFalse
    split
    · rename_i open_
      simp only [reduceCtorEq, false_iff]
      exact fun all => absurd (all _ open_) (by decide)
    · rename_i noOpen
      simp only [true_iff]
      intro value member
      rcases value with _ | _ | _
      · exact absurd member noOpen
      · exact absurd member noFalse
      · rfl

theorem conjunction_perm {first second : List (Option Bool)} (perm : first.Perm second) :
    conjunction first = conjunction second := by
  unfold conjunction
  simp only [perm.mem_iff]

section Rule

variable {own : PyIp.Address} (ownInside : own.value < 2 ^ own.version.bits)

include ownInside

/-- The scan of the parts of a rule. -/
theorem matchTokens_parts (parts : List Part) (flag : String) (target : List String)
    (isFlag : flag ∈ ["-j", "-g"]) (result : Option Bool) :
    matchTokens [own] .option ⟨result, false⟩ (parts.flatMap Part.tokens ++ flag :: target) =
      if ∀ condition ∈ parts.filterMap Part.condition?, condition.read own ≠ none then
        .ok (conjunction (result ::
          (parts.filterMap Part.condition?).filterMap (Condition.read own)))
      else .error refusal := by
  have flags : flag = "-j" ∨ flag = "-g" := by simpa using isFlag
  have flagStarts : StartsOption (flag :: target) := by
    intro token head
    obtain rfl : flag = token := Option.some.inj head
    rcases flags with rfl | rfl <;> decide
  induction parts generalizing result with
  | nil =>
      have alone : conjunction [result] = result := by
        rcases result with _ | _ | _ <;> rfl
      rw [List.flatMap_nil, List.nil_append, matchTokens]
      simp [isFlag, alone]
  | cons part rest ih =>
      have next : StartsOption (rest.flatMap Part.tokens ++ flag :: target) := by
        cases rest with
        | nil => exact flagStarts
        | cons other others =>
            rw [List.flatMap_cons, List.append_assoc]
            exact startsOption_part other _
      rw [List.flatMap_cons, List.append_assoc]
      cases part with
      | condition condition =>
          have kept : (Part.condition condition :: rest).filterMap Part.condition? =
              condition :: rest.filterMap Part.condition? := rfl
          rw [kept, Part.tokens, matchTokens_condition ownInside next, List.filterMap_cons]
          simp only [List.forall_mem_cons]
          cases read : condition.read own with
          | none => simp
          | some said =>
              dsimp only
              rw [fold_eq, ih, conjunction_fold]
              simp only [ne_eq, reduceCtorEq, not_false_eq_true, true_and]
      | extension name =>
          have kept : (Part.extension name :: rest).filterMap Part.condition? =
              rest.filterMap Part.condition? := rfl
          rw [kept, ← ih, Part.tokens, List.cons_append, matchTokens]
          simp [matchTokens]
      | comment text =>
          have kept : (Part.comment text :: rest).filterMap Part.condition? =
              rest.filterMap Part.condition? := rfl
          rw [kept, ← ih, Part.tokens, List.cons_append, matchTokens]
          simp [matchTokens]

/-- `rule_matches` finds the conjunction of what it reads of the conditions. -/
theorem ruleMatches_saved (rule : SavedRule) :
    ruleMatches [own] rule.tokens =
      if ∀ condition ∈ rule.conditions, condition.read own ≠ none then
        .ok (conjunction (rule.conditions.filterMap (Condition.read own)))
      else .error refusal := by
  have scanned := matchTokens_parts ownInside rule.parts rule.flag rule.target rule.isFlag
    (some true)
  have start : conjunction (some true :: rule.conditions.filterMap (Condition.read own)) =
      conjunction (rule.conditions.filterMap (Condition.read own)) := by
    simp [conjunction]
  rw [ruleMatches, SavedRule.tokens, ← start]
  have chain : matchTokens [own] .option ⟨some true, false⟩ (["-A", rule.chain] ++
      (rule.parts.flatMap Part.tokens ++ rule.flag :: rule.target)) =
      matchTokens [own] .option ⟨some true, false⟩
        (rule.parts.flatMap Part.tokens ++ rule.flag :: rule.target) := by
    rw [List.cons_append, matchTokens]
    simp [matchTokens]
  rw [chain, scanned]
  rfl

end Rule

theorem read_ne_none {own : PyIp.Address} {condition : Condition} :
    condition.read own ≠ none ↔
      condition.hasPrefix = true ∨ condition.hasHostMask = true := by
  obtain ⟨negated, test⟩ := condition
  have mapped : Condition.read own ⟨negated, test⟩ ≠ none ↔ test.read own ≠ none := by
    rw [Condition.read, ne_eq, Option.map_eq_none_iff]
  rw [mapped]
  cases test with
  | destination opt given text network names single =>
      simp only [Test.read, PyIp.MaskedNetwork.readHolds, ne_eq, Option.map_eq_none_iff]
      exact PyIp.readLength_ne_none
  | _ => simp [Test.read, Condition.hasPrefix, Test.network?]

theorem read_eq_truth {own : PyIp.Address} {condition : Condition}
    (accepted : condition.read own ≠ none) (noHost : condition.hasHostMask = false) :
    condition.read own = some (condition.truth own) := by
  obtain ⟨negated, test⟩ := condition
  rw [Condition.read] at accepted ⊢
  rw [Condition.truth]
  cases test with
  | destination opt given text network names single =>
      have noHostMask : network.mask.isHost network.version = false := noHost
      rw [Test.read] at accepted ⊢
      cases held : network.readHolds own with
      | none => simp [held] at accepted
      | some value =>
          rw [Test.truth, PyIp.readHolds_of_not_host held noHostMask]
          rfl
  | _ => rfl

theorem read_eq_open {own : PyIp.Address} {condition : Condition}
    (accepted : condition.read own ≠ none) :
    condition.read own = some none ↔ condition.truth own = none := by
  cases host : condition.hasHostMask with
  | false => rw [read_eq_truth accepted host, Option.some.injEq]
  | true =>
      obtain ⟨negated, test⟩ := condition
      cases test with
      | destination opt given text network names single =>
          cases negated <;>
            simp [Condition.read, Condition.truth, Condition.apply, Test.read, Test.truth]
      | _ => simp [Condition.hasHostMask, Test.network?] at host

/-- The answer is the three-valued conjunction of what the conditions say. -/
structure Conjoined (own : PyIp.Address) (conditions : List Condition)
    (answer : Option Bool) : Prop where
  isFalse : answer = some false ↔ ∃ condition ∈ conditions, condition.truth own = some false
  isTrue : answer = some true ↔ ∀ condition ∈ conditions, condition.truth own = some true

/-- `rule_matches` answers with the conjunction, in whatever order the rule
has its conditions. -/
structure Sound (own : PyIp.Address) (rule : SavedRule) : Prop where
  conjoined : ∃ answer, ruleMatches [own] rule.tokens = .ok answer ∧
    Conjoined own rule.conditions answer
  reordered : ∀ other : SavedRule, other.parts.Perm rule.parts →
    ruleMatches [own] other.tokens = ruleMatches [own] rule.tokens

/-- Every mask of the rule is a prefix length or a host mask, and the host
masks do not decide the rule: a condition without one is false, or one with one
is false as it is read exactly if one is. -/
structure MasksRead (own : PyIp.Address) (conditions : List Condition) : Prop where
  known : ∀ condition ∈ conditions, condition.hasPrefix = true ∨ condition.hasHostMask = true
  agree : (∃ condition ∈ conditions, condition.hasHostMask = false ∧
      condition.truth own = some false) ∨
    ((∃ condition ∈ conditions, condition.hasHostMask = true ∧
        condition.read own = some (some false)) ↔
      ∃ condition ∈ conditions, condition.hasHostMask = true ∧ condition.truth own = some false)

/-- The masks are read where a condition is false as it is read exactly if one
is false. -/
theorem masksRead_iff {own : PyIp.Address} {conditions : List Condition} :
    MasksRead own conditions ↔
      (∀ condition ∈ conditions, condition.read own ≠ none) ∧
      ((∃ condition ∈ conditions, condition.read own = some (some false)) ↔
        ∃ condition ∈ conditions, condition.truth own = some false) := by
  have known : (∀ condition ∈ conditions, condition.hasPrefix = true ∨
      condition.hasHostMask = true) ↔ ∀ condition ∈ conditions, condition.read own ≠ none :=
    forall₂_congr fun condition _ => read_ne_none.symm
  constructor
  · intro masks
    have accepted := known.mp masks.known
    refine ⟨accepted, ?_⟩
    rcases masks.agree with ⟨condition, member, noHost, isFalse⟩ | same
    · have readFalse : condition.read own = some (some false) := by
        rw [read_eq_truth (accepted condition member) noHost, isFalse]
      exact ⟨fun _ => ⟨condition, member, isFalse⟩, fun _ => ⟨condition, member, readFalse⟩⟩
    · constructor
      · rintro ⟨condition, member, readFalse⟩
        cases host : condition.hasHostMask with
        | false =>
            rw [read_eq_truth (accepted condition member) host] at readFalse
            exact ⟨condition, member, Option.some.inj readFalse⟩
        | true =>
            obtain ⟨other, otherMember, _, isFalse⟩ := same.mp ⟨condition, member, host, readFalse⟩
            exact ⟨other, otherMember, isFalse⟩
      · rintro ⟨condition, member, isFalse⟩
        cases host : condition.hasHostMask with
        | false =>
            have readFalse := read_eq_truth (accepted condition member) host
            rw [isFalse] at readFalse
            exact ⟨condition, member, readFalse⟩
        | true =>
            obtain ⟨other, otherMember, _, readFalse⟩ :=
              same.mpr ⟨condition, member, host, isFalse⟩
            exact ⟨other, otherMember, readFalse⟩
  · rintro ⟨accepted, same⟩
    refine ⟨known.mpr accepted, ?_⟩
    by_cases plain : ∃ condition ∈ conditions, condition.hasHostMask = false ∧
        condition.truth own = some false
    · exact Or.inl plain
    · right
      have plain (condition : Condition) (member : condition ∈ conditions)
          (noHost : condition.hasHostMask = false) : condition.truth own ≠ some false :=
        fun isFalse => plain ⟨condition, member, noHost, isFalse⟩
      constructor
      · rintro ⟨condition, member, _, readFalse⟩
        obtain ⟨other, otherMember, isFalse⟩ := same.mp ⟨condition, member, readFalse⟩
        have host : other.hasHostMask = true := by
          by_contra noHost
          exact plain other otherMember (by simpa using noHost) isFalse
        exact ⟨other, otherMember, host, isFalse⟩
      · rintro ⟨condition, member, _, isFalse⟩
        obtain ⟨other, otherMember, readFalse⟩ := same.mpr ⟨condition, member, isFalse⟩
        have host : other.hasHostMask = true := by
          by_contra noHost
          have plainOther : other.hasHostMask = false := by simpa using noHost
          rw [read_eq_truth (accepted other otherMember) plainOther] at readFalse
          exact plain other otherMember plainOther (Option.some.inj readFalse)
        exact ⟨other, otherMember, host, readFalse⟩

/-- Of conditions that are read, the conjunction found is true where none is
read false and none is open. -/
theorem conjunction_read {own : PyIp.Address} {conditions : List Condition}
    (accepted : ∀ condition ∈ conditions, condition.read own ≠ none) :
    conjunction (conditions.filterMap (Condition.read own)) = some true ↔
      ¬(∃ condition ∈ conditions, condition.read own = some (some false)) ∧
        ¬∃ condition ∈ conditions, condition.truth own = none := by
  rw [conjunction_eq_true]
  constructor
  · intro allTrue
    constructor
    · rintro ⟨condition, member, readFalse⟩
      exact absurd (allTrue _ (List.mem_filterMap.mpr ⟨condition, member, readFalse⟩)) (by decide)
    · rintro ⟨condition, member, isOpen⟩
      have readOpen := (read_eq_open (accepted condition member)).mpr isOpen
      exact absurd (allTrue _ (List.mem_filterMap.mpr ⟨condition, member, readOpen⟩)) (by decide)
  · rintro ⟨noFalse, noOpen⟩ value found
    obtain ⟨condition, member, read⟩ := List.mem_filterMap.mp found
    rcases value with _ | _ | _
    · exact absurd ⟨condition, member, (read_eq_open (accepted condition member)).mp read⟩ noOpen
    · exact absurd ⟨condition, member, read⟩ noFalse
    · rfl

theorem all_true_iff {own : PyIp.Address} {conditions : List Condition} :
    (∀ condition ∈ conditions, condition.truth own = some true) ↔
      ¬(∃ condition ∈ conditions, condition.truth own = some false) ∧
        ¬∃ condition ∈ conditions, condition.truth own = none := by
  have third (value : Option Bool) : value = some true ↔ value ≠ some false ∧ value ≠ none := by
    rcases value with _ | _ | _ <;> decide
  constructor
  · intro allTrue
    constructor
    · rintro ⟨condition, member, isFalse⟩
      exact ((third _).mp (allTrue condition member)).1 isFalse
    · rintro ⟨condition, member, isOpen⟩
      exact ((third _).mp (allTrue condition member)).2 isOpen
  · rintro ⟨noFalse, noOpen⟩ condition member
    exact (third _).mpr ⟨fun isFalse => noFalse ⟨condition, member, isFalse⟩,
      fun isOpen => noOpen ⟨condition, member, isOpen⟩⟩

theorem MasksRead.of_prefixes {own : PyIp.Address} {conditions : List Condition}
    (prefixes : ∀ condition ∈ conditions, condition.hasPrefix = true) :
    MasksRead own conditions where
  known condition member := Or.inl (prefixes condition member)
  agree := by
    have noHost (condition : Condition) (member : condition ∈ conditions) :
        condition.hasHostMask ≠ true := by
      have isPrefix := prefixes condition member
      rw [Condition.hasPrefix] at isPrefix
      rw [Condition.hasHostMask]
      cases named : condition.test.network? with
      | none => simp
      | some network =>
          rw [named] at isPrefix
          simpa using PyIp.isHost_of_isPrefix isPrefix
    right
    constructor
    · rintro ⟨condition, member, host, _⟩
      exact absurd host (noHost condition member)
    · rintro ⟨condition, member, host, _⟩
      exact absurd host (noHost condition member)

/-- `rule_matches` answers with the conjunction exactly where the masks of the
rule are read. -/
theorem ruleMatches_sound_iff (own : PyIp.Address) (ownInside : own.value < 2 ^ own.version.bits)
    (rule : SavedRule) : Sound own rule ↔ MasksRead own rule.conditions := by
  rw [masksRead_iff]
  have found := ruleMatches_saved ownInside rule
  constructor
  · intro sound
    obtain ⟨answer, answered, conjoined⟩ := sound.conjoined
    rw [answered] at found
    split at found
    · rename_i accepted
      refine ⟨accepted, ?_⟩
      rw [← conjoined.isFalse, Except.ok.inj found, conjunction_eq_false, List.mem_filterMap]
    · cases found
  · rintro ⟨accepted, same⟩
    rw [if_pos accepted] at found
    refine ⟨⟨_, found, ?_, ?_⟩, ?_⟩
    · rw [conjunction_eq_false, List.mem_filterMap, same]
    · rw [conjunction_read accepted, same, all_true_iff]
    · intro other perm
      have conditions : other.conditions.Perm rule.conditions := perm.filterMap _
      have otherAccepted : ∀ condition ∈ other.conditions, condition.read own ≠ none :=
        fun condition member => accepted condition (conditions.mem_iff.mp member)
      rw [found, ruleMatches_saved ownInside other, if_pos otherAccepted,
        conjunction_perm (conditions.filterMap _)]

/-- 100.64.0.5. -/
def tailnetAddress : PyIp.Address :=
  ⟨.v4, 0x64400005⟩

/-- `-A INPUT ! -d 100.64.0.0/255.192.0.0 -s 10.0.0.0/8 -j DROP`. -/
def prefixRule : SavedRule where
  chain := "INPUT"
  parts := [
    .condition ⟨true, .destination "-d" (by decide) "100.64.0.0/255.192.0.0"
      ⟨.v4, 0x64400000, .address 0xFFC00000⟩ (by decide +kernel) (by decide)⟩,
    .condition ⟨false, .unmodelled ⟨"-s", ["10.0.0.0/8"], by decide, by decide, by decide⟩⟩]
  flag := "-j"
  target := ["DROP"]
  isFlag := by decide

theorem prefixRule_sound : Sound tailnetAddress prefixRule :=
  (ruleMatches_sound_iff tailnetAddress (by decide) prefixRule).mpr
    (MasksRead.of_prefixes (by decide +kernel))

/-- `0.0.0.5/0.0.0.255`: the addresses that end in `.5`. -/
def endsInFive : MaskedNetwork :=
  ⟨.v4, 5, .address 255⟩

/-- The packets to the addresses that end in `.5` are dropped. -/
def hostMaskRule : SavedRule where
  chain := "INPUT"
  parts := [.condition ⟨false, .destination "-d" (by decide) "0.0.0.5/0.0.0.255" endsInFive
    (by decide +kernel) (by decide)⟩]
  flag := "-j"
  target := ["DROP"]
  isFlag := by decide

/-- The rule matches the packet to 100.64.0.5, and `rule_matches` answers that
it does not. -/
theorem hostMaskRule_not_sound : ¬Sound tailnetAddress hostMaskRule := by
  intro sound
  obtain ⟨answer, answered, conjoined⟩ := sound.conjoined
  have misread : ruleMatches [tailnetAddress] hostMaskRule.tokens = .ok (some false) := by
    decide +kernel
  have holds : ∀ condition ∈ hostMaskRule.conditions,
      condition.truth tailnetAddress ≠ some false := by
    decide +kernel
  obtain rfl : answer = some false := Except.ok.inj (answered.symm.trans misread)
  obtain ⟨condition, member, isFalse⟩ := conjoined.isFalse.mp rfl
  exact holds condition member isFalse

end Catena.Firewall
