import Catena.PyIp
import Catena.PyTextForms
import Mathlib

/-!
# Networks by address and mask

A filter rule's network is an address and any mask of bits, and an address is
in it where the two agree on the mask.  `ip_network` knows networks of a prefix
length alone: a mask that is no length is refused, or taken for its complement
where that is one.
-/

namespace PyText

/-- Digits below a base make a number of so many places. -/
theorem digitsValue_lt {base : Nat} {digit : Char → Nat} {text : List Char}
    (small : ∀ character ∈ text, digit character < base) :
    digitsValue base digit text < base ^ text.length := by
  induction text using List.reverseRecOn with
  | nil => simp [digitsValue]
  | append_singleton front last ih =>
      have before := ih fun character found => small character (List.mem_append_left _ found)
      have lastSmall := small last (by simp)
      rw [digitsValue, List.foldl_append, List.foldl_cons, List.foldl_nil, ← digitsValue,
        List.length_append, List.length_singleton, Nat.pow_succ]
      have scaled := Nat.mul_le_mul_right base (Nat.succ_le_of_lt before)
      rw [Nat.succ_mul] at scaled
      omega

end PyText

namespace PyIp

/-- So many ones, then zeros. -/
def prefixMask (version : Version) (length : Nat) : Nat :=
  (2 ^ length - 1) * 2 ^ (version.bits - length)

/-- A mask as it is written: a prefix length or an address. -/
inductive Mask where
  | length (length : Nat)
  | address (value : Nat)
  deriving DecidableEq

def Mask.value (version : Version) : Mask → Nat
  | length count => prefixMask version count
  | address value => value

/-- The prefix length `ip_network` reads a mask as. -/
def Mask.readLength : Version → Mask → Option Nat
  | _, length count => some count
  | .v4, address value => (prefixFromMask value).or (prefixFromMask (2 ^ 32 - 1 - value))
  | .v6, address _ => none

/-- A mask that `ip_network` knows for the prefix length it is. -/
def Mask.isPrefix : Version → Mask → Bool
  | _, length _ => true
  | .v4, address value => (prefixFromMask value).isSome
  | .v6, address _ => false

/-- A mask that `ip_network` takes for the complement of what it is. -/
def Mask.isHost : Version → Mask → Bool
  | .v4, address value =>
      (prefixFromMask value).isNone && (prefixFromMask (2 ^ 32 - 1 - value)).isSome
  | _, _ => false

/-- An address and a mask of its version. -/
structure MaskedNetwork where
  version : Version
  address : Nat
  mask : Mask
  deriving DecidableEq

def MaskedNetwork.holds (network : MaskedNetwork) (own : Address) : Bool :=
  own.version == network.version &&
    own.value &&& network.mask.value network.version ==
      network.address &&& network.mask.value network.version

/-- The same, with the mask `ip_network` reads. -/
def MaskedNetwork.readHolds (network : MaskedNetwork) (own : Address) : Option Bool :=
  (network.mask.readLength network.version).map fun length =>
    own.version == network.version &&
      own.value &&& prefixMask network.version length ==
        network.address &&& prefixMask network.version length

/-- An address of the given version. -/
def addressOf : Version → List Char → Option Nat
  | .v4 => addressV4
  | .v6 => addressV6

/-- A mask as it is written behind the slash; no mask is the full length. -/
def maskOf (version : Version) : Option (List Char) → Option Mask
  | none => some (.length version.bits)
  | some text => ((prefixFromDigits version text).map Mask.length).or
      ((addressOf version text).map Mask.address)

/-- The address of a network's text and what is written behind the slash. -/
def slashParts (text : List Char) : Option (List Char × Option (List Char)) :=
  match PyText.splitOn '/' text with
  | [address] => some (address, none)
  | [address, mask] => some (address, some mask)
  | _ => none

def maskedOf (version : Version) (parts : List Char × Option (List Char)) :
    Option MaskedNetwork :=
  (addressOf version parts.1).bind fun address =>
    (maskOf version parts.2).map fun mask => ⟨version, address, mask⟩

/-- The network a filter rule's text names. -/
def maskedNetwork (text : List Char) : Option MaskedNetwork :=
  (slashParts text).bind fun parts => (maskedOf .v4 parts).or (maskedOf .v6 parts)

theorem testBit_prefixMask (version : Version) (length place : Nat) :
    (prefixMask version length).testBit place =
      (decide (version.bits - length ≤ place) &&
        decide (place - (version.bits - length) < length)) := by
  rw [prefixMask, Nat.testBit_mul_two_pow, Nat.testBit_two_pow_sub_one]

/-- Two addresses that agree on their first bits agree on the mask of them. -/
theorem shiftRight_eq_iff {version : Version} {length first second : Nat}
    (short : length ≤ version.bits) (firstInside : first < 2 ^ version.bits)
    (secondInside : second < 2 ^ version.bits) :
    first >>> (version.bits - length) = second >>> (version.bits - length) ↔
      first &&& prefixMask version length = second &&& prefixMask version length := by
  have above {value place : Nat} (inside : value < 2 ^ version.bits)
      (high : version.bits ≤ place) : value.testBit place = false :=
    Nat.testBit_lt_two_pow (inside.trans_le (Nat.pow_le_pow_right (by omega) high))
  constructor
  · intro same
    apply Nat.eq_of_testBit_eq
    intro place
    rw [Nat.testBit_and, Nat.testBit_and, testBit_prefixMask]
    by_cases low : version.bits - length ≤ place
    · have bit := congrArg (Nat.testBit · (place - (version.bits - length))) same
      simp only [Nat.testBit_shiftRight] at bit
      rw [Nat.add_sub_cancel' low] at bit
      rw [bit]
    · simp [low]
  · intro same
    apply Nat.eq_of_testBit_eq
    intro place
    rw [Nat.testBit_shiftRight, Nat.testBit_shiftRight]
    by_cases high : version.bits ≤ version.bits - length + place
    · rw [above firstInside high, above secondInside high]
    · have bit := congrArg (Nat.testBit · (version.bits - length + place)) same
      simp only [Nat.testBit_and, testBit_prefixMask] at bit
      have inMask : place < length := by omega
      simpa [inMask] using bit

theorem octet_le {text : List Char} {value : Nat} (read : octet text = some value) :
    value ≤ 255 := by
  unfold octet at read
  dsimp only at read
  split at read
  · cases read
  · split at read
    · cases read
    · split at read
      · cases read
      · rename_i small
        cases read
        omega

theorem addressV4_lt {text : List Char} {value : Nat} (read : addressV4 text = some value) :
    value < 2 ^ 32 := by
  unfold addressV4 at read
  split at read
  · rename_i first second third fourth octets
    have bound {octet_ : Nat} (member : some octet_ ∈ (PyText.splitOn '.' text).map octet) :
        octet_ ≤ 255 := by
      obtain ⟨part, _, parsed⟩ := List.mem_map.mp member
      exact octet_le parsed
    rw [octets] at bound
    have firstBound := @bound first (by simp)
    have secondBound := @bound second (by simp)
    have thirdBound := @bound third (by simp)
    have fourthBound := @bound fourth (by simp)
    cases read
    omega
  · cases read

theorem prefixFromDigits_le {version : Version} {text : List Char} {length : Nat}
    (read : prefixFromDigits version text = some length) : length ≤ version.bits := by
  unfold prefixFromDigits at read
  dsimp only at read
  split at read
  · rename_i both
    cases read
    rw [Bool.and_eq_true, decide_eq_true_eq] at both
    exact both.2
  · cases read

theorem prefixFromMask_eq {mask length : Nat} (read : prefixFromMask mask = some length) :
    length ≤ 32 ∧ mask = prefixMask .v4 length := by
  have found := List.find?_some read
  have inside := List.mem_of_find?_eq_some read
  rw [List.mem_range] at inside
  exact ⟨by omega, by simpa [prefixMask, Version.bits] using found⟩

theorem hexDigit_lt {character : Char} (isHex : isHexDigit character = true) :
    hexDigit character < 16 := by
  simp only [isHexDigit, Bool.or_eq_true, Bool.and_eq_true, decide_eq_true_eq, Char.isDigit,
    Char.le_def, UInt32.le_iff_toNat_le, ge_iff_le] at isHex
  simp only [hexDigit, PyText.decimalDigit, Char.isDigit, Bool.and_eq_true, decide_eq_true_eq,
    Char.le_def, UInt32.le_iff_toNat_le, ge_iff_le]
  have code : character.toNat = character.val.toNat := rfl
  have zero : ('0' : Char).toNat = 48 := rfl
  have low : ('a' : Char).toNat = 97 := rfl
  have high : ('A' : Char).toNat = 65 := rfl
  have lowVal : ('a' : Char).val.toNat = 97 := rfl
  have highVal : ('A' : Char).val.toNat = 65 := rfl
  have fVal : ('f' : Char).val.toNat = 102 := rfl
  have capitalVal : ('F' : Char).val.toNat = 70 := rfl
  have digitLow : ('0' : Char).val.toNat = 48 := rfl
  have digitHigh : ('9' : Char).val.toNat = 57 := rfl
  split
  · omega
  · split
    · omega
    · omega

theorem hextet_lt {text : List Char} {value : Nat} (read : hextet text = some value) :
    value < 65536 := by
  unfold hextet at read
  split at read
  · cases read
  · rename_i wellFormed
    simp only [Bool.or_eq_true, not_or, decide_eq_true_eq, Bool.not_eq_true',
      Bool.not_eq_false, List.all_eq_true] at wellFormed
    obtain rfl := Option.some.inj read
    have bound := @PyText.digitsValue_lt 16 hexDigit text
      fun character found => hexDigit_lt (wellFormed.2 character found)
    have short : 16 ^ text.length ≤ 16 ^ 4 := Nat.pow_le_pow_right (by decide) (by omega)
    omega

/-- Groups of sixteen bits make a number of so many groups. -/
theorem hextets_lt {groups : List (List Char)} {value : Nat}
    (read : hextets groups = some value) : value < 65536 ^ groups.length := by
  induction groups using List.reverseRecOn generalizing value with
  | nil =>
      obtain rfl := Option.some.inj read
      exact Nat.one_pos
  | append_singleton front last ih =>
      rw [hextets, List.foldl_append, List.foldl_cons, List.foldl_nil, ← hextets,
        Option.bind_eq_some_iff] at read
      obtain ⟨high, highRead, read⟩ := read
      rw [Option.map_eq_some_iff] at read
      obtain ⟨low, lowRead, rfl⟩ := read
      have before := ih highRead
      have lastSmall := hextet_lt lowRead
      rw [List.length_append, List.length_singleton, Nat.pow_succ]
      have scaled := Nat.mul_le_mul_right 65536 (Nat.succ_le_of_lt before)
      rw [Nat.succ_mul] at scaled
      omega

theorem groupsValue_lt {groups : List (List Char)} {value : Nat}
    (read : groupsValue groups = some value) : value < 2 ^ 128 := by
  have whole : (2 : Nat) ^ 128 = 65536 ^ 8 := by norm_num
  unfold groupsValue at read
  split at read
  · cases read
  · split at read
    · rename_i eight
      rw [whole, ← eight]
      exact hextets_lt read
    · cases read
  · simp only [Option.bind_eq_bind, Option.bind_eq_some_iff] at read
    obtain ⟨high, _, low, _, read⟩ := read
    split at read
    · cases read
    · rename_i short
      simp only [Option.bind_eq_some_iff] at read
      obtain ⟨highValue, highRead, lowValue, lowRead, same⟩ := read
      obtain rfl := Option.some.inj same
      have highSmall := Nat.mul_le_mul_right (65536 ^ (8 - high.length))
        (Nat.succ_le_of_lt (hextets_lt highRead))
      rw [← Nat.pow_add, Nat.add_sub_cancel' (by omega), Nat.succ_mul] at highSmall
      have lowSmall : lowValue < 65536 ^ (8 - high.length) :=
        (hextets_lt lowRead).trans_le (Nat.pow_le_pow_right (by decide) (by omega))
      rw [whole]
      omega

theorem addressV6_lt {text : List Char} {value : Nat} (read : addressV6 text = some value) :
    value < 2 ^ 128 := by
  unfold addressV6 at read
  split at read
  dsimp only at read
  split at read
  · cases read
  · split at read
    · rw [Option.bind_eq_some_iff] at read
      obtain ⟨tail, _, read⟩ := read
      split at read
      · cases read
      · exact groupsValue_lt read
    · split at read
      · cases read
      · exact groupsValue_lt read

theorem addressOf_lt {version : Version} {text : List Char} {value : Nat}
    (read : addressOf version text = some value) : value < 2 ^ version.bits := by
  cases version with
  | v4 => exact addressV4_lt read
  | v6 => exact addressV6_lt read

theorem readLength_ne_none {version : Version} {mask : Mask} :
    mask.readLength version ≠ none ↔
      mask.isPrefix version = true ∨ mask.isHost version = true := by
  cases mask with
  | length count => cases version <;> simp [Mask.readLength, Mask.isPrefix]
  | address value =>
      cases version with
      | v4 =>
          simp only [Mask.readLength, Mask.isPrefix, Mask.isHost]
          cases prefixFromMask value with
          | none => simp [Option.ne_none_iff_isSome]
          | some count => simp
      | v6 => simp [Mask.readLength, Mask.isPrefix, Mask.isHost]

theorem isHost_of_isPrefix {version : Version} {mask : Mask}
    (isPrefix : mask.isPrefix version = true) : mask.isHost version = false := by
  cases mask with
  | length count => cases version <;> rfl
  | address value =>
      cases version with
      | v4 =>
          obtain ⟨count, found⟩ := Option.isSome_iff_exists.mp isPrefix
          simp [Mask.isHost, found]
      | v6 => rfl

theorem value_of_readLength {version : Version} {mask : Mask} {length : Nat}
    (read : mask.readLength version = some length) (noHost : mask.isHost version = false) :
    mask.value version = prefixMask version length := by
  have accepted : mask.readLength version ≠ none := by simp [read]
  have isPrefix : mask.isPrefix version = true :=
    (readLength_ne_none.mp accepted).resolve_right (by simp [noHost])
  cases mask with
  | length count =>
      have same : count = length := by
        cases version <;> exact Option.some.inj read
      rw [Mask.value, same]
  | address value =>
      cases version with
      | v4 =>
          obtain ⟨count, found⟩ := Option.isSome_iff_exists.mp isPrefix
          rw [Mask.readLength, found] at read
          obtain rfl : count = length := Option.some.inj read
          exact (prefixFromMask_eq found).2
      | v6 => cases read

/-- Where no host mask is taken for its complement, an address is in the
network that is read when it is in the network. -/
theorem readHolds_of_not_host {masked : MaskedNetwork} {own : Address} {held : Bool}
    (read : masked.readHolds own = some held) (noHost : masked.mask.isHost masked.version = false) :
    held = masked.holds own := by
  obtain ⟨length, lengthRead, rfl⟩ := Option.map_eq_some_iff.mp read
  rw [MaskedNetwork.holds, value_of_readLength lengthRead noHost]

/-- No address of version 4 is one of version 6. -/
theorem addressV6_of_addressV4 {text : List Char} {value : Nat}
    (read : addressV4 text = some value) : addressV6 text = none := by
  have plain : ∀ character ∈ text, character = '.' ∨ character.isDigit = true := by
    intro character found
    rcases PyText.mem_splitOn '.' found with dot | ⟨part, inParts, inPart⟩
    · exact Or.inl dot
    · right
      unfold addressV4 at read
      split at read
      · rename_i octets
        have parsed : octet part ∈ (PyText.splitOn '.' text).map octet :=
          List.mem_map_of_mem inParts
        have digits : PyText.isDigits part = true := by
          by_contra other
          have refused : octet part = none := by
            simp [octet, other]
          rw [octets, refused] at parsed
          simp at parsed
        rw [PyText.isDigits, Bool.and_eq_true, List.all_eq_true] at digits
        exact digits.2 character inPart
      · cases read
  have noColon : ':' ∉ text := by
    intro found
    rcases plain _ found with same | digit
    · exact absurd same (by decide)
    · exact absurd digit (by decide)
  have noScope : PyText.partition '%' text = none := by
    apply PyText.partition_of_notMem
    intro found
    rcases plain _ found with same | digit
    · exact absurd same (by decide)
    · exact absurd digit (by decide)
  rw [addressV6, noScope]
  simp [PyText.splitOn_of_absent noColon]

theorem length_readLength {version : Version} {text : Option (List Char)} {mask : Mask}
    {length : Nat} (written : maskOf version text = some mask)
    (read : mask.readLength version = some length) : length ≤ version.bits := by
  cases text with
  | none =>
      obtain rfl := Option.some.inj written
      cases version <;> exact (Option.some.inj read).symm.le
  | some text =>
      rw [maskOf, Option.or_eq_some_iff] at written
      rcases written with digits | ⟨_, asAddress⟩
      · obtain ⟨count, counted, rfl⟩ := Option.map_eq_some_iff.mp digits
        have bound := prefixFromDigits_le counted
        cases version <;> exact (Option.some.inj read) ▸ bound
      · obtain ⟨value, _, rfl⟩ := Option.map_eq_some_iff.mp asAddress
        cases version with
        | v4 =>
            rw [Mask.readLength, Option.or_eq_some_iff] at read
            rcases read with found | ⟨_, found⟩
            · exact (prefixFromMask_eq found).1
            · exact (prefixFromMask_eq found).1
        | v6 => cases read

/-- The mask `ip_network` reads behind the slash. -/
theorem readLength_maskOf {version : Version} {text : Option (List Char)} {mask : Mask}
    (written : maskOf version text = some mask) :
    mask.readLength version = match version with
      | .v4 => text.elim (some 32) prefixV4
      | .v6 => text.elim (some 128) (prefixFromDigits .v6) := by
  cases text with
  | none =>
      obtain rfl := Option.some.inj written
      cases version <;> rfl
  | some text =>
      rw [maskOf, Option.or_eq_some_iff] at written
      rcases written with digits | ⟨noDigits, asAddress⟩
      · obtain ⟨count, counted, rfl⟩ := Option.map_eq_some_iff.mp digits
        cases version with
        | v4 => simp [Mask.readLength, prefixV4, counted]
        | v6 => simp [Mask.readLength, counted]
      · obtain ⟨value, addressed, rfl⟩ := Option.map_eq_some_iff.mp asAddress
        rw [Option.map_eq_none_iff] at noDigits
        cases version with
        | v4 =>
            have asV4 : addressV4 text = some value := addressed
            simp [Mask.readLength, prefixV4, noDigits, asV4]
        | v6 => simp [Mask.readLength, noDigits]

/-- `ip_network` of a text that names a network. -/
theorem network_of_masked {text : List Char} {masked : MaskedNetwork}
    (named : maskedNetwork text = some masked) :
    network text = (masked.mask.readLength masked.version).map fun length =>
      ⟨masked.version, masked.address, length⟩ := by
  rw [maskedNetwork, Option.bind_eq_some_iff] at named
  obtain ⟨parts, cut, named⟩ := named
  have whole : network text =
      ((addressV4 parts.1).bind fun value =>
        (parts.2.elim (some 32) prefixV4).map fun length =>
          (⟨.v4, value, length⟩ : Network)).or
      ((addressV6 parts.1).bind fun value =>
        (parts.2.elim (some 128) (prefixFromDigits .v6)).map fun length =>
          ⟨.v6, value, length⟩) := by
    rw [slashParts] at cut
    split at cut
    · rename_i split
      obtain rfl := Option.some.inj cut
      rw [network, split]
      rfl
    · rename_i split
      obtain rfl := Option.some.inj cut
      rw [network, split]
      rfl
    · cases cut
  rw [whole]
  rw [Option.or_eq_some_iff] at named
  rcases named with asV4 | ⟨_, asV6⟩
  · rw [maskedOf, Option.bind_eq_some_iff] at asV4
    obtain ⟨address, addressed, asV4⟩ := asV4
    obtain ⟨mask, written, rfl⟩ := Option.map_eq_some_iff.mp asV4
    have isV4 : addressV4 parts.1 = some address := addressed
    rw [isV4, addressV6_of_addressV4 isV4, readLength_maskOf written]
    simp
  · rw [maskedOf, Option.bind_eq_some_iff] at asV6
    obtain ⟨address, addressed, asV6⟩ := asV6
    obtain ⟨mask, written, rfl⟩ := Option.map_eq_some_iff.mp asV6
    have isV6 : addressV6 parts.1 = some address := addressed
    have notV4 : addressV4 parts.1 = none := by
      by_contra some_
      obtain ⟨value, asV4⟩ := Option.ne_none_iff_exists'.mp some_
      rw [addressV6_of_addressV4 asV4] at isV6
      cases isV6
    rw [isV6, notV4, readLength_maskOf written]
    simp

/-- What a text names lies inside its version, and so does the length of the
mask it is read with. -/
theorem masked_inside {text : List Char} {masked : MaskedNetwork}
    (named : maskedNetwork text = some masked) :
    masked.address < 2 ^ masked.version.bits ∧
      ∀ length, masked.mask.readLength masked.version = some length →
        length ≤ masked.version.bits := by
  rw [maskedNetwork, Option.bind_eq_some_iff] at named
  obtain ⟨parts, _, named⟩ := named
  have inside {version : Version} (as : maskedOf version parts = some masked) :
      masked.address < 2 ^ masked.version.bits ∧
        ∀ length, masked.mask.readLength masked.version = some length →
          length ≤ masked.version.bits := by
    rw [maskedOf, Option.bind_eq_some_iff] at as
    obtain ⟨address, addressed, as⟩ := as
    obtain ⟨mask, written, rfl⟩ := Option.map_eq_some_iff.mp as
    exact ⟨addressOf_lt addressed, fun length read => length_readLength written read⟩
  rw [Option.or_eq_some_iff] at named
  rcases named with asV4 | ⟨_, asV6⟩
  · exact inside asV4
  · exact inside asV6

/-- Whether an address is in the network `ip_network` reads. -/
theorem contains_of_masked {text : List Char} {masked : MaskedNetwork} {own : Address}
    (named : maskedNetwork text = some masked) (ownInside : own.value < 2 ^ own.version.bits) :
    (network text).map (fun net => own.version == net.version && net.contains own) =
      masked.readHolds own := by
  obtain ⟨inside, short⟩ := masked_inside named
  rw [network_of_masked named, MaskedNetwork.readHolds, Option.map_map]
  cases read : masked.mask.readLength masked.version with
  | none => rfl
  | some length =>
      by_cases same : own.version = masked.version
      · have agree := shiftRight_eq_iff (short length read) (same ▸ ownInside) inside
        simp only [Option.map_some, Function.comp_apply, Network.contains, Option.some.injEq]
        rw [Bool.eq_iff_iff]
        simp [same, agree]
      · have unequal : (own.version == masked.version) = false := by simpa using same
        simp [unequal]

end PyIp
