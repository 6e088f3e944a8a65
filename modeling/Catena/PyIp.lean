import Catena.PyText
import Mathlib

/-!
# IP addresses and networks

The part of Python's `ipaddress` that reads a network with host bits allowed
(`ip_network(text, strict=False)`) and asks whether an address is in it.
-/

namespace PyIp

inductive Version where
  | v4
  | v6
  deriving DecidableEq

/-- `max_prefixlen`. -/
def Version.bits : Version → Nat
  | .v4 => 32
  | .v6 => 128

structure Address where
  version : Version
  value : Nat
  deriving DecidableEq

structure Network where
  version : Version
  value : Nat
  prefixLength : Nat
  deriving DecidableEq

/-- `address in network`, for one version. -/
def Network.contains (network : Network) (address : Address) : Bool :=
  let hostBits := network.version.bits - network.prefixLength
  address.value >>> hostBits == network.value >>> hostBits

/-- One octet of an IPv4 address. -/
def octet (text : List Char) : Option Nat :=
  let value := PyText.digitsValue 10 PyText.decimalDigit text
  if !PyText.isDigits text || text.length > 3 then none
  else if text ≠ ['0'] ∧ text.head? = some '0' then none
  else if value > 255 then none
  else some value

/-- `IPv4Address(text)`. -/
def addressV4 (text : List Char) : Option Nat :=
  match (PyText.splitOn '.' text).map octet with
  | [some first, some second, some third, some fourth] =>
      some (((first * 256 + second) * 256 + third) * 256 + fourth)
  | _ => none

def prefixFromDigits (version : Version) (text : List Char) : Option Nat :=
  let value := PyText.digitsValue 10 PyText.decimalDigit text
  if PyText.isDigits text && value ≤ version.bits then some value else none

/-- The prefix a netmask names: ones, then zeros. -/
def prefixFromMask (mask : Nat) : Option Nat :=
  (List.range 33).find? fun length =>
    mask == (2 ^ length - 1) * 2 ^ (32 - length)

/-- `IPv4Network._make_netmask`: a length, a netmask or a host mask. -/
def prefixV4 (text : List Char) : Option Nat :=
  (prefixFromDigits .v4 text).or
    ((addressV4 text).bind fun mask =>
      (prefixFromMask mask).or (prefixFromMask (2 ^ 32 - 1 - mask)))

def isHexDigit (character : Char) : Bool :=
  character.isDigit || ('a' ≤ character && character ≤ 'f') ||
    ('A' ≤ character && character ≤ 'F')

def hexDigit (character : Char) : Nat :=
  if character.isDigit then PyText.decimalDigit character
  else if 'a' ≤ character then character.toNat - 'a'.toNat + 10
  else character.toNat - 'A'.toNat + 10

/-- One group of an IPv6 address. -/
def hextet (text : List Char) : Option Nat :=
  if text.isEmpty || text.length > 4 || !text.all isHexDigit then none
  else some (PyText.digitsValue 16 hexDigit text)

/-- Groups in order, as one number. -/
def hextets (groups : List (List Char)) : Option Nat :=
  groups.foldl (fun value group =>
    value.bind fun high => (hextet group).map fun low => high * 65536 + low)
    (some 0)

/-- The groups before and after the `::` of an address, `none` where the text
has more than one. -/
def compressed (groups : List (List Char)) :
    Option (Option (List (List Char) × List (List Char))) :=
  let inner := (List.range groups.length).filter fun index =>
    0 < index && index + 1 < groups.length &&
      (groups[index]?.getD []).isEmpty
  match inner with
  | [] => some none
  | [index] => some (some (groups.take index, groups.drop (index + 1)))
  | _ => none

/-- The groups on one side of a `::`, whose outer end may be empty only where
it is the whole side. -/
def side (groups : List (List Char)) (outer : Option (List Char)) :
    Option (List (List Char)) :=
  if outer = some [] then if groups.length = 1 then some [] else none
  else some groups

def groupsValue (groups : List (List Char)) : Option Nat :=
  match compressed groups with
  | none => none
  | some none => if groups.length = 8 then hextets groups else none
  | some (some (high, low)) => do
      let high ← side high high.head?
      let low ← side low low.getLast?
      if high.length + low.length > 7 then none
      else
        let highValue ← hextets high
        let lowValue ← hextets low
        return highValue * 65536 ^ (8 - high.length) + lowValue

/-- `IPv6Address(text)`, with an IPv4 address for its last two groups and a
scope after a `%`. -/
def addressV6 (text : List Char) : Option Nat :=
  let (text, scopeValid) := match PyText.partition '%' text with
    | none => (text, true)
    | some (text, scope) => (text, !scope.isEmpty && !scope.contains '%')
  let groups := PyText.splitOn ':' text
  if !scopeValid || groups.length < 3 then none
  else
    let last := groups.getLast?.getD []
    if last.contains '.' then
      (addressV4 last).bind fun tail =>
        let hex := fun value => Nat.toDigits 16 value
        let groups := groups.dropLast ++ [hex (tail / 65536), hex (tail % 65536)]
        if groups.length > 9 then none else groupsValue groups
    else if groups.length > 9 then none
    else groupsValue groups

/-- `ip_network(text, strict=False)`; `none` where it raises `ValueError`. -/
def network (text : List Char) : Option Network :=
  let parts := match PyText.splitOn '/' text with
    | [address] => some (address, none)
    | [address, mask] => some (address, some mask)
    | _ => none
  parts.bind fun (address, mask) =>
    let v4 := (addressV4 address).bind fun value =>
      (mask.elim (some 32) prefixV4).map fun length => ⟨.v4, value, length⟩
    let v6 := (addressV6 address).bind fun value =>
      (mask.elim (some 128) (prefixFromDigits .v6)).map fun length =>
        ⟨.v6, value, length⟩
    v4.or v6

example : (network "100.64.0.0/255.192.0.0".toList).map
    (Network.contains · ⟨.v4, 0x64400007⟩) = some true := by
  decide

example : network "fd7a:115c:a1e0::/48".toList =
    some ⟨.v6, 0xfd7a115ca1e0 * 2 ^ 80, 48⟩ := by
  decide

end PyIp
