import NetgearSwitch.Lib.PyText

/-!
# Literal IP addresses

Which version of IP address a text spells, as `ipaddress.ip_address` reads it.
-/

namespace IpAddress

open PyText

/-- A decimal octet: at most three digits, no leading zero. -/
def isOctet (t : Text) : Bool :=
  isDigits t && t.length ≤ 3 && (t.length = 1 || t.head? ≠ some '0') && digitsValue t ≤ 255

/-- `IPv4Address(t)` accepts the text. -/
def isIPv4 (t : Text) : Bool :=
  let octets := t.splitOn '.'
  octets.length = 4 && octets.all isOctet

def isHexDigit (c : Char) : Bool :=
  isDigit c || ('a' ≤ c && c ≤ 'f') || ('A' ≤ c && c ≤ 'F')

/-- One to four hex digits. -/
def isHextet (t : Text) : Bool := !t.isEmpty && t.length ≤ 4 && t.all isHexDigit

/-- The colon-separated parts of an address, a trailing dotted quad standing for two of them;
`none` where the quad is none. -/
def ipv6Parts (t : Text) : Option (List Text) :=
  let parts := t.splitOn ':'
  let last := parts.getLastD []
  if '.' ∈ last then
    if isIPv4 last then some (parts.dropLast ++ ["0".toList, "0".toList]) else none
  else some parts

/-- The parts on the two sides of the `::`, which is where `parts` has an empty one inside. -/
def isIPv6Parts (parts : List Text) : Bool :=
  let inner := (List.range parts.length).filter fun i =>
    0 < i && i + 1 < parts.length && (parts.getD i []).isEmpty
  match inner with
  | [] =>
    parts.length = 8 && parts.all isHextet
  | [i] =>
    let high := parts.take i
    let low := parts.drop (i + 1)
    -- an address may start or end with the `::` itself
    let high' := if high = [[]] then [] else high
    let low' := if low = [[]] then [] else low
    high'.length + low'.length ≤ 7 && high'.all isHextet && low'.all isHextet
  | _ => false

/-- `IPv6Address(t)` accepts the text; a zone may follow a `%`. -/
def isIPv6 (t : Text) : Bool :=
  let zoned := t.splitOn '%'
  let address := zoned.headD []
  !('/' ∈ t) && (zoned.length = 1 || (zoned.length = 2 && zoned.getD 1 [] ≠ [])) &&
    3 ≤ (address.splitOn ':').length &&
    match ipv6Parts address with
    | none => false
    | some parts => parts.length ≤ 9 && isIPv6Parts parts

/-- `ip_address(t).version`; `none` where it raises `ValueError`. -/
def version (t : Text) : Option ℕ :=
  if isIPv4 t then some 4 else if isIPv6 t then some 6 else none

example : version "10.1.5.1".toList = some 4 ∧ version "fe80::1%eth0".toList = some 6 ∧
    version "::ffff:10.1.5.1".toList = some 6 ∧ version "sw-1".toList = none ∧
    version "1::2::3".toList = none ∧ version "010.1.5.1".toList = none := by
  decide

end IpAddress
