import CloudGuest.Library.IpAddress
import CloudGuest.Traffic.ThreatRanges

/-!
Networks as `parse_network` of subnet_conflicts.py reads them with `ipaddress`: an
address of either family with a prefix length, or for IPv4 a mask, host bits allowed.
Two networks overlap when an end of one lies in the other, that is, when they have an
address in common.
-/

namespace CloudGuest.Subnets

open Texts IpAddress
open ThreatList (Network)

inductive IpNetwork where
  | v4 (network : Network 32)
  | v6 (network : Network 128)

/-! ### Reading -/

def fromDigits (base : Nat) (digits : List Nat) : Nat :=
  digits.foldl (fun value digit => value * base + digit) 0

def networkOf (bits address prefixLength : Nat) : Option (Network bits) :=
  if fits : prefixLength ≤ bits ∧ address < 2 ^ bits then
    some {
      networkAddress := address / 2 ^ (bits - prefixLength) * 2 ^ (bits - prefixLength)
      prefixLength
      short := fits.1
      aligned := Nat.dvd_mul_left _ _
      inFamily := lt_of_le_of_lt (Nat.div_mul_le_self _ _) fits.2 }
  else none

def prefixFromPrefixString (bits : Nat) (text : Text) : Option Nat :=
  if text = [] ∨ text.any (fun char => !char.isDigit) then none
  else
    let length := Nat.ofDigitChars 10 text 0
    if length ≤ bits then some length else none

def prefixFromIpInt (mask : Nat) : Option Nat :=
  (List.range 33).find? fun length => mask = 2 ^ 32 - 2 ^ (32 - length)

def prefixFromIpString (text : Text) : Option Nat :=
  (readV4 text).bind fun octets =>
    let mask := fromDigits 256 octets
    (prefixFromIpInt mask).or (prefixFromIpInt (2 ^ 32 - 1 - mask))

def splitAddrPrefix (text : Text) : Option (Text × Option Text) :=
  match splitOn '/' text with
  | [address] => some (address, none)
  | [address, mask] => some (address, some mask)
  | _ => none

def ipv4Network (text : Text) : Option (Network 32) := do
  let (address, mask) ← splitAddrPrefix text
  let octets ← readV4 address
  let prefixLength ← match mask with
    | none => some 32
    | some mask => (prefixFromPrefixString 32 mask).or (prefixFromIpString mask)
  networkOf 32 (fromDigits 256 octets) prefixLength

/-- `IPv6Address`, the zone left off. -/
def readScoped (text : Text) : Option (List Nat) :=
  match text.span (· ≠ '%') with
  | (address, []) => readV6 address
  | (address, _ :: zone) => if zone = [] ∨ '%' ∈ zone then none else readV6 address

def ipv6Network (text : Text) : Option (Network 128) := do
  let (address, mask) ← splitAddrPrefix text
  let groups ← readScoped address
  let prefixLength ← match mask with
    | none => some 128
    | some mask => prefixFromPrefixString 128 mask
  networkOf 128 (fromDigits 65536 groups) prefixLength

def ipNetwork (text : Text) : Option IpNetwork :=
  ((ipv4Network text).map .v4).or ((ipv6Network text).map .v6)

def barePrefix (text : Text) : Option Nat :=
  -- The prefix length `parse_network` gives a bare address of its family.
  match readV4 text with
  | some _ => some 32
  | none => (readScoped text).map fun _ => 128

def parseNetwork (cidr : Text) : Option IpNetwork :=
  let value := strip cidr
  if value = [] then none
  else if '/' ∈ value then ipNetwork value
  else (barePrefix value).bind fun length => ipNetwork (value ++ '/' :: decimal length)

/-! ### Overlap -/

def contains {bits : Nat} (network : Network bits) (address : Nat) : Bool :=
  -- `address in network`: the address with its host bits cleared.
  address / network.size * network.size = network.networkAddress

def overlapsWith {bits : Nat} (left right : Network bits) : Bool :=
  contains left right.networkAddress || contains left right.broadcastAddress ||
    contains right left.networkAddress || contains right left.broadcastAddress

def IpNetwork.overlaps : IpNetwork → IpNetwork → Bool
  | .v4 left, .v4 right => overlapsWith left right
  | .v6 left, .v6 right => overlapsWith left right
  | _, _ => false

def networksOverlap (left right : Text) : Option Bool := do
  let leftNetwork ← parseNetwork left
  let rightNetwork ← parseNetwork right
  return leftNetwork.overlaps rightNetwork

/-! ### Addresses -/

inductive Address where
  | v4 (value : Nat)
  | v6 (value : Nat)

def IpNetwork.Has : IpNetwork → Address → Prop
  | .v4 network, .v4 value => network.Contains value
  | .v6 network, .v6 value => network.Contains value
  | _, _ => False

theorem contains_eq_true {bits : Nat} (network : Network bits) (address : Nat) :
    contains network address = true ↔ network.Contains address := by
  rw [network.contains_iff, contains, decide_eq_true_eq]
  have own := Nat.div_mul_cancel network.aligned
  change network.networkAddress / network.size * network.size = network.networkAddress at own
  constructor
  · intro cleared
    rw [← cleared, Nat.mul_div_cancel _ network.size_pos]
  · intro same
    rw [same, own]

theorem contains_ends {bits : Nat} (network : Network bits) :
    network.Contains network.networkAddress ∧ network.Contains network.broadcastAddress := by
  have size := network.size_pos
  simp only [Network.Contains, Network.broadcastAddress]
  omega

theorem overlapsWith_iff {bits : Nat} (left right : Network bits) :
    overlapsWith left right = true ↔ ∃ value : Nat, left.Contains value ∧ right.Contains value := by
  obtain ⟨leftFirst, leftLast⟩ := contains_ends left
  obtain ⟨rightFirst, rightLast⟩ := contains_ends right
  simp only [overlapsWith, Bool.or_eq_true, contains_eq_true]
  constructor
  · rintro (((first | last) | first) | last)
    · exact ⟨right.networkAddress, first, rightFirst⟩
    · exact ⟨right.broadcastAddress, last, rightLast⟩
    · exact ⟨left.networkAddress, leftFirst, first⟩
    · exact ⟨left.broadcastAddress, leftLast, last⟩
  · rintro ⟨value, inLeft, inRight⟩
    -- The later of the two first addresses lies in both.
    rcases le_total left.networkAddress right.networkAddress with before | after
    · refine .inl (.inl (.inl ?_))
      simp only [Network.Contains] at *
      omega
    · refine .inl (.inr ?_)
      simp only [Network.Contains] at *
      omega

theorem IpNetwork.overlaps_iff (left right : IpNetwork) :
    left.overlaps right = true ↔ ∃ address, left.Has address ∧ right.Has address := by
  constructor
  · intro overlap
    -- No address is of both versions, and networks of two versions never overlap.
    cases left with
    | v4 left =>
        cases right with
        | v4 right =>
            obtain ⟨value, both⟩ := (overlapsWith_iff left right).mp overlap
            exact ⟨.v4 value, both⟩
        | v6 right => cases overlap
    | v6 left =>
        cases right with
        | v4 right => cases overlap
        | v6 right =>
            obtain ⟨value, both⟩ := (overlapsWith_iff left right).mp overlap
            exact ⟨.v6 value, both⟩
  · rintro ⟨address, inLeft, inRight⟩
    cases left with
    | v4 left =>
        cases right with
        | v4 right =>
            cases address with
            | v4 value => exact (overlapsWith_iff left right).mpr ⟨value, inLeft, inRight⟩
            | v6 value => cases inLeft
        | v6 right =>
            cases address with
            | v4 value => exact inRight.elim
            | v6 value => exact inLeft.elim
    | v6 left =>
        cases right with
        | v4 right =>
            cases address with
            | v4 value => exact inLeft.elim
            | v6 value => exact inRight.elim
        | v6 right =>
            cases address with
            | v4 value => cases inLeft
            | v6 value => exact (overlapsWith_iff left right).mpr ⟨value, inLeft, inRight⟩

def Overlapping (left right : Text) : Prop :=
  ∃ leftNetwork rightNetwork, parseNetwork left = some leftNetwork ∧
    parseNetwork right = some rightNetwork ∧
      ∃ address, leftNetwork.Has address ∧ rightNetwork.Has address

theorem networksOverlap_iff (left right : Text) :
    networksOverlap left right = some true ↔ Overlapping left right := by
  simp only [networksOverlap, Option.pure_def, Option.bind_eq_bind, Option.bind_eq_some_iff,
    Option.some.injEq, IpNetwork.overlaps_iff, Overlapping]
  constructor
  · rintro ⟨leftNetwork, readLeft, rightNetwork, readRight, common⟩
    exact ⟨leftNetwork, rightNetwork, readLeft, readRight, common⟩
  · rintro ⟨leftNetwork, rightNetwork, readLeft, readRight, common⟩
    exact ⟨leftNetwork, readLeft, rightNetwork, readRight, common⟩

theorem Overlapping.symm {left right : Text} (overlapping : Overlapping left right) :
    Overlapping right left := by
  obtain ⟨leftNetwork, rightNetwork, readLeft, readRight, address, inLeft, inRight⟩ := overlapping
  exact ⟨rightNetwork, leftNetwork, readRight, readLeft, address, inRight, inLeft⟩

theorem networksOverlap_parsed (left right : Text) (readLeft : (parseNetwork left).isSome = true)
    (readRight : (parseNetwork right).isSome = true) : (networksOverlap left right).isSome = true := by
  obtain ⟨leftNetwork, first⟩ := Option.isSome_iff_exists.mp readLeft
  obtain ⟨rightNetwork, second⟩ := Option.isSome_iff_exists.mp readRight
  simp [networksOverlap, first, second]

example : networksOverlap "192.168.1.1/24".toList "192.168.1.200".toList = some true ∧
    networksOverlap "10.0.0.0/255.255.0.0".toList "10.1.0.0/16".toList = some false ∧
    networksOverlap "fe80::1%eth0".toList "fe80::/10".toList = some true ∧
    networksOverlap "10.0.0.0/33".toList "10.0.0.0/8".toList = none := by decide +kernel

end CloudGuest.Subnets
