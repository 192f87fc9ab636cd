import CloudGuest.Library.Pairs
import CloudGuest.Provisioning.Networks
import CloudGuest.Provisioning.Planner

/-!
What `detect_subnet_conflicts` reports of a request's VLANs, as rule R6 calls it with
their names for labels. Pairs are told apart by their labels and recorded under a key
of four sorted texts, so names that come twice, or that are networks themselves, hide
or merge pairs.
-/

namespace CloudGuest.Subnets

open Texts Pairs Planner

def planning (ctx : PlanContext) : PlanContext := { ctx with networksOverlap := networksOverlap }

def desired (vlans : List GuestVlanRequest) : List LabelledNetwork :=
  vlans.map fun vlan => ⟨vlan.name, vlan.subnetCidr⟩

def labelBefore (left right : LabelledNetwork) : Bool := left.label < right.label

def overlap (pair : LabelledNetwork × LabelledNetwork) : Bool :=
  networksOverlap pair.1.cidr pair.2.cidr = some true

def keyOf (pair : LabelledNetwork × LabelledNetwork) : List Text := conflictKey pair.1 pair.2

def toConflict (pair : LabelledNetwork × LabelledNetwork) : PlanConflict :=
  .subnetOverlap pair.1 pair.2

def rowLabel (source : Text) (place : Nat) : Text := source ++ '[' :: decimal place ++ [']']

/-- The networks of the router's addresses, and of its routes but the default ones. -/
def presentNetworks (snapshot : Snapshot) : List LabelledNetwork :=
  (snapshot.ipAddresses.zipIdx.filter fun row => row.1.address ≠ []).map
      (fun row => ⟨rowLabel "snapshot.ip_addresses".toList row.2, row.1.address⟩) ++
    (snapshot.routes.zipIdx.filter fun row => !isDefaultRoute row.1 && row.1.dstAddress ≠ []).map
      fun row => ⟨rowLabel "snapshot.routes".toList row.2, row.1.dstAddress⟩

def withSnapshot (snapshot : Snapshot) (vlans : List GuestVlanRequest) :
    List (LabelledNetwork × LabelledNetwork) :=
  (desired vlans).flatMap fun wish => (presentNetworks snapshot).map fun present => (wish, present)

def metPairs (snapshot : Snapshot) (vlans : List GuestVlanRequest) :
    List (LabelledNetwork × LabelledNetwork) :=
  (ascending labelBefore (desired vlans) ++ withSnapshot snapshot vlans).filter overlap

def reported (snapshot : Snapshot) (vlans : List GuestVlanRequest) :
    List (LabelledNetwork × LabelledNetwork) :=
  recorded keyOf [] (metPairs snapshot vlans)

def overlappingPairs (snapshot : Snapshot) (vlans : List GuestVlanRequest) :
    List (LabelledNetwork × LabelledNetwork) :=
  (pairs (desired vlans) ++ withSnapshot snapshot vlans).filter overlap

structure Readable (snapshot : Snapshot) (vlans : List GuestVlanRequest) : Prop where
  vlans : ∀ vlan ∈ vlans, (parseNetwork vlan.subnetCidr).isSome = true
  addresses : ∀ row ∈ snapshot.ipAddresses, row.address ≠ [] →
    (parseNetwork row.address).isSome = true
  routes : ∀ route ∈ snapshot.routes, route.dstAddress ≠ [] →
    (parseNetwork route.dstAddress).isSome = true

/-- The two networks that a conflict names, in its detail. -/
def networksNamed : PlanConflict → Option (Sym2 LabelledNetwork)
  | .subnetOverlap left right => some s(left, right)
  | _ => none

def reordered (ctx : PlanContext) (vlans : List GuestVlanRequest) : PlanContext :=
  planning { ctx with request := { ctx.request with vlans } }

/-! ### What the router has -/

theorem mem_presentNetworks (snapshot : Snapshot) (holds : Text → Prop) :
    (∃ present ∈ presentNetworks snapshot, holds present.cidr) ↔
      (∃ row ∈ snapshot.ipAddresses, row.address ≠ [] ∧ holds row.address) ∨
      ∃ route ∈ snapshot.routes, isDefaultRoute route = false ∧ route.dstAddress ≠ [] ∧
        holds route.dstAddress := by
  have placed : ∀ {Row : Type} (rows : List Row) (kept : Row → Prop),
      (∃ row ∈ rows.zipIdx, kept row.1) ↔ ∃ row ∈ rows, kept row := by
    intro Row rows kept
    constructor
    · rintro ⟨row, member, found⟩
      exact ⟨row.1, List.fst_mem_of_mem_zipIdx member, found⟩
    · rintro ⟨row, member, found⟩
      obtain ⟨place, here⟩ := List.mem_iff_getElem?.mp member
      exact ⟨(row, place), List.mk_mem_zipIdx_iff_getElem?.mpr here, found⟩
  simp only [presentNetworks, List.mem_append, or_and_right, exists_or, List.mem_map,
    List.mem_filter, exists_exists_and_eq_and]
  apply or_congr
  · simpa [and_assoc] using placed snapshot.ipAddresses fun row => row.address ≠ [] ∧ holds row.address
  · simpa [and_assoc] using placed snapshot.routes fun route =>
      isDefaultRoute route = false ∧ route.dstAddress ≠ [] ∧ holds route.dstAddress

theorem collectSnapshotNetworks_eq (snapshot : Snapshot) :
    collectSnapshotNetworks snapshot = presentNetworks snapshot := by
  unfold collectSnapshotNetworks presentNetworks labelled rowLabel
  simp only [List.zipIdx_map, List.filter_map, List.map_map]
  congr 1
  have kept : (snapshot.routes.zipIdx.filter fun row =>
      decide ((if isDefaultRoute row.1 then [] else row.1.dstAddress) ≠ [])) =
        snapshot.routes.zipIdx.filter fun row => !isDefaultRoute row.1 && row.1.dstAddress ≠ [] := by
    refine List.filter_congr fun row _ => ?_
    cases isDefaultRoute row.1 <;> simp
  change ((snapshot.routes.zipIdx.filter fun row =>
    decide ((if isDefaultRoute row.1 then [] else row.1.dstAddress) ≠ [])).map _) = _
  rw [kept]
  refine List.map_congr_left fun row member => ?_
  have other := (Bool.and_eq_true_iff.mp (List.mem_filter.mp member).2).1
  simp only [Bool.not_eq_true'] at other
  simp [other]

/-! ### The loops -/

theorem overlap_iff (pair : LabelledNetwork × LabelledNetwork) :
    overlap pair = true ↔ Overlapping pair.1.cidr pair.2.cidr := by
  rw [overlap, decide_eq_true_eq, networksOverlap_iff]

theorem overlap_symm (left right : LabelledNetwork) : overlap (left, right) = overlap (right, left) := by
  rw [Bool.eq_iff_iff, overlap_iff, overlap_iff]
  exact ⟨Overlapping.symm, Overlapping.symm⟩

theorem labelBefore_asymm (left right : LabelledNetwork) (before : labelBefore left right = true) :
    labelBefore right left = false := by
  simp only [labelBefore, decide_eq_true_eq, decide_eq_false_iff_not] at before ⊢
  exact before.asymm

theorem told_iff (left right : LabelledNetwork) :
    told labelBefore left right = true ↔ left.label ≠ right.label := by
  simp only [told, labelBefore, Bool.or_eq_true, decide_eq_true_eq]
  exact ne_iff_lt_or_gt.symm

theorem scanSubnets_recorded (compared : List (LabelledNetwork × LabelledNetwork)) (scan : SubnetScan)
    (readable : ∀ pair ∈ compared, (networksOverlap pair.1.cidr pair.2.cidr).isSome = true) :
    (scanSubnets networksOverlap compared scan).map SubnetScan.conflicts =
      some (scan.conflicts ++ (recorded keyOf scan.seen (compared.filter overlap)).map toConflict) := by
  induction compared generalizing scan with
  | nil => simp [scanSubnets, recorded]
  | cons pair rest ih =>
      obtain ⟨left, right⟩ := pair
      have later : ∀ other ∈ rest, (networksOverlap other.1.cidr other.2.cidr).isSome = true :=
        fun other member => readable other (List.mem_cons_of_mem _ member)
      obtain ⟨answer, found⟩ := Option.isSome_iff_exists.mp (readable _ List.mem_cons_self)
      have same : overlap (left, right) = answer := by
        rw [overlap, found]
        cases answer <;> rfl
      rw [List.filter_cons, same]
      cases answer with
      | false => simp [scanSubnets, found, ih scan later]
      | true =>
          simp only [scanSubnets, found, if_true]
          rw [ih _ later, recorded, SubnetScan.record]
          by_cases seen : conflictKey left right ∈ scan.seen
          · simp [keyOf, seen]
          · simp [keyOf, seen, toConflict]

theorem comparedNetworks_eq (ctx : PlanContext) :
    comparedNetworks (planning ctx) =
      ascending labelBefore (desired ctx.request.vlans) ++
        withSnapshot ctx.snapshot ctx.request.vlans := by
  simp only [comparedNetworks, ascending, withSnapshot, planning, desired, labelBefore,
    collectSnapshotNetworks_eq]

theorem Readable.present {snapshot : Snapshot} {vlans : List GuestVlanRequest}
    (readable : Readable snapshot vlans) :
    ∀ present ∈ presentNetworks snapshot, (parseNetwork present.cidr).isSome = true := by
  by_contra unread
  push Not at unread
  rcases (mem_presentNetworks snapshot fun cidr => (parseNetwork cidr).isSome ≠ true).mp unread with
    ⟨row, listed, some, never⟩ | ⟨route, listed, -, some, never⟩
  · exact never (readable.addresses row listed some)
  · exact never (readable.routes route listed some)

theorem readable_compared (snapshot : Snapshot) (vlans : List GuestVlanRequest)
    (readable : Readable snapshot vlans) (pair : LabelledNetwork × LabelledNetwork)
    (member : pair ∈ ascending labelBefore (desired vlans) ++ withSnapshot snapshot vlans) :
    (networksOverlap pair.1.cidr pair.2.cidr).isSome = true := by
  have wishes : ∀ wish ∈ desired vlans, (parseNetwork wish.cidr).isSome = true := by
    intro wish listed
    obtain ⟨vlan, requested, rfl⟩ := List.mem_map.mp listed
    exact readable.vlans vlan requested
  rcases List.mem_append.mp member with both | mixed
  · obtain ⟨left, first, listed⟩ := List.mem_flatMap.mp both
    obtain ⟨right, second, rfl⟩ := List.mem_map.mp listed
    exact networksOverlap_parsed _ _ (wishes left first)
      (wishes right (List.mem_of_mem_filter second))
  · obtain ⟨wish, first, listed⟩ := List.mem_flatMap.mp mixed
    obtain ⟨present, second, rfl⟩ := List.mem_map.mp listed
    exact networksOverlap_parsed _ _ (wishes wish first) (readable.present present second)

theorem detectSubnetConflicts_reported (ctx : PlanContext)
    (readable : Readable ctx.snapshot ctx.request.vlans) :
    detectSubnetConflicts (planning ctx) =
      some ((reported ctx.snapshot ctx.request.vlans).map toConflict) := by
  rw [detectSubnetConflicts, comparedNetworks_eq]
  have scanned := scanSubnets_recorded _ ⟨[], []⟩
    (readable_compared ctx.snapshot ctx.request.vlans readable)
  exact scanned

theorem met_vlans (vlans : List GuestVlanRequest) :
    (((ascending labelBefore (desired vlans)).filter overlap).map unordered).Perm
      ((((pairs (desired vlans)).filter fun pair => told labelBefore pair.1 pair.2).filter overlap).map
        unordered) := by
  let overlapping : Sym2 LabelledNetwork → Bool :=
    Sym2.lift ⟨fun left right => overlap (left, right), overlap_symm⟩
  have moved : ∀ list : List (LabelledNetwork × LabelledNetwork),
      (list.filter overlap).map unordered = (list.map unordered).filter overlapping := by
    intro list
    rw [List.filter_map]
    rfl
  rw [moved, moved]
  exact (ascending_pairs labelBefore labelBefore_asymm (desired vlans)).filter _

/-! ### When the report is exact -/

/-- Two VLANs at different places overlap, or a VLAN and what the router has. -/
def SomeOverlap (snapshot : Snapshot) (vlans : List GuestVlanRequest) : Prop :=
  (∃ (i j : Nat) (left right : GuestVlanRequest), i ≠ j ∧ vlans[i]? = some left ∧
    vlans[j]? = some right ∧ Overlapping left.subnetCidr right.subnetCidr) ∨
  ∃ vlan ∈ vlans,
    (∃ row ∈ snapshot.ipAddresses, row.address ≠ [] ∧ Overlapping vlan.subnetCidr row.address) ∨
    ∃ route ∈ snapshot.routes, isDefaultRoute route = false ∧ route.dstAddress ≠ [] ∧
      Overlapping vlan.subnetCidr route.dstAddress

theorem someOverlap_iff (snapshot : Snapshot) (vlans : List GuestVlanRequest) :
    SomeOverlap snapshot vlans ↔ overlappingPairs snapshot vlans ≠ [] := by
  have places := exists_pairs (desired vlans)
    (fun left right => Overlapping left.cidr right.cidr) fun _ _ => Overlapping.symm
  have members : overlappingPairs snapshot vlans ≠ [] ↔
      (∃ pair ∈ pairs (desired vlans), Overlapping pair.1.cidr pair.2.cidr) ∨
        ∃ pair ∈ withSnapshot snapshot vlans, Overlapping pair.1.cidr pair.2.cidr := by
    rw [overlappingPairs, Ne, List.filter_eq_nil_iff]
    push Not
    simp only [overlap_iff, List.mem_append, or_and_right, exists_or]
  rw [members, places, SomeOverlap]
  -- The VLANs among themselves, then each with what the router has.
  apply or_congr
  · constructor
    · rintro ⟨i, j, left, right, apart, atLeft, atRight, overlapping⟩
      exact ⟨i, j, _, _, apart, by rw [desired, List.getElem?_map, atLeft]; rfl,
        by rw [desired, List.getElem?_map, atRight]; rfl, overlapping⟩
    · rintro ⟨i, j, left, right, apart, atLeft, atRight, overlapping⟩
      rw [desired, List.getElem?_map] at atLeft atRight
      obtain ⟨first, foundFirst, rfl⟩ := Option.map_eq_some_iff.mp atLeft
      obtain ⟨second, foundSecond, rfl⟩ := Option.map_eq_some_iff.mp atRight
      exact ⟨i, j, first, second, apart, foundFirst, foundSecond, overlapping⟩
  · simp only [← mem_presentNetworks snapshot]
    constructor
    · rintro ⟨vlan, requested, present, had, overlapping⟩
      exact ⟨(⟨vlan.name, vlan.subnetCidr⟩, present),
        List.mem_flatMap.mpr ⟨_, List.mem_map_of_mem requested, List.mem_map_of_mem had⟩,
        overlapping⟩
    · rintro ⟨pair, member, overlapping⟩
      obtain ⟨wish, first, listed⟩ := List.mem_flatMap.mp member
      obtain ⟨present, had, rfl⟩ := List.mem_map.mp listed
      obtain ⟨vlan, requested, rfl⟩ := List.mem_map.mp first
      exact ⟨vlan, requested, present, had, overlapping⟩

/-- What is reported to the planner: something just when something overlaps, each overlapping pair
once, and the same pairs for the VLANs in any order. -/
structure Exact (ctx : PlanContext) (conflicts : List PlanConflict) : Prop where
  detects : conflicts ≠ [] ↔ SomeOverlap ctx.snapshot ctx.request.vlans
  once : (conflicts.map networksNamed).Perm
    ((overlappingPairs ctx.snapshot ctx.request.vlans).map fun pair => some (unordered pair))
  orderless : ∀ vlans : List GuestVlanRequest, vlans.Perm ctx.request.vlans → ∃ other,
    detectSubnetConflicts (reordered ctx vlans) = some other ∧
      ∀ networks, networks ∈ other.map networksNamed ↔ networks ∈ conflicts.map networksNamed

def ExactReport (ctx : PlanContext) : Prop :=
  ∃ conflicts, detectSubnetConflicts (planning ctx) = some conflicts ∧ Exact ctx conflicts

/-- No two overlapping VLANs have one name, and no two overlapping pairs have one key. -/
structure ToldApart (snapshot : Snapshot) (vlans : List GuestVlanRequest) : Prop where
  names : ∀ pair ∈ pairs (desired vlans), overlap pair = true → pair.1.label ≠ pair.2.label
  keys : ((metPairs snapshot vlans).map keyOf).Nodup

theorem once_iff (snapshot : Snapshot) (vlans : List GuestVlanRequest) :
    ((reported snapshot vlans).map unordered).Perm ((overlappingPairs snapshot vlans).map unordered) ↔
      ToldApart snapshot vlans := by
  have met := met_vlans vlans
  rw [List.filter_comm] at met
  have kept := recorded_nil_eq_iff keyOf (metPairs snapshot vlans)
  constructor
  · intro once
    have length := once.length_eq
    have metLength := met.length_eq
    -- The report is part of the overlapping pairs, so it is all of them if it is as long.
    have few := (List.filter_sublist (l := (pairs (desired vlans)).filter overlap)
      (p := fun pair => told labelBefore pair.1 pair.2)).length_le
    have sublist := recorded_sublist keyOf [] (metPairs snapshot vlans)
    have short := sublist.length_le
    simp only [reported, overlappingPairs, List.length_map, List.filter_append,
      List.length_append] at length metLength
    have metSum : (metPairs snapshot vlans).length =
        ((ascending labelBefore (desired vlans)).filter overlap).length +
          ((withSnapshot snapshot vlans).filter overlap).length := by
      rw [metPairs, List.filter_append, List.length_append]
    constructor
    · intro pair member overlapping
      have all : (((pairs (desired vlans)).filter overlap).filter fun pair =>
          told labelBefore pair.1 pair.2).length = ((pairs (desired vlans)).filter overlap).length := by
        omega
      have differ := List.length_filter_eq_length_iff.mp all pair
        (List.mem_filter.mpr ⟨member, overlapping⟩)
      exact (told_iff _ _).mp differ
    · apply kept.mp
      apply sublist.eq_of_length
      omega
  · rintro ⟨names, keys⟩
    have whole : (((pairs (desired vlans)).filter overlap).filter fun pair =>
        told labelBefore pair.1 pair.2) = (pairs (desired vlans)).filter overlap := by
      rw [List.filter_eq_self]
      intro pair member
      have found := List.mem_filter.mp member
      exact (told_iff _ _).mpr (names pair found.1 found.2)
    rw [whole] at met
    rw [reported, kept.mpr keys, metPairs, overlappingPairs, List.filter_append, List.filter_append,
      List.map_append, List.map_append]
    exact met.append_right _

theorem metPairs_perm (snapshot : Snapshot) {vlans other : List GuestVlanRequest}
    (same : vlans.Perm other) : (metPairs snapshot vlans).Perm (metPairs snapshot other) := by
  have wishes : (desired vlans).Perm (desired other) := same.map _
  exact ((ascending_perm labelBefore wishes).append (wishes.flatMap_right _)).filter _

theorem named_eq (pairs : List (LabelledNetwork × LabelledNetwork)) :
    (pairs.map toConflict).map networksNamed = (pairs.map unordered).map some := by
  simp only [List.map_map]
  rfl

theorem named_perm (left right : List (LabelledNetwork × LabelledNetwork)) :
    ((left.map toConflict).map networksNamed).Perm (right.map fun pair => some (unordered pair)) ↔
      (left.map unordered).Perm (right.map unordered) := by
  have same : (right.map fun pair => some (unordered pair)) = (right.map unordered).map some := by
    rw [List.map_map]
    rfl
  rw [named_eq, same]
  exact List.map_perm_map_iff (Option.some_injective _)

theorem Readable.reordered {snapshot : Snapshot} {vlans other : List GuestVlanRequest}
    (readable : Readable snapshot vlans) (same : other.Perm vlans) : Readable snapshot other :=
  ⟨fun vlan listed => readable.vlans vlan (same.mem_iff.mp listed), readable.addresses,
    readable.routes⟩

/-- The report is exact exactly where the names and the keys tell the overlapping pairs apart. -/
theorem exactReport_iff (ctx : PlanContext) (readable : Readable ctx.snapshot ctx.request.vlans) :
    ExactReport ctx ↔ ToldApart ctx.snapshot ctx.request.vlans := by
  have detected := detectSubnetConflicts_reported ctx readable
  constructor
  · rintro ⟨conflicts, found, exact⟩
    obtain rfl := Option.some.inj (detected.symm.trans found)
    exact (once_iff _ _).mp ((named_perm _ _).mp exact.once)
  · intro apart
    have once := (once_iff _ _).mpr apart
    have kept := recorded_nil_eq_iff keyOf (metPairs ctx.snapshot ctx.request.vlans)
    refine ⟨_, detected, ?_, (named_perm _ _).mpr once, ?_⟩
    · rw [someOverlap_iff]
      have lengths := once.length_eq
      rw [List.length_map, List.length_map] at lengths
      rw [Ne, List.map_eq_nil_iff, Ne, ← List.length_eq_zero_iff, lengths, List.length_eq_zero_iff]
    · intro vlans same
      have met := metPairs_perm ctx.snapshot same
      have keys : ((metPairs ctx.snapshot vlans).map keyOf).Nodup :=
        ((met.map keyOf).nodup_iff).mpr apart.keys
      have other := recorded_nil_eq_iff keyOf (metPairs ctx.snapshot vlans)
      refine ⟨_, detectSubnetConflicts_reported
        { ctx with request := { ctx.request with vlans } } (readable.reordered same), ?_⟩
      intro networks
      dsimp only
      rw [named_eq, named_eq, reported, reported, kept.mpr apart.keys, other.mpr keys]
      exact ((met.map unordered).map some).mem_iff

section Requests

def vlan (name subnetCidr : String) : GuestVlanRequest := ⟨name.toList, subnetCidr.toList⟩

def officeSnapshot : Snapshot where
  bridges := []
  dhcpClients := []
  routes := [⟨"0.0.0.0/0".toList, none, []⟩, ⟨"172.16.0.0/12".toList, none, []⟩]
  ipAddresses := [⟨"ether2".toList, "192.168.88.1/24".toList⟩]
  hotspotState := ⟨0, []⟩

def asking (vlans : List GuestVlanRequest) : PlanContext where
  snapshot := officeSnapshot
  request := ⟨[], vlans, none⟩
  wanInterfaces := []
  wanGatePasses := true
  networksOverlap := networksOverlap

def twoFloors : List GuestVlanRequest := [vlan "upper" "10.0.0.0/24", vlan "lower" "10.0.0.9/28"]

theorem exactReport_twoFloors : ExactReport (asking twoFloors) := by
  have readable : Readable officeSnapshot twoFloors := by
    constructor <;> decide +kernel
  have apart : ToldApart officeSnapshot twoFloors := by
    constructor
    · decide +kernel
    · decide +kernel
  exact (exactReport_iff (asking twoFloors) readable).mpr apart

def oneName : List GuestVlanRequest := [vlan "guest" "10.0.0.0/24", vlan "guest" "10.0.0.128/25"]

def namedAsNetworks : List GuestVlanRequest :=
  [vlan "10.0.0.0/24" "10.0.0.0/25", vlan "10.0.0.0/25" "10.0.0.0/24", vlan "lobby" "10.0.0.0/26"]

/-- Two overlapping VLANs of one name are not reported, and of three overlapping pairs two are
taken for one. -/
theorem overlaps_unreported :
    (detectSubnetConflicts (planning (asking oneName)) = some [] ∧
      SomeOverlap officeSnapshot oneName) ∧
    (overlappingPairs officeSnapshot namedAsNetworks).length = 3 ∧
      (detectSubnetConflicts (planning (asking namedAsNetworks))).map List.length = some 2 := by
  refine ⟨⟨?_, ?_⟩, by decide +kernel, by decide +kernel⟩
  · have readable : Readable officeSnapshot oneName := by
      constructor <;> decide +kernel
    have none : reported officeSnapshot oneName = [] := by decide +kernel
    rw [detectSubnetConflicts_reported (asking oneName) readable]
    exact congrArg (fun pairs => some (pairs.map toConflict)) none
  · rw [someOverlap_iff]
    decide +kernel

end Requests

end CloudGuest.Subnets
