import CloudGuest.Library.Blocks
import CloudGuest.Library.Sorting
import CloudGuest.Library.Texts

/-!
The listed net-blocks of one address family (traffic_flow/threat_list.py, `_Ranges`).
Blocks are added as they are read, frozen into rows once, and an address is looked up
in one row by bisection. A block of addresses starts at a multiple of its size, so any
two blocks are nested or disjoint.
-/

namespace CloudGuest.ThreatList
open Blocks Sorting Texts

structure ThreatEntry where
  cidr : Text
  reference : Option Text
  deriving DecidableEq

structure Network (bits : Nat) where
  networkAddress : Nat
  prefixLength : Nat
  short : prefixLength ≤ bits
  aligned : 2 ^ (bits - prefixLength) ∣ networkAddress
  inFamily : networkAddress < 2 ^ bits

variable {bits : Nat}

def Network.size (network : Network bits) : Nat := 2 ^ (bits - network.prefixLength)

def Network.broadcastAddress (network : Network bits) : Nat :=
  network.networkAddress + network.size - 1

def Network.Contains (network : Network bits) (value : Int) : Prop :=
  network.networkAddress ≤ value ∧ value ≤ network.broadcastAddress

def Network.Covers (outer inner : Network bits) : Prop :=
  ∀ value, inner.Contains value → outer.Contains value

structure Range where
  first : Int
  last : Int
  entry : ThreatEntry
  deriving DecidableEq

structure Ranges where
  raw : List Range
  rows : List Range

def Ranges.start : Ranges := ⟨[], []⟩

def rangeOf (network : Network bits) (entry : ThreatEntry) : Range :=
  ⟨network.networkAddress, network.broadcastAddress, entry⟩

def Ranges.add (ranges : Ranges) (network : Network bits) (entry : ThreatEntry) : Ranges :=
  { ranges with raw := ranges.raw ++ [rangeOf network entry] }

def widestFirst (range : Range) : Int ×ₗ Int := toLex (range.first, -(range.last - range.first))

def freezeStep (rows : List Range) (row : Range) : List Range :=
  match rows.getLast? with
  -- inside (or overlapping) the wider block before it
  | some before => if row.first ≤ before.last then rows else rows ++ [row]
  | none => [row]

def Ranges.freeze (ranges : Ranges) : Ranges :=
  { ranges with rows := (sortOn widestFirst ranges.raw).foldl freezeStep [] }

def bisectRight (starts : List Int) (value : Int) : Nat :=
  (starts.takeWhile fun start => start ≤ value).length

def Ranges.find (ranges : Ranges) (value : Int) : Option ThreatEntry :=
  match bisectRight (ranges.rows.map Range.first) value with
  | 0 => none
  | index + 1 => ranges.rows[index]?.bind fun row => if value ≤ row.last then some row.entry else none

def frozen (added : List (Network bits × ThreatEntry)) : Ranges :=
  (added.foldl (fun ranges item => ranges.add item.1 item.2) Ranges.start).freeze

theorem Network.size_pos (network : Network bits) : 0 < network.size := Nat.two_pow_pos _

theorem Network.contains_iff (network : Network bits) (value : Nat) :
    network.Contains value ↔ value / network.size = network.networkAddress / network.size := by
  have positive := network.size_pos
  obtain ⟨times, multiple⟩ := network.aligned
  change network.networkAddress = network.size * times at multiple
  have own : network.networkAddress / network.size = times := by
    rw [multiple, Nat.mul_div_cancel_left times positive]
  rw [own, Nat.div_eq_iff positive, Network.Contains, Network.broadcastAddress, multiple,
    Nat.mul_comm network.size times]
  omega

theorem Network.covers_of_common {inner outer : Network bits} (value : Nat)
    (shorter : outer.prefixLength ≤ inner.prefixLength) (inInner : inner.Contains value)
    (inOuter : outer.Contains value) : outer.Covers inner := by
  have factor : outer.size = inner.size * 2 ^ (inner.prefixLength - outer.prefixLength) := by
    have sum : bits - outer.prefixLength =
        (bits - inner.prefixLength) + (inner.prefixLength - outer.prefixLength) := by
      have := inner.short
      omega
    rw [Network.size, sum, Nat.pow_add, Network.size]
  intro other inside
  obtain ⟨number, rfl⟩ : ∃ number : Nat, other = number := by
    refine ⟨other.toNat, (Int.toNat_of_nonneg ?_).symm⟩
    have := inside.1
    omega
  rw [Network.contains_iff] at inInner inOuter inside ⊢
  calc number / outer.size
      = number / inner.size / 2 ^ (inner.prefixLength - outer.prefixLength) := by
        rw [factor, Nat.div_div_eq_div_mul]
    _ = value / inner.size / 2 ^ (inner.prefixLength - outer.prefixLength) := by
        rw [inside, inInner]
    _ = value / outer.size := by rw [factor, Nat.div_div_eq_div_mul]
    _ = outer.networkAddress / outer.size := inOuter

theorem Network.first_le_last (network : Network bits) :
    (network.networkAddress : Int) ≤ network.broadcastAddress := by
  have positive := network.size_pos
  unfold Network.broadcastAddress
  omega

theorem Network.covers_within {inner outer : Network bits} (covers : outer.Covers inner)
    (innerEntry outerEntry : ThreatEntry) :
    Within Range.first Range.last (rangeOf inner innerEntry) (rangeOf outer outerEntry) := by
  have low := covers inner.networkAddress ⟨le_refl _, inner.first_le_last⟩
  have high := covers inner.broadcastAddress ⟨inner.first_le_last, le_refl _⟩
  exact ⟨low.1, high.2⟩

theorem rangeOf_laminar (ranges : List Range)
    (networks : ∀ range ∈ ranges, ∃ (network : Network bits) (entry : ThreatEntry),
      range = rangeOf network entry) : Laminar Range.first Range.last ranges := by
  constructor
  · intro range member
    obtain ⟨network, entry, rfl⟩ := networks range member
    exact network.first_le_last
  · intro left inLeft right inRight
    obtain ⟨leftNetwork, leftEntry, rfl⟩ := networks left inLeft
    obtain ⟨rightNetwork, rightEntry, rfl⟩ := networks right inRight
    by_cases before : (leftNetwork.broadcastAddress : Int) < rightNetwork.networkAddress
    · exact .inr (.inr (.inl before))
    by_cases after : (rightNetwork.broadcastAddress : Int) < leftNetwork.networkAddress
    · exact .inr (.inr (.inr after))
    -- They meet where the later one starts.
    have leftOwn := leftNetwork.first_le_last
    have rightOwn := rightNetwork.first_le_last
    have inBoth : leftNetwork.Contains
          (max leftNetwork.networkAddress rightNetwork.networkAddress : Nat) ∧
        rightNetwork.Contains
          (max leftNetwork.networkAddress rightNetwork.networkAddress : Nat) := by
      unfold Network.Contains
      omega
    rcases Nat.le_total leftNetwork.prefixLength rightNetwork.prefixLength with wide | narrow
    · exact .inr (.inl (Network.covers_within
        (Network.covers_of_common _ wide inBoth.2 inBoth.1) _ _))
    · exact .inl (Network.covers_within (Network.covers_of_common _ narrow inBoth.1 inBoth.2) _ _)

theorem freezeStep_eq (rows : List Range) (row : Range) :
    freezeStep rows row = keepStep Range.first Range.last rows row := by
  unfold freezeStep keepStep
  cases rows.getLast? with
  | none => rfl
  | some before => rfl

theorem frozen_rows (added : List (Network bits × ThreatEntry)) :
    (frozen added).rows = outermost Range.first Range.last
      (sortOn widestFirst (added.map fun item => rangeOf item.1 item.2)) := by
  have raw : ∀ (ranges : Ranges), (added.foldl (fun ranges item => ranges.add item.1 item.2)
      ranges).raw = ranges.raw ++ added.map fun item => rangeOf item.1 item.2 := by
    induction added with
    | nil => intro ranges; simp
    | cons item rest ih =>
        intro ranges
        rw [List.foldl_cons, ih, Ranges.add, List.append_assoc]
        rfl
  have step : freezeStep = keepStep Range.first Range.last := by
    funext rows row
    exact freezeStep_eq rows row
  rw [frozen, Ranges.freeze, raw, step]
  rfl

theorem sorted_precedes (ranges : List Range) :
    (sortOn widestFirst ranges).Pairwise (Precedes Range.first Range.last) := by
  refine (sortOn_ascending widestFirst ranges).imp ?_
  intro left right ordered
  rcases Prod.Lex.le_iff.mp ordered with less | ⟨same, wider⟩
  · exact .inl less
  · have starts : left.first = right.first := same
    have sizes : -(left.last - left.first) ≤ -(right.last - right.first) := wider
    exact .inr ⟨starts, by omega⟩

theorem frozen_kept (added : List (Network bits × ThreatEntry)) :
    (∀ range ∈ (frozen added).rows, range.first ≤ range.last) ∧
      Kept Range.first Range.last (added.map fun item => rangeOf item.1 item.2)
        (frozen added).rows := by
  have laminar : Laminar Range.first Range.last
      (sortOn widestFirst (added.map fun item => rangeOf item.1 item.2)) := by
    have networks : ∀ range ∈ sortOn widestFirst (added.map fun item => rangeOf item.1 item.2),
        ∃ (network : Network bits) (entry : ThreatEntry), range = rangeOf network entry := by
      intro range member
      obtain ⟨item, -, rfl⟩ := List.mem_map.mp ((mem_sortOn _ _ _).mp member)
      exact ⟨item.1, item.2, rfl⟩
    exact rangeOf_laminar _ networks
  have held := outermost_kept _ laminar (sorted_precedes _)
  rw [← frozen_rows] at held
  refine ⟨fun range inRows => laminar.nonempty range (held.among range inRows), ?_, held.apart, ?_⟩
  · intro range inRows
    exact (mem_sortOn _ _ _).mp (held.among range inRows)
  · intro range member
    exact held.covers range ((mem_sortOn _ _ _).mpr member)

theorem find_eq (ranges : Ranges) (value : Int) :
    ranges.find value = (candidate Range.first ranges.rows value).bind fun row =>
      if value ≤ row.last then some row.entry else none := by
  have places : bisectRight (ranges.rows.map Range.first) value =
      (ranges.rows.takeWhile fun row => row.first ≤ value).length := by
    rw [bisectRight, List.takeWhile_map, List.length_map]
    rfl
  rw [Ranges.find, places, candidate]
  generalize found : (ranges.rows.takeWhile fun row => decide (row.first ≤ value)) = front
  have prefixed : front <+: ranges.rows := found ▸ List.takeWhile_prefix _
  cases size : front.length with
  | zero =>
      rw [List.length_eq_zero_iff.mp size]
      rfl
  | succ index =>
      have same : ranges.rows[index]? = front[index]? := by
        obtain ⟨rest, joined⟩ := prefixed
        rw [← joined, List.getElem?_append_left (by omega)]
      rw [List.getLast?_eq_getElem?, size]
      simp only [Nat.add_one_sub_one, same]

/-- An address is found exactly when some network added has it, in an entry of a network that no
other one covers, but those with the same addresses; and the rows are in order and apart. -/
theorem find_exact (added : List (Network bits × ThreatEntry)) :
    ((frozen added).rows.Pairwise fun left right => left.first ≤ right.first ∧
        left.last < right.first) ∧
      ∀ value : Int,
        ((frozen added).find value ≠ none ↔ ∃ item ∈ added, item.1.Contains value) ∧
        ∀ entry, (frozen added).find value = some entry →
          ∃ item ∈ added, item.2 = entry ∧ item.1.Contains value ∧
            ∀ other ∈ added, other.1.Covers item.1 → item.1.Covers other.1 := by
  obtain ⟨nonempty, kept⟩ := frozen_kept added
  have ranges : ∀ range ∈ added.map fun item => rangeOf item.1 item.2, range.first ≤ range.last := by
    intro range member
    obtain ⟨item, -, rfl⟩ := List.mem_map.mp member
    exact item.1.first_le_last
  refine ⟨?_, ?_⟩
  · refine kept.apart.imp_of_mem ?_
    intro left right inLeft _ apart
    exact ⟨(nonempty left inLeft).trans (le_of_lt apart), apart⟩
  intro value
  have chosen : ∀ entry, (frozen added).find value = some entry →
      ∃ item ∈ added, item.2 = entry ∧ item.1.Contains value ∧
        rangeOf item.1 item.2 ∈ (frozen added).rows := by
    intro entry found
    rw [find_eq] at found
    obtain ⟨row, located, given⟩ := Option.bind_eq_some_iff.mp found
    obtain ⟨inRows, starts⟩ := candidate_mem located
    split at given
    · rename_i ends
      obtain ⟨item, inAdded, rfl⟩ := List.mem_map.mp (kept.among row inRows)
      exact ⟨item, inAdded, Option.some.inj given, ⟨starts, ends⟩, inRows⟩
    · cases given
  refine ⟨⟨?_, ?_⟩, ?_⟩
  · intro found
    obtain ⟨entry, located⟩ := Option.ne_none_iff_exists'.mp found
    obtain ⟨item, inAdded, -, contains, -⟩ := chosen entry located
    exact ⟨item, inAdded, contains⟩
  · rintro ⟨item, inAdded, contains⟩
    obtain ⟨row, inRows, within⟩ := kept.covers _ (List.mem_map_of_mem inAdded)
    have holds : Holds Range.first Range.last value row :=
      ⟨within.1.trans contains.1, contains.2.trans within.2⟩
    rw [find_eq, candidate_holds nonempty kept.apart inRows holds, Option.bind_some,
      if_pos holds.2]
    exact Option.some_ne_none _
  · intro entry found
    obtain ⟨item, inAdded, named, contains, inRows⟩ := chosen entry found
    refine ⟨item, inAdded, named, contains, ?_⟩
    intro other inOthers covers address inside
    obtain ⟨starts, ends⟩ := kept.outermost ranges inRows (List.mem_map_of_mem inOthers)
      (Network.covers_within covers item.2 other.2)
    have low : (other.1.networkAddress : Int) = item.1.networkAddress := starts
    have high : (other.1.broadcastAddress : Int) = item.1.broadcastAddress := ends
    exact ⟨low ▸ inside.1, high ▸ inside.2⟩

end CloudGuest.ThreatList
