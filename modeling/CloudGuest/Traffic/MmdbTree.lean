import CloudGuest.Library.BigEndian
import CloudGuest.Library.Descents
import CloudGuest.Traffic.MmdbTotality

/-!
The search tree of a MaxMind DB file: its nodes packed at the front of the file, two
children each, below the data they lead to. Reading a packed node gives its children
in all three layouts, so the walk of a lookup is the descent by the bits of the key,
and the node precomputed for IPv4 is where that descent stands after 96 zeros.
-/

namespace CloudGuest.Traffic.Mmdb

open Texts Faults Descents

abbrev Children := Nat × Nat

section Packing

def packNode (recordSize : Nat) (node : Children) : Bytes :=
  -- A node in the three layouts; in 28 bits the fourth byte is shared, the left child's half
  -- first.
  if recordSize = 24 then BigEndian.write 3 node.1 ++ BigEndian.write 3 node.2
  else if recordSize = 28 then
    BigEndian.write 3 (node.1 % 2 ^ 24) ++
      UInt8.ofNat (node.1 / 2 ^ 24 * 16 + node.2 / 2 ^ 24) :: BigEndian.write 3 (node.2 % 2 ^ 24)
  else BigEndian.write 4 node.1 ++ BigEndian.write 4 node.2

def packTree (recordSize : Nat) (nodes : List Children) : Bytes :=
  nodes.flatMap (packNode recordSize)

def Children.side (node : Children) (right : Bool) : Nat := if right then node.2 else node.1

theorem packNode_length (recordSize : Nat) (layout : recordSize ∈ [24, 28, 32])
    (node : Children) : (packNode recordSize node).length = recordSize / 4 := by
  simp only [List.mem_cons, List.not_mem_nil, or_false] at layout
  rcases layout with rfl | rfl | rfl <;> simp [packNode]

theorem chunk_flatMap {Item Symbol : Type} (pack : Item → List Symbol) (width : Nat)
    (wide : ∀ item, (pack item).length = width) (items : List Item) (rest : List Symbol)
    (place : Nat) (item : Item) (found : items[place]? = some item) :
    ((items.flatMap pack ++ rest).drop (place * width)).take width = pack item := by
  induction items generalizing place with
  | nil => simp at found
  | cons first more ih =>
      cases place with
      | zero =>
          obtain rfl : first = item := by simpa using found
          rw [Nat.zero_mul, List.drop_zero, List.flatMap_cons, List.append_assoc, ← wide first,
            List.take_left]
      | succ place =>
          have later := ih place (by simpa using found)
          rwa [List.flatMap_cons, List.append_assoc, Nat.succ_mul, Nat.add_comm, ← List.drop_drop,
            ← wide first, List.drop_left, wide first]

theorem fromBytes_write (width number : Nat) (fits : number < 256 ^ width) :
    fromBytes (BigEndian.write width number) = number := BigEndian.read_write width number fits

theorem shared_halves (high low : Nat) (highSmall : high < 16) (lowSmall : low < 16) :
    (UInt8.ofNat (high * 16 + low)).toNat / 16 = high ∧
      (UInt8.ofNat (high * 16 + low)).toNat % 16 = low := by
  rw [UInt8.toNat_ofNat_of_lt' (by change high * 16 + low < 256; omega)]
  omega

theorem chunk_children (recordSize : Nat) (layout : recordSize ∈ [24, 28, 32]) (node : Children)
    (fits : node.1 < 2 ^ recordSize ∧ node.2 < 2 ^ recordSize) (right : Bool) :
    (if recordSize = 24 then
        (.ok (fromBytes (if right then (packNode recordSize node).drop 3
          else (packNode recordSize node).take 3)) : Except Fault Nat)
      else if recordSize = 28 then
        .ok (if right then ((packNode recordSize node).getD 3 0).toNat % 16 * 2 ^ 24 +
            fromBytes ((packNode recordSize node).drop 4)
          else ((packNode recordSize node).getD 3 0).toNat / 16 * 2 ^ 24 +
            fromBytes ((packNode recordSize node).take 3))
      else .ok (fromBytes (if right then (packNode recordSize node).drop 4
        else (packNode recordSize node).take 4))) = .ok (node.side right) := by
  obtain ⟨left, rightChild⟩ := node
  simp only [List.mem_cons, List.not_mem_nil, or_false] at layout
  -- The records of 24 and 32 bits are whole bytes; those of 28 share the fourth byte.
  rcases layout with rfl | rfl | rfl
  · have back : fromBytes (BigEndian.write 3 left) = left ∧
        fromBytes (BigEndian.write 3 rightChild) = rightChild :=
      ⟨fromBytes_write 3 left fits.1, fromBytes_write 3 rightChild fits.2⟩
    cases right <;> simp [packNode, Children.side, back]
  · have halves := shared_halves (left / 2 ^ 24) (rightChild / 2 ^ 24)
      (Nat.div_lt_of_lt_mul fits.1) (Nat.div_lt_of_lt_mul fits.2)
    have back (child : Nat) : fromBytes (BigEndian.write 3 (child % 2 ^ 24)) = child % 2 ^ 24 :=
      fromBytes_write 3 _ (Nat.mod_lt _ (by decide))
    have shared : (packNode 28 (left, rightChild)).getD 3 0 =
        UInt8.ofNat (left / 2 ^ 24 * 16 + rightChild / 2 ^ 24) := by
      simp [packNode, List.getD]
    have front : (packNode 28 (left, rightChild)).take 3 =
        BigEndian.write 3 (left % 2 ^ 24) := by
      simp [packNode]
    have rear : (packNode 28 (left, rightChild)).drop 4 =
        BigEndian.write 3 (rightChild % 2 ^ 24) := by
      simp [packNode, List.drop_append]
    rw [if_neg (by decide), if_pos rfl, shared, front, rear, back, back, halves.1, halves.2,
      Nat.div_add_mod', Nat.div_add_mod']
    rfl
  · have back : fromBytes (BigEndian.write 4 left) = left ∧
        fromBytes (BigEndian.write 4 rightChild) = rightChild :=
      ⟨fromBytes_write 4 left fits.1, fromBytes_write 4 rightChild fits.2⟩
    cases right <;> simp [packNode, Children.side, back]

theorem readNode_packed (tree : Tree) (layout : tree.recordSize ∈ [24, 28, 32])
    (nodes : List Children) (packed : packTree tree.recordSize nodes <+: tree.file) (place : Nat)
    (node : Children) (found : nodes[place]? = some node)
    (fits : node.1 < 2 ^ tree.recordSize ∧ node.2 < 2 ^ tree.recordSize) (right : Bool) :
    tree.readNode place right = .ok (node.side right) := by
  obtain ⟨rest, whole⟩ := packed
  have chunk : (tree.file.drop (place * tree.nodeBytes)).take tree.nodeBytes =
      packNode tree.recordSize node := by
    rw [← whole]
    exact chunk_flatMap _ _ (packNode_length tree.recordSize layout) nodes rest place node found
  have length : (packNode tree.recordSize node).length = tree.nodeBytes :=
    packNode_length tree.recordSize layout node
  have read := chunk_children tree.recordSize layout node fits right
  unfold Tree.readNode
  simp only [chunk]
  rw [if_neg (not_not.mpr length)]
  exact read

end Packing

section Lookup

def childOf (nodes : List Children) (node : Nat) (right : Bool) : Nat :=
  (nodes.getD node (0, 0)).side right

def isNode (nodes : List Children) (node : Nat) : Bool := node < nodes.length

/-- The tree maps the prefix to the record the pointer leads to; the number of nodes itself
leads to none. -/
def Mapped (nodes : List Children) (front : List Bool) (pointer : Nat) : Prop :=
  Leads (childOf nodes) (isNode nodes) front 0 pointer ∧ nodes.length < pointer

structure LongestPrefix (nodes : List Children) (key front : List Bool) (pointer : Nat) : Prop where
  isFront : front <+: key
  mapped : Mapped nodes front pointer
  longest : ∀ other otherPointer, other <+: key → Mapped nodes other otherPointer →
    other.length ≤ front.length
  unique : ∀ other otherPointer, other <+: key → Mapped nodes other otherPointer →
    other = front ∧ otherPointer = pointer

def keyOf (ipVersion : Int) (address : Address) : Option (List Bool) :=
  -- The bits an address is looked up by; IPv4 is under `::/96`, and IPv6 in no IPv4 database.
  if address.val.length = 4 then
    some ((if ipVersion = 4 then [] else List.replicate 96 false) ++ address.val.flatMap bitsOf)
  else if ipVersion = 4 then none
  else some (address.val.flatMap bitsOf)

structure ValidTree (tree : Tree) (nodes : List Children) : Prop where
  layout : tree.recordSize ∈ [24, 28, 32]
  count : tree.nodeCount = nodes.length
  packed : packTree tree.recordSize nodes <+: tree.file
  fits : ∀ node ∈ nodes, node.1 < 2 ^ tree.recordSize ∧ node.2 < 2 ^ tree.recordSize

theorem walk_valid (tree : Tree) (nodes : List Children) (valid : ValidTree tree nodes)
    (bits : List Bool) (node : Nat) :
    tree.walk bits node = .ok (descend (childOf nodes) (isNode nodes) bits node) := by
  induction bits generalizing node with
  | nil => rfl
  | cons bit rest ih =>
      rw [Tree.walk, descend, valid.count]
      -- Past the last node the walk and the descent both stay where they are.
      by_cases inside : node < nodes.length
      · have found : nodes[node]? = some nodes[node] := List.getElem?_eq_getElem inside
        have read := readNode_packed tree valid.layout nodes valid.packed node _ found
          (valid.fits _ (List.getElem_mem inside)) bit
        have child : childOf nodes node bit = nodes[node].side bit := by
          simp [childOf, List.getD_eq_getElem?_getD, found]
        rw [if_neg (by omega), read, if_pos (by simpa [isNode] using inside), child]
        exact ih _
      · rw [if_pos (by omega), if_neg (by simpa [isNode] using inside)]

def recordAt (python : Python) (tree : Tree) (pointer : Nat) : Option Value :=
  -- What is decoded where a pointer leads: past the separator, as far into the data section as the
  -- pointer is past the nodes and the separator.
  match decode python tree.file tree.dataStart (maxDepth + 1)
      (tree.dataStart + (pointer - tree.nodeCount - dataSeparator)) with
  | .ok (value, _) => some value
  | .error _ => none

theorem get_of_walk (python : Python) (reader : Reader) (address : Address) (node : Nat)
    (supported : ¬(address.val.length ≠ 4 ∧ reader.ipVersion = 4))
    (walked : reader.tree.walk (address.val.flatMap bitsOf)
      (if address.val.length = 4 then reader.ipv4Start else 0) = .ok node) :
    get python reader address =
      .ok (if node ≤ reader.tree.nodeCount then none else recordAt python reader.tree node) := by
  have offset : (node : Int) - reader.tree.nodeCount + reader.tree.size =
      reader.tree.dataStart + (node - reader.tree.nodeCount - dataSeparator) := by
    unfold Tree.dataStart
    omega
  -- Whatever decoding raises here is caught, so the answer is nothing then.
  have raises := decode_raises python reader.tree.file reader.tree.dataStart (maxDepth + 1)
    (reader.tree.dataStart + (node - reader.tree.nodeCount - dataSeparator))
  unfold get lookUp
  rw [if_neg supported]
  dsimp only
  rw [walked]
  by_cases inside : (node : Int) ≤ reader.tree.nodeCount
  · simp only [bind, Except.bind, if_pos inside]
    rfl
  · simp only [bind, Except.bind, if_neg inside, offset, recordAt]
    cases decoded : decode python reader.tree.file reader.tree.dataStart (maxDepth + 1)
        (reader.tree.dataStart + (node - reader.tree.nodeCount - dataSeparator)) with
    | ok found => rfl
    | error fault =>
        rw [decoded] at raises
        have caught : fault.caughtAtGet = true := by
          cases raises fault rfl with
          | mmdbError message => rfl
          | valueError => rfl
        simp only [caught, if_true]

theorem construct_reader (python : Python) (file : Bytes) (reader : Reader)
    (opened : construct python file = .ok reader) :
    reader.tree.file = file ∧ reader.tree.recordSize ∈ [24, 28, 32] ∧
      (reader.ipVersion = 4 ∨ reader.ipVersion = 6) ∧
      reader.tree.findIpv4Start reader.ipVersion = .ok reader.ipv4Start := by
  have fromFile : openFile python file = .ok reader := by
    unfold construct at opened
    split at opened
    · cases opened
    · split at opened
      · split at opened
        · cases opened
        · cases opened
      · exact opened
  unfold openFile at fromFile
  split at fromFile
  · cases fromFile
  · obtain ⟨metadata, -, read⟩ := bind_ok.mp fromFile
    split at read
    · obtain ⟨nodeCount, -, read⟩ := bind_ok.mp read
      obtain ⟨recordSize, -, read⟩ := bind_ok.mp read
      obtain ⟨ipVersion, -, read⟩ := bind_ok.mp read
      split at read
      · cases read
      · rename_i layout
        rw [not_or, not_not, not_not] at layout
        simp only [List.mem_cons, List.not_mem_nil, or_false] at layout
        dsimp only at read
        split at read
        · cases read
        · obtain ⟨ipv4Start, start, read⟩ := bind_ok.mp read
          cases read
          refine ⟨rfl, ?_, layout.2, start⟩
          rcases layout.1 with rfl | rfl | rfl <;> simp
    · cases read

variable {nodes : List Children}

theorem mapped_of_descend (key : List Bool) (beyond : nodes.length <
    descend (childOf nodes) (isNode nodes) key 0) :
    ∃ front, LongestPrefix nodes key front (descend (childOf nodes) (isNode nodes) key 0) := by
  rcases descend_cases (childOf nodes) (isNode nodes) key 0 with
    ⟨front, isFront, leads⟩ | ⟨-, inside⟩
  -- The tree leads away from a key at one place only.
  · have unique : ∀ other pointer, other <+: key → Mapped nodes other pointer →
        other = front ∧ pointer = descend (childOf nodes) (isNode nodes) key 0 :=
      fun other pointer otherFront mapped =>
        leads_unique key other front 0 pointer _ otherFront isFront mapped.1 leads
    refine ⟨front, isFront, ⟨leads, beyond⟩, ?_, unique⟩
    intro other pointer otherFront mapped
    rw [(unique other pointer otherFront mapped).1]
  · simp only [isNode, decide_eq_true_eq] at inside
    omega

theorem unmapped_of_descend (key : List Bool)
    (within : descend (childOf nodes) (isNode nodes) key 0 ≤ nodes.length) :
    ∀ front pointer, front <+: key → ¬ Mapped nodes front pointer := by
  intro front pointer isFront mapped
  have ends := descend_of_leads key front 0 pointer isFront mapped.1
  have beyond := mapped.2
  omega

theorem walk_key (python : Python) (file : Bytes) (reader : Reader)
    (opened : construct python file = .ok reader) (valid : ValidTree reader.tree nodes)
    (address : Address) (key : List Bool) (keyed : keyOf reader.ipVersion address = some key) :
    reader.tree.walk (address.val.flatMap bitsOf)
      (if address.val.length = 4 then reader.ipv4Start else 0) =
        .ok (descend (childOf nodes) (isNode nodes) key 0) := by
  -- The walk of a lookup is the descent by the address's key, also where IPv4 begins.
  obtain ⟨-, -, -, start⟩ := construct_reader python file reader opened
  rw [walk_valid reader.tree nodes valid]
  unfold keyOf at keyed
  unfold Tree.findIpv4Start at start
  split at keyed
  · rename_i four
    obtain rfl := Option.some.inj keyed
    rw [if_pos four]
    split at start
    · rename_i ipv4
      rw [if_pos ipv4, List.nil_append, ← Except.ok.inj start]
    · rename_i ipv6
      -- The constructor has walked the 96 zeros already; the lookup goes on from there.
      rw [if_neg ipv6, descend_append]
      rw [walk_valid reader.tree nodes valid, Except.ok.injEq] at start
      rw [start]
  · rename_i sixteen
    rw [if_neg sixteen]
    split at keyed
    · cases keyed
    · rw [Option.some.inj keyed]

def embedded (packed : Bytes) (four : packed.length = 4) : Address :=
  ⟨List.replicate 12 0 ++ packed, .inr (by simp [four])⟩

/-- A lookup gives the record of the one prefix of the address the tree maps, or nothing; and
IPv4 addresses are those under `::/96`. -/
theorem get_longest_prefix (python : Python) (file : Bytes) (reader : Reader)
    (opened : construct python file = .ok reader) (nodes : List Children)
    (valid : ValidTree reader.tree nodes) :
    (∀ address key, keyOf reader.ipVersion address = some key →
      (∃ front pointer, LongestPrefix nodes key front pointer ∧
        get python reader address = .ok (recordAt python reader.tree pointer)) ∨
      (∀ front pointer, front <+: key → ¬ Mapped nodes front pointer) ∧
        get python reader address = .ok none) ∧
    (∀ address, keyOf reader.ipVersion address = none → get python reader address = .ok none) ∧
    (reader.ipVersion = 6 → ∀ packed four,
      get python reader ⟨packed, .inl four⟩ = get python reader (embedded packed four)) := by
  -- Every lookup of an address with a key answers by the node the descent ends at.
  have answer : ∀ address key, keyOf reader.ipVersion address = some key →
      get python reader address =
        .ok (if descend (childOf nodes) (isNode nodes) key 0 ≤ nodes.length then none
          else recordAt python reader.tree (descend (childOf nodes) (isNode nodes) key 0)) := by
    intro address key keyed
    have supported : ¬(address.val.length ≠ 4 ∧ reader.ipVersion = 4) := by
      rintro ⟨sixteen, ipv4⟩
      simp [keyOf, sixteen, ipv4] at keyed
    rw [get_of_walk python reader address _ supported
      (walk_key python file reader opened valid address key keyed), valid.count]
    simp only [Nat.cast_le]
  refine ⟨?_, ?_, ?_⟩
  · intro address key keyed
    rw [answer address key keyed]
    split
    · rename_i within
      exact .inr ⟨unmapped_of_descend key within, rfl⟩
    · rename_i beyond
      obtain ⟨front, longest⟩ := mapped_of_descend key (Nat.lt_of_not_le beyond)
      exact .inl ⟨front, _, longest, rfl⟩
  · intro address unkeyed
    unfold keyOf at unkeyed
    split at unkeyed
    · cases unkeyed
    · rename_i sixteen
      split at unkeyed
      · rename_i ipv4
        simp [get, lookUp, sixteen, ipv4]
      · cases unkeyed
  · intro ipv6 packed four
    have zeros : (List.replicate 12 (0 : UInt8)).flatMap bitsOf = List.replicate 96 false := by
      decide
    -- Both addresses have the same bits to look up by.
    have key4 : keyOf reader.ipVersion ⟨packed, .inl four⟩ =
        some (List.replicate 96 false ++ packed.flatMap bitsOf) := by
      simp [keyOf, four, ipv6]
    have key6 : keyOf reader.ipVersion (embedded packed four) =
        some (List.replicate 96 false ++ packed.flatMap bitsOf) := by
      simp only [keyOf, embedded, ipv6, List.flatMap_append, zeros, List.length_append,
        List.length_replicate, four]
      rfl
    rw [answer _ _ key4, answer _ _ key6]

def halfTree : List Children := [(17, 1)]

def halfFile : Bytes :=
  packTree 28 halfTree ++ List.replicate 16 0 ++ [0x42, 0x49, 0x4e] ++ metadataMarker ++
    [0xe3, 0x4a, 0x6e, 0x6f, 0x64, 0x65, 0x5f, 0x63, 0x6f, 0x75, 0x6e, 0x74, 0xa1, 1] ++
    [0x4b, 0x72, 0x65, 0x63, 0x6f, 0x72, 0x64, 0x5f, 0x73, 0x69, 0x7a, 0x65, 0xa1, 28] ++
    [0x4a, 0x69, 0x70, 0x5f, 0x76, 0x65, 0x72, 0x73, 0x69, 0x6f, 0x6e, 0xa1, 6]

def halfReader : Reader where
  tree := ⟨halfFile, 1, 28⟩
  metadata := [(nodeCountName, .int 1), (recordSizeName, .int 28), (ipVersionName, .int 6)]
  ipVersion := 6
  ipv4Start := 17

/-- 10.0.0.1 and its address under `::/96` both get the text. -/
theorem get_longest_prefix_half :
    (∃ front pointer,
      LongestPrefix halfTree (List.replicate 96 false ++ [10, 0, 0, 1].flatMap bitsOf) front pointer ∧
      get plainPython halfReader ⟨[10, 0, 0, 1], .inl rfl⟩ =
        .ok (recordAt plainPython halfReader.tree pointer)) ∧
    get plainPython halfReader ⟨[10, 0, 0, 1], .inl rfl⟩ =
      get plainPython halfReader (embedded [10, 0, 0, 1] rfl) := by
  have opened : construct plainPython halfFile = .ok halfReader := rfl
  have valid : ValidTree halfReader.tree halfTree :=
    ⟨by decide, rfl, ⟨_, rfl⟩, by decide⟩
  obtain ⟨found, -, same⟩ :=
    get_longest_prefix plainPython halfFile halfReader opened halfTree valid
  refine ⟨?_, same rfl [10, 0, 0, 1] rfl⟩
  rcases found ⟨[10, 0, 0, 1], .inl rfl⟩ _ rfl with longest | ⟨unmapped, -⟩
  · exact longest
  · exact absurd ⟨⟨rfl, rfl⟩, by decide⟩ (unmapped [false] 17 ⟨_, rfl⟩)

end Lookup

end CloudGuest.Traffic.Mmdb
