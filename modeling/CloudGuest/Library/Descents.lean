import Mathlib

/-!
Going down a binary tree by the bits of a key until a leaf is reached. Nodes may be
shared, and a key may be longer or shorter than the way to a leaf. No leaf is above
another, so at most one prefix of a key leads to a leaf: the descent ends at the leaf
of the one prefix there is, or runs out of bits inside the tree.
-/

namespace CloudGuest.Descents

universe u
variable {Node : Type u} (child : Node → Bool → Node) (inner : Node → Bool)

def follow : List Bool → Node → Option Node
  | [], node => some node
  | bit :: rest, node => if inner node then follow rest (child node bit) else none

def descend : List Bool → Node → Node
  | [], node => node
  | bit :: rest, node => if inner node then descend rest (child node bit) else node

def Leads (bits : List Bool) (root leaf : Node) : Prop :=
  follow child inner bits root = some leaf ∧ inner leaf = false

variable {child inner}

theorem follow_append (first second : List Bool) (root : Node) :
    follow child inner (first ++ second) root =
      (follow child inner first root).bind (follow child inner second) := by
  induction first generalizing root with
  | nil => rfl
  | cons bit rest ih =>
      simp only [List.cons_append, follow]
      split
      · exact ih _
      · rfl

theorem descend_leaf (bits : List Bool) (leaf : Node) (isLeaf : inner leaf = false) :
    descend child inner bits leaf = leaf := by
  cases bits with
  | nil => rfl
  | cons bit rest => simp [descend, isLeaf]

theorem descend_append (first second : List Bool) (root : Node) :
    descend child inner (first ++ second) root =
      descend child inner second (descend child inner first root) := by
  induction first generalizing root with
  | nil => rfl
  | cons bit rest ih =>
      simp only [List.cons_append, descend]
      split
      · exact ih _
      · rename_i leaf
        exact (descend_leaf second root (by simpa using leaf)).symm

variable (child inner) in
theorem descend_cases (bits : List Bool) (root : Node) :
    (∃ front, front <+: bits ∧ Leads child inner front root (descend child inner bits root)) ∨
      (follow child inner bits root = some (descend child inner bits root) ∧
        inner (descend child inner bits root) = true) := by
  induction bits generalizing root with
  | nil =>
      cases isInner : inner root with
      | true => exact .inr ⟨rfl, isInner⟩
      | false => exact .inl ⟨[], List.nil_prefix, rfl, isInner⟩
  | cons bit rest ih =>
      cases isInner : inner root with
      | false =>
          rw [descend_leaf (bit :: rest) root isInner]
          exact .inl ⟨[], List.nil_prefix, rfl, isInner⟩
      | true =>
          simp only [descend, isInner, if_true]
          rcases ih (child root bit) with ⟨front, isFront, leads, leaf⟩ | ⟨through, inside⟩
          · refine .inl ⟨bit :: front, (List.prefix_cons_inj bit).mpr isFront, ?_, leaf⟩
            simp [follow, isInner, leads]
          · refine .inr ⟨?_, inside⟩
            simp [follow, isInner, through]

theorem follow_past_leaf (front : List Bool) (bit : Bool) (rest : List Bool) (root leaf : Node)
    (leads : Leads child inner front root leaf) :
    follow child inner (front ++ bit :: rest) root = none := by
  rw [follow_append, leads.1, Option.bind_some, follow, leads.2]
  rfl

theorem leads_unique (key first second : List Bool) (root firstLeaf secondLeaf : Node)
    (firstFront : first <+: key) (secondFront : second <+: key)
    (firstLeads : Leads child inner first root firstLeaf)
    (secondLeads : Leads child inner second root secondLeaf) :
    first = second ∧ firstLeaf = secondLeaf := by
  have same : first = second := by
    rcases List.prefix_or_prefix_of_prefix firstFront secondFront with ⟨more, rfl⟩ | ⟨more, rfl⟩
    · cases more with
      | nil => simp
      | cons bit rest =>
          have nowhere := follow_past_leaf first bit rest root firstLeaf firstLeads
          rw [secondLeads.1] at nowhere
          cases nowhere
    · cases more with
      | nil => simp
      | cons bit rest =>
          have nowhere := follow_past_leaf second bit rest root secondLeaf secondLeads
          rw [firstLeads.1] at nowhere
          cases nowhere
  subst same
  exact ⟨rfl, Option.some.inj (firstLeads.1.symm.trans secondLeads.1)⟩

theorem descend_of_leads (key front : List Bool) (root leaf : Node) (isFront : front <+: key)
    (leads : Leads child inner front root leaf) : descend child inner key root = leaf := by
  rcases descend_cases child inner key root with
    ⟨other, otherFront, otherLeads⟩ | ⟨through, inside⟩
  · exact (leads_unique key other front root _ leaf otherFront isFront otherLeads leads).2
  · obtain ⟨more, rfl⟩ := isFront
    cases more with
    | nil =>
        rw [List.append_nil] at through ⊢
        exact Option.some.inj (through.symm.trans leads.1)
    | cons bit rest =>
        rw [follow_past_leaf front bit rest root leaf leads] at through
        cases through

end CloudGuest.Descents
