import DeviceLink.Document.Basic

/-!
# What is written for a document

Objects are unordered, so a writer may list the members of an object in any
order.  `Tree.Spells` says which trees are written for a document.  How deep a
document nests and whether a double stands in it does not depend on the order.
-/

namespace DeviceLink

namespace Tree

mutual

/-- How many arrays and objects lie around the innermost value. -/
def depth : Tree → Nat
  | .array items => depthItems items + 1
  | .object members => depthMembers members + 1
  | _ => 0

def depthItems : List Tree → Nat
  | [] => 0
  | t :: rest => max t.depth (depthItems rest)

def depthMembers : List (String × Tree) → Nat
  | [] => 0
  | (_, t) :: rest => max t.depth (depthMembers rest)

end

theorem depthItems_le {items : List Tree} {n : Nat} :
    depthItems items ≤ n ↔ ∀ t ∈ items, t.depth ≤ n := by
  induction items with
  | nil => simp [depthItems]
  | cons t rest ih => rw [depthItems, Nat.max_le, ih, List.forall_mem_cons]

theorem depthMembers_le {members : List (String × Tree)} {n : Nat} :
    depthMembers members ≤ n ↔ ∀ m ∈ members, m.2.depth ≤ n := by
  induction members with
  | nil => simp [depthMembers]
  | cons m rest ih => rw [depthMembers, Nat.max_le, ih, List.forall_mem_cons]

mutual

def DoubleFree : Tree → Prop
  | .double _ => False
  | .array items => DoubleFreeItems items
  | .object members => DoubleFreeMembers members
  | _ => True

def DoubleFreeItems : List Tree → Prop
  | [] => True
  | t :: rest => t.DoubleFree ∧ DoubleFreeItems rest

def DoubleFreeMembers : List (String × Tree) → Prop
  | [] => True
  | (_, t) :: rest => t.DoubleFree ∧ DoubleFreeMembers rest

end

theorem doubleFreeItems_iff {items : List Tree} :
    DoubleFreeItems items ↔ ∀ t ∈ items, t.DoubleFree := by
  induction items with
  | nil => simp [DoubleFreeItems]
  | cons t rest ih => rw [DoubleFreeItems, ih, List.forall_mem_cons]

theorem doubleFreeMembers_iff {members : List (String × Tree)} :
    DoubleFreeMembers members ↔ ∀ m ∈ members, m.2.DoubleFree := by
  induction members with
  | nil => simp [DoubleFreeMembers]
  | cons m rest ih => rw [DoubleFreeMembers, ih, List.forall_mem_cons]

end Tree

namespace Document

def depth (d : Document) : Nat := d.tree.depth

def DoubleFree (d : Document) : Prop := d.tree.DoubleFree

theorem depth_array_pos (items : List Document) : 0 < (array items).depth := Nat.succ_pos _

theorem depth_object_pos (members : Dict Document) : 0 < (object members).depth := Nat.succ_pos _

theorem depth_array_le {items : List Document} {n : Nat} :
    (array items).depth ≤ n + 1 ↔ ∀ d ∈ items, d.depth ≤ n := by
  show Tree.depthItems (items.map (·.tree)) + 1 ≤ n + 1 ↔ _
  rw [Nat.add_le_add_iff_right, Tree.depthItems_le, List.forall_mem_map]
  rfl

theorem depth_object_le {members : Dict Document} {n : Nat} :
    (object members).depth ≤ n + 1 ↔ ∀ m ∈ members.entries, m.2.depth ≤ n := by
  show Tree.depthMembers (members.entries.map fun m => (m.1, m.2.tree)) + 1 ≤ n + 1 ↔ _
  rw [Nat.add_le_add_iff_right, Tree.depthMembers_le, List.forall_mem_map]
  rfl

theorem doubleFree_array {items : List Document} :
    (array items).DoubleFree ↔ ∀ d ∈ items, d.DoubleFree := by
  show Tree.DoubleFreeItems (items.map (·.tree)) ↔ _
  rw [Tree.doubleFreeItems_iff, List.forall_mem_map]
  rfl

theorem doubleFree_object {members : Dict Document} :
    (object members).DoubleFree ↔ ∀ m ∈ members.entries, m.2.DoubleFree := by
  show Tree.DoubleFreeMembers (members.entries.map fun m => (m.1, m.2.tree)) ↔ _
  rw [Tree.doubleFreeMembers_iff, List.forall_mem_map]
  rfl

end Document

namespace Tree

mutual

/-- The tree says what the document says and lists the members of every object
once, in any order. -/
inductive Spells : Tree → Document → Prop
  | null : Spells .null .null
  | bool (b : Bool) : Spells (.bool b) (.bool b)
  | word (n : Word) : Spells (.word n) (.word n)
  | double (x : Double) : Spells (.double x) (.double x)
  | text (s : String) : Spells (.text s) (.text s)
  | array {items : List Tree} {ds : List Document} (each : SpellsItems items ds) :
      Spells (.array items) (.array ds)
  | object {members : List (String × Tree)} {entries : List (String × Document)}
      {dict : Dict Document} (each : SpellsMembers members entries)
      (order : entries.Perm dict.entries) : Spells (.object members) (.object dict)

inductive SpellsItems : List Tree → List Document → Prop
  | nil : SpellsItems [] []
  | cons {t : Tree} {d : Document} {items : List Tree} {ds : List Document} (first : Spells t d)
      (rest : SpellsItems items ds) : SpellsItems (t :: items) (d :: ds)

inductive SpellsMembers : List (String × Tree) → List (String × Document) → Prop
  | nil : SpellsMembers [] []
  | cons {key : String} {t : Tree} {d : Document} {members : List (String × Tree)}
      {entries : List (String × Document)} (first : Spells t d)
      (rest : SpellsMembers members entries) :
      SpellsMembers ((key, t) :: members) ((key, d) :: entries)

end

mutual

/-- The tree of a document lists the members of every object by key, which is
one of the orders. -/
theorem spells_mk : ∀ (t : Tree) (ordered : t.Ordered), t.Spells ⟨t, ordered⟩
  | .null, _ => .null
  | .bool b, _ => .bool b
  | .word n, _ => .word n
  | .double x, _ => .double x
  | .text s, _ => .text s
  | .array items, ordered => by
      have hclose : (⟨.array items, ordered⟩ : Document) =
          .array (Document.attachItems items ordered) := (Document.close_view _).symm
      rw [hclose]
      exact .array (spellsItems_attach items ordered)
  | .object members, ordered => by
      have hclose := (Document.close_view ⟨.object members, ordered⟩).symm
      rw [hclose]
      exact .object (spellsMembers_attach members ordered.2) (List.Perm.refl _)

theorem spellsItems_attach : ∀ (items : List Tree) (ordered : OrderedItems items),
    SpellsItems items (Document.attachItems items ordered)
  | [], _ => .nil
  | t :: rest, ordered => .cons (spells_mk t ordered.1) (spellsItems_attach rest ordered.2)

theorem spellsMembers_attach : ∀ (members : List (String × Tree))
    (ordered : OrderedMembers members),
    SpellsMembers members (Document.attachMembers members ordered)
  | [], _ => .nil
  | (_, t) :: rest, ordered => .cons (spells_mk t ordered.1) (spellsMembers_attach rest ordered.2)

end

end Tree

end DeviceLink
