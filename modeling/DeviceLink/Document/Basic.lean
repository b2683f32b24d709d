import DeviceLink.Dict
import DeviceLink.Decimal.Numeral

/-!
# Documents

A document is what the JSON format can say: null, a truth value, a number, a
text, an array or an object.  Objects are unordered, so a document keeps the
members of each object by increasing key; equal documents are then equal as
values, and a walk over an object visits its members in one order.

`Tree` is the plain tree, `Tree.Ordered` says that every object in it is in
order, and a `Document` is a tree that is.  `Document.view` shows its outermost
layer with the parts as documents again, and `View.close` puts a layer back
together; the two undo each other, so the rest of the library never looks at
trees.
-/

namespace DeviceLink

/-- A JSON value whose objects are lists of members. -/
inductive Tree
  | null
  | bool (b : Bool)
  | word (n : Word)
  | double (x : Double)
  | text (s : String)
  | array (items : List Tree)
  | object (members : List (String × Tree))
deriving Repr, BEq

namespace Tree

mutual

/-- Every object of the tree lists its members by strictly increasing key. -/
def Ordered : Tree → Prop
  | .array items => OrderedItems items
  | .object members => KeysAscend (members.map (·.1)) ∧ OrderedMembers members
  | _ => True

def OrderedItems : List Tree → Prop
  | [] => True
  | t :: rest => t.Ordered ∧ OrderedItems rest

def OrderedMembers : List (String × Tree) → Prop
  | [] => True
  | (_, t) :: rest => t.Ordered ∧ OrderedMembers rest

end

theorem orderedItems_iff {items : List Tree} :
    OrderedItems items ↔ ∀ t ∈ items, t.Ordered := by
  induction items with
  | nil => simp [OrderedItems]
  | cons t rest ih => simp [OrderedItems, ih]

theorem orderedMembers_iff {members : List (String × Tree)} :
    OrderedMembers members ↔ ∀ m ∈ members, m.2.Ordered := by
  induction members with
  | nil => simp [OrderedMembers]
  | cons m rest ih =>
    obtain ⟨k, t⟩ := m
    simp only [OrderedMembers, ih, List.mem_cons, forall_eq_or_imp]

end Tree

/-- A JSON value; the members of every object are in key order. -/
structure Document where
  tree : Tree
  ordered : tree.Ordered
deriving Repr

namespace Document

@[ext]
theorem ext {a b : Document} (h : a.tree = b.tree) : a = b := by
  cases a; cases b; cases h; rfl

inductive View
  | null
  | bool (b : Bool)
  | word (n : Word)
  | double (x : Double)
  | text (s : String)
  | array (items : List Document)
  | object (members : Dict Document)

def null : Document := ⟨.null, trivial⟩
def bool (b : Bool) : Document := ⟨.bool b, trivial⟩
def word (n : Word) : Document := ⟨.word n, trivial⟩
def double (x : Double) : Document := ⟨.double x, trivial⟩
def text (s : String) : Document := ⟨.text s, trivial⟩

def array (items : List Document) : Document :=
  ⟨.array (items.map (·.tree)), by
    rw [Tree.Ordered, Tree.orderedItems_iff]
    intro t ht
    obtain ⟨d, _, rfl⟩ := List.mem_map.mp ht
    exact d.ordered⟩

def object (members : Dict Document) : Document :=
  ⟨.object (members.entries.map fun m => (m.1, m.2.tree)), by
    rw [Tree.Ordered, Tree.orderedMembers_iff]
    refine ⟨?_, ?_⟩
    · have : (members.entries.map fun m => (m.1, m.2.tree)).map (·.1)
          = members.entries.map (·.1) := by simp
      rw [this]
      exact members.ascending
    · intro m hm
      obtain ⟨e, _, rfl⟩ := List.mem_map.mp hm
      exact e.2.ordered⟩

/-- The object of a list of members; of several with one key the last counts. -/
def ofMembers (members : List (String × Document)) : Document :=
  object (Dict.ofList members)

def attachItems : (items : List Tree) → Tree.OrderedItems items → List Document
  | [], _ => []
  | t :: rest, h => ⟨t, h.1⟩ :: attachItems rest h.2

def attachMembers :
    (members : List (String × Tree)) → Tree.OrderedMembers members → List (String × Document)
  | [], _ => []
  | (k, t) :: rest, h => (k, ⟨t, h.1⟩) :: attachMembers rest h.2

theorem keys_attachMembers (members : List (String × Tree)) (h : Tree.OrderedMembers members) :
    (attachMembers members h).map (·.1) = members.map (·.1) := by
  induction members with
  | nil => rfl
  | cons m rest ih => simp [attachMembers, ih h.2]

def view : Document → View
  | ⟨.null, _⟩ => .null
  | ⟨.bool b, _⟩ => .bool b
  | ⟨.word n, _⟩ => .word n
  | ⟨.double x, _⟩ => .double x
  | ⟨.text s, _⟩ => .text s
  | ⟨.array items, h⟩ => .array (attachItems items h)
  | ⟨.object members, h⟩ =>
    .object ⟨attachMembers members h.2, by rw [keys_attachMembers]; exact h.1⟩

def View.close : View → Document
  | .null => Document.null
  | .bool b => Document.bool b
  | .word n => Document.word n
  | .double x => Document.double x
  | .text s => Document.text s
  | .array items => Document.array items
  | .object members => Document.object members

theorem attachItems_map (items : List Document) (h : Tree.OrderedItems (items.map (·.tree))) :
    attachItems (items.map (·.tree)) h = items := by
  induction items with
  | nil => rfl
  | cons d rest ih => simp [attachItems, ih]

theorem attachMembers_map (members : List (String × Document))
    (h : Tree.OrderedMembers (members.map fun m => (m.1, m.2.tree))) :
    attachMembers (members.map fun m => (m.1, m.2.tree)) h = members := by
  induction members with
  | nil => rfl
  | cons m rest ih => simp [attachMembers, ih]

theorem map_attachItems (items : List Tree) (h : Tree.OrderedItems items) :
    (attachItems items h).map (·.tree) = items := by
  induction items with
  | nil => rfl
  | cons t rest ih => simp [attachItems, ih]

theorem map_attachMembers (members : List (String × Tree)) (h : Tree.OrderedMembers members) :
    (attachMembers members h).map (fun m => (m.1, m.2.tree)) = members := by
  induction members with
  | nil => rfl
  | cons m rest ih => simp [attachMembers, ih]

@[simp] theorem view_null : null.view = .null := rfl
@[simp] theorem view_bool (b : Bool) : (bool b).view = .bool b := rfl
@[simp] theorem view_word (n : Word) : (word n).view = .word n := rfl
@[simp] theorem view_double (x : Double) : (double x).view = .double x := rfl
@[simp] theorem view_text (s : String) : (text s).view = .text s := rfl

@[simp] theorem view_array (items : List Document) : (array items).view = .array items := by
  simp only [array, view, View.array.injEq]
  exact attachItems_map _ _

@[simp] theorem view_object (members : Dict Document) :
    (object members).view = .object members := by
  simp only [object, view, View.object.injEq]
  exact Dict.ext (attachMembers_map _ _)

@[simp] theorem view_close (v : View) : v.close.view = v := by
  cases v <;> simp [View.close]

@[simp] theorem close_view (d : Document) : d.view.close = d := by
  obtain ⟨t, h⟩ := d
  apply ext
  cases t with
  | array items => exact congrArg Tree.array (map_attachItems items _)
  | object members => exact congrArg Tree.object (map_attachMembers members _)
  | _ => rfl

end Document

end DeviceLink
