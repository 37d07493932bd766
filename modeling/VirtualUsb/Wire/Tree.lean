import VirtualUsb.Wire.Layout

/-!
# Descriptor trees

Descriptors nest: configurations below the device, interfaces below a configuration, endpoints and
class descriptors below an interface. A tree is written in pre-order (`DescriptorTree.emit`), and
writing stops as soon as the room is used up.
-/

namespace VirtualUsb

/-- A descriptor with the descriptors below it. -/
inductive DescriptorTree
  | node (root : Descriptor) (children : List DescriptorTree)

namespace DescriptorTree

def root : DescriptorTree → Descriptor
  | node d _ => d

/-- The trees directly below the topmost descriptor. -/
def children : DescriptorTree → List DescriptorTree
  | node _ ts => ts

/-- A descriptor with nothing below it. -/
def leaf (d : Descriptor) : DescriptorTree := node d []

def withRoot (t : DescriptorTree) (d : Descriptor) : DescriptorTree := node d t.children

/-- The tree with one more child, the last. -/
def addChild (t child : DescriptorTree) : DescriptorTree := node t.root (t.children ++ [child])

/-- The topmost descriptor alone. -/
def clearChildren (t : DescriptorTree) : DescriptorTree := leaf t.root

/-! ## Equality -/

mutual

def same : DescriptorTree → DescriptorTree → Bool
  | node d ts, node e us => d == e && sameAll ts us

def sameAll : List DescriptorTree → List DescriptorTree → Bool
  | [], [] => true
  | t :: ts, u :: us => same t u && sameAll ts us
  | _, _ => false

end

mutual

theorem same_iff : ∀ t u : DescriptorTree, same t u = true ↔ t = u
  | node d ts, node e us => by simp [same, sameAll_iff ts us]

theorem sameAll_iff : ∀ ts us : List DescriptorTree, sameAll ts us = true ↔ ts = us
  | [], [] => by simp [sameAll]
  | [], _ :: _ => by simp [sameAll]
  | _ :: _, [] => by simp [sameAll]
  | t :: ts, u :: us => by simp [sameAll, same_iff t u, sameAll_iff ts us]

end

instance : DecidableEq DescriptorTree := fun t u => decidable_of_iff _ (same_iff t u)

/-! ## Walks -/

mutual

/-- The descriptors of a tree, each before those below it. -/
def preorder : DescriptorTree → List Descriptor
  | node d ts => d :: preorderAll ts

/-- The descriptors of a row of trees. -/
def preorderAll : List DescriptorTree → List Descriptor
  | [] => []
  | t :: ts => preorder t ++ preorderAll ts

end

mutual

def totalSize : DescriptorTree → Nat
  | node d ts => d.size + totalSizeAll ts

def totalSizeAll : List DescriptorTree → Nat
  | [] => 0
  | t :: ts => totalSize t + totalSizeAll ts

end

mutual

/-- The tree in pre-order, as much of it as there is room for. -/
def emit (room : Nat) : DescriptorTree → Bytes
  | node d ts =>
    let own := d.toBytes.take room
    if own.length < d.size then own else own ++ emitAll (room - own.length) ts

/-- A row of trees in pre-order, as much of it as there is room for. -/
def emitAll (room : Nat) : List DescriptorTree → Bytes
  | [] => []
  | t :: ts =>
    if room = 0 then []
    else
      let own := emit room t
      own ++ emitAll (room - own.length) ts

end

def toBytes (t : DescriptorTree) : Bytes := t.emit t.totalSize

/-! ## Records in a tree -/

section

variable {α : Type} [Layout α]

def ofLayout (a : α) : DescriptorTree := leaf (Descriptor.ofLayout a)

def decode? (α : Type) [Layout α] (t : DescriptorTree) : Option α := t.root.decode? α

def setLayout (t : DescriptorTree) (a : α) : DescriptorTree := t.withRoot (Descriptor.ofLayout a)

end

def findEndpoint (t : DescriptorTree) (address : UInt8) : Option EndpointDescriptor :=
  (t.preorder.filterMap (Descriptor.decode? EndpointDescriptor)).find? (·.address == address)

/-- The total length that a configuration claims for its tree, at most the largest word. -/
def claimedLength (t : DescriptorTree) : UInt16 := UInt16.ofNat (min t.totalSize 65535)

/-- The configuration with its total length set right. Only a configuration with a whole length
field has one. -/
def withTotalLength? : DescriptorTree → Option DescriptorTree
  | t@(node d ts) =>
    match d with
    | ⟨kind, _ :: _ :: rest, h⟩ =>
      if kind = DescriptorKind.configuration then
        some (node ⟨kind, Bytes.low t.claimedLength :: Bytes.high t.claimedLength :: rest, h⟩ ts)
      else none
    | _ => none

/-! ## Places in a tree -/

/-- The tree at the end of a path of child numbers. -/
def at? (t : DescriptorTree) : List Nat → Option DescriptorTree
  | [] => some t
  | i :: path => t.children[i]?.bind (·.at? path)

/-- The tree with the tree at the end of a path replaced. -/
def update (t : DescriptorTree) (path : List Nat) (f : DescriptorTree → DescriptorTree) :
    DescriptorTree :=
  match path with
  | [] => f t
  | i :: path => node t.root (t.children.modify i (·.update path f))

end DescriptorTree

end VirtualUsb
