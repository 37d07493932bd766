import VirtualUsb.Wire.Tree

/-!
# Flat configurations

A device sends a configuration flat, one descriptor after another. `Configuration.split` cuts the
bytes into descriptors, `Configuration.nest` puts what follows an interface below it, and
`Configuration.parse` rebuilds the tree.
-/

namespace VirtualUsb.Configuration

/-- The descriptors that follow one another in some bytes, up to the first that has no header, is
shorter than its header or runs past the end. -/
def split : Bytes → List Descriptor
  | length :: kind :: rest =>
    if length.toNat < 2 ∨ rest.length + 2 < length.toNat then []
    else
      Descriptor.ofPayload kind (rest.take (length.toNat - 2)) ::
        split (rest.drop (length.toNat - 2))
  | _ => []
termination_by bytes => bytes.length
decreasing_by simp only [List.length_drop, List.length_cons]; omega

def opensInterface (d : Descriptor) : Bool := d.kind == DescriptorKind.interface

/-- The descriptors as a row of trees: what follows an interface, up to the next one, stands below
it. -/
def nest : List Descriptor → List DescriptorTree
  | [] => []
  | d :: ds =>
    if opensInterface d then
      .node d ((ds.takeWhile (!opensInterface ·)).map .leaf) ::
        nest (ds.dropWhile (!opensInterface ·))
    else .leaf d :: nest ds
termination_by ds => ds.length
decreasing_by
  · have := (List.dropWhile_suffix (l := ds) (!opensInterface ·)).length_le
    simp only [List.length_cons]
    omega
  · simp

/-- The configuration in some bytes; what stands before another kind of descriptor is none. -/
def parse (bytes : Bytes) : Option DescriptorTree :=
  match Descriptor.ofBytes bytes with
  | none => none
  | some d =>
    if d.kind = DescriptorKind.configuration then
      some (.node d (nest (split (bytes.drop d.size))))
    else none

end VirtualUsb.Configuration
