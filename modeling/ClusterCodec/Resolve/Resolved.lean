import ClusterCodec.Resolve.Collision
import ClusterCodec.Resolve.Recursion
import ClusterCodec.Resolve.Repetition
import ClusterCodec.Resolve.SharedStruct

/-!
# Resolved — a cluster that is ready for code generation

- `Resolved`: a cluster with its recursive references.
- `Cluster.resolve`: shared structs are added, type names that collide are settled, identifiers that
  repeat are renamed, and references that close a cycle are found.
-/

namespace ClusterCodec

/-- A cluster together with the references between its structs that lie on a cycle. -/
structure Resolved where
  cluster : Cluster
  recursiveEdges : List (String × String)
  edges_eq : recursiveEdges = StructTable.recursiveEdges cluster.structs

namespace Resolved

/-- Takes a cluster as it is and finds its recursive references. -/
def ofCluster (c : Cluster) : Resolved :=
  ⟨c, StructTable.recursiveEdges c.structs, rfl⟩

/-- Whether a field of `owner` that refers to `target` lies on a cycle. -/
def isRecursive (r : Resolved) (owner target : String) : Bool :=
  (owner, target) ∈ r.recursiveEdges

end Resolved

namespace Cluster

/-- The cluster with every declaration settled. -/
def settle (c : Cluster) : Cluster :=
  let structs := c.withSharedStructs
  { c with
    structs
    enums := (Resolve.settleEnums c.enums structs).mapEntries EnumDecl.withDistinctVariants
      fun _ => rfl
    bitmaps := (Resolve.settleBitmaps c.bitmaps c.enums structs).mapEntries
      BitmapDecl.withDistinctConstants fun _ => rfl }

def resolve (c : Cluster) : Resolved :=
  .ofCluster c.settle

end Cluster
end ClusterCodec
