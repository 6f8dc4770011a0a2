import ClusterCodec.Schema.Cluster

/-!
# SharedStruct — structs that several clusters use without declaring them

- `sharedStruct?`: the built-in declarations.
- `Cluster.withSharedStructs`: the struct table with those that attributes and struct fields name;
  `get?_withSharedStructs` says what a name stands for in it.
-/

namespace ClusterCodec

/-- The built-in declaration of a shared struct. -/
def sharedStruct? (name : String) : Option StructDecl :=
  if name = "LocationDescriptorStruct" then
    some {
      name := "LocationDescriptorStruct"
      fields := [
        { id := 0, name := "LocationName", typeName := "string" },
        { id := 1, name := "FloorNumber", typeName := "uint16" },
        { id := 2, name := "AreaType", typeName := "uint8" }] }
  else none

theorem name_of_sharedStruct? {name : String} {d : StructDecl} (h : sharedStruct? name = some d) :
    d.name = name := by
  unfold sharedStruct? at h
  split at h
  · next same =>
    cases h
    exact same.symm
  · cases h

/-- The type names that a field is written with. -/
def Field.typeNames (f : Field) : List String :=
  f.typeName :: f.entryType.toList

/-- The fields of shared structs are written with scalar types only. -/
theorem sharedStruct?_of_mem_fields {name typeName : String} {d : StructDecl} {f : Field}
    (h : sharedStruct? name = some d) (hf : f ∈ d.fields) (ht : typeName ∈ f.typeNames) :
    sharedStruct? typeName = none := by
  have scalars : ∀ f ∈ d.fields, ∀ typeName ∈ f.typeNames, sharedStruct? typeName = none := by
    unfold sharedStruct? at h
    split at h
    · cases h
      decide
    · cases h
  exact scalars f hf typeName ht

namespace Cluster

/-- The type names that the attributes and the declared structs are written with. -/
def referredTypes (c : Cluster) : List String :=
  (c.attributes.map Attribute.field ++ c.structs.toList.flatMap StructDecl.fields).flatMap
    Field.typeNames

def addShared (structs : SymbolTable StructDecl) (name : String) : SymbolTable StructDecl :=
  if structs.contains name then structs
  else match sharedStruct? name with
    | some shared => structs.insert shared
    | none => structs

/-- The declared structs, then the shared ones that are referred to and not declared. -/
def withSharedStructs (c : Cluster) : SymbolTable StructDecl :=
  c.referredTypes.foldl addShared c.structs

theorem get?_addShared (structs : SymbolTable StructDecl) (name n : String) :
    (addShared structs name).get? n =
      (structs.get? n).or (if n = name then sharedStruct? n else none) := by
  unfold addShared
  split
  · next declared =>
    split
    · next same =>
      -- The declaration of the cluster comes first.
      have known : n ∈ structs.names := same ▸ SymbolTable.contains_eq_true_iff.1 declared
      cases found : structs.get? n with
      | none => exact (SymbolTable.get?_eq_none_iff.1 found known).elim
      | some d => rfl
    · rw [Option.or_none]
  · next missing =>
    have unknown : structs.get? name = none :=
      SymbolTable.get?_eq_none_iff.2 fun known =>
        missing (SymbolTable.contains_eq_true_iff.2 known)
    cases shared : sharedStruct? name with
    | none =>
      by_cases same : n = name
      · rw [if_pos same, same, shared, Option.or_none]
      · rw [if_neg same, Option.or_none]
    | some d =>
      have named : Named.name d = name := name_of_sharedStruct? shared
      simp only [SymbolTable.get?_insert, named]
      by_cases same : n = name
      · rw [if_pos same, if_pos same, same, unknown, shared, Option.none_or]
      · rw [if_neg same, if_neg same, Option.or_none]

theorem get?_foldl_addShared (names : List String) (structs : SymbolTable StructDecl) (n : String) :
    (names.foldl addShared structs).get? n =
      (structs.get? n).or (if n ∈ names then sharedStruct? n else none) := by
  induction names generalizing structs with
  | nil => simp
  | cons name names ih =>
    rw [List.foldl_cons, ih, get?_addShared, Option.or_assoc]
    congr 1
    by_cases same : n = name
    · by_cases later : n ∈ names
      · rw [if_pos same, if_pos later, if_pos (.tail _ later), Option.or_self]
      · rw [if_pos same, if_neg later, if_pos (same ▸ .head _), Option.or_none]
    · simp only [same, if_false, Option.none_or, List.mem_cons, false_or]

/-- A name stands for the struct that the cluster declares, or else for the shared struct if the
name is referred to. -/
theorem get?_withSharedStructs (c : Cluster) (n : String) :
    c.withSharedStructs.get? n =
      (c.structs.get? n).or (if n ∈ c.referredTypes then sharedStruct? n else none) :=
  get?_foldl_addShared c.referredTypes c.structs n

theorem foldl_addShared_eq_self {names : List String} {structs : SymbolTable StructDecl}
    (h : ∀ name ∈ names, name ∈ structs.names ∨ sharedStruct? name = none) :
    names.foldl addShared structs = structs := by
  induction names with
  | nil => rfl
  | cons name names ih =>
    have step : addShared structs name = structs := by
      unfold addShared
      rcases h name List.mem_cons_self with known | unshared
      · rw [if_pos (SymbolTable.contains_eq_true_iff.2 known)]
      · rw [unshared, ite_self]
    rw [List.foldl_cons, step]
    exact ih fun n hn => h n (.tail _ hn)

end Cluster
end ClusterCodec
