import ClusterCodec.Schema.Declaration

/-!
# Collision — type names that several declarations would take

- `settleEnum`, `settleEnums`: an enum keeps its suffix where a struct has its type name.
- `settleBitmap`, `settleBitmaps`: a bitmap keeps its suffix where a struct or an enum has its type
  name.

A struct always has its short name. The names compared are those before any suffix is kept.
-/

namespace ClusterCodec
namespace Resolve

def structTypeNames (structs : SymbolTable StructDecl) : List String :=
  structs.toList.map StructDecl.typeName

def enumTypeNames (enums : SymbolTable EnumDecl) : List String :=
  enums.toList.map EnumDecl.typeName

def settleEnum (taken : List String) (e : EnumDecl) : EnumDecl :=
  if e.typeName ∈ taken then { e with keepSuffix := true } else e

def settleBitmap (taken : List String) (b : BitmapDecl) : BitmapDecl :=
  if b.typeName ∈ taken then { b with keepSuffix := true } else b

theorem name_settleEnum (taken : List String) (e : EnumDecl) :
    Named.name (settleEnum taken e) = Named.name e := by
  unfold settleEnum
  split <;> rfl

theorem settleEnum_settleEnum (taken : List String) (e : EnumDecl) :
    settleEnum taken (settleEnum taken e) = settleEnum taken e := by
  unfold settleEnum
  split
  · split <;> rfl
  · rfl

theorem name_settleBitmap (taken : List String) (b : BitmapDecl) :
    Named.name (settleBitmap taken b) = Named.name b := by
  unfold settleBitmap
  split <;> rfl

def settleEnums (enums : SymbolTable EnumDecl) (structs : SymbolTable StructDecl) :
    SymbolTable EnumDecl :=
  enums.mapEntries (settleEnum (structTypeNames structs)) (name_settleEnum _)

def settleBitmaps (bitmaps : SymbolTable BitmapDecl) (enums : SymbolTable EnumDecl)
    (structs : SymbolTable StructDecl) : SymbolTable BitmapDecl :=
  bitmaps.mapEntries (settleBitmap (structTypeNames structs ++ enumTypeNames enums))
    (name_settleBitmap _)

end Resolve
end ClusterCodec
