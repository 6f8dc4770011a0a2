import ClusterCodec.Schema.Declaration

/-!
# Representation — how a type name is carried on the wire and in the generated source

- `wireTagOf`: the encoding of a type name. Enums take one byte; bitmaps take the width of their
  positions.
- `NativeType`, `nativeTypeOf`: the type of the generated source.
-/

namespace ClusterCodec

/-- A type of the generated source. -/
inductive NativeType where
  | scalar (type : Scalar)
  | named (name : String)
  | list (element : NativeType)
  deriving Repr, DecidableEq

def NativeType.text : NativeType → String
  | .scalar type => type.text
  | .named name => name
  | .list element => "Vec<" ++ element.text ++ ">"

def wireTagOf (typeName : String) (bitmaps : Option (SymbolTable BitmapDecl)) : WireTag :=
  if hasSuffix enumSuffix typeName then .uint8
  else if hasSuffix bitmapSuffix typeName then
    ((bitmaps.bind (·.get? typeName)).map BitmapDecl.wireTag).getD .uint8
  else ((typeRow? typeName).map TypeRow.tag).getD fallbackTag

/-- The type of a single value, whatever the list marker says. -/
def elementTypeOf (typeName : String) (enums : Option (SymbolTable EnumDecl))
    (bitmaps : Option (SymbolTable BitmapDecl)) : NativeType :=
  if hasSuffix enumSuffix typeName then
    match enums.bind (·.get? typeName) with
    | some e => .named e.typeName
    | none => .scalar fallbackScalar
  else if hasSuffix bitmapSuffix typeName then
    match bitmaps.bind (·.get? typeName) with
    | some b => .named b.typeName
    | none => .scalar fallbackScalar
  else .scalar (((typeRow? typeName).bind TypeRow.scalar).getD fallbackScalar)

def nativeTypeOf (typeName : String) (isList : Bool) (enums : Option (SymbolTable EnumDecl))
    (bitmaps : Option (SymbolTable BitmapDecl)) : NativeType :=
  let element := elementTypeOf typeName enums bitmaps
  if isList || typeName == listType then .list element else element

end ClusterCodec
