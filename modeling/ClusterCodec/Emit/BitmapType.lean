import ClusterCodec.Emit.Snippet
import ClusterCodec.Schema.Declaration

/-!
# BitmapType — integer aliases with a module of masks

- `BitmapType`: the alias, its integer type, the module and its constants.
- `BitmapDecl.bitmapType`: the type for a declaration; a flag outside 64 bits gets no constant.
- `BitmapType.text`: the source text.
-/

namespace ClusterCodec

open Text

structure MaskConstant where
  ident : String
  mask : Nat
  summary : String
  deriving Repr, DecidableEq

structure BitmapType where
  name : String
  base : IntType
  moduleName : String
  constants : List MaskConstant
  deriving Repr, DecidableEq

def BitFlag.maskConstant? (f : BitFlag) : Option MaskConstant :=
  f.mask?.map (⟨f.constant, ·, f.summary⟩)

def BitmapDecl.bitmapType (b : BitmapDecl) : BitmapType :=
  { name := b.typeName
    base := b.baseType
    moduleName := b.moduleName
    constants := b.flags.filterMap BitFlag.maskConstant? }

namespace BitmapType

/-! ## Text -/

def constantText (base : IntType) (c : MaskConstant) : String :=
  summaryLine c.summary ++ "pub const " ++ c.ident ++ ": " ++ base.text ++ " = " ++
    Numeral.hexMask c.mask ++ ";\n"

/-- The module of masks; without constants there is none. -/
def moduleText (t : BitmapType) : String :=
  if t.constants.isEmpty then ""
  else
    "\n" ++ docLine ("Constants for " ++ t.name) ++
      block ("pub mod " ++ t.moduleName) (String.join (t.constants.map (constantText t.base))) ++
      "\n"

def text (t : BitmapType) : String :=
  docLine (t.name ++ " bitmap type") ++ "pub type " ++ t.name ++ " = " ++ t.base.text ++ ";\n" ++
    t.moduleText

end BitmapType
end ClusterCodec
