import ClusterCodec.Proofs.ModuleTokens
import ClusterCodec.Proofs.ReadDeclarations

/-!
# DocumentModules — a document that reads has a module

- `isWord_enumOf`, `isWord_bitmapOf`: the variants and constants that an element declares are words.
- `Worded`: the identifiers that the type declarations of a cluster hold are words;
  `Cluster.worded_ofText`: so it is for every text that is read, whole or cut.
- `Item.Plain`: what else a module needs to fall into tokens.
- `GeneratedModule.ofDocument_eq_ok`, `sourceOfDocument_eq_ok`: with that, nothing but reading a
  document can fail.
-/

namespace ClusterCodec

open Lexical

namespace Reading

open Xml

/-! ## Identifiers -/

theorem isWord_enumOf (e : Element) : ∀ i ∈ (enumOf e).items, IsWord i.variant := by
  intro i listed
  rcases List.mem_map.1 listed with ⟨child, -, rfl⟩
  exact isWord_ofVariant (declaredName child.1)

theorem isWord_bitmapOf (e : Element) : ∀ f ∈ (bitmapOf e).flags, IsWord f.constant := by
  intro f listed
  rcases List.mem_filterMap.1 listed with ⟨child, -, declared⟩
  rcases Option.map_eq_some_iff.1 declared with ⟨position, -, rfl⟩
  dsimp only
  exact isWord_ofConstant (declaredName child.1)

/-- The identifiers that type declarations hold are words. -/
structure Worded (c : Cluster) : Prop where
  variants : ∀ e ∈ c.enums.toList, ∀ i ∈ e.items, IsWord i.variant
  constants : ∀ b ∈ c.bitmaps.toList, ∀ f ∈ b.flags, IsWord f.constant

theorem FromElements.worded {root : Element} {c : Cluster} (known : FromElements root c) :
    Worded c := by
  constructor
  · intro d listed
    rcases exists_readFrom known.enums listed with ⟨e, own⟩
    rw [eq_enumOf own.read]
    exact isWord_enumOf e
  · intro d listed
    rcases exists_readFrom known.bitmaps listed with ⟨e, own⟩
    rw [eq_bitmapOf own.read]
    exact isWord_bitmapOf e

end Reading

theorem Cluster.worded_ofText {text : String} {c : Cluster} (reads : Cluster.ofText text = .ok c) :
    Reading.Worded c := by
  rcases fromElements_ofText reads with ⟨root, -, known⟩
  exact known.worded

/-! ## Modules -/

/-- No line break reaches the documentation, and no default is a hexadecimal number with a sign. -/
def Item.Plain : Item → Prop
  | .enum _ | .bitmap _ => True
  | item => item.Printable

section

variable {document : String} {c : Cluster} {s : Settings}

/-- The identifiers of a document need no condition. -/
theorem Cluster.printable_ofText (reads : Cluster.ofText document = .ok c)
    (plain : ∀ i ∈ c.items, i.Plain) : ∀ i ∈ c.items, i.Printable := by
  have words := worded_ofText reads
  intro i inside
  -- What is left to be shown of enums and bitmaps is that their identifiers are words.
  cases i with
  | enum e => exact words.variants e (by simpa [items] using inside)
  | bitmap b => exact words.constants b (by simpa [items] using inside)
  | _ => exact plain _ inside

theorem readCluster_eq_ok (reads : Cluster.ofText document = .ok c) :
    readCluster document = .ok c := by
  rw [readCluster, reads]
  rfl

/-- With the default paths a document that reads has a module: the code of its cluster, with the
items that the code leaves out. -/
theorem GeneratedModule.ofDocument_eq_ok (reads : Cluster.ofText document = .ok c)
    (plain : ∀ i ∈ c.items, i.Plain) {file : String} (oneLine : OneLine file)
    (tlv : s.tlvPath = "crate::tlv") (helpers : s.helpersPath = "crate::clusters::helpers") :
    ∃ entry, GeneratedModule.ofDocument s file document =
      .ok ⟨entry, c.resolve.source s file, c.resolve.skipped s⟩ := by
  have tokens :=
    Cluster.tokenizes_source (Cluster.printable_ofText reads plain) tlv helpers oneLine
  have accepted : checkTokens (moduleNameOf file) (c.resolve.source s file) =
      .ok (c.resolve.source s file) := if_pos tokens
  rw [ofDocument, readCluster_eq_ok reads]
  change ∃ entry, (checkTokens (moduleNameOf file) (c.resolve.source s file) >>= _) = _
  rw [accepted]
  exact ⟨_, rfl⟩

/-- So it is without a file. -/
theorem sourceOfDocument_eq_ok (reads : Cluster.ofText document = .ok c)
    (plain : ∀ i ∈ c.items, i.Plain) :
    sourceOfDocument document = .ok (c.resolve.source {} "") := by
  have noFile : OneLine "" := by decide
  rw [sourceOfDocument, readCluster_eq_ok reads]
  exact if_pos (Cluster.tokenizes_source (Cluster.printable_ofText reads plain) rfl rfl noFile)

end

end ClusterCodec
