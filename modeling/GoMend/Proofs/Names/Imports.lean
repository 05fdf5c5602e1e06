import GoMend.Proofs.Grammar.Outcome

/-!
# Imports come first

The grammar reads imports at the head of a file and nowhere else, so the imports of a
file that was read are the declarations before all others, which go on to the end of
the text.
-/

namespace GoMend

open GoMend.Parser

namespace Spec

/-- An entry of an import declaration. -/
def IsImport : Spec → Prop
  | .imported _ => True
  | _ => False

end Spec

namespace Decl

/-- A declaration of imports and of nothing else. -/
def IsImport : Decl → Prop
  | .gen decl => decl.keyword = .imports ∧ ∀ spec ∈ decl.specs, spec.IsImport
  | .func _ => False

/-- A declaration of anything but imports. -/
def IsOther : Decl → Prop
  | .gen decl => decl.keyword ≠ .imports
  | .func _ => True

end Decl

namespace Production

/-- Among imports stand only imports, and behind them none; the declarations end where
the text does. -/
def Sorted : (production : Production) → production.Result → ParserState → Prop
  | .specs keyword, entries, _ => keyword = .imports → ∀ entry ∈ entries, entry.IsImport
  | .imports, (list : List Decl), _ => ∀ decl ∈ list, decl.IsImport
  | .decls, (list : List Decl), final => (∀ decl ∈ list, decl.IsOther) ∧ final.kind = .endOfFile
  | _, _, _ => True

end Production

/-- A reader that reads imports only where they belong. -/
def Reader.SortsImports (below : Reader) : Prop :=
  ∀ production state, (below production).Ensures state production.Sorted

namespace Grammar

variable {below : Reader} {state : ParserState}

theorem spec_sorted (keyword : DeclKeyword) (doc : List Comment) :
    (spec below keyword doc).Ensures state fun entry _ =>
      keyword = .imports → entry.IsImport := by
  cases keyword with
  | imports =>
      simp [spec]
      exact (ensures_trivial _ _).weaken fun _ _ _ => trivial
  | consts | vars | types => exact (ensures_trivial _ _).weaken fun _ _ _ other => by cases other

theorem specs_sorted (sorts : below.SortsImports) (keyword : DeclKeyword) :
    (specs below keyword).Ensures state fun entries _ =>
      keyword = .imports → ∀ entry ∈ entries, entry.IsImport := by
  simp [specs]
  intro _ _
  refine (spec_sorted keyword _).weaken fun first middle firstSorted => ?_
  refine (ensures_trivial _ _).weaken fun _ now _ => ?_
  refine (sorts (.specs keyword) now).weaken fun others _ othersSorted imports => ?_
  exact ⟨firstSorted imports, othersSorted imports⟩

theorem genDecl_sorted (sorts : below.SortsImports) (keyword : DeclKeyword)
    (doc : List Comment) :
    (genDecl below keyword doc).Ensures state fun decl _ =>
      decl.keyword = keyword ∧ (keyword = .imports → ∀ spec ∈ decl.specs, spec.IsImport) := by
  simp [genDecl]
  constructor
  · intro _
    exact (sorts (.specs keyword) _).weaken fun entries _ sorted _ => sorted
  · intro _
    exact spec_sorted keyword []

theorem imports_sorted (sorts : below.SortsImports) :
    (imports below).Ensures state fun list _ => ∀ decl ∈ list, decl.IsImport := by
  simp [imports]
  intro _
  refine (genDecl_sorted sorts .imports _).weaken fun first middle firstSorted => ?_
  refine (ensures_trivial _ _).weaken fun _ now _ => ?_
  refine (sorts .imports now).weaken fun others _ othersSorted => ?_
  exact ⟨⟨firstSorted.1, firstSorted.2 rfl⟩, othersSorted⟩

theorem decl_sorted (sorts : below.SortsImports) (doc : List Comment) :
    (decl below doc).Ensures state fun decl _ => decl.IsOther := by
  have other : ∀ keyword : DeclKeyword, keyword ≠ .imports →
      (genDecl below keyword doc).Ensures state fun decl _ => (Decl.gen decl).IsOther := by
    intro keyword notImports
    refine (genDecl_sorted sorts keyword doc).weaken fun decl _ sorted => ?_
    exact fun isImports => notImports (sorted.1.symm.trans isImports)
  unfold decl
  simp only [ends_bind, ends_peek]
  split
  · simpa using other .consts (by decide)
  · simpa using other .vars (by decide)
  · simpa using other .types (by decide)
  · simp
    exact (ensures_trivial _ _).weaken fun _ _ _ => trivial
  · simp
  · simp

theorem decls_sorted (sorts : below.SortsImports) :
    (decls below).Ensures state fun list final =>
      (∀ decl ∈ list, decl.IsOther) ∧ final.kind = .endOfFile := by
  simp [decls]
  intro _
  refine (decl_sorted sorts _).weaken fun first middle firstSorted => ?_
  refine (ensures_trivial _ _).weaken fun _ now _ => ?_
  refine (sorts .decls now).weaken fun others final othersSorted => ?_
  exact ⟨⟨firstSorted, othersSorted.1⟩, othersSorted.2⟩

end Grammar

namespace Production

theorem body_sorted {below : Reader} (sorts : below.SortsImports) (production : Production)
    (state : ParserState) :
    (production.body below).Ensures state production.Sorted := by
  cases production with
  | specs keyword => exact Grammar.specs_sorted sorts keyword
  | imports => exact Grammar.imports_sorted sorts
  | decls => exact Grammar.decls_sorted sorts
  | _ => exact (ensures_trivial _ _).weaken fun _ _ _ => trivial

theorem read_sorted (bound : Nat) : Reader.SortsImports (read bound) := by
  induction bound with
  | zero => exact fun production state => trivial
  | succ bound ih => exact body_sorted ih

end Production

end GoMend
