import GoMend.Proofs.Names.Declarations
import GoMend.Proofs.Names.Imports

/-!
# Names in a file
-/

namespace GoMend

open Lexed (Reads)
open ParserState (ahead_eq_nil reads_skip reads_ident)
open GoMend.Parser

namespace Production

/-- A production without operands before it passes the names of its result. -/
private theorem passes_of_reads {below : Reader} {production : Production} {state : ParserState}
    (nothingHeld : production.heldIdents = [])
    (reads : (production.body below).Ensures state fun result final =>
      Reads production.allowsDots state.ahead (production.idents result) final.ahead) :
    (production.body below).Ensures state (production.Passes state) := by
  refine reads.weaken fun result final passed => ⟨production.idents result, ?_, passed⟩
  rw [nothingHeld, List.nil_append]

/-- One step of the grammar keeps the names of the text. -/
theorem body_passes {below : Reader} (keeps : below.PassesNames) (production : Production)
    (state : ParserState) :
    (production.body below).Ensures state (production.Passes state) := by
  cases production with
  | binaryTail floor left => exact Grammar.binaryTail_passes keeps floor left
  | primaryTail operand => exact Grammar.primaryTail_passes keeps operand
  | binary floor => exact passes_of_reads rfl (Grammar.binary_reads keeps floor)
  | unary => exact passes_of_reads rfl (Grammar.unary_reads keeps)
  | exprTail => exact passes_of_reads rfl (Grammar.exprTail_reads keeps)
  | arguments => exact passes_of_reads rfl (Grammar.arguments_reads keeps)
  | elements => exact passes_of_reads rfl (Grammar.elements_reads keeps)
  | element => exact passes_of_reads rfl (Grammar.element_reads keeps)
  | type => exact passes_of_reads rfl (Grammar.type_reads keeps)
  | params => exact passes_of_reads rfl (Grammar.params_reads keeps)
  | structFields => exact passes_of_reads rfl (Grammar.structFields_reads keeps)
  | interfaceMembers => exact passes_of_reads rfl (Grammar.interfaceMembers_reads keeps)
  | block => exact passes_of_reads rfl (Grammar.block_reads keeps)
  | stmts => exact passes_of_reads rfl (Grammar.stmts_reads keeps)
  | stmt => exact passes_of_reads rfl (Grammar.stmt_reads keeps)
  | conditional => exact passes_of_reads rfl (Grammar.conditional_reads keeps)
  | caseClauses => exact passes_of_reads rfl (Grammar.caseClauses_reads keeps)
  | commClauses => exact passes_of_reads rfl (Grammar.commClauses_reads keeps)
  | identTail => exact passes_of_reads rfl (Grammar.identTail_reads keeps)
  | specs keyword => exact passes_of_reads rfl (Grammar.specs_reads keeps keyword)
  | imports => exact passes_of_reads rfl (Grammar.imports_reads keeps)
  | decls => exact passes_of_reads rfl (Grammar.decls_reads keeps)

/-- The grammar keeps the names of the text at every depth of nesting. -/
theorem read_passesNames (bound : Nat) : Reader.PassesNames (read bound) := by
  induction bound with
  | zero => exact fun production state => trivial
  | succ bound ih => exact body_passes ih

end Production

namespace File

/-- A file as the grammar reads it: the imports stand before all other declarations, and
no name but that of an import is a dot. -/
def WellRead (file : File) : Prop :=
  file.package.IsPlain ∧ ∃ heads others, file.decls = heads ++ others ∧
    (∀ decl ∈ heads, decl.IsImport ∧
      ∀ ident ∈ decl.idents, ident.IsPlain ∨ ident.name = ".") ∧
    ∀ decl ∈ others, decl.IsOther ∧ ∀ ident ∈ decl.idents, ident.IsPlain

end File

namespace Grammar

variable {below : Reader} {state : ParserState}

/-- A file is read with exactly the names that its words spell. -/
theorem file_reads (keeps : below.PassesNames) (sorts : below.SortsImports)
    (wellSpelled : Lexed.WellSpelled state.ahead) :
    (file below).Ensures state fun file _ =>
      file.idents = Lexed.idents state.ahead ∧ file.WellRead := by
  simp [file]
  intro word name
  refine expectSemicolon_reads.weaken fun _ afterPackage endPassed => ?_
  refine ((keeps .imports _).and (sorts .imports _)).weaken ?_
  rintro heads afterHeads ⟨⟨headsRead, headsSame, headsPassed⟩, headsSorted⟩
  refine ((keeps .decls _).and (sorts .decls _)).weaken ?_
  rintro others final ⟨⟨othersRead, othersSame, othersPassed⟩, othersSorted, atEnd⟩
  simp only [Production.idents, Production.heldIdents, List.nil_append] at headsSame othersSame
  subst headsSame othersSame
  obtain ⟨spelled, packageNames, packagePlain⟩ :=
    (((reads_skip word rfl).trans (reads_ident name)).trans endPassed) wellSpelled
  obtain ⟨spelled, headNames, headsPlain⟩ := headsPassed spelled
  obtain ⟨spelled, otherNames, othersPlain⟩ := othersPassed spelled
  have nothingLeft : final.ahead = [] := ahead_eq_nil spelled atEnd
  refine ⟨?_, ?_, heads, others, rfl, fun decl member => ⟨headsSorted decl member, ?_⟩,
    fun decl member => ⟨othersSorted decl member, ?_⟩⟩
  · rw [packageNames, headNames, otherNames, nothingLeft]
    simp [File.idents, File.collect, Lexed.idents, Lexed.names]
  · simpa using packagePlain
  · intro ident inDecl
    simpa [Production.allowsDots] using
      headsPlain ident (List.mem_flatMap.2 ⟨decl, member, inDecl⟩)
  · intro ident inDecl
    simpa [Production.allowsDots] using
      othersPlain ident (List.mem_flatMap.2 ⟨decl, member, inDecl⟩)

end Grammar

end GoMend
