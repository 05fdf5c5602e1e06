import GoMend.Proofs.Reprint.Declarations
import GoMend.Proofs.Reprint.Variable
import GoMend.Syntax.Build

/-!
# A value that is written is read back

A value of a declaration that was read can be written as the only value of a file.  It is shaped,
so the file is read, and it declares the value again.
-/

namespace GoMend

open Piece (chars chars_append)
open Token (Lexeme scanFrom)

namespace Reprint

/-- A file with a variable of which the value is the only one. -/
def text (value : Expr) : String :=
  "package p\n\nvar x = " ++ value.render

/-- The declaration is one of variables, with the value up to positions as its only one. -/
def Declares (value : Expr) (group : GenDecl) : Prop :=
  ∃ entry again, group.keyword = .vars ∧ group.specs = [.value entry] ∧ entry.values = [again] ∧
    again.unplaced = value.unplaced

variable {value : Expr}

theorem lexeme_letter :
    ∀ name ∈ ["p", "x"], Lexeme .identifier (Ident.ofName name).name.toList := by
  have tested : ∀ name ∈ ["p", "x"],
      Token.covering? Token.shapes name.toList = some .identifier := by
    decide +kernel
  exact fun name listed => ⟨tested name listed, rfl⟩

theorem toList_text (value : Expr) :
    (text value).toList = [] ++ (chars 0 (package (.ofName "p")) ++ '\n' :: '\n' ::
      (chars 0 (opening (.ofName "x") ++ value.pieces) ++ [])) := by
  have written : ∀ start : String,
      (start ++ value.render).toList = start.toList ++ chars 0 value.pieces := by
    intro start
    rw [String.toList_append, Expr.render, Piece.toList_render]
  have clause : "package p\n\nvar x = ".toList =
      chars 0 (package (.ofName "p")) ++ '\n' :: '\n' :: chars 0 (opening (.ofName "x")) := by
    decide +kernel
  have joined : chars 0 (opening (.ofName "x") ++ value.pieces) =
      chars 0 (opening (.ofName "x")) ++ chars 0 value.pieces :=
    chars_append ..
  refine (written _).trans ?_
  rw [clause, List.append_assoc, joined, List.append_nil, List.nil_append]
  rfl

/-- What is the entry of the variable up to positions holds the value up to positions. -/
theorem declares_of_unplaced {group : GenDecl} {name : Ident}
    (same : group.unplaced = (declaration name value).unplaced) : Declares value group := by
  obtain ⟨doc, keyword, grouped, specs, offset⟩ := group
  simp only [GenDecl.unplaced, declaration, GenDecl.mk.injEq] at same
  obtain ⟨-, rfl, -, sameSpecs, -⟩ := same
  obtain ⟨spec, rfl, sameSpec⟩ := List.map_eq_singleton_iff.1 sameSpecs
  cases spec with
  | value found =>
      have sameValues : Expr.unplacedAll found.values = [value.unplaced] :=
        congrArg ValueSpec.values (Spec.value.inj sameSpec)
      rw [Expr.unplacedAll_eq_map, List.map_eq_singleton_iff] at sameValues
      obtain ⟨again, isOnly, sameValue⟩ := sameValues
      exact ⟨found, again, rfl, rfl, isOnly, sameValue⟩
  | imported _ => cases sameSpec
  | type _ => cases sameSpec

/-- Such is the only declaration of what is the file of the variable up to positions. -/
theorem exists_declares_of_unplaced {again : File} {doc : List Comment} {package name : Ident}
    (same : again.unplaced = (file doc package name value).unplaced) :
    ∃ only, again.decls = [.gen only] ∧ Declares value only := by
  have sameDecls : again.decls.map Decl.unplaced = [.gen (declaration name value).unplaced] :=
    congrArg File.decls same
  obtain ⟨decl, decls, sameDecl⟩ := List.map_eq_singleton_iff.1 sameDecls
  cases decl with
  | gen only => exact ⟨only, decls, declares_of_unplaced (Decl.gen.inj sameDecl)⟩
  | func _ => cases sameDecl

end Reprint

namespace File

/-- A value of a constant or variable that was read, free of fragile nodes, can be written as the
only value of a file: the file is read, and the value of its variable is the same up to
positions. -/
theorem parse_reprint {text : String} {file : File} {group : GenDecl} {entry : ValueSpec}
    {value : Expr} (parsed : File.parse text = .ok file) (declared : .gen group ∈ file.decls)
    (listed : .value entry ∈ group.specs) (member : value ∈ entry.values)
    (reprints : value.reprints = true) :
    ∃ again only, File.parse (Reprint.text value) = .ok again ∧ again.decls = [.gen only] ∧
      Reprint.Declares value only := by
  have shaped := parse_shaped parsed _ declared _ rfl _ listed _ rfl _ member reprints
  have opens : scanFrom (Reprint.text value).toList 0 = [] ++ scanFrom _ (Token.byteLength []) :=
    congrArg (scanFrom · 0) (Reprint.toList_text value)
  obtain ⟨again, reread, same⟩ := parse_variable (Reprint.toList_text value) opens nofun nofun
    .stop (Reprint.lexeme_letter "p" (by simp)) (Reprint.lexeme_letter "x" (by simp)) shaped
  obtain ⟨only, decls, declares⟩ := Reprint.exists_declares_of_unplaced same
  exact ⟨again, only, reread, decls, declares⟩

/-- The value that a file declares, if it declares one and nothing else. -/
def onlyValue? (file : File) : Option Expr :=
  match file.decls with
  | [.gen ⟨_, _, _, [.value ⟨_, _, _, [value], _⟩], _⟩] => some value
  | _ => none

theorem onlyValue?_of_declares {file : File} {group : GenDecl} {value : Expr}
    (decls : file.decls = [.gen group]) (declares : Reprint.Declares value group) :
    file.onlyValue?.map Expr.unplaced = some value.unplaced := by
  obtain ⟨doc, package, _, trailing⟩ := file
  obtain ⟨groupDoc, keyword, grouped, _, offset⟩ := group
  obtain ⟨⟨entryDoc, names, type, _, comment⟩, again, -, rfl, rfl, same⟩ := declares
  obtain rfl := decls
  exact congrArg some same

/-- Operators of several precedences, a conversion to a channel type, a slice, and a literal with
elements whose types are left out, broken across lines. -/
theorem parse_reprint_nested :
    ∃ (file : File) (entry : ValueSpec) (value : Expr) (again : File) (only : GenDecl),
      File.parse "package p\nvar y = -(a+b)*f[:n](<-chan T(c)) == M\x7b\nk: \x7bx.z, *q\x7d\x7d.d" = .ok file ∧
        value ∈ entry.values ∧ value.reprints = true ∧
        value.render = "-(a + b) * f[:n](<-chan T(c)) == M\x7b\n\tk: \x7bx.z, *q\x7d,\n\x7d.d" ∧
        File.parse (Reprint.text value) = .ok again ∧ again.decls = [.gen only] ∧
          Reprint.Declares value only := by
  have checked : ((File.parse
      "package p\nvar y = -(a+b)*f[:n](<-chan T(c)) == M\x7b\nk: \x7bx.z, *q\x7d\x7d.d").toOption.bind
        fun file => file.onlyValue?.map fun value => (value.reprints, value.render)) =
      some (true, "-(a + b) * f[:n](<-chan T(c)) == M\x7b\n\tk: \x7bx.z, *q\x7d,\n\x7d.d") := by
    decide +kernel
  obtain ⟨file, read, checked⟩ := Option.bind_eq_some_iff.1 checked
  obtain ⟨value, isOnly, checked⟩ := Option.map_eq_some_iff.1 checked
  obtain ⟨reprints, written⟩ := Prod.mk.inj checked
  rw [onlyValue?] at isOnly
  split at isOnly
  · rename_i doc keyword grouped specDoc names type known comment offset decls
    obtain rfl : known = value := Option.some.inj isOnly
    cases parsed : File.parse
        "package p\nvar y = -(a+b)*f[:n](<-chan T(c)) == M\x7b\nk: \x7bx.z, *q\x7d\x7d.d" with
    | error error => simp [parsed, Except.toOption] at read
    | ok found =>
        obtain rfl : found = file := by simpa [parsed, Except.toOption] using read
        obtain ⟨again, only, result⟩ := parse_reprint parsed (decls ▸ List.mem_singleton_self _)
          (List.mem_singleton_self _) (List.mem_singleton_self _) reprints
        exact ⟨found, ⟨specDoc, names, type, [known], comment⟩, known, again, only, rfl,
          List.mem_singleton_self _, reprints, written, result⟩
  · cases isOnly

/-- The address of a complement, a fragile node, is written as another operator, and what is written
is refused. -/
theorem parse_fusedComplement :
    ∃ file, File.parse "package p\n\nvar x = & ^y\n" = .ok file ∧
      file.render = "package p\n\nvar x = &^y\n" ∧
      ∀ again, File.parse file.render ≠ .ok again := by
  have checked : (File.parse "package p\n\nvar x = & ^y\n").toOption.map
        (fun file => (file.render, (File.parse file.render).toOption.isSome)) =
      some ("package p\n\nvar x = &^y\n", false) := by
    decide +kernel
  obtain ⟨file, read, checked⟩ := Option.map_eq_some_iff.1 checked
  obtain ⟨written, refused⟩ := Prod.mk.inj checked
  cases parsed : File.parse "package p\n\nvar x = & ^y\n" with
  | error fault => simp [parsed, Except.toOption] at read
  | ok found =>
      obtain rfl : found = file := by simpa [parsed, Except.toOption] using read
      refine ⟨found, rfl, written, ?_⟩
      intro again isRead
      simp [isRead, Except.toOption] at refused

end File

end GoMend
