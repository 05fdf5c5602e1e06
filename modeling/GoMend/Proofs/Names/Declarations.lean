import GoMend.Proofs.Names.Statements

/-!
# Names in declarations
-/

namespace GoMend

open Lexed (Reads)
open ParserState (kind_advance kind_setComments reads_skip reads_ident reads_importDot)
open GoMend.Parser

namespace Grammar

variable {below : Reader} {state : ParserState}

theorem importSpec_reads (doc : List Comment) :
    (importSpec doc).Ensures state fun entry final =>
      Reads true state.ahead entry.name.toList final.ahead := by
  simp [importSpec, importName]
  split
  · rename_i found
    simp
    intro _ path
    refine takeTrailing_ahead.weaken fun comment final same => ?_
    rw [same]
    exact (reads_ident found).trans (reads_skip path rfl)
  · rename_i found
    simp
    intro path
    refine takeTrailing_ahead.weaken fun comment final same => ?_
    rw [same]
    exact (reads_importDot found path).trans (reads_skip path rfl)
  · simp
    intro path
    refine takeTrailing_ahead.weaken fun comment final same => ?_
    rw [same]
    exact reads_skip path rfl

theorem valueSpec_reads (keeps : below.PassesNames) (doc : List Comment) :
    (valueSpec below doc).Ensures state fun entry final =>
      Reads false state.ahead (Spec.value entry).idents final.ahead := by
  simp [valueSpec]
  refine (identList_reads keeps).weaken fun names middle namesPassed => ?_
  have ended : ∀ (type : Option Expr) (now : ParserState),
      Reads false state.ahead (names ++ Expr.identsAll type.toList) now.ahead →
      (now.kind = .eq → (exprList below).Ensures now.advance fun values last =>
        takeTrailing.Ensures last fun comment final =>
          Reads false state.ahead (Spec.value ⟨doc, names, type, values, comment⟩).idents
            final.ahead) ∧
      (¬now.kind = .eq → takeTrailing.Ensures now fun comment final =>
        Reads false state.ahead (Spec.value ⟨doc, names, type, [], comment⟩).idents
          final.ahead) := by
    intro type now passed
    refine ⟨fun equals => ?_, fun _ => ?_⟩
    · refine (exprList_reads keeps).weaken fun values last valuesPassed => ?_
      refine takeTrailing_ahead.weaken fun comment final same => ?_
      rw [same]
      refine (passed.trans ((reads_skip equals rfl).trans valuesPassed)).relist ?_
      cases type <;> simp [Spec.collect, ValueSpec.collect, Expr.collectAll]
    · refine takeTrailing_ahead.weaken fun comment final same => ?_
      rw [same]
      refine passed.relist ?_
      cases type <;> simp [Spec.collect, ValueSpec.collect, Expr.collectAll]
  refine ⟨fun _ => ended none middle (namesPassed.relist (by simp [Expr.collectAll])),
    fun _ _ _ => ?_⟩
  refine (keeps.reads .type rfl rfl).weaken fun type now typePassed => ?_
  refine ended (some type) now ((namesPassed.trans typePassed).relist ?_)
  simp [Expr.collectAll, Production.idents]

theorem typeSpec_reads (keeps : below.PassesNames) (doc : List Comment) :
    (typeSpec below doc).Ensures state fun entry final =>
      Reads false state.ahead (Spec.type entry).idents final.ahead := by
  simp [typeSpec]
  intro name
  refine ⟨fun equals => ?_, fun _ => ?_⟩
  · refine (keeps.reads .type rfl rfl).weaken fun type middle passed => ?_
    refine takeTrailing_ahead.weaken fun comment final same => ?_
    rw [same]
    exact (reads_ident name).trans ((reads_skip equals rfl).trans passed)
  · refine (keeps.reads .type rfl rfl).weaken fun type middle passed => ?_
    refine takeTrailing_ahead.weaken fun comment final same => ?_
    rw [same]
    exact (reads_ident name).trans passed

theorem spec_reads (keeps : below.PassesNames) (keyword : DeclKeyword) (doc : List Comment) :
    (spec below keyword doc).Ensures state fun entry final =>
      Reads (keyword == .imports) state.ahead entry.idents final.ahead := by
  unfold spec
  cases keyword with
  | imports =>
      simp
      refine (importSpec_reads doc).weaken fun entry final passed => passed.relist ?_
      obtain ⟨_, name, _, _⟩ := entry
      cases name <;> simp [Spec.collect]
  | consts =>
      simp
      exact (valueSpec_reads keeps doc).weaken fun entry final passed => passed.allowDots
  | vars =>
      simp
      exact (valueSpec_reads keeps doc).weaken fun entry final passed => passed.allowDots
  | types =>
      simp
      exact (typeSpec_reads keeps doc).weaken fun entry final passed => passed.allowDots

theorem specs_reads (keeps : below.PassesNames) (keyword : DeclKeyword) :
    (specs below keyword).Ensures state fun entries final =>
      Reads (keyword == .imports) state.ahead (Spec.identsAll entries) final.ahead := by
  simp [specs]
  refine ⟨fun _ => .refl, fun _ _ => ?_⟩
  refine (spec_reads keeps keyword _).weaken fun first middle firstPassed => ?_
  refine expectSemicolon_reads.weaken fun _ now endPassed => ?_
  refine (keeps (.specs keyword) _).weaken ?_
  rintro others final ⟨read, same, othersPassed⟩
  refine (firstPassed.trans (endPassed.allowDots.trans othersPassed)).relist ?_
  simp only [Production.idents, Production.heldIdents, List.nil_append] at same
  simp [Spec.collectAll, same]

theorem genDecl_reads (keeps : below.PassesNames) (keyword : DeclKeyword) (doc : List Comment)
    {kind : Kind} (found : state.kind = kind) (nameless : kind.isNameless) :
    (genDecl below keyword doc).Ensures state fun decl final =>
      Reads (keyword == .imports) state.ahead decl.idents final.ahead := by
  simp [genDecl]
  have wordPassed : Reads (keyword == .imports) state.ahead [] state.advance.ahead :=
    reads_skip found nameless
  refine ⟨fun opening => ?_, fun _ => ?_⟩
  · refine (keeps (.specs keyword) _).weaken ?_
    rintro entries middle ⟨read, same, passed⟩ close
    refine ((wordPassed.trans (reads_skip opening rfl)).trans
      (passed.trans (reads_skip close rfl))).relist ?_
    simp only [Production.idents, Production.heldIdents, List.nil_append] at same
    simp [GenDecl.collect, same]
  · refine (spec_reads keeps keyword []).weaken fun only final passed => ?_
    exact (wordPassed.trans passed).relist (by simp [GenDecl.collect, Spec.collectAll])

theorem funcDecl_reads (keeps : below.PassesNames) (doc : List Comment) :
    (funcDecl below doc).Ensures state fun decl final =>
      Reads false state.ahead decl.idents final.ahead := by
  simp [funcDecl]
  intro word
  have ended : ∀ (receiver : Option FieldList) (now : ParserState),
      Reads false state.ahead (receiver.elim [] (·.idents)) now.ahead →
      now.kind = .identifier →
      (signature below).Ensures now.advance fun signature middle =>
        (middle.kind = .leftBrace → (functionBody below).Ensures middle fun body final =>
          Reads false state.ahead
            (FuncDecl.mk doc receiver ⟨now.token.text, some now.token.offset⟩ signature
              (some body)).idents final.ahead) ∧
        (¬middle.kind = .leftBrace → Reads false state.ahead
          (FuncDecl.mk doc receiver ⟨now.token.text, some now.token.offset⟩ signature
            none).idents middle.ahead) := by
    intro receiver now passed name
    refine (signature_reads keeps).weaken fun signature middle signaturePassed => ?_
    have headPassed := passed.trans ((reads_ident name).trans signaturePassed)
    refine ⟨fun _ => ?_, fun _ => ?_⟩
    · refine (functionBody_reads keeps).weaken fun body final bodyPassed => ?_
      refine (headPassed.trans bodyPassed).relist ?_
      cases receiver <;> simp [FuncDecl.collect]
    · refine headPassed.relist ?_
      cases receiver <;> simp [FuncDecl.collect]
  refine ⟨fun _ => ?_, fun _ => ended none _ (reads_skip word rfl)⟩
  refine (parameters_reads keeps).weaken fun receiver middle passed => ?_
  exact ended (some receiver) middle ((reads_skip word rfl).trans passed)

theorem stmt_reads (keeps : below.PassesNames) :
    (stmt below).Ensures state fun kind final =>
      Reads false state.ahead kind.idents final.ahead := by
  unfold stmt
  simp only [ends_bind, ends_peek]
  split
  case h_1 word =>
    simp
    exact genDecl_reads keeps .consts [] word rfl
  case h_2 word =>
    simp
    exact genDecl_reads keeps .vars [] word rfl
  case h_3 word =>
    simp
    exact genDecl_reads keeps .types [] word rfl
  case h_4 word =>
    simp
    refine (expr_reads keeps).weaken fun call final passed => ?_
    exact (reads_skip word rfl).trans passed
  case h_5 word =>
    simp
    refine (expr_reads keeps).weaken fun call final passed => ?_
    exact (reads_skip word rfl).trans passed
  case h_6 word =>
    simp
    refine ⟨fun _ => reads_skip word rfl, fun _ _ => ?_⟩
    refine (exprList_reads keeps).weaken fun results final passed => ?_
    exact (reads_skip word rfl).trans passed
  case h_10 word =>
    simp
    exact reads_skip word rfl
  case h_11 =>
    simp
    exact keeps.reads .block rfl rfl
  case h_12 => exact keeps.reads .conditional rfl rfl
  case h_13 => exact switch_reads keeps
  case h_14 => exact select_reads keeps
  case h_15 => exact loop_reads keeps
  case h_16 =>
    simp
    refine ⟨fun _ colon name => ?_, fun _ => simple_reads keeps⟩
    have labelPassed :
        Reads false state.ahead ([_] ++ []) state.advance.advance.ahead :=
      (reads_ident name).trans (reads_skip (kind_advance.trans colon) rfl)
    refine ⟨fun _ => labelPassed, fun _ => ?_⟩
    refine (keeps.reads .stmt rfl rfl).weaken fun kind final passed => ?_
    exact labelPassed.trans passed
  all_goals
    rename_i word
    simp
    refine ⟨fun name => ?_, fun _ => reads_skip word rfl⟩
    exact (reads_skip word rfl).trans (reads_ident name)

theorem imports_reads (keeps : below.PassesNames) :
    (imports below).Ensures state fun list final =>
      Reads true state.ahead (list.flatMap (·.idents)) final.ahead := by
  simp [imports]
  refine ⟨fun word => ?_, fun _ => .refl⟩
  refine (genDecl_reads keeps .imports _ (kind_setComments.trans word) rfl).weaken
    fun first middle firstPassed => ?_
  refine expectSemicolon_reads.weaken fun _ now endPassed => ?_
  refine (keeps .imports _).weaken ?_
  rintro others final ⟨read, same, othersPassed⟩
  refine (firstPassed.trans (endPassed.allowDots.trans othersPassed)).relist ?_
  simp only [Production.idents, Production.heldIdents, List.nil_append] at same
  rw [← same]
  rfl

theorem decl_reads (keeps : below.PassesNames) (doc : List Comment) :
    (decl below doc).Ensures state fun decl final =>
      Reads false state.ahead decl.idents final.ahead := by
  unfold decl
  simp only [ends_bind, ends_peek]
  split
  case h_1 word =>
    simp
    exact genDecl_reads keeps .consts doc word rfl
  case h_2 word =>
    simp
    exact genDecl_reads keeps .vars doc word rfl
  case h_3 word =>
    simp
    exact genDecl_reads keeps .types doc word rfl
  case h_4 =>
    simp
    exact funcDecl_reads keeps doc
  case h_5 => simp
  case h_6 => simp

theorem decls_reads (keeps : below.PassesNames) :
    (decls below).Ensures state fun list final =>
      Reads false state.ahead (list.flatMap (·.idents)) final.ahead := by
  simp [decls]
  refine ⟨fun _ => .refl, fun _ => ?_⟩
  refine (decl_reads keeps _).weaken fun first middle firstPassed => ?_
  refine expectSemicolon_reads.weaken fun _ now endPassed => ?_
  refine (keeps.reads .decls rfl rfl).weaken fun others final othersPassed => ?_
  exact firstPassed.trans (endPassed.trans othersPassed)

end Grammar

end GoMend
