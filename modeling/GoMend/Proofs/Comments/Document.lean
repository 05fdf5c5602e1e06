import GoMend.Proofs.Comments.Statements

/-!
# Comments of a file

Every production conserves comments, and the last step of a file takes those that are
left.  So a file that was read is written with the comments of its text.
-/

namespace GoMend

open GoMend.Parser
open ParserState (places_advance)

namespace Grammar

variable {below : Reader} {state : ParserState}

/-! ## Declarations -/

/-- An entry places the comments that it is written with, apart from those before it. -/
theorem importSpec_places (doc : List Comment) :
    (importSpec doc).Ensures state fun entry final =>
      ∃ placed, (Spec.imported entry).remarks = doc ++ placed ∧ state.Places placed final := by
  have ended : ∀ (name : Option Ident) (path : Literal) (now : ParserState),
      state.Places [] now → takeTrailing.Ensures now fun comment final =>
        ∃ placed, (Spec.imported ⟨doc, name, path, comment⟩).remarks = doc ++ placed ∧
          state.Places placed final := by
    intro name path now before
    exact takeTrailing_places.weaken fun comment final placed =>
      ⟨comment.toList, Spec.remarks_imported _, before.trans placed⟩
  simp only [importSpec, importName, ends_bind, ends_peek]
  split
  · simp only [ends_bind, ends_pure, ends_ident, ends_expect]
    exact ⟨fun _ => ⟨fun _ => ended _ _ _ (by simp), fun _ => trivial⟩, fun _ => trivial⟩
  · simp only [ends_bind, ends_pure, ends_bump, ends_expect]
    exact ⟨fun _ => ended _ _ _ (by simp), fun _ => trivial⟩
  · simp only [ends_pure, ends_expect]
    exact ⟨fun _ => ended none _ _ (by simp), fun _ => trivial⟩

theorem valueSpec_places (keeps : below.PlacesComments) (doc : List Comment) :
    (valueSpec below doc).Ensures state fun entry final =>
      ∃ placed, (Spec.value entry).remarks = doc ++ placed ∧ state.Places placed final := by
  have valued : ∀ (names : List Ident) (type : Option Expr) (values : List Expr)
      (now : ParserState),
      state.Places (type.elim [] Expr.remarks ++ Expr.remarksAll values) now →
      takeTrailing.Ensures now fun comment final =>
        ∃ placed, (Spec.value ⟨doc, names, type, values, comment⟩).remarks = doc ++ placed ∧
          state.Places placed final := by
    intro names type values now before
    exact takeTrailing_places.weaken fun comment final placed =>
      ⟨_, by simp, before.trans placed⟩
  have typed : ∀ (names : List Ident) (type : Option Expr) (now : ParserState),
      state.Places (type.elim [] Expr.remarks) now →
      (now.kind = .eq → (exprList below).Ensures now.advance fun values last =>
        takeTrailing.Ensures last fun comment final =>
          ∃ placed, (Spec.value ⟨doc, names, type, values, comment⟩).remarks = doc ++ placed ∧
            state.Places placed final) ∧
      (¬now.kind = .eq → takeTrailing.Ensures now fun comment final =>
        ∃ placed, (Spec.value ⟨doc, names, type, [], comment⟩).remarks = doc ++ placed ∧
          state.Places placed final) := by
    intro names type now before
    refine ⟨fun _ => ?_, fun _ => valued names type [] now (by simpa using before)⟩
    exact (exprList_places keeps).weaken fun values last valuesPlaced =>
      valued names type values last (before.trans (places_advance.1 valuesPlaced))
  simp [valueSpec]
  refine (identList_places keeps).weaken fun names middle namesPlaced => ?_
  refine ⟨fun _ => by simpa using typed names none middle namesPlaced, fun _ _ _ => ?_⟩
  refine (keeps.places .type rfl).weaken fun type now typePlaced => ?_
  simpa using typed names (some type) now (namesPlaced.trans typePlaced)

theorem typeSpec_places (keeps : below.PlacesComments) (doc : List Comment) :
    (typeSpec below doc).Ensures state fun entry final =>
      ∃ placed, (Spec.type entry).remarks = doc ++ placed ∧ state.Places placed final := by
  have ended : ∀ (name : Ident) (isAlias : Bool) (now : ParserState), state.Places [] now →
      (below .type).Ensures now fun type middle =>
        takeTrailing.Ensures middle fun comment final =>
          ∃ placed, (Spec.type ⟨doc, name, isAlias, type, comment⟩).remarks = doc ++ placed ∧
            state.Places placed final := by
    intro name isAlias now before
    refine (keeps.places .type rfl).weaken fun type middle typePlaced => ?_
    exact takeTrailing_places.weaken fun comment final placed =>
      ⟨type.remarks ++ comment.toList, by simp, (before.trans typePlaced).trans placed⟩
  simp only [typeSpec, ends_bind, ends_ident, ends_eat, ends_pure]
  refine ⟨fun _ => ⟨fun _ => ended _ true _ (by simp), fun _ => ended _ false _ (by simp)⟩,
    fun _ => trivial⟩

theorem spec_places (keeps : below.PlacesComments) (keyword : DeclKeyword)
    (doc : List Comment) :
    (spec below keyword doc).Ensures state fun entry final =>
      ∃ placed, entry.remarks = doc ++ placed ∧ state.Places placed final := by
  unfold spec
  cases keyword with
  | imports => simpa only [ends_bind, ends_pure] using importSpec_places doc
  | consts | vars => simpa only [ends_bind, ends_pure] using valueSpec_places keeps doc
  | types => simpa only [ends_bind, ends_pure] using typeSpec_places keeps doc

theorem specs_places (keeps : below.PlacesComments) (keyword : DeclKeyword) :
    (specs below keyword).Ensures state fun entries final =>
      state.Places (Spec.remarksAll entries) final := by
  simp [specs, -ends_takeDoc]
  intro _ _
  refine takeDoc_places.weaken fun doc afterDoc docPlaced => ?_
  refine (spec_places keeps keyword doc).weaken ?_
  rintro first middle ⟨placed, same, places⟩
  refine expectSemicolon_places.weaken fun _ now endPlaced => ?_
  refine (keeps.places (.specs keyword) rfl).weaken fun others final othersPlaced => ?_
  refine ((docPlaced.trans places).trans (endPlaced.trans othersPlaced)).relist ?_
  simp [Production.remarks, same]

theorem genDecl_places (keeps : below.PlacesComments) (keyword : DeclKeyword)
    (doc : List Comment) :
    (genDecl below keyword doc).Ensures state fun decl final =>
      ∃ placed, decl.doc ++ Spec.remarksAll decl.specs = doc ++ placed ∧
        state.Places placed final := by
  simp [genDecl]
  refine ⟨fun _ => ?_, fun _ => ?_⟩
  · refine (keeps.places (.specs keyword) rfl).weaken fun entries middle placed _ => ?_
    simpa [Production.remarks] using placed
  · refine (spec_places keeps keyword []).weaken ?_
    rintro only final ⟨placed, same, places⟩
    simpa [same] using places

theorem funcDecl_places (keeps : below.PlacesComments) (doc : List Comment) :
    (funcDecl below doc).Ensures state fun decl final =>
      ∃ placed, (Decl.func decl).remarks = doc ++ placed ∧ state.Places placed final := by
  have ended : ∀ (receiver : Option FieldList) (name : Ident) (now : ParserState),
      state.Places (receiver.elim [] (Field.typeRemarks ·.fields)) now →
      (signature below).Ensures now fun signature middle =>
        (middle.kind = .leftBrace → (functionBody below).Ensures middle fun body final =>
          ∃ placed,
            (Decl.func ⟨doc, receiver, name, signature, some body⟩).remarks = doc ++ placed ∧
            state.Places placed final) ∧
        (¬middle.kind = .leftBrace → ∃ placed,
          (Decl.func ⟨doc, receiver, name, signature, none⟩).remarks = doc ++ placed ∧
          state.Places placed middle) := by
    intro receiver name now placed
    refine (signature_places keeps).weaken fun signature middle signaturePlaced => ?_
    refine ⟨fun _ => ?_, fun _ => ⟨_, by simp, placed.trans signaturePlaced⟩⟩
    exact (functionBody_places keeps).weaken fun body final bodyPlaced =>
      ⟨_, by simp, (placed.trans signaturePlaced).trans bodyPlaced⟩
  simp only [funcDecl, ends_bind, ends_expect, ends_at?, ends_ite, ends_pure, ends_ident,
    beq_iff_eq]
  refine ⟨fun _ => ⟨fun _ => ?_, fun _ => ⟨fun _ => ended none _ _ (by simp), fun _ => trivial⟩⟩,
    fun _ => trivial⟩
  refine (parameters_places keeps).weaken fun receiver middle placed => ?_
  exact ⟨fun _ => ended (some receiver) _ _ (by simpa using placed), fun _ => trivial⟩

theorem stmt_places (keeps : below.PlacesComments) :
    (stmt below).Ensures state fun kind final => state.Places kind.remarks final := by
  have declared : ∀ keyword : DeclKeyword,
      (genDecl below keyword []).Ensures state fun decl final =>
        state.Places (StmtKind.decl decl).remarks final := by
    intro keyword
    refine (genDecl_places keeps keyword []).weaken ?_
    rintro decl final ⟨placed, same, places⟩
    exact places.relist (by simpa using same.symm)
  unfold stmt
  simp only [ends_bind, ends_peek]
  split
  case h_1 => simpa only [ends_bind, ends_pure] using declared .consts
  case h_2 => simpa only [ends_bind, ends_pure] using declared .vars
  case h_3 => simpa only [ends_bind, ends_pure] using declared .types
  case h_4 =>
    simp
    exact (expr_places keeps).weaken fun call final placed => places_advance.1 placed
  case h_5 =>
    simp
    exact (expr_places keeps).weaken fun call final placed => places_advance.1 placed
  case h_6 =>
    simp
    intro _ _
    exact (exprList_places keeps).weaken fun results final placed => places_advance.1 placed
  case h_10 => simp
  case h_11 =>
    simp
    exact keeps.places .block rfl
  case h_12 => exact keeps.places .conditional rfl
  case h_13 => exact switch_places keeps
  case h_14 => exact select_places keeps
  case h_15 => exact loop_places keeps
  case h_16 =>
    simp
    refine ⟨fun _ _ _ _ => ?_, fun _ => simple_places keeps⟩
    exact (keeps.places .stmt rfl).weaken fun kind final placed =>
      places_advance.1 (places_advance.1 placed)
  all_goals simp

theorem imports_places (keeps : below.PlacesComments) :
    (imports below).Ensures state fun list final =>
      state.Places (Decl.remarksAll list) final := by
  simp [imports, -ends_takeDoc]
  refine ⟨fun _ => ?_, fun _ => .refl⟩
  refine takeDoc_places.weaken fun doc afterDoc docPlaced => ?_
  refine (genDecl_places keeps .imports doc).weaken ?_
  rintro first middle ⟨placed, same, places⟩
  refine expectSemicolon_places.weaken fun _ now endPlaced => ?_
  refine (keeps.places .imports rfl).weaken fun others final othersPlaced => ?_
  refine ((docPlaced.trans places).trans (endPlaced.trans othersPlaced)).relist ?_
  simp [Production.remarks, Decl.remarksAll, same]

theorem decl_places (keeps : below.PlacesComments) (doc : List Comment) :
    (decl below doc).Ensures state fun decl final =>
      ∃ placed, decl.remarks = doc ++ placed ∧ state.Places placed final := by
  have general : ∀ keyword : DeclKeyword,
      (genDecl below keyword doc).Ensures state fun decl final =>
        ∃ placed, (Decl.gen decl).remarks = doc ++ placed ∧ state.Places placed final := by
    intro keyword
    refine (genDecl_places keeps keyword doc).weaken ?_
    rintro decl final ⟨placed, same, places⟩
    exact ⟨placed, by simpa using same, places⟩
  unfold decl
  simp only [ends_bind, ends_peek]
  split
  case h_1 => simpa only [ends_bind, ends_pure] using general .consts
  case h_2 => simpa only [ends_bind, ends_pure] using general .vars
  case h_3 => simpa only [ends_bind, ends_pure] using general .types
  case h_4 => simpa only [ends_bind, ends_pure] using funcDecl_places keeps doc
  case h_5 => simp
  case h_6 => simp

theorem decls_places (keeps : below.PlacesComments) :
    (decls below).Ensures state fun list final =>
      state.Places (Decl.remarksAll list) final := by
  simp [decls, -ends_takeDoc]
  refine ⟨fun _ => .refl, fun _ => ?_⟩
  refine takeDoc_places.weaken fun doc afterDoc docPlaced => ?_
  refine (decl_places keeps doc).weaken ?_
  rintro first middle ⟨placed, same, places⟩
  refine expectSemicolon_places.weaken fun _ now endPlaced => ?_
  refine (keeps.places .decls rfl).weaken fun others final othersPlaced => ?_
  refine ((docPlaced.trans places).trans (endPlaced.trans othersPlaced)).relist ?_
  simp [Production.remarks, Decl.remarksAll, same]

end Grammar

namespace Production

/-- A production that is handed nothing places the comments of its result. -/
theorem places_of_remarks {below : Reader} {production : Production} {state : ParserState}
    (nothingHeld : production.heldRemarks = [])
    (places : (production.body below).Ensures state fun result final =>
      state.Places (production.remarks result) final) :
    (production.body below).Ensures state (production.Places state) := by
  refine places.weaken fun result final placed => ⟨production.remarks result, ?_, placed⟩
  rw [nothingHeld, List.nil_append]

theorem body_places {below : Reader} (keeps : below.PlacesComments) (production : Production)
    (state : ParserState) :
    (production.body below).Ensures state (production.Places state) := by
  cases production with
  | binary floor => exact places_of_remarks rfl (Grammar.binary_places keeps floor)
  | binaryTail floor left => exact Grammar.binaryTail_places keeps floor left
  | unary => exact places_of_remarks rfl (Grammar.unary_places keeps)
  | primaryTail operand => exact Grammar.primaryTail_places keeps operand
  | exprTail => exact places_of_remarks rfl (Grammar.exprTail_places keeps)
  | arguments => exact places_of_remarks rfl (Grammar.arguments_places keeps)
  | elements => exact places_of_remarks rfl (Grammar.elements_places keeps)
  | element => exact places_of_remarks rfl (Grammar.element_places keeps)
  | type => exact places_of_remarks rfl (Grammar.type_places keeps)
  | params => exact places_of_remarks rfl (Grammar.params_places keeps)
  | structFields => exact places_of_remarks rfl (Grammar.structFields_places keeps)
  | interfaceMembers =>
      exact places_of_remarks rfl (Grammar.interfaceMembers_places keeps)
  | block => exact places_of_remarks rfl (Grammar.block_places keeps)
  | stmts => exact places_of_remarks rfl (Grammar.stmts_places keeps)
  | stmt => exact places_of_remarks rfl (Grammar.stmt_places keeps)
  | conditional => exact places_of_remarks rfl (Grammar.conditional_places keeps)
  | caseClauses => exact places_of_remarks rfl (Grammar.caseClauses_places keeps)
  | commClauses => exact places_of_remarks rfl (Grammar.commClauses_places keeps)
  | identTail => exact places_of_remarks rfl (Grammar.identTail_places keeps)
  | specs keyword => exact places_of_remarks rfl (Grammar.specs_places keeps keyword)
  | imports => exact places_of_remarks rfl (Grammar.imports_places keeps)
  | decls => exact places_of_remarks rfl (Grammar.decls_places keeps)

theorem read_placesComments (bound : Nat) : Reader.PlacesComments (read bound) := by
  induction bound with
  | zero => exact fun production state => trivial
  | succ bound ih => exact body_places ih

end Production

namespace Grammar

/-- A file is written with the comments that waited before it. -/
theorem file_places {below : Reader} {state : ParserState} (keeps : below.PlacesComments) :
    (file below).Ensures state fun file _ =>
      file.remarks = state.comments.map Parser.toComment := by
  simp [file, -ends_takeDoc, -ends_takeRemaining]
  refine takeDoc_places.weaken fun doc afterDoc docPlaced _ _ => ?_
  refine expectSemicolon_places.weaken fun _ afterPackage endPlaced => ?_
  refine (keeps.places .imports rfl).weaken fun heads afterHeads headsPlaced => ?_
  refine (keeps.places .decls rfl).weaken fun others afterDecls othersPlaced => ?_
  refine takeRemaining_places.weaken ?_
  rintro trailing final ⟨trailingPlaced, nothingLeft⟩
  have headed := docPlaced.trans (places_advance.1 (places_advance.1 endPlaced))
  have all := (headed.trans headsPlaced).trans (othersPlaced.trans trailingPlaced)
  rw [ParserState.Places, nothingLeft] at all
  rw [all, File.remarks_eq]
  simp [Production.remarks, Decl.remarksAll]

end Grammar

namespace File

/-- No comment is lost, doubled, moved or changed: a file that was read is written with
exactly the comments of its text, in their order, each with its text and offset. -/
theorem parse_remarks {text : String} {file : File} (parsed : File.parse text = .ok file) :
    file.remarks = (Lexed.ofText text).comments.map Parser.toComment := by
  simp only [File.parse] at parsed
  split at parsed
  · rename_i result final run
    cases parsed
    exact (Grammar.file_places (Production.read_placesComments _)).of_ok run
  · cases parsed

/-- Comments before a declaration, behind it and at the end of the text. -/
theorem parse_remarks_around :
    ∃ file, File.parse "package p\n//a\nvar x = y//b\n//c" = .ok file ∧
      file.remarks = [⟨"//a", some 10⟩, ⟨"//b", some 23⟩, ⟨"//c", some 27⟩] := by
  have checked : ((File.parse "package p\n//a\nvar x = y//b\n//c").toOption.isSome,
      (Lexed.ofText "package p\n//a\nvar x = y//b\n//c").comments.map Parser.toComment) =
      (true, [⟨"//a", some 10⟩, ⟨"//b", some 23⟩, ⟨"//c", some 27⟩]) := by
    decide +kernel
  obtain ⟨succeeds, comments⟩ := Prod.mk.inj checked
  cases parsed : File.parse "package p\n//a\nvar x = y//b\n//c" with
  | error fault => simp [parsed, Except.toOption] at succeeds
  | ok file => exact ⟨file, rfl, (parse_remarks parsed).trans comments⟩

end File

end GoMend
