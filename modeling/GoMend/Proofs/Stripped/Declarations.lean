import GoMend.Grammar.Declarations
import GoMend.Proofs.Stripped.Statements

/-!
# Declarations read side by side
-/

namespace GoMend.Grammar

open GoMend.Parser

variable {start start' : ParserState} {below : Reader} (reads : below.Agrees start start')

/-! ## Entries -/

theorem agrees_importName : Agrees start start' (SameBy (Option.map Ident.stripped)) importName
    importName := by
  refine agrees_peek fun kind => ?_
  split
  · exact Agrees.at (agrees_ident.bind fun _ _ same => .pure (congrArg some same))
  · exact Agrees.at (agrees_bump.bind fun _ _ _ => .pure rfl)
  · exact Agrees.at (.pure rfl)

theorem agrees_importSpec {doc doc' : List Comment} : Agrees start start'
    (SameBy ImportSpec.stripped) (importSpec doc) (importSpec doc') :=
  agrees_importName.bind fun _ _ sameName => (agrees_expect _).bind fun _ _ read =>
    agrees_takeTrailing.bind fun _ _ _ => .pure
      (congrArg₂ (fun name path => ImportSpec.mk [] name path none) sameName
        (read.toLiteral (by decide) .string))

include reads

theorem agrees_valueSpec {doc doc' : List Comment} : Agrees start start'
    (SameBy fun spec => Spec.stripped (.value spec)) (valueSpec below doc)
    (valueSpec below doc') := by
  refine (agrees_identList reads).bind fun names names' sameNames =>
    (agrees_atAny _).bind fun untyped _ same => ?_
  subst same
  extract_lets next next'
  have goesOn : ∀ type type', SameBy Expr.strippedOptional type type' →
      Agrees start start' (SameBy fun spec => Spec.stripped (.value spec)) (next type)
        (next' type') := by
    intro type type' sameType
    refine (agrees_eat _).bind fun assigned _ same => ?_
    subst same
    have ends : ∀ values values', SameBy Expr.strippedAll values values' →
        Agrees start start' (SameBy fun spec => Spec.stripped (.value spec))
          (do return { doc, names, type, values, comment := ← takeTrailing })
          (do return { doc := doc', names := names', type := type', values := values',
                       comment := ← takeTrailing }) := by
      intro values values' sameValues
      refine agrees_takeTrailing.bind fun _ _ _ => .pure ?_
      have entry := congr (congrArg₂ (fun names type values =>
        Spec.value ⟨[], names, type, values, none⟩) sameNames sameType) sameValues
      exact entry
    exact .ite (fun _ => (agrees_exprList reads).bind fun _ _ same => ends _ _ same)
      fun _ => ends _ _ rfl
  exact .ite (fun _ => goesOn _ _ rfl)
    fun _ => (reads.each .type).bind fun _ _ same => goesOn _ _ (congrArg some same)

theorem agrees_typeSpec {doc doc' : List Comment} : Agrees start start'
    (SameBy fun spec => Spec.stripped (.type spec)) (typeSpec below doc) (typeSpec below doc') := by
  refine agrees_ident.bind fun _ _ sameName => (agrees_eat _).bind fun isAlias _ same =>
    (reads.each .type).bind fun _ _ sameType => agrees_takeTrailing.bind fun _ _ _ => .pure ?_
  subst same
  exact congrArg₂ (fun name type => Spec.type ⟨[], name, isAlias, type, none⟩) sameName sameType

theorem agrees_spec (keyword : DeclKeyword) {doc doc' : List Comment} : Agrees start start'
    (SameBy Spec.stripped) (spec below keyword doc) (spec below keyword doc') := by
  cases keyword with
  | imports => exact agrees_importSpec.bind fun _ _ same => .pure (congrArg Spec.imported same)
  | consts => exact (agrees_valueSpec reads).bind fun _ _ same => .pure same
  | vars => exact (agrees_valueSpec reads).bind fun _ _ same => .pure same
  | types => exact (agrees_typeSpec reads).bind fun _ _ same => .pure same

theorem agrees_specs (keyword : DeclKeyword) : Agrees start start' (SameBy Spec.strippedAll)
    (specs below keyword) (specs below keyword) :=
  .check (agrees_atAny _) (.pure rfl) (agrees_takeDoc.bind fun _ _ _ =>
    (agrees_spec reads keyword).bind fun _ _ sameFirst => agrees_expectSemicolon.bind
      fun _ _ _ => (reads.each (.specs keyword)).bind fun _ _ sameRest =>
        .pure (congrArg₂ List.cons sameFirst sameRest))

/-! ## Declarations -/

theorem agrees_genDecl (keyword : DeclKeyword) {doc doc' : List Comment} : Agrees start start'
    (SameBy GenDecl.stripped) (genDecl below keyword doc) (genDecl below keyword doc') :=
  agrees_bump.bind fun _ _ _ => .check (agrees_eat _)
    ((reads.each (.specs keyword)).bind fun _ _ same => (agrees_expect _).bind fun _ _ _ =>
      .pure (congrArg (GenDecl.mk [] keyword true · none) same))
    ((agrees_spec reads keyword).bind fun _ _ same =>
      .pure (congrArg (fun only => GenDecl.mk [] keyword false [only] none) same))

theorem agrees_funcDecl {doc doc' : List Comment} : Agrees start start'
    (SameBy FuncDecl.stripped) (funcDecl below doc) (funcDecl below doc') := by
  refine (agrees_expect _).bind fun _ _ _ => (agrees_at? _).bind fun isMethod _ same => ?_
  subst same
  extract_lets next next'
  have goesOn : ∀ receiver receiver', SameBy FieldList.strippedOptional receiver receiver' →
      Agrees start start' (SameBy FuncDecl.stripped) (next receiver) (next' receiver') := by
    intro receiver receiver' sameReceiver
    refine agrees_ident.bind fun name name' sameName => (agrees_signature reads).bind
      fun signature signature' sameSignature => (agrees_at? _).bind fun hasBody _ same => ?_
    subst same
    have ends : ∀ body body', SameBy (Option.map Block.stripped) body body' →
        SameBy FuncDecl.stripped ⟨doc, receiver, name, signature, body⟩
          ⟨doc', receiver', name', signature', body'⟩ := by
      intro body body' sameBody
      have decl := congr (congr (congrArg₂ (FuncDecl.mk []) sameReceiver sameName)
        sameSignature) sameBody
      exact decl
    exact .ite
      (fun _ => (agrees_functionBody reads).bind fun _ _ same =>
        .pure (ends _ _ (congrArg some same)))
      fun _ => .pure (ends _ _ rfl)
  exact .ite
    (fun _ => (agrees_parameters reads).bind fun _ _ same => goesOn _ _ (congrArg some same))
    fun _ => goesOn _ _ rfl

theorem agrees_stmt : Agrees start start' (SameBy StmtKind.stripped) (stmt below)
    (stmt below) := by
  refine agrees_peek fun kind => Agrees.at ?_
  have jump : Agrees start start' (SameBy StmtKind.stripped)
      (do
        let keyword := branchKeyword (← bump).kind
        if ← at? .identifier then return .branch keyword (some (← ident))
        else return .branch keyword none)
      (do
        let keyword := branchKeyword (← bump).kind
        if ← at? .identifier then return .branch keyword (some (← ident))
        else return .branch keyword none) := by
    refine agrees_bump.bind fun word word' read => ?_
    obtain ⟨_, read⟩ := read
    rw [read.alike.kind]
    exact .check (agrees_at? _)
      (agrees_ident.bind fun _ _ same => .pure (congrArg (fun label =>
        StmtKind.branch (branchKeyword word'.kind) (some label)) same))
      (.pure rfl)
  have decl : ∀ keyword, Agrees start start' (SameBy StmtKind.stripped)
      (do return .decl (← genDecl below keyword []))
      (do return .decl (← genDecl below keyword [])) := fun keyword =>
    (agrees_genDecl reads keyword).bind fun _ _ same => .pure (congrArg StmtKind.decl same)
  split
  · exact decl .consts
  · exact decl .vars
  · exact decl .types
  · exact agrees_bump.bind fun _ _ _ => (agrees_expr reads).bind fun _ _ same =>
      .pure (congrArg StmtKind.go same)
  · exact agrees_bump.bind fun _ _ _ => (agrees_expr reads).bind fun _ _ same =>
      .pure (congrArg StmtKind.defer same)
  · exact agrees_bump.bind fun _ _ _ => .check (agrees_atAny _) (.pure rfl)
      ((agrees_exprList reads).bind fun _ _ same => .pure (congrArg StmtKind.ret same))
  · exact jump
  · exact jump
  · exact jump
  · exact agrees_bump.bind fun _ _ _ => .pure rfl
  · exact (reads.each .block).bind fun _ _ same => .pure (congrArg StmtKind.block same)
  · exact reads.each .conditional
  · exact agrees_switch reads
  · exact agrees_select reads
  · exact agrees_loop reads
  · refine agrees_peekSecond.bind fun second _ same => ?_
    subst same
    refine .ite (fun _ => ?_) fun _ => agrees_simple reads
    exact agrees_ident.bind fun _ _ sameLabel => agrees_bump.bind fun _ _ _ =>
      .check (agrees_at? _)
        (.pure (congrArg (StmtKind.labeled · (.bare .empty)) sameLabel))
        ((reads.each .stmt).bind fun _ _ same =>
          .pure (congrArg₂ (fun label kind => StmtKind.labeled label (.bare kind)) sameLabel same))

/-! ## Files -/

theorem agrees_imports : Agrees start start' (SameBy (List.map Decl.stripped)) (imports below)
    (imports below) :=
  .check (agrees_at? _)
    (agrees_takeDoc.bind fun _ _ _ => (agrees_genDecl reads .imports).bind
      fun _ _ sameFirst => agrees_expectSemicolon.bind fun _ _ _ => (reads.each .imports).bind
        fun _ _ sameRest =>
          .pure (congrArg₂ (fun first rest => Decl.gen first :: rest) sameFirst sameRest))
    (.pure rfl)

theorem agrees_decl {doc doc' : List Comment} : Agrees start start' (SameBy Decl.stripped)
    (decl below doc) (decl below doc') := by
  have gen : ∀ keyword, Agrees start start' (SameBy Decl.stripped)
      (do return .gen (← genDecl below keyword doc))
      (do return .gen (← genDecl below keyword doc')) := fun keyword =>
    (agrees_genDecl reads keyword).bind fun _ _ same => .pure (congrArg Decl.gen same)
  refine agrees_peek fun kind => Agrees.at ?_
  split
  · exact gen .consts
  · exact gen .vars
  · exact gen .types
  · exact (agrees_funcDecl reads).bind fun _ _ same => .pure (congrArg Decl.func same)
  · exact agrees_fail _
  · exact agrees_fail _

theorem agrees_decls : Agrees start start' (SameBy (List.map Decl.stripped)) (decls below)
    (decls below) :=
  .check (agrees_at? _) (.pure rfl) (agrees_takeDoc.bind fun _ _ _ =>
    (agrees_decl reads).bind fun _ _ sameFirst => agrees_expectSemicolon.bind fun _ _ _ =>
      (reads.each .decls).bind fun _ _ sameRest =>
        .pure (congrArg₂ List.cons sameFirst sameRest))

theorem agrees_file : Agrees start start' (SameBy File.stripped) (file below) (file below) := by
  refine agrees_takeDoc.bind fun _ _ _ => (agrees_expect _).bind fun _ _ _ =>
    agrees_ident.bind fun package package' samePackage => agrees_expectSemicolon.bind
      fun _ _ _ => (reads.each .imports).bind fun imports imports' sameImports =>
        (reads.each .decls).bind fun decls decls' sameDecls =>
          agrees_takeRemaining.bind fun _ _ _ => .pure ?_
  have joined : SameBy (List.map Decl.stripped) (imports ++ decls) (imports' ++ decls') := by
    rw [SameBy, List.map_append, List.map_append]
    exact congrArg₂ (· ++ ·) sameImports sameDecls
  exact congrArg₂ (File.mk [] · · []) samePackage joined

end GoMend.Grammar
