import GoMend.Grammar.Types
import GoMend.Proofs.Stripped.Runs

/-!
# Types read side by side
-/

namespace GoMend

open GoMend.Parser

namespace Production

/-- An entry of a parameter list stripped. -/
def strippedEntry (entry : Expr × Option Expr) : Expr × Option Expr :=
  (entry.1.stripped, Expr.strippedOptional entry.2)

/-- What a production reads, stripped. -/
def stripped : (production : Production) → production.Result → production.Result
  | .binary _ | .binaryTail _ _ | .unary | .primaryTail _ | .element | .type => Expr.stripped
  | .exprTail | .elements => Expr.strippedAll
  | .arguments => fun read => (Expr.strippedAll read.1, read.2)
  | .params => List.map strippedEntry
  | .structFields | .interfaceMembers => Field.strippedAll
  | .block => Block.stripped
  | .stmts => Stmt.strippedAll
  | .stmt | .conditional => StmtKind.stripped
  | .caseClauses => CaseClause.strippedAll
  | .commClauses => CommClause.strippedAll
  | .identTail => List.map Ident.stripped
  | .specs _ => Spec.strippedAll
  | .imports | .decls => List.map Decl.stripped

end Production

/-- A reader whose productions agree, also behind operands that are the same when stripped. -/
structure Reader.Agrees (start start' : ParserState) (below : Reader) : Prop where
  each : ∀ production, Parser.Agrees start start' (SameBy production.stripped) (below production)
    (below production)
  binaryTail : ∀ floor {left left' : Expr}, SameBy Expr.stripped left left' →
    Parser.Agrees start start' (SameBy Expr.stripped) (below (.binaryTail floor left))
      (below (.binaryTail floor left'))
  primaryTail : ∀ {operand operand' : Expr}, SameBy Expr.stripped operand operand' →
    Parser.Agrees start start' (SameBy Expr.stripped) (below (.primaryTail operand))
      (below (.primaryTail operand'))

namespace Grammar

/-! ## Grouping parameters -/

theorem strippedAll_unnamed (entries : List (Expr × Option Expr)) :
    Field.strippedAll (entries.map fun entry => unnamedField entry.1) =
      (entries.map Production.strippedEntry).map fun entry => unnamedField entry.1 := by
  induction entries with
  | nil => rfl
  | cons entry rest ih => exact congrArg (unnamedField entry.1.stripped :: ·) ih

/-- Grouping does not look at positions. -/
theorem groupNamed?_stripped (pending : List Ident) (entries : List (Expr × Option Expr)) :
    groupNamed? (pending.map Ident.stripped) (entries.map Production.strippedEntry) =
      (groupNamed? pending entries).map Field.strippedAll := by
  induction entries generalizing pending with
  | nil => cases pending <;> rfl
  | cons entry rest ih =>
      obtain ⟨name, type⟩ := entry
      cases name with
      | ident name =>
          have waiting : pending.map Ident.stripped ++ [name.stripped] =
              (pending ++ [name]).map Ident.stripped := by simp
          cases type with
          | none =>
              have entryIs : Production.strippedEntry (.ident name, none) =
                  (.ident name.stripped, none) := rfl
              rw [List.map_cons, entryIs, groupNamed?, groupNamed?, waiting, ih]
          | some type =>
              have entryIs : Production.strippedEntry (.ident name, some type) =
                  (.ident name.stripped, some type.stripped) := rfl
              rw [List.map_cons, entryIs, groupNamed?, groupNamed?, waiting]
              have grouped := ih []
              rw [List.map_nil] at grouped
              rw [grouped, Option.map_map, Option.map_map]
              rfl
      | _ => cases pending <;> rfl

theorem groupParams?_stripped (entries : List (Expr × Option Expr)) :
    groupParams? (entries.map Production.strippedEntry) =
      (groupParams? entries).map Field.strippedAll := by
  have typed : (entries.map Production.strippedEntry).any (·.2.isSome) =
      entries.any (·.2.isSome) := by
    rw [List.any_map]
    congr 1
    funext entry
    obtain ⟨_, _ | _⟩ := entry <;> rfl
  rw [groupParams?, groupParams?, typed]
  split
  · exact groupNamed?_stripped [] entries
  · rw [Option.map_some, strippedAll_unnamed]

variable {start start' : ParserState} {below : Reader} (reads : below.Agrees start start')

theorem agrees_typeName : Agrees start start' (SameBy Expr.stripped) typeName typeName :=
  agrees_ident.bind fun _ _ sameName => .check (agrees_eat _)
    (agrees_ident.bind fun _ _ sameMember => .pure
      (congrArg₂ (Expr.selector <| .ident ·) sameName sameMember))
    (.pure (congrArg Expr.ident sameName))

include reads

theorem agrees_identList : Agrees start start' (SameBy (List.map Ident.stripped)) (identList below)
    (identList below) :=
  agrees_ident.bind fun _ _ sameFirst => (reads.each .identTail).bind fun _ _ sameRest =>
    .pure (congrArg₂ List.cons sameFirst sameRest)

theorem agrees_identTail : Agrees start start' (SameBy (List.map Ident.stripped)) (identTail below)
    (identTail below) :=
  .check (agrees_eat _)
    (agrees_ident.bind fun _ _ sameFirst => (reads.each .identTail).bind fun _ _ sameRest =>
      .pure (congrArg₂ List.cons sameFirst sameRest))
    (.pure rfl)

theorem agrees_paramType : Agrees start start' (SameBy Expr.stripped) (paramType below)
    (paramType below) :=
  .check (agrees_eat _)
    ((reads.each .type).bind fun _ _ same => .pure (congrArg Expr.variadic same))
    (reads.each .type)

theorem agrees_params : Agrees start start' (SameBy (List.map Production.strippedEntry))
    (params below) (params below) := by
  refine .check (agrees_atAny _) (.pure rfl)
    ((agrees_paramType reads).bind fun first first' sameFirst => ?_)
  refine (agrees_atAny _).bind fun single single' same => ?_
  subst same
  extract_lets next
  have goesOn : ∀ entry entry', SameBy Production.strippedEntry entry entry' →
      Agrees start start' (SameBy (List.map Production.strippedEntry)) (next entry) (next entry') :=
    fun _ _ sameEntry => .check (agrees_eat _)
      ((reads.each .params).bind fun _ _ sameRest =>
        .pure (congrArg₂ List.cons sameEntry sameRest))
      (.pure (congrArg ([·]) sameEntry))
  exact .ite (fun _ => goesOn _ _ (congrArg (·, none) sameFirst))
    fun _ => (agrees_paramType reads).bind fun _ _ sameType => goesOn _ _
      (congrArg₂ (fun first type => (first, some type)) sameFirst sameType)

theorem agrees_parameters : Agrees start start' (SameBy FieldList.stripped) (parameters below)
    (parameters below) := by
  refine (agrees_expect _).bind fun _ _ _ => ?_
  refine .restored (fun _ => reads.each .params) fun entries entries' sameEntries => ?_
  refine (agrees_expect _).bind fun close close' read => ?_
  have grouped : (groupParams? entries).map Field.strippedAll =
      (groupParams? entries').map Field.strippedAll := by
    rw [← groupParams?_stripped, ← groupParams?_stripped]
    exact congrArg groupParams? sameEntries
  cases isGrouped : groupParams? entries with
  | none =>
      rw [isGrouped, Option.map_none, eq_comm, Option.map_eq_none_iff] at grouped
      rw [grouped]
      exact agrees_failAt _ read.offset
  | some fields =>
      rw [isGrouped, Option.map_some, eq_comm, Option.map_eq_some_iff] at grouped
      obtain ⟨fields', isGrouped', sameFields⟩ := grouped
      rw [isGrouped']
      exact .pure (congrArg (FieldList.mk · []) sameFields.symm)

theorem agrees_results : Agrees start start' (SameBy FieldList.strippedOptional) (results below)
    (results below) :=
  .check (agrees_at? _)
    ((agrees_parameters reads).bind fun _ _ same => .pure (congrArg some same))
    (agrees_peek fun _ => Agrees.at (.ite
      (fun _ => (reads.each .type).bind fun _ _ same =>
        .pure (congrArg (fun type => some (FieldList.mk [unnamedField type] [])) same))
      fun _ => .pure rfl))

theorem agrees_signature : Agrees start start' (SameBy Signature.stripped) (signature below)
    (signature below) :=
  (agrees_parameters reads).bind fun _ _ sameParams =>
    (agrees_results reads).bind fun _ _ sameResults =>
      .pure (congrArg₂ Signature.mk sameParams sameResults)

theorem agrees_arrayLength : Agrees start start' (SameBy ArrayLength.stripped) (arrayLength below)
    (arrayLength below) := by
  refine (agrees_expect _).bind fun _ _ _ => .check (agrees_eat _) (.pure rfl)
    (.check (agrees_eat _) ((agrees_expect _).bind fun _ _ _ => .pure rfl) ?_)
  refine (reads.each (.binary 1)).nested.outcome.bind fun size size' ends => ?_
  refine (agrees_expect _).bind fun _ _ _ => ?_
  cases ends with
  | ok same => exact .pure (congrArg ArrayLength.fixed same)
  | error fails => exact agrees_throw fails

omit reads

theorem agrees_fieldTag : Agrees start start' (SameBy (Option.map Literal.stripped)) fieldTag
    fieldTag :=
  .checkAt (agreesAt_bump fun _ _ read =>
    .pure (congrArg some (read.toLiteral (by decide) .string))) (.pure rfl)

/-- Comments around a field make no difference. -/
theorem same_field {doc doc' : List Comment} {names names' : List Ident} {type type' : Expr}
    {tag tag' : Option Literal} {comment comment' : Option Comment} {rest rest' : List Field}
    (sameNames : SameBy (List.map Ident.stripped) names names')
    (sameType : SameBy Expr.stripped type type')
    (sameTag : SameBy (Option.map Literal.stripped) tag tag')
    (sameRest : SameBy Field.strippedAll rest rest') :
    SameBy Field.strippedAll (⟨doc, names, type, tag, comment⟩ :: rest)
      (⟨doc', names', type', tag', comment'⟩ :: rest') := by
  have field := congr (congrArg₂ (fun names type tag => Field.mk [] names type tag none)
    sameNames sameType) sameTag
  exact congrArg₂ List.cons field sameRest

/-- Names and a type stripped. -/
def strippedHead (head : List Ident × Expr) : List Ident × Expr :=
  (head.1.map Ident.stripped, head.2.stripped)

include reads

theorem agrees_structFieldHead : Agrees start start' (SameBy strippedHead) (structFieldHead below)
    (structFieldHead below) :=
  agrees_peek fun _ => Agrees.at (agrees_peekSecond.bind fun _ second same => by
    subst same
    exact .ite
      (fun _ => agrees_bump.bind fun _ _ _ => agrees_typeName.bind fun _ _ same =>
        .pure (congrArg (fun type => ([], Expr.star type)) same))
      fun _ => .ite
        (fun _ => agrees_typeName.bind fun _ _ same => .pure (congrArg (([], ·)) same))
        fun _ => (agrees_identList reads).bind fun _ _ sameNames =>
          (reads.each .type).bind fun _ _ sameType =>
            .pure (congrArg₂ Prod.mk sameNames sameType))

theorem agrees_structFields : Agrees start start' (SameBy Field.strippedAll) (structFields below)
    (structFields below) := by
  refine .check (agrees_atAny _) (.pure rfl) (agrees_takeDoc.bind fun _ _ _ => ?_)
  refine (agrees_structFieldHead reads).bind fun head head' sameHead => ?_
  obtain ⟨sameNames, sameType⟩ := Prod.mk.inj sameHead
  refine agrees_fieldTag.bind fun tag tag' sameTag => agrees_takeTrailing.bind fun _ _ _ =>
    agrees_expectSemicolon.bind fun _ _ _ => (reads.each .structFields).bind
      fun rest rest' sameRest => .pure ?_
  exact same_field sameNames sameType sameTag sameRest

theorem agrees_interfaceMemberHead : Agrees start start' (SameBy strippedHead)
    (interfaceMemberHead below) (interfaceMemberHead below) :=
  agrees_peek fun _ => Agrees.at (agrees_peekSecond.bind fun _ second same => by
    subst same
    exact .ite
      (fun _ => agrees_ident.bind fun _ _ sameName =>
        (agrees_signature reads).bind fun _ _ sameSignature =>
          .pure (congrArg₂ (fun name signature => ([name], Expr.funcType signature)) sameName
            sameSignature))
      fun _ => (reads.each .type).bind fun _ _ same => .pure (congrArg (([], ·)) same))

theorem agrees_interfaceMembers : Agrees start start' (SameBy Field.strippedAll)
    (interfaceMembers below) (interfaceMembers below) := by
  refine .check (agrees_atAny _) (.pure rfl) (agrees_takeDoc.bind fun _ _ _ => ?_)
  refine (agrees_interfaceMemberHead reads).bind fun head head' sameHead => ?_
  obtain ⟨sameNames, sameType⟩ := Prod.mk.inj sameHead
  exact agrees_takeTrailing.bind fun _ _ _ => agrees_expectSemicolon.bind fun _ _ _ =>
    (reads.each .interfaceMembers).bind fun _ _ sameRest =>
      .pure (same_field sameNames sameType rfl sameRest)

omit reads in
theorem agrees_memberList {members : Parser (List Field)}
    (agrees : Agrees start start' (SameBy Field.strippedAll) members members) :
    Agrees start start' (SameBy FieldList.stripped) (memberList members) (memberList members) :=
  (agrees_expect _).bind fun _ _ _ => agrees.bind fun _ _ sameFields =>
    agrees_takeDoc.bind fun _ _ _ => (agrees_expect _).bind fun _ _ _ =>
      .pure (congrArg (FieldList.mk · []) sameFields)

theorem agrees_type : Agrees start start' (SameBy Expr.stripped) (type below) (type below) := by
  refine agrees_peek fun kind => Agrees.at ?_
  split
  · exact agrees_typeName
  · exact agrees_bump.bind fun _ _ _ => (reads.each .type).bind fun _ _ same =>
      .pure (congrArg Expr.star same)
  · exact (agrees_arrayLength reads).bind fun _ _ sameLength =>
      (reads.each .type).bind fun _ _ sameElement =>
        .pure (congrArg₂ Expr.arrayType sameLength sameElement)
  · exact agrees_bump.bind fun _ _ _ => (agrees_expect _).bind fun _ _ _ =>
      (reads.each .type).bind fun _ _ sameKey => (agrees_expect _).bind fun _ _ _ =>
        (reads.each .type).bind fun _ _ sameValue =>
          .pure (congrArg₂ Expr.mapType sameKey sameValue)
  · refine agrees_bump.bind fun _ _ _ => (agrees_eat _).bind fun sends _ same => ?_
    subst same
    exact (reads.each .type).bind fun _ _ same => .pure (congrArg (Expr.chanType _) same)
  · exact agrees_bump.bind fun _ _ _ => (agrees_expect _).bind fun _ _ _ =>
      (reads.each .type).bind fun _ _ same => .pure (congrArg (Expr.chanType .receive) same)
  · exact agrees_bump.bind fun _ _ _ => (agrees_signature reads).bind fun _ _ same =>
      .pure (congrArg Expr.funcType same)
  · exact agrees_bump.bind fun _ _ _ =>
      (agrees_memberList (reads.each .structFields)).bind fun _ _ same =>
        .pure (congrArg Expr.structType same)
  · exact agrees_bump.bind fun _ _ _ =>
      (agrees_memberList (reads.each .interfaceMembers)).bind fun _ _ same =>
        .pure (congrArg Expr.interfaceType same)
  · exact agrees_bump.bind fun _ _ _ => (reads.each .type).bind fun _ _ same =>
      (agrees_expect _).bind fun _ _ _ => .pure (congrArg Expr.paren same)
  · exact agrees_fail _

end Grammar

end GoMend
