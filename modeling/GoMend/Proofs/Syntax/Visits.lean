import GoMend.Proofs.Syntax.Idents
import GoMend.Syntax.Visit

/-!
# Names on a visit

A visit meets the names of a tree in the order in which they occur.  Where it leaves each of them
as a change of names does, it ends with the tree rebuilt by the change.  A visit that changes the
first name a change applies to is therefore a change of all names, as long as the change applies to
no other.
-/

namespace GoMend

section

variable {σ α β : Type} (meet : Ident → StateM σ Ident) (change : Ident → Ident)

/-- Names that a visit meets one after another and leaves as the change does, with what it has seen
before the first and after the last of them. -/
inductive Meets : σ → List Ident → σ → Prop
  | nil {seen : σ} : Meets seen [] seen
  | cons {seen next last : σ} {ident : Ident} {rest : List Ident} :
      (meet ident).run seen = (change ident, next) → Meets next rest last →
      Meets seen (ident :: rest) last

variable {meet change}

theorem Meets.split {last : σ} {idents rest : List Ident} :
    {seen : σ} → Meets meet change seen (idents ++ rest) last →
      ∃ next, Meets meet change seen idents next ∧ Meets meet change next rest last := by
  induction idents with
  | nil => exact fun meets => ⟨_, .nil, meets⟩
  | cons ident idents ih =>
      intro seen meets
      cases meets with
      | cons met others =>
          obtain ⟨next, first, second⟩ := ih others
          exact ⟨next, .cons met first, second⟩

theorem Meets.append {seen next last : σ} {idents rest : List Ident}
    (first : Meets meet change seen idents next) (second : Meets meet change next rest last) :
    Meets meet change seen (idents ++ rest) last := by
  induction first with
  | nil => exact second
  | cons met _ ih => exact .cons met (ih second)

variable (meet change)

/-- A visit ends with a result if it meets the names and leaves them as the change does. -/
def Follows (visit : StateM σ α) (result : α) (idents : List Ident) : Prop :=
  ∀ seen last, Meets meet change seen idents last → visit.run seen = (result, last)

variable {meet change} {visit : StateM σ α} {result : α} {idents rest others : List Ident}

theorem follows_pure (result : α) : Follows meet change (pure result) result [] := by
  intro seen last meets
  cases meets
  rfl

theorem follows_meet (ident : Ident) :
    Follows meet change (meet ident) (change ident) [ident] := by
  intro seen last meets
  cases meets with
  | cons met others =>
      cases others
      exact met

theorem Follows.bind {next : α → StateM σ β} {result' : β}
    (first : Follows meet change visit result idents)
    (second : Follows meet change (next result) result' rest) :
    Follows meet change (visit >>= next) result' (idents ++ rest) := by
  intro seen last meets
  obtain ⟨middle, met, others⟩ := meets.split
  rw [StateT.run_bind, first seen middle met]
  exact second middle last others

theorem Follows.map (build : α → β) (follows : Follows meet change visit result idents) :
    Follows meet change (visit >>= fun found => pure (build found)) (build result) idents := by
  rw [← List.append_nil idents]
  exact follows.bind (follows_pure _)

/-- The names of three parts, put together from the left. -/
theorem Follows.regroup
    (follows : Follows meet change visit result (idents ++ (rest ++ others))) :
    Follows meet change visit result (idents ++ rest ++ others) := by
  rwa [List.append_assoc]

theorem follows_optional (name : Option Ident) :
    Follows meet change (name.mapM meet) (name.map change) (name.elim [] fun name => [name]) := by
  cases name with
  | none => exact follows_pure none
  | some name => exact (follows_meet name).map some

theorem follows_names (names : List Ident) :
    Follows meet change (names.mapM meet) (names.map change)
      (names.flatMap fun name => [name]) := by
  induction names with
  | nil => exact follows_pure []
  | cons name rest ih =>
      rw [List.mapM_cons]
      exact (follows_meet name).bind (ih.map _)

end

section

variable {σ : Type} {meet : Ident → StateM σ Ident} {change : Ident → Ident}

-- Each case holds by unfolding and by what holds of the parts, as for the collecting walk.
set_option linter.unusedSectionVars false in
mutual

theorem Expr.visit_follows :
    (expr : Expr) → Follows meet change (expr.visit meet) (expr.rebuild change fun _ => none)
      expr.idents
  | .ident name => (follows_meet name).map Expr.ident
  | .literal value => follows_pure (Expr.literal value)
  | .composite type elements multiline => by
      have typeFollows := Expr.visitOptional_follows type
      have elementsFollow := Expr.visitAll_follows elements
      cases type <;>
        exact typeFollows.bind
          (elementsFollow.map fun elements => Expr.composite _ elements multiline)
  | .function signature body =>
      (Signature.visit_follows signature).bind ((Block.visit_follows body).map (Expr.function _))
  | .paren inner => (Expr.visit_follows inner).map Expr.paren
  | .selector base name =>
      (Expr.visit_follows base).bind ((follows_meet name).map (Expr.selector _))
  | .index base position =>
      (Expr.visit_follows base).bind ((Expr.visit_follows position).map (Expr.index _))
  | .slice base low high max => by
      have baseFollows := Expr.visit_follows base
      have lowFollows := Expr.visitOptional_follows low
      have highFollows := Expr.visitOptional_follows high
      have maxFollows := Expr.visitOptional_follows max
      cases low <;> cases high <;> cases max <;>
        exact (baseFollows.bind (lowFollows.bind (highFollows.bind
          (maxFollows.map (Expr.slice _ _ _))))).regroup.regroup
  | .assertion base type => by
      have baseFollows := Expr.visit_follows base
      have typeFollows := Expr.visitOptional_follows type
      cases type <;> exact baseFollows.bind (typeFollows.map (Expr.assertion _))
  | .call callee arguments spread =>
      (Expr.visit_follows callee).bind
        ((Expr.visitAll_follows arguments).map fun arguments => Expr.call _ arguments spread)
  | .star inner => (Expr.visit_follows inner).map Expr.star
  | .unary op operand => (Expr.visit_follows operand).map (Expr.unary op)
  | .binary left op right =>
      (Expr.visit_follows left).bind ((Expr.visit_follows right).map (Expr.binary _ op))
  | .keyValue key value =>
      (Expr.visit_follows key).bind ((Expr.visit_follows value).map (Expr.keyValue _))
  | .arrayType length element =>
      (ArrayLength.visit_follows length).bind
        ((Expr.visit_follows element).map (Expr.arrayType _))
  | .mapType key value =>
      (Expr.visit_follows key).bind ((Expr.visit_follows value).map (Expr.mapType _))
  | .chanType direction element => (Expr.visit_follows element).map (Expr.chanType direction)
  | .funcType signature => (Signature.visit_follows signature).map Expr.funcType
  | .structType fields => (FieldList.visit_follows fields).map Expr.structType
  | .interfaceType methods => (FieldList.visit_follows methods).map Expr.interfaceType
  | .variadic element => (Expr.visit_follows element).map Expr.variadic

theorem Expr.visitOptional_follows :
    (expr : Option Expr) →
      Follows meet change (Expr.visitOptional meet expr)
        (expr.map (·.rebuild change fun _ => none)) (expr.elim [] (·.idents))
  | none => follows_pure none
  | some expr => (Expr.visit_follows expr).map some

theorem Expr.visitAll_follows :
    (exprs : List Expr) →
      Follows meet change (Expr.visitAll meet exprs)
        (Expr.rebuildAll change (fun _ => none) exprs) (Expr.identsAll exprs)
  | [] => follows_pure []
  | expr :: rest => (Expr.visit_follows expr).bind ((Expr.visitAll_follows rest).map (List.cons _))

theorem Expr.visitAllOptional_follows :
    (exprs : Option (List Expr)) →
      Follows meet change (Expr.visitAllOptional meet exprs)
        (exprs.map (Expr.rebuildAll change fun _ => none)) (exprs.elim [] Expr.identsAll)
  | none => follows_pure none
  | some exprs => (Expr.visitAll_follows exprs).map some

theorem ArrayLength.visit_follows :
    (length : ArrayLength) →
      Follows meet change (length.visit meet) (length.rebuild change fun _ => none) length.idents
  | .slice => follows_pure ArrayLength.slice
  | .inferred => follows_pure ArrayLength.inferred
  | .fixed size => (Expr.visit_follows size).map ArrayLength.fixed

theorem Field.visitAll_follows :
    (fields : List Field) →
      Follows meet change (Field.visitAll meet fields)
        (Field.rebuildAll change (fun _ => none) fields) (Field.identsAll fields)
  | [] => follows_pure []
  | ⟨doc, names, type, tag, comment⟩ :: rest =>
      ((follows_names names).bind
        ((Expr.visit_follows type).map fun type => Field.mk doc _ type tag comment)).bind
        ((Field.visitAll_follows rest).map (List.cons _))

theorem FieldList.visit_follows :
    (list : FieldList) →
      Follows meet change (list.visit meet) (list.rebuild change fun _ => none) list.idents
  | ⟨fields, closing⟩ => (Field.visitAll_follows fields).map (FieldList.mk · closing)

theorem FieldList.visitOptional_follows :
    (list : Option FieldList) →
      Follows meet change (FieldList.visitOptional meet list)
        (list.map (·.rebuild change fun _ => none)) (list.elim [] (·.idents))
  | none => follows_pure none
  | some list => (FieldList.visit_follows list).map some

theorem Signature.visit_follows :
    (signature : Signature) →
      Follows meet change (signature.visit meet) (signature.rebuild change fun _ => none)
        signature.idents
  | ⟨params, results⟩ => by
      have paramsFollow := FieldList.visit_follows params
      have resultsFollow := FieldList.visitOptional_follows results
      cases results <;> exact paramsFollow.bind (resultsFollow.map (Signature.mk _))

theorem Spec.visitAll_follows :
    (specs : List Spec) →
      Follows meet change (Spec.visitAll meet specs)
        (Spec.rebuildAll change (fun _ => none) specs) (Spec.identsAll specs)
  | [] => follows_pure []
  | .imported ⟨doc, name, path, comment⟩ :: rest => by
      have nameFollows : Follows meet change (name.mapM meet) _ _ := follows_optional name
      have restFollows := Spec.visitAll_follows rest
      cases name <;>
        exact (nameFollows.map fun name => Spec.imported ⟨doc, name, path, comment⟩).bind
          (restFollows.map (List.cons _))
  | .value ⟨doc, names, type, values, comment⟩ :: rest => by
      have namesFollow : Follows meet change (names.mapM meet) _ _ := follows_names names
      have typeFollows := Expr.visitOptional_follows type
      have valuesFollow := Expr.visitAll_follows values
      have restFollows := Spec.visitAll_follows rest
      cases type <;>
        exact (((namesFollow.bind (typeFollows.bind (valuesFollow.map fun values =>
          ValueSpec.mk doc _ _ values comment))).regroup).map Spec.value).bind
          (restFollows.map (List.cons _))
  | .type ⟨doc, name, isAlias, type, comment⟩ :: rest =>
      (((follows_meet name).bind ((Expr.visit_follows type).map fun type =>
        TypeSpec.mk doc _ isAlias type comment)).map Spec.type).bind
        ((Spec.visitAll_follows rest).map (List.cons _))

theorem GenDecl.visit_follows :
    (decl : GenDecl) →
      Follows meet change (decl.visit meet) (decl.rebuild change fun _ => none) decl.idents
  | ⟨doc, keyword, grouped, specs, offset⟩ =>
      (Spec.visitAll_follows specs).map fun specs => GenDecl.mk doc keyword grouped specs offset

theorem Block.visit_follows :
    (block : Block) →
      Follows meet change (block.visit meet) (block.rebuild change fun _ => none) block.idents
  | ⟨stmts, closing⟩ => (Stmt.visitAll_follows stmts).map (Block.mk · closing)

theorem Stmt.visitAll_follows :
    (stmts : List Stmt) →
      Follows meet change (Stmt.visitAll meet stmts)
        (Stmt.rebuildAll change (fun _ => none) stmts) (Stmt.identsAll stmts)
  | [] => follows_pure []
  | stmt :: rest => (Stmt.visit_follows stmt).bind ((Stmt.visitAll_follows rest).map (List.cons _))

theorem Stmt.visit_follows :
    (stmt : Stmt) →
      Follows meet change (stmt.visit meet) (stmt.rebuild change fun _ => none) stmt.idents
  | ⟨doc, kind, comment⟩ => (StmtKind.visit_follows kind).map (Stmt.mk doc · comment)

theorem Stmt.visitOptional_follows :
    (stmt : Option Stmt) →
      Follows meet change (Stmt.visitOptional meet stmt)
        (stmt.map (·.rebuild change fun _ => none)) (stmt.elim [] (·.idents))
  | none => follows_pure none
  | some stmt => (Stmt.visit_follows stmt).map some

theorem StmtKind.visit_follows :
    (kind : StmtKind) →
      Follows meet change (kind.visit meet) (kind.rebuild change fun _ => none) kind.idents
  | .decl decl => (GenDecl.visit_follows decl).map StmtKind.decl
  | .empty => follows_pure StmtKind.empty
  | .labeled label stmt =>
      (follows_meet label).bind ((Stmt.visit_follows stmt).map (StmtKind.labeled _))
  | .expr expr => (Expr.visit_follows expr).map StmtKind.expr
  | .send channel value =>
      (Expr.visit_follows channel).bind ((Expr.visit_follows value).map (StmtKind.send _))
  | .incDec operand increment =>
      (Expr.visit_follows operand).map (StmtKind.incDec · increment)
  | .assign targets op values =>
      (Expr.visitAll_follows targets).bind
        ((Expr.visitAll_follows values).map (StmtKind.assign _ op))
  | .go call => (Expr.visit_follows call).map StmtKind.go
  | .defer call => (Expr.visit_follows call).map StmtKind.defer
  | .ret results => (Expr.visitAll_follows results).map StmtKind.ret
  | .branch keyword label => by
      have labelFollows : Follows meet change (label.mapM meet) _ _ := follows_optional label
      cases label <;> exact labelFollows.map (StmtKind.branch keyword)
  | .block block => (Block.visit_follows block).map StmtKind.block
  | .conditional init condition body alternative => by
      have initFollows := Stmt.visitOptional_follows init
      have conditionFollows := Expr.visit_follows condition
      have bodyFollows := Block.visit_follows body
      have alternativeFollows := Stmt.visitOptional_follows alternative
      cases init <;> cases alternative <;>
        exact (initFollows.bind (conditionFollows.bind (bodyFollows.bind
          (alternativeFollows.map (StmtKind.conditional _ _ _))))).regroup.regroup
  | .switch init tag clauses => by
      have initFollows := Stmt.visitOptional_follows init
      have tagFollows := Expr.visitOptional_follows tag
      have clausesFollow := CaseClause.visitAll_follows clauses
      cases init <;> cases tag <;>
        exact (initFollows.bind (tagFollows.bind
          (clausesFollow.map (StmtKind.switch _ _)))).regroup
  | .typeSwitch init binding subject clauses => by
      have initFollows := Stmt.visitOptional_follows init
      have bindingFollows : Follows meet change (binding.mapM meet) _ _ := follows_optional binding
      have subjectFollows := Expr.visit_follows subject
      have clausesFollow := CaseClause.visitAll_follows clauses
      cases init <;> cases binding <;>
        exact (initFollows.bind (bindingFollows.bind (subjectFollows.bind
          (clausesFollow.map (StmtKind.typeSwitch _ _ _))))).regroup.regroup
  | .select clauses => (CommClause.visitAll_follows clauses).map StmtKind.select
  | .loop init condition post body => by
      have initFollows := Stmt.visitOptional_follows init
      have conditionFollows := Expr.visitOptional_follows condition
      have postFollows := Stmt.visitOptional_follows post
      have bodyFollows := Block.visit_follows body
      cases init <;> cases condition <;> cases post <;>
        exact (initFollows.bind (conditionFollows.bind (postFollows.bind
          (bodyFollows.map (StmtKind.loop _ _ _))))).regroup.regroup
  | .range key value define subject body => by
      have keyFollows := Expr.visitOptional_follows key
      have valueFollows := Expr.visitOptional_follows value
      have subjectFollows := Expr.visit_follows subject
      have bodyFollows := Block.visit_follows body
      cases key <;> cases value
      all_goals
        refine .regroup (.regroup (keyFollows.bind ?_))
        exact valueFollows.bind (subjectFollows.bind
          (bodyFollows.map (StmtKind.range _ _ define _)))

theorem CaseClause.visitAll_follows :
    (clauses : List CaseClause) →
      Follows meet change (CaseClause.visitAll meet clauses)
        (CaseClause.rebuildAll change (fun _ => none) clauses) (CaseClause.identsAll clauses)
  | [] => follows_pure []
  | ⟨doc, list, body⟩ :: rest => by
      have listFollows := Expr.visitAllOptional_follows list
      have bodyFollows := Stmt.visitAll_follows body
      have restFollow := CaseClause.visitAll_follows rest
      cases list with
      | none =>
          exact listFollows.bind (bodyFollows.bind (restFollow.map (List.cons ⟨doc, _, _⟩)))
      | some list =>
          exact (listFollows.bind (bodyFollows.bind
            (restFollow.map (List.cons ⟨doc, _, _⟩)))).regroup

theorem CommClause.visitAll_follows :
    (clauses : List CommClause) →
      Follows meet change (CommClause.visitAll meet clauses)
        (CommClause.rebuildAll change (fun _ => none) clauses) (CommClause.identsAll clauses)
  | [] => follows_pure []
  | ⟨doc, comm, body⟩ :: rest => by
      have commFollows := Stmt.visitOptional_follows comm
      have bodyFollows := Stmt.visitAll_follows body
      have restFollows := CommClause.visitAll_follows rest
      cases comm <;>
        exact (commFollows.bind (bodyFollows.bind
          (restFollows.map (List.cons ⟨doc, _, _⟩)))).regroup

end

theorem Block.visitOptional_follows (block : Option Block) :
    Follows meet change (Block.visitOptional meet block)
      (block.map (·.rebuild change fun _ => none)) (block.elim [] (·.idents)) := by
  cases block with
  | none => exact follows_pure none
  | some block => exact (Block.visit_follows block).map some

theorem FuncDecl.visit_follows (decl : FuncDecl) :
    Follows meet change (decl.visit meet) (decl.rebuild change fun _ => none) decl.idents := by
  obtain ⟨doc, receiver, name, signature, body⟩ := decl
  have receiverFollows : Follows meet change _ _ _ := FieldList.visitOptional_follows receiver
  have bodyFollows : Follows meet change _ _ _ := Block.visitOptional_follows body
  cases receiver <;> cases body <;>
    exact (receiverFollows.bind ((follows_meet name).bind ((Signature.visit_follows signature).bind
      (bodyFollows.map (FuncDecl.mk doc _ _ _))))).regroup.regroup

theorem Decl.visit_follows (decl : Decl) :
    Follows meet change (decl.visit meet) (decl.rebuild change fun _ => none) decl.idents := by
  cases decl with
  | gen decl => exact (GenDecl.visit_follows decl).map Decl.gen
  | func decl => exact (FuncDecl.visit_follows decl).map Decl.func

theorem Decl.visitAll_follows (decls : List Decl) :
    Follows meet change (Decl.visitAll meet decls) (decls.map (·.rebuild change fun _ => none))
      (decls.flatMap Decl.idents) := by
  induction decls with
  | nil => exact follows_pure []
  | cons decl rest ih => exact (Decl.visit_follows decl).bind (ih.map (List.cons _))

/-- A visit of a file that leaves every name as a change does ends with the file so changed. -/
theorem File.visit_follows (file : File) :
    Follows meet change (file.visit meet) (file.mapIdents change) file.idents :=
  (follows_meet file.package).bind
    ((Decl.visitAll_follows file.decls).map (File.mk file.doc _ · file.trailing))

end

/-! ## Imports on a visit -/

section

variable {σ : Type} {meet : Ident → StateM σ Ident}

end

/-! ## Changing the first name -/

namespace File

variable {change : Ident → Option Ident} {ident changed : Ident}

theorem meetFirst_of_none (untouched : change ident = none) (seen : Bool) :
    (meetFirst change ident).run seen = (ident, seen) := by
  cases seen with
  | true => rfl
  | false =>
      rw [meetFirst, untouched]
      rfl

theorem meetFirst_of_some (touched : change ident = some changed) :
    (meetFirst change ident).run false = (changed, true) := by
  rw [meetFirst, touched]
  rfl

/-- Names that the change does not apply to are left as they are. -/
theorem meets_untouched {idents : List Ident} (untouched : ∀ ident ∈ idents, change ident = none)
    (seen : Bool) :
    Meets (meetFirst change) (fun ident => (change ident).getD ident) seen idents seen := by
  induction idents with
  | nil => exact .nil
  | cons ident rest ih =>
      obtain ⟨first, others⟩ := List.forall_mem_cons.1 untouched
      refine .cons ?_ (ih others)
      rw [meetFirst_of_none first, first, Option.getD_none]

/-- To change the first name is to change all names if the change applies to one name only. -/
theorem changeFirst_eq_mapIdents {file : File} {before after : List Ident}
    (sections : file.idents = before ++ ident :: after) (touched : change ident = some changed)
    (untouched : ∀ other ∈ before ++ after, change other = none) :
    file.changeFirst change = file.mapIdents fun ident => (change ident).getD ident := by
  obtain ⟨unchangedBefore, unchangedAfter⟩ := List.forall_mem_append.1 untouched
  have meets : Meets (meetFirst change) (fun ident => (change ident).getD ident) false file.idents
      true := by
    rw [sections]
    refine (meets_untouched unchangedBefore false).append
      (.cons ?_ (meets_untouched unchangedAfter true))
    rw [meetFirst_of_some touched, touched, Option.getD_some]
  exact congrArg Prod.fst (file.visit_follows false true meets)

end File

end GoMend
