import Mathlib.Data.List.Nodup
import GoMend.Proofs.Scope.Visits
import GoMend.Proofs.Syntax.Idents

/-!
# Visits and occurrences

Resolution meets no occurrence of a name twice, and none that the walk over the tree does
not find.  The two go through a tree in different orders and resolution leaves out field
names and members, so the occurrences are counted.
-/

namespace GoMend

namespace Visit

/-- Visits meet each occurrence at most as often as it is listed. -/
def Among (visits : List Visit) (idents : List Ident) : Prop :=
  ∀ ident, (visits.map Visit.ident).count ident ≤ idents.count ident

namespace Among

variable {visits left right more others : List Visit} {idents first second : List Ident}

theorem nil : Among [] idents :=
  fun _ => Nat.zero_le _

theorem one (visit : Visit) : Among [visit] [visit.ident] :=
  fun _ => Nat.le_refl _

theorem announced (idents : List Ident) : Among (idents.map .binder) idents := by
  intro ident
  have same : (idents.map Visit.binder).map Visit.ident = idents := by
    rw [List.map_map]
    exact List.map_id idents
  exact Nat.le_of_eq (congrArg (List.count ident) same)

theorem append (leftAmong : Among left first) (rightAmong : Among right second) :
    Among (left ++ right) (first ++ second) := by
  intro ident
  have := leftAmong ident
  have := rightAmong ident
  simp only [List.map_append, List.count_append]
  omega

/-- The parts of a tree are visited in another order than they are listed. -/
theorem crossed (leftAmong : Among left second) (rightAmong : Among right first) :
    Among (left ++ right) (first ++ second) := by
  intro ident
  have := leftAmong ident
  have := rightAmong ident
  simp only [List.map_append, List.count_append]
  omega

/-- What the parts of a tree use is visited before what they declare. -/
theorem interleaved (leftAmong : Among (left ++ more) first)
    (rightAmong : Among (right ++ others) second) :
    Among (left ++ right ++ (more ++ others)) (first ++ second) := by
  intro ident
  have := leftAmong ident
  have := rightAmong ident
  simp only [List.map_append, List.count_append] at *
  omega

/-- Occurrences that are not visited may stand before the others. -/
theorem behind (skipped : List Ident) (among : Among visits idents) :
    Among visits (skipped ++ idents) :=
  nil.append among

/-- Occurrences that are not visited may stand behind the others. -/
theorem before (skipped : List Ident) (among : Among visits idents) :
    Among visits (idents ++ skipped) :=
  nil.crossed among

/-- The first of some visits meet no more than all of them do. -/
theorem uses (among : Among (left ++ right) idents) : Among left idents := by
  intro ident
  have := among ident
  simp only [List.map_append, List.count_append] at this
  omega

theorem relist (among : Among visits idents) (sameVisits : visits = more)
    (sameIdents : idents = first) : Among more first :=
  sameVisits ▸ sameIdents ▸ among

theorem mem {visit : Visit} (among : Among visits idents) (member : visit ∈ visits) :
    visit.ident ∈ idents := by
  have met : 0 < (visits.map Visit.ident).count visit.ident :=
    List.count_pos_iff.2 (List.mem_map_of_mem member)
  exact List.count_pos_iff.1 (Nat.lt_of_lt_of_le met (among visit.ident))

/-- Where no two occurrences stand at one place, no two visits do. -/
theorem nodup (among : Among visits idents) (distinct : (idents.map (·.offset)).Nodup) :
    (visits.map (·.ident.offset)).Nodup := by
  have once : (visits.map Visit.ident).Nodup := List.nodup_iff_count_le_one.2 fun ident =>
    Nat.le_trans (among ident) (List.nodup_iff_count_le_one.1 distinct.of_map ident)
  have apart := once.map_on (f := (·.offset)) fun one oneMember other otherMember same => by
    obtain ⟨oneVisit, oneVisited, rfl⟩ := List.mem_map.1 oneMember
    obtain ⟨otherVisit, otherVisited, rfl⟩ := List.mem_map.1 otherMember
    exact List.inj_on_of_nodup_map distinct (among.mem oneVisited) (among.mem otherVisited) same
  rwa [List.map_map] at apart

end Among

end Visit

open Visit

section

variable (package : PackageScope)

mutual

theorem Expr.visits_among (hint : Option Expr) (env : Env) : (expr : Expr) →
    Among (expr.visits package hint env) expr.idents
  | .ident name => .one (.use name env)
  | .literal _ => .nil
  | .composite type elements _ => by
      have elementsAmong :=
        Expr.visitsElements_among (env.shape package type hint) env elements
      cases type with
      | none => exact elementsAmong
      | some type => exact (Expr.visits_among none env type).append elementsAmong
  | .function signature body =>
      (Signature.visits_among env signature).append
        (Block.visits_among (env.bindAll signature.names) body)
  | .paren inner => Expr.visits_among none env inner
  | .selector base name => (Expr.visits_among none env base).before [name]
  | .index base position =>
      (Expr.visits_among none env base).append (Expr.visits_among none env position)
  | .slice base low high max => by
      have baseAmong := Expr.visits_among none env base
      have lowAmong := Expr.visitsOptional_among env low
      have highAmong := Expr.visitsOptional_among env high
      have maxAmong := Expr.visitsOptional_among env max
      cases low <;> cases high <;> cases max <;>
        exact ((baseAmong.append lowAmong).append highAmong).append maxAmong
  | .assertion base type => by
      have baseAmong := Expr.visits_among none env base
      have typeAmong := Expr.visitsOptional_among env type
      cases type <;> exact baseAmong.append typeAmong
  | .call callee arguments _ =>
      (Expr.visits_among none env callee).append (Expr.visitsAll_among env arguments)
  | .star inner => Expr.visits_among none env inner
  | .unary _ operand => Expr.visits_among none env operand
  | .binary left _ right =>
      (Expr.visits_among none env left).append (Expr.visits_among none env right)
  | .keyValue key value =>
      (Expr.visits_among none env key).append (Expr.visits_among none env value)
  | .arrayType length element =>
      (ArrayLength.visits_among env length).append (Expr.visits_among none env element)
  | .mapType key value =>
      (Expr.visits_among none env key).append (Expr.visits_among none env value)
  | .chanType _ element => Expr.visits_among none env element
  | .funcType signature => (Signature.visits_among env signature).uses
  | .structType fields => (FieldList.visits_among env fields).uses
  | .interfaceType methods => (FieldList.visits_among env methods).uses
  | .variadic element => Expr.visits_among none env element

theorem Expr.visitsOptional_among (env : Env) : (expr : Option Expr) →
    Among (expr.elim [] (·.visits package none env)) (expr.elim [] Expr.idents)
  | none => .nil
  | some expr => Expr.visits_among none env expr

theorem Expr.visitsAll_among (env : Env) : (exprs : List Expr) →
    Among (Expr.visitsAll package env exprs) (Expr.identsAll exprs)
  | [] => .nil
  | expr :: rest => (Expr.visits_among none env expr).append (Expr.visitsAll_among env rest)

theorem Expr.visitsElements_among (shape : Shape) (env : Env) : (exprs : List Expr) →
    Among (Expr.visitsElements package shape env exprs) (Expr.identsAll exprs)
  | [] => .nil
  | element :: rest => by
      have elementAmong := Expr.visits_among shape.element? env element
      have restAmong := Expr.visitsElements_among shape env rest
      cases element with
      | keyValue key value =>
          have keyAmong := Expr.visits_among shape.key? env key
          have valueAmong := Expr.visits_among shape.element? env value
          rw [Expr.visitsElements]
          split
          · exact (keyAmong.append valueAmong).append restAmong
          · exact (valueAmong.behind key.idents).append restAmong
      | _ => exact elementAmong.append restAmong

theorem Expr.visitsTargets_among (env : Env) : (exprs : List Expr) →
    Among (Expr.visitsTargets package env exprs) (Expr.identsAll exprs)
  | [] => .nil
  | target :: rest => by
      have targetAmong := Expr.visits_among none env target
      have restAmong := Expr.visitsTargets_among env rest
      cases target with
      | ident name =>
          exact (Among.one (.binder name)).append (Expr.visitsTargets_among (env.bind name) rest)
      | _ => exact targetAmong.append restAmong

theorem ArrayLength.visits_among (env : Env) : (length : ArrayLength) →
    Among (length.visits package env) length.idents
  | .slice => .nil
  | .inferred => .nil
  | .fixed size => Expr.visits_among none env size

/-- The names of fields are listed before their types. -/
theorem Field.visitsAll_among (env : Env) : (fields : List Field) →
    Among (Field.visitsAll package env fields ++ (fields.flatMap (·.names)).map .binder)
      (Field.identsAll fields)
  | [] => .nil
  | ⟨_, names, type, _, _⟩ :: rest => by
      have typeAmong := (Expr.visits_among none env type).crossed (Among.announced names)
      have restAmong := Field.visitsAll_among env rest
      exact (typeAmong.interleaved restAmong).relist (by simp [Field.visitsAll])
        (by simp [Field.collectAll, Field.collect])

theorem FieldList.visits_among (env : Env) : (list : FieldList) →
    Among (list.visits package env ++ list.names.map .binder) list.idents
  | ⟨fields, _⟩ => Field.visitsAll_among env fields

theorem Signature.visits_among (env : Env) : (signature : Signature) →
    Among (signature.visits package env ++ signature.names.map .binder) signature.idents
  | ⟨params, none⟩ => by
      have paramsAmong := FieldList.visits_among env params
      exact paramsAmong.relist (by simp [Signature.visits, Signature.names])
        (by simp [Signature.collect])
  | ⟨params, some results⟩ => by
      have paramsAmong := FieldList.visits_among env params
      have resultsAmong := FieldList.visits_among env results
      exact (paramsAmong.interleaved resultsAmong).relist
        (by simp [Signature.visits, Signature.names]) rfl

theorem Spec.visitsAll_among (isLocal : Bool) (env : Env) : (specs : List Spec) →
    Among (Spec.visitsAll package isLocal env specs) (Spec.identsAll specs)
  | [] => .nil
  | .imported spec :: rest => (Spec.visitsAll_among isLocal env rest).behind _
  | .value ⟨_, names, type, values, _⟩ :: rest => by
      have typeAmong := Expr.visitsOptional_among env type
      have valuesAmong := Expr.visitsAll_among env values
      have namesAmong : Among (if isLocal then names.map .binder else []) names := by
        cases isLocal with
        | true => exact .announced names
        | false => exact .nil
      have restAmong :=
        Spec.visitsAll_among isLocal (if isLocal then env.bindAll names else env) rest
      refine (((typeAmong.append valuesAmong).crossed namesAmong).append restAmong).relist ?_ ?_
      · cases type <;> rfl
      · cases type <;> simp [Spec.collectAll, Spec.collect, ValueSpec.collect]
  | .type ⟨_, name, _, type, _⟩ :: rest => by
      have nameAmong : Among (if isLocal then [.binder name] else []) [name] := by
        cases isLocal with
        | true => exact .one (.binder name)
        | false => exact .nil
      have typeAmong := Expr.visits_among none (if isLocal then env.bind name else env) type
      have restAmong :=
        Spec.visitsAll_among isLocal (if isLocal then env.bind name else env) rest
      exact (nameAmong.append typeAmong).append restAmong

theorem GenDecl.visits_among (isLocal : Bool) (env : Env) : (decl : GenDecl) →
    Among (decl.visits package isLocal env) decl.idents
  | ⟨_, _, _, specs, _⟩ => Spec.visitsAll_among isLocal env specs

theorem Block.visits_among (env : Env) : (block : Block) →
    Among (block.visits package env) block.idents
  | ⟨stmts, _⟩ => Stmt.visitsAll_among env stmts

theorem Stmt.visitsAll_among (env : Env) : (stmts : List Stmt) →
    Among (Stmt.visitsAll package env stmts) (Stmt.identsAll stmts)
  | [] => .nil
  | stmt :: rest =>
      (Stmt.visits_among env stmt).append (Stmt.visitsAll_among (env.bindAll stmt.binds) rest)

theorem Stmt.visits_among (env : Env) : (stmt : Stmt) →
    Among (stmt.visits package env) stmt.idents
  | ⟨_, kind, _⟩ => StmtKind.visits_among env kind

theorem Stmt.visitsOptional_among (env : Env) : (stmt : Option Stmt) →
    Among (stmt.elim [] (·.visits package env)) (stmt.elim [] Stmt.idents)
  | none => .nil
  | some stmt => Stmt.visits_among env stmt

theorem StmtKind.visits_among (env : Env) : (kind : StmtKind) →
    Among (kind.visits package env) kind.idents
  | .decl decl => GenDecl.visits_among true env decl
  | .empty => .nil
  | .branch _ _ => .nil
  | .labeled label stmt => (Stmt.visits_among env stmt).behind [label]
  | .expr expr => Expr.visits_among none env expr
  | .go call => Expr.visits_among none env call
  | .defer call => Expr.visits_among none env call
  | .send channel value =>
      (Expr.visits_among none env channel).append (Expr.visits_among none env value)
  | .incDec operand _ => Expr.visits_among none env operand
  | .assign targets op values => by
      have targetsAmong := Expr.visitsAll_among env targets
      have declaredAmong := Expr.visitsTargets_among env targets
      have valuesAmong := Expr.visitsAll_among env values
      rw [StmtKind.visits_assign]
      split
      · exact valuesAmong.crossed declaredAmong
      · exact targetsAmong.append valuesAmong
  | .ret results => Expr.visitsAll_among env results
  | .block block => Block.visits_among env block
  | .conditional init condition body alternative => by
      have initAmong := Stmt.visitsOptional_among env init
      have conditionAmong := Expr.visits_among none (env.bindAll (Stmt.bindsOf init)) condition
      have bodyAmong := Block.visits_among (env.bindAll (Stmt.bindsOf init)) body
      have alternativeAmong :=
        Stmt.visitsOptional_among (env.bindAll (Stmt.bindsOf init)) alternative
      cases init <;> cases alternative <;>
        exact ((initAmong.append conditionAmong).append bodyAmong).append alternativeAmong
  | .switch init tag clauses => by
      have initAmong := Stmt.visitsOptional_among env init
      have tagAmong := Expr.visitsOptional_among (env.bindAll (Stmt.bindsOf init)) tag
      have clausesAmong :=
        CaseClause.visitsAll_among none (env.bindAll (Stmt.bindsOf init)) clauses
      cases init <;> cases tag <;> exact (initAmong.append tagAmong).append clausesAmong
  | .typeSwitch init binding subject clauses => by
      have initAmong := Stmt.visitsOptional_among env init
      have subjectAmong := Expr.visits_among none (env.bindAll (Stmt.bindsOf init)) subject
      have bindingAmong := Among.announced binding.toList
      have clausesAmong :=
        CaseClause.visitsAll_among binding (env.bindAll (Stmt.bindsOf init)) clauses
      refine ((initAmong.append (subjectAmong.crossed bindingAmong)).append
        clausesAmong).relist ?_ ?_
      · simp [StmtKind.visits_typeSwitch]
      · rw [← List.append_assoc]
        cases init <;> cases binding <;> rfl
  | .select clauses => CommClause.visitsAll_among env clauses
  | .loop init condition post body => by
      have initAmong := Stmt.visitsOptional_among env init
      have conditionAmong :=
        Expr.visitsOptional_among (env.bindAll (Stmt.bindsOf init)) condition
      have postAmong := Stmt.visitsOptional_among (env.bindAll (Stmt.bindsOf init)) post
      have bodyAmong := Block.visits_among
        ((env.bindAll (Stmt.bindsOf init)).bindAll (Stmt.bindsOf post)) body
      cases init <;> cases condition <;> cases post <;>
        exact ((initAmong.append conditionAmong).append postAmong).append bodyAmong
  | .range key value define subject body => by
      have subjectAmong := Expr.visits_among none env subject
      have keyAmong := Expr.rangeVisits_among define env key
      have valueAmong :=
        Expr.rangeVisits_among define (env.bindAll (Expr.rangeBinds define key)) value
      have bodyAmong := Block.visits_among
        ((env.bindAll (Expr.rangeBinds define key)).bindAll (Expr.rangeBinds define value)) body
      refine ((subjectAmong.crossed (keyAmong.append valueAmong)).append bodyAmong).relist ?_ ?_
      · simp [StmtKind.visits_range]
      · cases key <;> cases value <;> rfl

theorem Expr.rangeVisits_among (define : Bool) (env : Env) : (target : Option Expr) →
    Among (Expr.rangeVisits package define env target) (target.elim [] Expr.idents)
  | none => .nil
  | some expr => by
      have exprAmong := Expr.visits_among none env expr
      cases expr with
      | ident name => cases define <;> exact exprAmong
      | _ => exact exprAmong

theorem CaseClause.visitsAll_among (binding : Option Ident) (env : Env) :
    (clauses : List CaseClause) →
    Among (CaseClause.visitsAll package binding env clauses) (CaseClause.identsAll clauses)
  | [] => .nil
  | ⟨_, list, body⟩ :: rest => by
      have bodyAmong := Stmt.visitsAll_among (env.bindAll binding.toList) body
      have restAmong := CaseClause.visitsAll_among binding env rest
      cases list with
      | none => exact bodyAmong.append restAmong
      | some list => exact ((Expr.visitsAll_among env list).append bodyAmong).append restAmong

theorem CommClause.visitsAll_among (env : Env) : (clauses : List CommClause) →
    Among (CommClause.visitsAll package env clauses) (CommClause.identsAll clauses)
  | [] => .nil
  | ⟨_, comm, body⟩ :: rest => by
      have commAmong := Stmt.visitsOptional_among env comm
      have bodyAmong := Stmt.visitsAll_among (env.bindAll (Stmt.bindsOf comm)) body
      have restAmong := CommClause.visitsAll_among env rest
      cases comm <;> exact (commAmong.append bodyAmong).append restAmong

end

/-- The name of a function stands between its receiver and its parameters. -/
theorem FuncDecl.lists_among (decl : FuncDecl) :
    Among (decl.lists.flatMap (·.visits package []) ++
        (decl.lists.flatMap FieldList.names).map .binder)
      (decl.receiver.elim [] FieldList.idents ++ [decl.name] ++ decl.signature.idents) := by
  obtain ⟨_, receiver, name, ⟨params, results⟩, _⟩ := decl
  have signatureAmong := Signature.visits_among package [] ⟨params, results⟩
  cases receiver with
  | none =>
      refine (signatureAmong.behind [name]).relist ?_ rfl
      cases results <;> simp [lists, Signature.visits, Signature.names]
  | some receiver =>
      have receiverAmong := (FieldList.visits_among package [] receiver).before [name]
      refine (receiverAmong.interleaved signatureAmong).relist ?_ rfl
      cases results <;> simp [lists, Signature.visits, Signature.names]

theorem FuncDecl.visits_among (decl : FuncDecl) : Among (decl.visits package) decl.idents := by
  have listsAmong := FuncDecl.lists_among package decl
  obtain ⟨_, receiver, _, _, body⟩ := decl
  cases receiver <;> cases body <;>
    first
    | exact listsAmong.append .nil
    | exact listsAmong.append (Block.visits_among package _ _)

theorem Decl.visits_among : (decl : Decl) → Among (decl.visits package) decl.idents
  | .gen decl => GenDecl.visits_among package false [] decl
  | .func decl => FuncDecl.visits_among package decl

theorem Decl.visitsAll_among : (decls : List Decl) →
    Among (decls.flatMap (·.visits package)) (decls.flatMap Decl.idents)
  | [] => .nil
  | decl :: rest => (Decl.visits_among package decl).append (Decl.visitsAll_among rest)

/-- Resolution of a file meets no occurrence twice, and only those of the file. -/
theorem File.visits_among (file : File) : Among (file.visits package) file.idents :=
  (Decl.visitsAll_among package file.decls).behind [file.package]

end

end GoMend
