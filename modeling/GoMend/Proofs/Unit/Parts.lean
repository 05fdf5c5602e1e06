import Mathlib.Logic.Basic
import GoMend.Proofs.Syntax.Idents
import GoMend.Unit.Locate

/-!
# Type declarations as parts of a tree

To the search for a type a tree is a row of parts: the names outside of type declarations, and
the type declarations as a whole.  What a search collects it collects from the parts, and an
edit of one type entry that none of the names is the name of goes through the parts as well.  A
tree whose parts stay the same under the edit stays the same.
-/

namespace GoMend

/-- A name outside of type declarations, or a type declaration as a whole. -/
inductive Part where
  | name (ident : Ident)
  | types (decl : GenDecl)

/-- The part that a declaration is, if it declares types. -/
def Part.ofDecl? (decl : GenDecl) : Option (List Part) :=
  if decl.keyword = .types then some [.types decl] else none

/-- The occurrences of names in a part. -/
def Part.idents : Part → List Ident
  | .name ident => [ident]
  | .types decl => decl.idents

/-- The type declaration that a part is, if it is one. -/
def Part.typeDecls : Part → List GenDecl
  | .name _ => []
  | .types decl => [decl]

/-- The parts of an expression or a type. -/
abbrev Expr.parts (expr : Expr) : List Part :=
  expr.collect (fun ident => [.name ident]) Part.ofDecl?

/-- The parts of the entries of a declaration. -/
abbrev Spec.partsAll (specs : List Spec) : List Part :=
  Spec.collectAll (fun ident => [.name ident]) Part.ofDecl? specs

/-- The parts of a block. -/
abbrev Block.parts (block : Block) : List Part :=
  block.collect (fun ident => [.name ident]) Part.ofDecl?

/-- The parts of a top-level declaration. -/
abbrev Decl.parts (decl : Decl) : List Part :=
  decl.collect (fun ident => [.name ident]) Part.ofDecl?

/-- The parts of a file. -/
abbrev File.parts (file : File) : List Part :=
  file.collect (fun ident => [.name ident]) Part.ofDecl?

/-- Edit a type entry if its name stands at the offset. -/
abbrev TypeSpec.editAt (offset : Option Nat) (edit : TypeSpec → TypeSpec) (spec : TypeSpec) :
    Option TypeSpec :=
  if spec.name.offset = offset then some (edit spec) else none

/-- A way to collect that takes type declarations as a whole, or goes through all of them. -/
structure Piecewise {α : Type} (onIdent : Ident → List α) (onDecl : GenDecl → Option (List α))
    (pieces : Part → List α) : Prop where
  name : ∀ ident, onIdent ident = pieces (.name ident)
  types : ∀ decl, decl.keyword = .types → decl.collect onIdent onDecl = pieces (.types decl)
  other : ∀ decl, decl.keyword ≠ .types → onDecl decl = none

theorem piecewise_idents : Piecewise (fun ident => [ident]) (fun _ => none) Part.idents where
  name := fun _ => rfl
  types := fun _ _ => rfl
  other := fun _ _ => rfl

theorem piecewise_typeDecls :
    Piecewise (fun _ => []) (fun decl => if decl.keyword = .types then some [decl] else none)
      Part.typeDecls where
  name := fun _ => rfl
  types := by
    rintro ⟨doc, keyword, grouped, specs, offset⟩ rfl
    rfl
  other := fun _ other => if_neg other

section

variable (offset : Option Nat) (change : TypeSpec → TypeSpec)

/-- A part with the type entry at the offset changed. -/
def Part.edit : Part → Part
  | .name ident => .name ident
  | .types decl => .types (decl.rebuild id (TypeSpec.editAt offset change))

/-- No name stands at the offset, outside of type declarations. -/
def Outside (parts : List Part) : Prop :=
  ∀ ident, .name ident ∈ parts → ident.offset ≠ offset

/-- No name of the part stands at the offset. -/
def Part.Apart (part : Part) : Prop :=
  ∀ ident ∈ part.idents, ident.offset ≠ offset

/-- The edit changes none of the parts. -/
def Fixed (parts : List Part) : Prop :=
  ∀ part ∈ parts, part.Apart offset ∨
    ∃ decl, part = .types decl ∧ decl.rebuild id (TypeSpec.editAt offset change) = decl

/-- What the parts tell of a node: every way to collect goes through them, the rebuilt node has
the parts edited, and it is the same node if the edit changes none of them.  The node is
given by the way it is collected from. -/
structure Told
    (collect : ∀ {α : Type}, (Ident → List α) → (GenDecl → Option (List α)) → List α)
    (rebuilt : List Part) (same : Prop) : Prop where
  through : ∀ {α : Type} {onIdent : Ident → List α} {onDecl : GenDecl → Option (List α)}
      {pieces : Part → List α}, Piecewise onIdent onDecl pieces →
    collect onIdent onDecl =
      (collect (fun ident => [.name ident]) Part.ofDecl?).flatMap pieces
  edited : Outside offset (collect (fun ident => [.name ident]) Part.ofDecl?) →
    rebuilt = (collect (fun ident => [.name ident]) Part.ofDecl?).map (Part.edit offset change)
  unchanged : Fixed offset change (collect (fun ident => [.name ident]) Part.ofDecl?) → same

variable {offset change}

theorem fixed_append {before after : List Part} :
    Fixed offset change (before ++ after) ↔
      Fixed offset change before ∧ Fixed offset change after :=
  List.forall_mem_append

theorem Fixed.of_apart {parts : List Part} (apart : ∀ part ∈ parts, part.Apart offset) :
    Fixed offset change parts :=
  fun part member => .inl (apart part member)

namespace Told

variable {collect collect' : ∀ {α : Type},
    (Ident → List α) → (GenDecl → Option (List α)) → List α}
  {rebuilt rebuilt' : List Part} {same same' : Prop}

theorem nil (trivially : same) : Told offset change (fun _ _ => []) [] same :=
  ⟨fun _ => rfl, fun _ => rfl, fun _ => trivially⟩

theorem name (ident : Ident) (trivially : same) :
    Told offset change (fun onIdent _ => onIdent ident) [.name ident] same where
  through := fun piecewise => by simp [piecewise.name]
  edited := fun _ => rfl
  unchanged := fun _ => trivially

theorem optional (ident : Option Ident) (trivially : same) :
    Told offset change (fun onIdent _ => ident.elim [] onIdent)
      ((ident.map id).elim [] fun ident => [.name ident]) same := by
  cases ident with
  | none => exact .nil trivially
  | some ident => exact .name ident trivially

theorem names (idents : List Ident) (trivially : same) :
    Told offset change (fun onIdent _ => idents.flatMap onIdent)
      ((idents.map id).flatMap fun ident => [.name ident]) same where
  through := fun piecewise => by
    rw [List.flatMap_assoc]
    congr 1
    funext ident
    simp [piecewise.name]
  edited := fun _ => by simp [List.map_flatMap, Part.edit]
  unchanged := fun _ => trivially

theorem append (first : Told offset change collect rebuilt same)
    (second : Told offset change collect' rebuilt' same') :
    Told offset change (fun onIdent onDecl => collect onIdent onDecl ++ collect' onIdent onDecl)
      (rebuilt ++ rebuilt') (same ∧ same') where
  through := fun piecewise => by
    rw [List.flatMap_append, ← first.through piecewise, ← second.through piecewise]
  edited := fun outside => by
    rw [List.map_append, ← first.edited fun ident member => outside ident
        (List.mem_append_left _ member),
      ← second.edited fun ident member => outside ident (List.mem_append_right _ member)]
  unchanged := fun fixed =>
    ⟨first.unchanged (fixed_append.1 fixed).1, second.unchanged (fixed_append.1 fixed).2⟩

theorem imp (told : Told offset change collect rebuilt same) (follows : same → same') :
    Told offset change collect rebuilt same' :=
  ⟨told.through, told.edited, fun fixed => follows (told.unchanged fixed)⟩

/-- A node with no name at the offset stays the same. -/
theorem unchanged_of_idents (told : Told offset change collect rebuilt same)
    (apart : ∀ ident ∈ collect (fun ident => [ident]) fun _ => none, ident.offset ≠ offset) :
    same := by
  apply told.unchanged
  apply Fixed.of_apart
  intro part member ident inPart
  apply apart
  rw [told.through piecewise_idents]
  exact List.mem_flatMap.2 ⟨part, member, inPart⟩

/-- An entry outside of type declarations is not edited, since its name stands elsewhere. -/
theorem typeSpec {spec : TypeSpec} (typeTold : Told offset change
      (fun onIdent onDecl => spec.type.collect onIdent onDecl)
      (spec.type.rebuild id (TypeSpec.editAt offset change)).parts
      (spec.type.rebuild id (TypeSpec.editAt offset change) = spec.type)) :
    Told offset change (fun onIdent onDecl => (Spec.type spec).collect onIdent onDecl)
      (((Spec.type spec).rebuild id (TypeSpec.editAt offset change)).collect
        (fun ident => [.name ident]) Part.ofDecl?)
      ((Spec.type spec).rebuild id (TypeSpec.editAt offset change) = .type spec) := by
  obtain ⟨doc, name, isAlias, type, comment⟩ := spec
  have specTold := (@Told.name offset change _ name trivial).append typeTold
  have elsewhere : name.offset ≠ offset →
      (Spec.type ⟨doc, name, isAlias, type, comment⟩).rebuild id
          (TypeSpec.editAt offset change) =
        .type ⟨doc, name, isAlias, type.rebuild id (TypeSpec.editAt offset change),
          comment⟩ := by
    intro apart
    simp only [Spec.rebuild, TypeSpec.editAt, if_neg apart]
    rfl
  refine ⟨specTold.through, fun outside => ?_, fun fixed => ?_⟩
  · rw [elsewhere (outside name List.mem_cons_self)]
    exact specTold.edited outside
  · have apart : name.offset ≠ offset := by
      rcases fixed (.name name) List.mem_cons_self with apart | ⟨_, same, _⟩
      · exact apart name List.mem_cons_self
      · cases same
    rw [elsewhere apart, (specTold.unchanged fixed).2]

/-- A type declaration is one part.  Its entries have parts of their own, none of which the
edit changes if no name of the declaration stands at the offset. -/
theorem genDecl {decl : GenDecl} (specsTold : Told offset change
      (fun onIdent onDecl => Spec.collectAll onIdent onDecl decl.specs)
      (Spec.partsAll (Spec.rebuildAll id (TypeSpec.editAt offset change) decl.specs))
      (Spec.rebuildAll id (TypeSpec.editAt offset change) decl.specs = decl.specs)) :
    Told offset change (fun onIdent onDecl => decl.collect onIdent onDecl)
      ((decl.rebuild id (TypeSpec.editAt offset change)).collect
        (fun ident => [.name ident]) Part.ofDecl?)
      (decl.rebuild id (TypeSpec.editAt offset change) = decl) := by
  obtain ⟨doc, keyword, grouped, specs, start⟩ := decl
  have rebuilt : Spec.rebuildAll id (TypeSpec.editAt offset change) specs = specs →
      GenDecl.rebuild id (TypeSpec.editAt offset change) ⟨doc, keyword, grouped, specs, start⟩ =
        ⟨doc, keyword, grouped, specs, start⟩ :=
    congrArg (GenDecl.mk doc keyword grouped · start)
  by_cases isTypes : keyword = .types
  · subst isTypes
    refine ⟨fun piecewise => ?_, fun _ => rfl, fun fixed => ?_⟩
    · rw [piecewise.types _ rfl]
      exact (List.append_nil _).symm
    · rcases fixed _ List.mem_cons_self with apart | ⟨_, same, unchanged⟩
      · apply rebuilt
        exact specsTold.unchanged_of_idents apart
      · cases same
        exact unchanged
  · have inside : ∀ {α : Type} {onIdent : Ident → List α} {onDecl : GenDecl → Option (List α)}
        (specs : List Spec), onDecl ⟨doc, keyword, grouped, specs, start⟩ = none →
        GenDecl.collect onIdent onDecl ⟨doc, keyword, grouped, specs, start⟩ =
          Spec.collectAll onIdent onDecl specs := by
      intro α onIdent onDecl specs passed
      simp only [GenDecl.collect, passed]
    have passed : ∀ specs, Part.ofDecl? ⟨doc, keyword, grouped, specs, start⟩ = none :=
      fun specs => if_neg isTypes
    refine ⟨fun piecewise => ?_, fun outside => ?_, fun fixed => ?_⟩
    · rw [inside specs (piecewise.other _ isTypes), inside specs (passed specs)]
      exact specsTold.through piecewise
    · rw [inside specs (passed specs)] at outside ⊢
      exact (inside _ (passed _)).trans (specsTold.edited outside)
    · rw [inside specs (passed specs)] at fixed
      exact rebuilt (specsTold.unchanged fixed)

end Told

end

section

variable (offset : Option Nat) (change : TypeSpec → TypeSpec)

-- Each case holds by unfolding and by what the parts of the constructor are told.
mutual

theorem Expr.told : (expr : Expr) → Told offset change (fun onIdent onDecl =>
    expr.collect onIdent onDecl) (expr.rebuild id (TypeSpec.editAt offset change)).parts
      (expr.rebuild id (TypeSpec.editAt offset change) = expr)
  | .ident name => .name name rfl
  | .literal _ => .nil rfl
  | .composite none elements multiline =>
      (Expr.toldAll elements).imp (congrArg (Expr.composite none · multiline))
  | .composite (some type) elements multiline =>
      ((Expr.told type).append (Expr.toldAll elements)).imp fun ⟨sameType, sameElements⟩ =>
        congrArg₂ (fun type elements => Expr.composite (some type) elements multiline)
          sameType sameElements
  | .function signature body =>
      ((Signature.told signature).append (Block.told body)).imp fun ⟨sameSignature, sameBody⟩ =>
        congrArg₂ Expr.function sameSignature sameBody
  | .paren inner => (Expr.told inner).imp (congrArg Expr.paren)
  | .selector base name =>
      ((Expr.told base).append (.name name trivial)).imp fun ⟨sameBase, _⟩ =>
        congrArg (Expr.selector · name) sameBase
  | .index base position =>
      ((Expr.told base).append (Expr.told position)).imp fun ⟨sameBase, samePosition⟩ =>
        congrArg₂ Expr.index sameBase samePosition
  | .slice base low high max => by
      have baseTold := Expr.told base
      have lowTold := Expr.toldOptional low
      have highTold := Expr.toldOptional high
      have maxTold := Expr.toldOptional max
      cases low <;> cases high <;> cases max <;>
        exact (((baseTold.append lowTold).append highTold).append maxTold).imp
          fun ⟨⟨⟨sameBase, sameLow⟩, sameHigh⟩, sameMax⟩ =>
            congr (congr (congrArg₂ Expr.slice sameBase sameLow) sameHigh) sameMax
  | .assertion base type => by
      have baseTold := Expr.told base
      have typeTold := Expr.toldOptional type
      cases type <;> exact (baseTold.append typeTold).imp fun ⟨sameBase, sameType⟩ =>
        congrArg₂ Expr.assertion sameBase sameType
  | .call callee arguments spread =>
      ((Expr.told callee).append (Expr.toldAll arguments)).imp fun ⟨sameCallee, sameArguments⟩ =>
        congrArg₂ (Expr.call · · spread) sameCallee sameArguments
  | .star inner => (Expr.told inner).imp (congrArg Expr.star)
  | .unary op operand => (Expr.told operand).imp (congrArg (Expr.unary op))
  | .binary left op right =>
      ((Expr.told left).append (Expr.told right)).imp fun ⟨sameLeft, sameRight⟩ =>
        congrArg₂ (Expr.binary · op ·) sameLeft sameRight
  | .keyValue key value =>
      ((Expr.told key).append (Expr.told value)).imp fun ⟨sameKey, sameValue⟩ =>
        congrArg₂ Expr.keyValue sameKey sameValue
  | .arrayType length element =>
      ((ArrayLength.told length).append (Expr.told element)).imp fun ⟨sameLength, sameElement⟩ =>
        congrArg₂ Expr.arrayType sameLength sameElement
  | .mapType key value =>
      ((Expr.told key).append (Expr.told value)).imp fun ⟨sameKey, sameValue⟩ =>
        congrArg₂ Expr.mapType sameKey sameValue
  | .chanType direction element => (Expr.told element).imp (congrArg (Expr.chanType direction))
  | .funcType signature => (Signature.told signature).imp (congrArg Expr.funcType)
  | .structType fields => (FieldList.told fields).imp (congrArg Expr.structType)
  | .interfaceType methods => (FieldList.told methods).imp (congrArg Expr.interfaceType)
  | .variadic element => (Expr.told element).imp (congrArg Expr.variadic)

theorem Expr.toldOptional : (expr : Option Expr) → Told offset change (fun onIdent onDecl =>
    expr.elim [] (·.collect onIdent onDecl))
      ((expr.map (·.rebuild id (TypeSpec.editAt offset change))).elim [] (·.parts))
      (expr.map (·.rebuild id (TypeSpec.editAt offset change)) = expr)
  | none => .nil rfl
  | some expr => (Expr.told expr).imp (congrArg some)

theorem Expr.toldAll : (exprs : List Expr) → Told offset change (fun onIdent onDecl =>
    Expr.collectAll onIdent onDecl exprs)
      (Expr.collectAll (fun ident => [.name ident]) Part.ofDecl?
        (Expr.rebuildAll id (TypeSpec.editAt offset change) exprs))
      (Expr.rebuildAll id (TypeSpec.editAt offset change) exprs = exprs)
  | [] => .nil rfl
  | expr :: rest =>
      ((Expr.told expr).append (Expr.toldAll rest)).imp fun ⟨sameExpr, sameRest⟩ =>
        congrArg₂ List.cons sameExpr sameRest

theorem ArrayLength.told : (length : ArrayLength) → Told offset change (fun onIdent onDecl =>
    length.collect onIdent onDecl)
      ((length.rebuild id (TypeSpec.editAt offset change)).collect
        (fun ident => [.name ident]) Part.ofDecl?)
      (length.rebuild id (TypeSpec.editAt offset change) = length)
  | .slice | .inferred => .nil rfl
  | .fixed size => (Expr.told size).imp (congrArg ArrayLength.fixed)

theorem Field.toldAll : (fields : List Field) → Told offset change (fun onIdent onDecl =>
    Field.collectAll onIdent onDecl fields)
      (Field.collectAll (fun ident => [.name ident]) Part.ofDecl?
        (Field.rebuildAll id (TypeSpec.editAt offset change) fields))
      (Field.rebuildAll id (TypeSpec.editAt offset change) fields = fields)
  | [] => .nil rfl
  | ⟨doc, names, type, tag, comment⟩ :: rest =>
      (((Told.names names (List.map_id names)).append (Expr.told type)).append
        (Field.toldAll rest)).imp fun ⟨⟨sameNames, sameType⟩, sameRest⟩ =>
          congrArg₂ List.cons
            (congrArg₂ (Field.mk doc · · tag comment) sameNames sameType) sameRest

theorem FieldList.told : (list : FieldList) → Told offset change (fun onIdent onDecl =>
    list.collect onIdent onDecl)
      ((list.rebuild id (TypeSpec.editAt offset change)).collect
        (fun ident => [.name ident]) Part.ofDecl?)
      (list.rebuild id (TypeSpec.editAt offset change) = list)
  | ⟨fields, closing⟩ => (Field.toldAll fields).imp (congrArg (FieldList.mk · closing))

theorem FieldList.toldOptional : (list : Option FieldList) → Told offset change
    (fun onIdent onDecl => list.elim [] (·.collect onIdent onDecl))
      ((list.map (·.rebuild id (TypeSpec.editAt offset change))).elim []
        (·.collect (fun ident => [.name ident]) Part.ofDecl?))
      (list.map (·.rebuild id (TypeSpec.editAt offset change)) = list)
  | none => .nil rfl
  | some list => (FieldList.told list).imp (congrArg some)

theorem Signature.told : (signature : Signature) → Told offset change (fun onIdent onDecl =>
    signature.collect onIdent onDecl)
      ((signature.rebuild id (TypeSpec.editAt offset change)).collect
        (fun ident => [.name ident]) Part.ofDecl?)
      (signature.rebuild id (TypeSpec.editAt offset change) = signature)
  | ⟨params, results⟩ => by
      have paramsTold := FieldList.told params
      have resultsTold := FieldList.toldOptional results
      cases results <;> exact (paramsTold.append resultsTold).imp
        fun ⟨sameParams, sameResults⟩ => congrArg₂ Signature.mk sameParams sameResults

theorem Spec.told : (spec : Spec) → Told offset change (fun onIdent onDecl =>
    spec.collect onIdent onDecl)
      ((spec.rebuild id (TypeSpec.editAt offset change)).collect
        (fun ident => [.name ident]) Part.ofDecl?)
      (spec.rebuild id (TypeSpec.editAt offset change) = spec)
  | .imported ⟨_, none, _, _⟩ => .nil rfl
  | .imported ⟨_, some name, _, _⟩ => .name name rfl
  | .value ⟨doc, names, type, values, comment⟩ => by
      have namesTold := @Told.names offset change _ names (List.map_id names)
      have typeTold := Expr.toldOptional type
      have valuesTold := Expr.toldAll values
      cases type <;> exact ((namesTold.append typeTold).append valuesTold).imp
        fun ⟨⟨sameNames, sameType⟩, sameValues⟩ => congrArg Spec.value
          (congr (congrArg₂ (ValueSpec.mk doc · · · comment) sameNames sameType) sameValues)
  | .type ⟨_, _, _, type, _⟩ => .typeSpec (Expr.told type)

theorem Spec.toldAll : (specs : List Spec) → Told offset change (fun onIdent onDecl =>
    Spec.collectAll onIdent onDecl specs)
      (Spec.partsAll (Spec.rebuildAll id (TypeSpec.editAt offset change) specs))
      (Spec.rebuildAll id (TypeSpec.editAt offset change) specs = specs)
  | [] => .nil rfl
  | spec :: rest =>
      ((Spec.told spec).append (Spec.toldAll rest)).imp fun ⟨sameSpec, sameRest⟩ =>
        congrArg₂ List.cons sameSpec sameRest

theorem GenDecl.told : (decl : GenDecl) → Told offset change (fun onIdent onDecl =>
    decl.collect onIdent onDecl)
      ((decl.rebuild id (TypeSpec.editAt offset change)).collect
        (fun ident => [.name ident]) Part.ofDecl?)
      (decl.rebuild id (TypeSpec.editAt offset change) = decl)
  | ⟨_, _, _, specs, _⟩ => .genDecl (Spec.toldAll specs)

theorem Block.told : (block : Block) → Told offset change (fun onIdent onDecl =>
    block.collect onIdent onDecl) (block.rebuild id (TypeSpec.editAt offset change)).parts
      (block.rebuild id (TypeSpec.editAt offset change) = block)
  | ⟨stmts, closing⟩ => (Stmt.toldAll stmts).imp (congrArg (Block.mk · closing))

theorem Block.toldOptional : (block : Option Block) → Told offset change
    (fun onIdent onDecl => block.elim [] (·.collect onIdent onDecl))
      ((block.map (·.rebuild id (TypeSpec.editAt offset change))).elim [] (·.parts))
      (block.map (·.rebuild id (TypeSpec.editAt offset change)) = block)
  | none => .nil rfl
  | some block => (Block.told block).imp (congrArg some)

theorem Stmt.toldAll : (stmts : List Stmt) → Told offset change (fun onIdent onDecl =>
    Stmt.collectAll onIdent onDecl stmts)
      (Stmt.collectAll (fun ident => [.name ident]) Part.ofDecl?
        (Stmt.rebuildAll id (TypeSpec.editAt offset change) stmts))
      (Stmt.rebuildAll id (TypeSpec.editAt offset change) stmts = stmts)
  | [] => .nil rfl
  | stmt :: rest =>
      ((Stmt.told stmt).append (Stmt.toldAll rest)).imp fun ⟨sameStmt, sameRest⟩ =>
        congrArg₂ List.cons sameStmt sameRest

theorem Stmt.told : (stmt : Stmt) → Told offset change (fun onIdent onDecl =>
    stmt.collect onIdent onDecl)
      ((stmt.rebuild id (TypeSpec.editAt offset change)).collect
        (fun ident => [.name ident]) Part.ofDecl?)
      (stmt.rebuild id (TypeSpec.editAt offset change) = stmt)
  | ⟨doc, kind, comment⟩ => (StmtKind.told kind).imp (congrArg (Stmt.mk doc · comment))

theorem Stmt.toldOptional : (stmt : Option Stmt) → Told offset change (fun onIdent onDecl =>
    stmt.elim [] (·.collect onIdent onDecl))
      ((stmt.map (·.rebuild id (TypeSpec.editAt offset change))).elim []
        (·.collect (fun ident => [.name ident]) Part.ofDecl?))
      (stmt.map (·.rebuild id (TypeSpec.editAt offset change)) = stmt)
  | none => .nil rfl
  | some stmt => (Stmt.told stmt).imp (congrArg some)

theorem StmtKind.told : (kind : StmtKind) → Told offset change (fun onIdent onDecl =>
    kind.collect onIdent onDecl)
      ((kind.rebuild id (TypeSpec.editAt offset change)).collect
        (fun ident => [.name ident]) Part.ofDecl?)
      (kind.rebuild id (TypeSpec.editAt offset change) = kind)
  | .decl decl => (GenDecl.told decl).imp (congrArg StmtKind.decl)
  | .empty => .nil rfl
  | .labeled label stmt =>
      ((Told.name label trivial).append (Stmt.told stmt)).imp fun same =>
        congrArg (StmtKind.labeled label) same.2
  | .expr expr => (Expr.told expr).imp (congrArg StmtKind.expr)
  | .send channel value =>
      ((Expr.told channel).append (Expr.told value)).imp fun ⟨sameChannel, sameValue⟩ =>
        congrArg₂ StmtKind.send sameChannel sameValue
  | .incDec operand increment =>
      (Expr.told operand).imp (congrArg (StmtKind.incDec · increment))
  | .assign targets op values =>
      ((Expr.toldAll targets).append (Expr.toldAll values)).imp fun ⟨sameTargets, sameValues⟩ =>
        congrArg₂ (StmtKind.assign · op ·) sameTargets sameValues
  | .go call => (Expr.told call).imp (congrArg StmtKind.go)
  | .defer call => (Expr.told call).imp (congrArg StmtKind.defer)
  | .ret results => (Expr.toldAll results).imp (congrArg StmtKind.ret)
  | .branch _ none => .nil rfl
  | .branch _ (some label) => .name label rfl
  | .block block => (Block.told block).imp (congrArg StmtKind.block)
  | .conditional init condition body alternative => by
      have initTold := Stmt.toldOptional init
      have conditionTold := Expr.told condition
      have bodyTold := Block.told body
      have alternativeTold := Stmt.toldOptional alternative
      cases init <;> cases alternative <;>
        exact (((initTold.append conditionTold).append bodyTold).append alternativeTold).imp
          fun ⟨⟨⟨sameInit, sameCondition⟩, sameBody⟩, sameAlternative⟩ =>
            congr (congr (congrArg₂ StmtKind.conditional sameInit sameCondition) sameBody)
              sameAlternative
  | .switch init tag clauses => by
      have initTold := Stmt.toldOptional init
      have tagTold := Expr.toldOptional tag
      have clausesTold := CaseClause.toldAll clauses
      cases init <;> cases tag <;>
        exact ((initTold.append tagTold).append clausesTold).imp
          fun ⟨⟨sameInit, sameTag⟩, sameClauses⟩ =>
            congr (congrArg₂ StmtKind.switch sameInit sameTag) sameClauses
  | .typeSwitch init binding subject clauses => by
      have initTold := Stmt.toldOptional init
      have bindingTold := @Told.optional offset change (binding.map id = binding) binding
        Option.map_id_apply
      have subjectTold := Expr.told subject
      have clausesTold := CaseClause.toldAll clauses
      cases init <;> cases binding <;>
        exact (((initTold.append bindingTold).append subjectTold).append clausesTold).imp
          fun ⟨⟨⟨sameInit, sameBinding⟩, sameSubject⟩, sameClauses⟩ =>
            congr (congr (congrArg₂ StmtKind.typeSwitch sameInit sameBinding) sameSubject)
              sameClauses
  | .select clauses => (CommClause.toldAll clauses).imp (congrArg StmtKind.select)
  | .loop init condition post body => by
      have initTold := Stmt.toldOptional init
      have conditionTold := Expr.toldOptional condition
      have postTold := Stmt.toldOptional post
      have bodyTold := Block.told body
      cases init <;> cases condition <;> cases post <;>
        exact (((initTold.append conditionTold).append postTold).append bodyTold).imp
          fun ⟨⟨⟨sameInit, sameCondition⟩, samePost⟩, sameBody⟩ =>
            congr (congr (congrArg₂ StmtKind.loop sameInit sameCondition) samePost) sameBody
  | .range key value define subject body => by
      have keyTold := Expr.toldOptional key
      have valueTold := Expr.toldOptional value
      have subjectTold := Expr.told subject
      have bodyTold := Block.told body
      cases key <;> cases value <;>
        exact (((keyTold.append valueTold).append subjectTold).append bodyTold).imp
          fun ⟨⟨⟨sameKey, sameValue⟩, sameSubject⟩, sameBody⟩ =>
            congr (congr (congrArg₂ (StmtKind.range · · define) sameKey sameValue) sameSubject)
              sameBody

theorem CaseClause.toldAll : (clauses : List CaseClause) → Told offset change
    (fun onIdent onDecl => CaseClause.collectAll onIdent onDecl clauses)
      (CaseClause.collectAll (fun ident => [.name ident]) Part.ofDecl?
        (CaseClause.rebuildAll id (TypeSpec.editAt offset change) clauses))
      (CaseClause.rebuildAll id (TypeSpec.editAt offset change) clauses = clauses)
  | [] => .nil rfl
  | ⟨doc, none, body⟩ :: rest =>
      ((Stmt.toldAll body).append (CaseClause.toldAll rest)).imp fun ⟨sameBody, sameRest⟩ =>
        congrArg₂ List.cons (congrArg (CaseClause.mk doc none) sameBody) sameRest
  | ⟨doc, some list, body⟩ :: rest =>
      (((Expr.toldAll list).append (Stmt.toldAll body)).append (CaseClause.toldAll rest)).imp
        fun ⟨⟨sameList, sameBody⟩, sameRest⟩ =>
          congrArg₂ List.cons
            (congrArg₂ (fun list body => CaseClause.mk doc (some list) body) sameList sameBody)
            sameRest

theorem CommClause.toldAll : (clauses : List CommClause) → Told offset change
    (fun onIdent onDecl => CommClause.collectAll onIdent onDecl clauses)
      (CommClause.collectAll (fun ident => [.name ident]) Part.ofDecl?
        (CommClause.rebuildAll id (TypeSpec.editAt offset change) clauses))
      (CommClause.rebuildAll id (TypeSpec.editAt offset change) clauses = clauses)
  | [] => .nil rfl
  | ⟨doc, comm, body⟩ :: rest => by
      have commTold := Stmt.toldOptional comm
      have bodyTold := Stmt.toldAll body
      have restTold := CommClause.toldAll rest
      cases comm <;> exact ((commTold.append bodyTold).append restTold).imp
        fun ⟨⟨sameComm, sameBody⟩, sameRest⟩ =>
          congrArg₂ List.cons (congrArg₂ (CommClause.mk doc) sameComm sameBody) sameRest

end

theorem FuncDecl.told (decl : FuncDecl) : Told offset change (fun onIdent onDecl =>
    decl.collect onIdent onDecl)
      ((decl.rebuild id (TypeSpec.editAt offset change)).collect
        (fun ident => [.name ident]) Part.ofDecl?)
      (decl.rebuild id (TypeSpec.editAt offset change) = decl) := by
  obtain ⟨doc, receiver, name, signature, body⟩ := decl
  have nameTold := @Told.name offset change _ name trivial
  have signatureTold := Signature.told offset change signature
  have receiverTold := FieldList.toldOptional offset change receiver
  have bodyTold := Block.toldOptional offset change body
  cases receiver <;> cases body <;>
    exact (((receiverTold.append nameTold).append signatureTold).append bodyTold).imp
      fun ⟨⟨⟨sameReceiver, _⟩, sameSignature⟩, sameBody⟩ =>
        congr (congrArg₂ (FuncDecl.mk doc · name) sameReceiver sameSignature) sameBody

theorem Decl.told : (decl : Decl) → Told offset change (fun onIdent onDecl =>
    decl.collect onIdent onDecl) (decl.rebuild id (TypeSpec.editAt offset change)).parts
      (decl.rebuild id (TypeSpec.editAt offset change) = decl)
  | .gen decl => (GenDecl.told offset change decl).imp (congrArg Decl.gen)
  | .func decl => (FuncDecl.told offset change decl).imp (congrArg Decl.func)

theorem Decl.toldAll : (decls : List Decl) → Told offset change (fun onIdent onDecl =>
    decls.flatMap (·.collect onIdent onDecl))
      ((decls.map (·.rebuild id (TypeSpec.editAt offset change))).flatMap (·.parts))
      (decls.map (·.rebuild id (TypeSpec.editAt offset change)) = decls)
  | [] => .nil rfl
  | decl :: rest =>
      ((Decl.told offset change decl).append (Decl.toldAll rest)).imp fun ⟨sameDecl, sameRest⟩ =>
        congrArg₂ List.cons sameDecl sameRest

theorem File.told (file : File) : Told offset change (fun onIdent onDecl =>
    file.collect onIdent onDecl) (file.editTypeAt offset change).parts
      (file.editTypeAt offset change = file) :=
  ((Told.name file.package trivial).append (Decl.toldAll offset change file.decls)).imp
    fun ⟨_, same⟩ => congrArg (File.mk file.doc file.package · file.trailing) same

end

end GoMend
