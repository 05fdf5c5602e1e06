import Mathlib.Data.Option.Basic
import GoMend.Proofs.Scope.Visits
import GoMend.Proofs.Syntax.Idents

/-!
# Renaming and visits

A change of names reaches what resolution meets: the uses are met under their new names, at
the same places and among the same visible names.  This holds as long as the change spares
the places that declare a name, and no shape of a literal is told by a name that it changes.
-/

namespace GoMend

/-! ## Shapes -/

section

variable (old new : PackageScope)

/-- Types of which every shape says the same: one in the old package, one in the new. -/
inductive Expr.Alike : Expr → Expr → Prop
  | same (type : Expr) : Alike type type
  | undeclared {ident ident' : Ident} : old.declaredType? ident.name = none →
      new.declaredType? ident'.name = none → Alike (.ident ident) (.ident ident')
  | paren {inner inner' : Expr} : Alike inner inner' → Alike (.paren inner) (.paren inner')
  | star {inner inner' : Expr} : Alike inner inner' → Alike (.star inner) (.star inner')
  | arrayType {length length' : ArrayLength} {element element' : Expr} :
      Alike element element' → Alike (.arrayType length element) (.arrayType length' element')
  | mapType {key key' value value' : Expr} : Alike key key' → Alike value value' →
      Alike (.mapType key value) (.mapType key' value')
  | structType {fields fields' : FieldList} : Alike (.structType fields) (.structType fields')
  | qualified {ident member : Ident} {base : Expr} : old.declaredType? ident.name = none →
      Alike (.ident ident) (.selector base member)
  | shapeless {type type' : Expr} :
      (∀ declared? steps, Shape.ofType declared? steps type = .unknown) →
      (∀ declared? steps, Shape.ofType declared? steps type' = .unknown) → Alike type type'

/-- Shapes that say the same. -/
inductive Shape.Alike : Shape → Shape → Prop
  | struct : Alike .struct .struct
  | map {key key' value value' : Expr} : Expr.Alike old new key key' →
      Expr.Alike old new value value' → Alike (.map key value) (.map key' value')
  | array {element element' : Expr} : Expr.Alike old new element element' →
      Alike (.array element) (.array element')
  | unknown : Alike .unknown .unknown

/-- Packages in which every type name stands for alike types. -/
def PackageScope.Alike : Prop :=
  ∀ name, Option.Rel (Expr.Alike old new) (old.declaredType? name) (new.declaredType? name)

end

section

variable {old new : PackageScope} {shape shape' : Shape}

theorem Shape.Alike.element? (alike : Shape.Alike old new shape shape') :
    Option.Rel (Expr.Alike old new) shape.element? shape'.element? := by
  cases alike with
  | map _ value => exact .some value
  | array element => exact .some element
  | struct | unknown => exact .none

theorem Shape.Alike.key? (alike : Shape.Alike old new shape shape') :
    Option.Rel (Expr.Alike old new) shape.key? shape'.key? := by
  cases alike with
  | map key _ => exact .some key
  | array | struct | unknown => exact .none

/-- Whether a type of this form may have a shape. -/
def Expr.tellsShape : Expr → Bool
  | .ident _ | .paren _ | .star _ | .arrayType _ _ | .mapType _ _ | .structType _ => true
  | _ => false

theorem Shape.ofType_eq_unknown {type : Expr} (silent : type.tellsShape = false)
    (declared? : String → Option Expr) (steps : Nat) :
    Shape.ofType declared? steps type = .unknown := by
  cases steps with
  | zero => rfl
  | succ steps =>
      cases type with
      | ident | paren | star | arrayType | mapType | structType => cases silent
      | _ => rfl

theorem Expr.Alike.ofSilent {type type' : Expr} (silent : type.tellsShape = false)
    (silent' : type'.tellsShape = false) : Expr.Alike old new type type' :=
  .shapeless (Shape.ofType_eq_unknown silent) (Shape.ofType_eq_unknown silent')

/-- A name hides a type in both packages or in none. -/
theorem Env.declaredType?_alike (packages : PackageScope.Alike old new) (env : Env)
    (name : String) :
    Option.Rel (Expr.Alike old new) (env.declaredType? old name) (env.declaredType? new name) := by
  unfold declaredType?
  split
  · exact .none
  · exact packages name

/-- Alike types have alike shapes. -/
theorem Shape.ofType_alike (packages : PackageScope.Alike old new) (env : Env) {type type' : Expr}
    (alike : Expr.Alike old new type type') (steps : Nat) :
    Shape.Alike old new (.ofType (env.declaredType? old) steps type)
      (.ofType (env.declaredType? new) steps type') := by
  induction steps generalizing type type' with
  | zero => exact .unknown
  | succ steps ih =>
      cases alike with
      | same =>
          cases type with
          | ident ident =>
              have declared := Env.declaredType?_alike packages env ident.name
              simp only [Shape.ofType]
              generalize env.declaredType? old ident.name = found,
                env.declaredType? new ident.name = found' at declared
              cases declared with
              | some types => exact ih types
              | none => exact .unknown
          | paren inner | star inner => exact ih (.same inner)
          | structType fields => exact .struct
          | mapType key value => exact .map (.same key) (.same value)
          | arrayType length element => exact .array (.same element)
          | _ => exact .unknown
      | @undeclared ident ident' unknown unknown' =>
          have hidden : env.declaredType? old ident.name = none := by
            rw [Env.declaredType?, unknown, ite_self]
          have hidden' : env.declaredType? new ident'.name = none := by
            rw [Env.declaredType?, unknown', ite_self]
          simp only [Shape.ofType, hidden, hidden']
          exact .unknown
      | @qualified ident _ _ unknown =>
          have hidden : env.declaredType? old ident.name = none := by
            rw [Env.declaredType?, unknown, ite_self]
          simp only [Shape.ofType, hidden]
          exact .unknown
      | paren inner | star inner => exact ih inner
      | arrayType element => exact .array element
      | mapType key value => exact .map key value
      | structType => exact .struct
      | shapeless unknown unknown' =>
          rw [unknown, unknown']
          exact .unknown

theorem Env.shape_alike (packages : PackageScope.Alike old new) (env : Env)
    {type type' hint hint' : Option Expr} (types : Option.Rel (Expr.Alike old new) type type')
    (hints : Option.Rel (Expr.Alike old new) hint hint') :
    Shape.Alike old new (env.shape old type hint) (env.shape new type' hint') := by
  have chosen : Option.Rel (Expr.Alike old new) (type.or hint) (type'.or hint') := by
    cases types with
    | none => exact hints
    | some types => exact .some types
  unfold shape
  generalize type.or hint = chosenType, type'.or hint' = chosenType' at chosen
  cases chosen with
  | none => exact .unknown
  | some alike => exact Shape.ofType_alike packages env alike _

/-- Rebuilding a key does not change how it is read. -/
theorem Shape.Alike.resolvesKey_rebuild (alike : Shape.Alike old new shape shape')
    (change : Ident → Ident)
    (edit : TypeSpec → Option TypeSpec) (key : Expr) :
    shape'.resolvesKey (key.rebuild change edit) = shape.resolvesKey key := by
  cases alike with
  | unknown =>
      cases key with
      | composite type => cases type <;> rfl
      | slice _ low high max => cases low <;> cases high <;> cases max <;> rfl
      | assertion _ type => cases type <;> rfl
      | _ => rfl
  | struct | map | array => rfl

end

/-! ## Visits under a change of names -/

namespace Visit

/-- The visit under another name. -/
def rename (change : Ident → Ident) : Visit → Visit
  | use ident env => use (change ident) env
  | binder ident => binder (change ident)

/-- A change of names spares places that declare a name.  It may change the name of a use,
unless that tells the shape of a literal. -/
def Spared (old new : PackageScope) (change : Ident → Ident) : Visit → Prop
  | use ident _ => change ident = ident ∨
      old.declaredType? ident.name = none ∧ new.declaredType? (change ident).name = none
  | binder ident => change ident = ident

/-- Where no name changes every visit is spared. -/
theorem spared_id {old new : PackageScope} (visit : Visit) : visit.Spared old new id := by
  cases visit with
  | use => exact .inl rfl
  | binder => rfl

theorem rename_id : rename id = id := by
  funext visit
  cases visit <;> rfl

/-- An agreement of lists of visits that holds of equal ones and part by part. -/
structure Agreement (agree : List Visit → List Visit → Prop) : Prop where
  refl : ∀ visits, agree visits visits
  append : ∀ {before after later after' : List Visit}, agree before after → agree later after' →
    agree (before ++ later) (after ++ after')

theorem Agreement.eq : Agreement Eq where
  refl := fun _ => rfl
  append := fun first second => first ▸ second ▸ rfl

/-- If packages are alike and a change of names spares all visits, the renamed visits agree
with those after the change. -/
def Rebuilt (agree : List Visit → List Visit → Prop) (old new : PackageScope)
    (change : Ident → Ident) (before after : List Visit) : Prop :=
  Agreement agree → PackageScope.Alike old new → (∀ visit ∈ before, visit.Spared old new change) →
    agree (before.map (rename change)) after

namespace Rebuilt

variable {agree : List Visit → List Visit → Prop} {old new : PackageScope}
  {change : Ident → Ident} {before after later after' : List Visit}

/-- Visits of which only the names are changed. -/
theorem ofRename (renamed : before.map (rename change) = after) :
    Rebuilt agree old new change before after :=
  fun agreement _ _ => renamed ▸ agreement.refl _

theorem nil : Rebuilt agree old new change [] [] :=
  ofRename rfl

/-- What follows may rely on that the visits before it are spared. -/
theorem andThen (first : Rebuilt agree old new change before after)
    (second : PackageScope.Alike old new → (∀ visit ∈ before, visit.Spared old new change) →
      Rebuilt agree old new change later after') :
    Rebuilt agree old new change (before ++ later) (after ++ after') := by
  intro agreement packages spared
  obtain ⟨sparedFirst, sparedSecond⟩ := List.forall_mem_append.1 spared
  rw [List.map_append]
  exact agreement.append (first agreement packages sparedFirst)
    (second packages sparedFirst agreement packages sparedSecond)

theorem append (first : Rebuilt agree old new change before after)
    (second : Rebuilt agree old new change later after') :
    Rebuilt agree old new change (before ++ later) (after ++ after') :=
  first.andThen fun _ _ => second

/-- It suffices to consider visits that are spared. -/
theorem ofSpared (rebuilt : (∀ visit ∈ before, visit.Spared old new change) →
    Rebuilt agree old new change before after) : Rebuilt agree old new change before after :=
  fun agreement packages spared => rebuilt spared agreement packages spared

theorem binders (idents : List Ident) :
    Rebuilt agree old new change (idents.map .binder) ((idents.map change).map .binder) := by
  apply ofRename
  rw [List.map_map, List.map_map]
  rfl

end Rebuilt

/-- Declared names stay as they are where the places that declare them are spared. -/
theorem map_eq_self {old new : PackageScope} {change : Ident → Ident} {visits : List Visit}
    {binds : List Ident} (spared : ∀ visit ∈ visits, visit.Spared old new change)
    (declares : ∀ ident ∈ binds, .binder ident ∈ visits) : binds.map change = binds :=
  (List.map_congr_left fun ident member => spared _ (declares ident member)).trans
    (List.map_id binds)

end Visit

open Visit

/-! ## Declared names -/

/-- An edit of type entries that gives them their names under a change. -/
def TypeSpec.Renames (change : Ident → Ident) (edit : TypeSpec → Option TypeSpec) : Prop :=
  ∀ ⦃spec edited⦄, edit spec = some edited → edited.name = change spec.name

theorem TypeSpec.Renames.none {change : Ident → Ident} :
    TypeSpec.Renames change fun _ => .none := by
  rintro _ _ ⟨⟩

theorem TypeSpec.Renames.name_edited {change : Ident → Ident}
    {edit : TypeSpec → Option TypeSpec} (renames : TypeSpec.Renames change edit)
    (spec : TypeSpec) :
    ((edit spec).getD (spec.rebuild change edit)).name = change spec.name := by
  cases isEdited : edit spec with
  | none =>
      obtain ⟨_, _, _, _, _⟩ := spec
      rfl
  | some edited => exact renames isEdited

section

variable (change : Ident → Ident) {edit : TypeSpec → Option TypeSpec}

theorem Field.names_rebuildAll (fields : List Field) :
    (Field.rebuildAll change edit fields).flatMap (·.names) =
      (fields.flatMap (·.names)).map change := by
  induction fields with
  | nil => rfl
  | cons field rest ih =>
      obtain ⟨_, _, _, _, _⟩ := field
      simp [Field.rebuildAll, Field.rebuild, ih]

theorem FieldList.names_rebuild (list : FieldList) :
    (list.rebuild change edit).names = list.names.map change := by
  obtain ⟨fields, _⟩ := list
  exact Field.names_rebuildAll change fields

theorem Signature.names_rebuild (signature : Signature) :
    (signature.rebuild change edit).names = signature.names.map change := by
  obtain ⟨params, results⟩ := signature
  cases results <;> simp [names, rebuild, FieldList.names_rebuild]

theorem Expr.ident?_rebuild (expr : Expr) :
    (expr.rebuild change edit).ident? = expr.ident?.map change := by
  cases expr with
  | composite type => cases type <;> rfl
  | slice _ low high max => cases low <;> cases high <;> cases max <;> rfl
  | assertion _ type => cases type <;> rfl
  | _ => rfl

theorem Expr.bindsAll_rebuildAll (targets : List Expr) :
    Expr.bindsAll (Expr.rebuildAll change edit targets) =
      (Expr.bindsAll targets).map change := by
  induction targets with
  | nil => rfl
  | cons target rest ih =>
      rw [bindsAll, rebuildAll, List.filterMap_cons, Expr.ident?_rebuild, bindsAll,
        List.filterMap_cons]
      cases target.ident? with
      | none => exact ih
      | some ident => exact congrArg (change ident :: ·) ih

theorem Expr.rangeBinds_rebuild (define : Bool) (target : Option Expr) :
    Expr.rangeBinds define (target.map (·.rebuild change edit)) =
      (Expr.rangeBinds define target).map change := by
  cases target with
  | none => cases define <;> rfl
  | some expr =>
      cases define with
      | false => rfl
      | true =>
          change (Expr.ident? (expr.rebuild change edit)).toList =
            (Expr.ident? expr).toList.map change
          rw [Expr.ident?_rebuild]
          cases Expr.ident? expr <;> rfl

variable (renames : TypeSpec.Renames change edit)

include renames

theorem Spec.binds_rebuild (spec : Spec) :
    (spec.rebuild change edit).binds = spec.binds.map change := by
  cases spec with
  | imported spec => rfl
  | value spec =>
      obtain ⟨_, _, _, _, _⟩ := spec
      rfl
  | type spec =>
      rw [Spec.rebuild_type, Spec.binds, Spec.binds, renames.name_edited]
      rfl

theorem Spec.binds_rebuildAll (specs : List Spec) :
    (Spec.rebuildAll change edit specs).flatMap Spec.binds =
      (specs.flatMap Spec.binds).map change := by
  induction specs with
  | nil => rfl
  | cons spec rest ih =>
      rw [Spec.rebuildAll, List.flatMap_cons, List.flatMap_cons, List.map_append, ih,
        Spec.binds_rebuild change renames]

-- The lemmas of a mutual block use the variable through each other.
set_option linter.unusedSectionVars false in
mutual

theorem Stmt.binds_rebuild : (stmt : Stmt) →
    (stmt.rebuild change edit).binds = stmt.binds.map change
  | ⟨_, kind, _⟩ => StmtKind.binds_rebuild kind

theorem StmtKind.binds_rebuild (kind : StmtKind) :
    (kind.rebuild change edit).binds = kind.binds.map change := by
  cases kind with
  | decl decl =>
      obtain ⟨_, _, _, specs, _⟩ := decl
      exact Spec.binds_rebuildAll change renames specs
  | labeled _ stmt => exact Stmt.binds_rebuild stmt
  | assign targets op values =>
      rw [StmtKind.rebuild_assign, StmtKind.binds, StmtKind.binds, Expr.bindsAll_rebuildAll]
      split <;> rfl
  | conditional init _ _ alternative => cases init <;> cases alternative <;> rfl
  | switch init tag => cases init <;> cases tag <;> rfl
  | typeSwitch init => cases init <;> rfl
  | loop init condition post => cases init <;> cases condition <;> cases post <;> rfl
  | range key value => cases key <;> cases value <;> rfl
  | _ => rfl

end

theorem Stmt.bindsOf_rebuild (stmt : Option Stmt) :
    Stmt.bindsOf (stmt.map (·.rebuild change edit)) = (Stmt.bindsOf stmt).map change := by
  cases stmt with
  | none => rfl
  | some stmt => exact Stmt.binds_rebuild change renames stmt

end

/-! ## Declared names are visited -/

section

variable (package : PackageScope) {ident : Ident}

theorem Spec.binder_mem_visits : (specs : List Spec) → (env : Env) →
    ident ∈ specs.flatMap Spec.binds →
      .binder ident ∈ Spec.visitsAll package true env specs
  | .imported _ :: rest, env, member => Spec.binder_mem_visits rest env member
  | .value ⟨_, names, declared, _, _⟩ :: rest, env, member => by
      rcases List.mem_append.1 member with isFirst | inRest
      · cases declared <;> simp_all [Spec.visitsAll, Spec.binds]
      · have := Spec.binder_mem_visits rest (env.bindAll names) inRest
        cases declared <;> simp [Spec.visitsAll, this]
  | .type ⟨_, name, _, _, _⟩ :: rest, env, member => by
      rcases List.mem_append.1 member with isFirst | inRest
      · simp_all [Spec.visitsAll, Spec.binds]
      · have := Spec.binder_mem_visits rest (env.bind name) inRest
        simp [Spec.visitsAll, this]

theorem Expr.binder_mem_visitsTargets : (targets : List Expr) → (env : Env) →
    ident ∈ Expr.bindsAll targets →
      .binder ident ∈ Expr.visitsTargets package env targets
  | target :: rest, env, member => by
      have inOthers := fun env => Expr.binder_mem_visitsTargets rest env
      cases target with
      | ident name =>
          rcases List.mem_cons.1 member with rfl | inRest
          · exact List.mem_cons_self
          · exact List.mem_cons_of_mem _ (inOthers _ inRest)
      | _ => exact List.mem_append_right _ (inOthers env member)

mutual

theorem Stmt.binder_mem_visits (env : Env) : (stmt : Stmt) → ident ∈ stmt.binds →
    .binder ident ∈ stmt.visits package env
  | ⟨_, kind, _⟩ => StmtKind.binder_mem_visits env kind

theorem StmtKind.binder_mem_visits (env : Env) (kind : StmtKind) (member : ident ∈ kind.binds) :
    .binder ident ∈ kind.visits package env := by
  cases kind with
  | decl decl =>
      obtain ⟨_, _, _, specs, _⟩ := decl
      exact Spec.binder_mem_visits package specs env member
  | labeled _ stmt => exact Stmt.binder_mem_visits env stmt member
  | assign targets op values =>
      rw [StmtKind.binds] at member
      split at member
      · rename_i define
        rw [StmtKind.visits_assign, if_pos define]
        exact List.mem_append_right _ (Expr.binder_mem_visitsTargets package targets env member)
      · cases member
  | _ => cases member

end

theorem Stmt.binder_mem_visitsOptional (env : Env) (stmt : Option Stmt)
    (member : ident ∈ Stmt.bindsOf stmt) :
    .binder ident ∈ stmt.elim [] (·.visits package env) := by
  cases stmt with
  | none => cases member
  | some stmt => exact Stmt.binder_mem_visits package env stmt member

theorem Expr.binder_mem_rangeVisits (define : Bool) (env : Env) (target : Option Expr)
    (member : ident ∈ Expr.rangeBinds define target) :
    .binder ident ∈ Expr.rangeVisits package define env target := by
  cases define with
  | false => cases member
  | true =>
      cases target with
      | none => cases member
      | some target =>
          cases target with
          | ident name =>
              rw [List.mem_singleton.1 member]
              exact List.mem_cons_self
          | _ => cases member

end

/-! ## Every production of the tree -/

/-- An edit of type entries that changes their names as all others, and what they declare in
agreement with that. -/
structure TypeSpec.Faithful (agree : List Visit → List Visit → Prop) (old new : PackageScope)
    (change : Ident → Ident) (edit : TypeSpec → Option TypeSpec) : Prop where
  renames : TypeSpec.Renames change edit
  alike : ∀ ⦃spec edited⦄, edit spec = some edited → Expr.Alike old new spec.type edited.type
  visits : ∀ ⦃spec edited⦄, edit spec = some edited → ∀ env,
    Rebuilt agree old new change (spec.type.visits old none env)
      (edited.type.visits new none env)

/-- Where no entry is edited, nothing is to be said about edited entries. -/
theorem TypeSpec.Faithful.none {agree : List Visit → List Visit → Prop} {old new : PackageScope}
    {change : Ident → Ident} : TypeSpec.Faithful agree old new change fun _ => .none where
  renames := .none
  alike := by rintro _ _ ⟨⟩
  visits := by rintro _ _ ⟨⟩

section

variable {agree : List Visit → List Visit → Prop} {old new : PackageScope} (change : Ident → Ident)
  {edit : TypeSpec → Option TypeSpec}

theorem Expr.tellsShape_rebuild (type : Expr) :
    (type.rebuild change edit).tellsShape = type.tellsShape := by
  cases type with
  | composite type => cases type <;> rfl
  | slice _ low high max => cases low <;> cases high <;> cases max <;> rfl
  | assertion _ type => cases type <;> rfl
  | _ => rfl

/-- A type whose visits are spared stays alike. -/
theorem Expr.alike_rebuild (env : Env) : (type : Expr) →
    (∀ visit ∈ type.visits old none env, visit.Spared old new change) →
      Expr.Alike old new type (type.rebuild change edit)
  | .ident name, spared => by
      rcases spared _ List.mem_cons_self with same | ⟨unknown, unknown'⟩
      · change Expr.Alike old new (.ident name) (.ident (change name))
        rw [same]
        exact .same (.ident name)
      · exact .undeclared unknown unknown'
  | .paren inner, spared => .paren (Expr.alike_rebuild env inner spared)
  | .star inner, spared => .star (Expr.alike_rebuild env inner spared)
  | .arrayType length element, spared =>
      .arrayType (Expr.alike_rebuild env element (List.forall_mem_append.1 spared).2)
  | .mapType key value, spared =>
      .mapType (Expr.alike_rebuild env key (List.forall_mem_append.1 spared).1)
        (Expr.alike_rebuild env value (List.forall_mem_append.1 spared).2)
  | .structType _, _ => .structType
  | .literal _, _ | .composite _ _ _, _ | .function _ _, _ | .selector _ _, _ | .index _ _, _
  | .slice _ _ _ _, _ | .assertion _ _, _ | .call _ _ _, _ | .unary _ _, _ | .binary _ _ _, _
  | .keyValue _ _, _ | .chanType _ _, _ | .funcType _, _ | .interfaceType _, _
  | .variadic _, _ => .ofSilent rfl (Expr.tellsShape_rebuild change _)

/-- The names of a signature are met behind its types. -/
theorem Signature.rebuilt_named {visits visits' : List Visit} {signature : Signature}
    (rebuilt : Rebuilt agree old new change visits visits') :
    Rebuilt agree old new change (visits ++ signature.names.map .binder)
      (visits' ++ (signature.rebuild change edit).names.map .binder) := by
  rw [Signature.names_rebuild]
  exact rebuilt.append (.binders signature.names)

variable (faithful : TypeSpec.Faithful agree old new change edit)

include faithful

/-- What an entry declares is visited after its edit in agreement with what is visited after
it is rebuilt. -/
theorem TypeSpec.visits_edited (spec : TypeSpec) (env : Env)
    (rebuilt : Rebuilt agree old new change (spec.type.visits old none env)
      ((spec.type.rebuild change edit).visits new none env)) :
    Rebuilt agree old new change (spec.type.visits old none env)
      (((edit spec).getD (spec.rebuild change edit)).type.visits new none env) := by
  cases isEdited : edit spec with
  | none =>
      obtain ⟨_, _, _, _, _⟩ := spec
      exact rebuilt
  | some edited => exact faithful.visits isEdited env

-- The lemmas of a mutual block use the variable through each other.
set_option linter.unusedSectionVars false in
mutual

theorem Expr.visits_rebuild {hint hint' : Option Expr}
    (hints : Option.Rel (Expr.Alike old new) hint hint') (env : Env) : (expr : Expr) →
    Rebuilt agree old new change (expr.visits old hint env)
      ((expr.rebuild change edit).visits new hint' env)
  | .ident name => .ofRename rfl
  | .literal _ => .nil
  | .composite type elements _ => by
      have elementsRebuilt := fun {shape shape'} (alike : Shape.Alike old new shape shape') =>
        Expr.visitsElements_rebuild alike env elements
      cases type with
      | none =>
          exact fun agreement packages =>
            elementsRebuilt (env.shape_alike packages .none hints) agreement packages
      | some type =>
          exact (Expr.visits_rebuild .none env type).andThen fun packages spared =>
            elementsRebuilt (env.shape_alike packages
              (.some (Expr.alike_rebuild change env type spared)) hints)
  | .function signature body => by
      have signatureRebuilt := Signature.visits_rebuild env signature
      refine (Signature.rebuilt_named change signatureRebuilt).andThen fun _ spared => ?_
      have fixed : signature.names.map change = signature.names :=
        map_eq_self spared fun ident member =>
          List.mem_append_right _ (List.mem_map_of_mem member)
      rw [Signature.names_rebuild, fixed]
      exact Block.visits_rebuild _ body
  | .paren inner => Expr.visits_rebuild .none env inner
  | .selector base _ => Expr.visits_rebuild .none env base
  | .index base position =>
      (Expr.visits_rebuild .none env base).append (Expr.visits_rebuild .none env position)
  | .slice base low high max => by
      have baseRebuilt := Expr.visits_rebuild .none env base
      have lowRebuilt := Expr.visitsOptional_rebuild env low
      have highRebuilt := Expr.visitsOptional_rebuild env high
      have maxRebuilt := Expr.visitsOptional_rebuild env max
      cases low <;> cases high <;> cases max <;>
        exact ((baseRebuilt.append lowRebuilt).append highRebuilt).append maxRebuilt
  | .assertion base type => by
      have baseRebuilt := Expr.visits_rebuild .none env base
      have typeRebuilt := Expr.visitsOptional_rebuild env type
      cases type <;> exact baseRebuilt.append typeRebuilt
  | .call callee arguments _ =>
      (Expr.visits_rebuild .none env callee).append (Expr.visitsAll_rebuild env arguments)
  | .star inner => Expr.visits_rebuild .none env inner
  | .unary _ operand => Expr.visits_rebuild .none env operand
  | .binary left _ right =>
      (Expr.visits_rebuild .none env left).append (Expr.visits_rebuild .none env right)
  | .keyValue key value =>
      (Expr.visits_rebuild .none env key).append (Expr.visits_rebuild .none env value)
  | .arrayType length element =>
      (ArrayLength.visits_rebuild env length).append (Expr.visits_rebuild .none env element)
  | .mapType key value =>
      (Expr.visits_rebuild .none env key).append (Expr.visits_rebuild .none env value)
  | .chanType _ element => Expr.visits_rebuild .none env element
  | .funcType signature => Signature.visits_rebuild env signature
  | .structType fields => FieldList.visits_rebuild env fields
  | .interfaceType methods => FieldList.visits_rebuild env methods
  | .variadic element => Expr.visits_rebuild .none env element

theorem Expr.visitsOptional_rebuild (env : Env) : (expr : Option Expr) →
    Rebuilt agree old new change (expr.elim [] (·.visits old none env))
      ((expr.map (·.rebuild change edit)).elim [] (·.visits new none env))
  | none => .nil
  | some expr => Expr.visits_rebuild .none env expr

theorem Expr.visitsAll_rebuild (env : Env) : (exprs : List Expr) →
    Rebuilt agree old new change (Expr.visitsAll old env exprs)
      (Expr.visitsAll new env (Expr.rebuildAll change edit exprs))
  | [] => .nil
  | expr :: rest =>
      (Expr.visits_rebuild .none env expr).append (Expr.visitsAll_rebuild env rest)

theorem Expr.visitsElements_rebuild {shape shape' : Shape}
    (alike : Shape.Alike old new shape shape') (env : Env) : (exprs : List Expr) →
    Rebuilt agree old new change (Expr.visitsElements old shape env exprs)
      (Expr.visitsElements new shape' env (Expr.rebuildAll change edit exprs))
  | [] => .nil
  | element :: rest => by
      have elementRebuilt := Expr.visits_rebuild alike.element? env element
      have restRebuilt := Expr.visitsElements_rebuild alike env rest
      cases element with
      | keyValue key value =>
          have keyRebuilt := Expr.visits_rebuild alike.key? env key
          have valueRebuilt := Expr.visits_rebuild alike.element? env value
          have keyRead : Rebuilt agree old new change
              (if shape.resolvesKey key then key.visits old shape.key? env else [])
              (if shape'.resolvesKey (key.rebuild change edit) then
                (key.rebuild change edit).visits new shape'.key? env else []) := by
            rw [alike.resolvesKey_rebuild]
            split
            · exact keyRebuilt
            · exact .nil
          exact (keyRead.append valueRebuilt).append restRebuilt
      | composite type => cases type <;> exact elementRebuilt.append restRebuilt
      | slice _ low high max =>
          cases low <;> cases high <;> cases max <;> exact elementRebuilt.append restRebuilt
      | assertion _ type => cases type <;> exact elementRebuilt.append restRebuilt
      | _ => exact elementRebuilt.append restRebuilt

theorem Expr.visitsTargets_rebuild (env : Env) : (targets : List Expr) →
    Rebuilt agree old new change (Expr.visitsTargets old env targets)
      (Expr.visitsTargets new env (Expr.rebuildAll change edit targets))
  | [] => .nil
  | target :: rest => by
      have targetRebuilt := Expr.visits_rebuild .none env target
      have restRebuilt := fun env => Expr.visitsTargets_rebuild env rest
      cases target with
      | ident name =>
          have nameRebuilt : Rebuilt agree old new change [.binder name] [.binder (change name)] :=
            .ofRename rfl
          refine nameRebuilt.andThen fun _ spared => ?_
          have fixed : change name = name := spared _ List.mem_cons_self
          rw [fixed]
          exact restRebuilt (env.bind name)
      | composite type => cases type <;> exact targetRebuilt.append (restRebuilt env)
      | slice _ low high max =>
          cases low <;> cases high <;> cases max <;>
            exact targetRebuilt.append (restRebuilt env)
      | assertion _ type => cases type <;> exact targetRebuilt.append (restRebuilt env)
      | _ => exact targetRebuilt.append (restRebuilt env)

theorem ArrayLength.visits_rebuild (env : Env) : (length : ArrayLength) →
    Rebuilt agree old new change (length.visits old env)
      ((length.rebuild change edit).visits new env)
  | .slice => .nil
  | .inferred => .nil
  | .fixed size => Expr.visits_rebuild .none env size

theorem Field.visitsAll_rebuild (env : Env) : (fields : List Field) →
    Rebuilt agree old new change (Field.visitsAll old env fields)
      (Field.visitsAll new env (Field.rebuildAll change edit fields))
  | [] => .nil
  | ⟨_, _, type, _, _⟩ :: rest =>
      (Expr.visits_rebuild .none env type).append (Field.visitsAll_rebuild env rest)

theorem FieldList.visits_rebuild (env : Env) : (list : FieldList) →
    Rebuilt agree old new change (list.visits old env)
      ((list.rebuild change edit).visits new env)
  | ⟨fields, _⟩ => Field.visitsAll_rebuild env fields

theorem Signature.visits_rebuild (env : Env) : (signature : Signature) →
    Rebuilt agree old new change (signature.visits old env)
      ((signature.rebuild change edit).visits new env)
  | ⟨params, none⟩ => (FieldList.visits_rebuild env params).append .nil
  | ⟨params, some results⟩ =>
      (FieldList.visits_rebuild env params).append (FieldList.visits_rebuild env results)

/-- Inside a function an entry sees the names of those before it. -/
theorem Spec.visitsAll_rebuild (isLocal : Bool) (env : Env) : (specs : List Spec) →
    Rebuilt agree old new change (Spec.visitsAll old isLocal env specs)
      (Spec.visitsAll new isLocal env (Spec.rebuildAll change edit specs))
  | [] => .nil
  | .imported _ :: rest => Spec.visitsAll_rebuild isLocal env rest
  | .value ⟨_, names, declared, values, _⟩ :: rest => by
      have declaredRebuilt := Expr.visitsOptional_rebuild env declared
      have valuesRebuilt := Expr.visitsAll_rebuild env values
      have restRebuilt := fun env => Spec.visitsAll_rebuild isLocal env rest
      cases isLocal with
      | false =>
          cases declared <;>
            exact ((declaredRebuilt.append valuesRebuilt).append .nil).append (restRebuilt env)
      | true =>
          cases declared <;>
            refine ((declaredRebuilt.append valuesRebuilt).append (.binders names)).andThen
              fun _ spared => ?_
          all_goals
            rw [map_eq_self spared fun ident member =>
              List.mem_append_right _ (List.mem_map_of_mem member)]
            exact restRebuilt (env.bindAll names)
  | .type ⟨doc, name, isAlias, declared, comment⟩ :: rest => by
      have declaredRebuilt := fun env => Expr.visits_rebuild .none env declared
      have restRebuilt := fun env => Spec.visitsAll_rebuild isLocal env rest
      have editedRebuilt : ∀ env, Rebuilt agree old new change (declared.visits old none env) _ :=
        fun env => TypeSpec.visits_edited change faithful ⟨doc, name, isAlias, declared, comment⟩
          env (declaredRebuilt env)
      rw [Spec.rebuildAll, Spec.rebuild_type, Spec.visitsAll_type, Spec.visitsAll_type,
        faithful.renames.name_edited]
      cases isLocal with
      | false => exact (editedRebuilt env).append (restRebuilt env)
      | true =>
          refine .andThen (.andThen (.ofRename rfl) fun _ spared => ?_) fun _ spared => ?_
          · rw [show change name = name from spared (.binder name) List.mem_cons_self]
            exact editedRebuilt (env.bind name)
          · rw [show change name = name from spared (.binder name) List.mem_cons_self]
            exact restRebuilt (env.bind name)

theorem GenDecl.visits_rebuild (isLocal : Bool) (env : Env) : (decl : GenDecl) →
    Rebuilt agree old new change (decl.visits old isLocal env)
      ((decl.rebuild change edit).visits new isLocal env)
  | ⟨_, _, _, specs, _⟩ => Spec.visitsAll_rebuild isLocal env specs

theorem Block.visits_rebuild (env : Env) : (block : Block) →
    Rebuilt agree old new change (block.visits old env)
      ((block.rebuild change edit).visits new env)
  | ⟨stmts, _⟩ => Stmt.visitsAll_rebuild env stmts

theorem Stmt.visitsAll_rebuild (env : Env) : (stmts : List Stmt) →
    Rebuilt agree old new change (Stmt.visitsAll old env stmts)
      (Stmt.visitsAll new env (Stmt.rebuildAll change edit stmts))
  | [] => .nil
  | stmt :: rest => by
      refine (Stmt.visits_rebuild env stmt).andThen fun _ spared => ?_
      rw [Stmt.binds_rebuild change faithful.renames, map_eq_self spared fun _ => Stmt.binder_mem_visits old env stmt]
      exact Stmt.visitsAll_rebuild _ rest

theorem Stmt.visits_rebuild (env : Env) : (stmt : Stmt) →
    Rebuilt agree old new change (stmt.visits old env)
      ((stmt.rebuild change edit).visits new env)
  | ⟨_, kind, _⟩ => StmtKind.visits_rebuild env kind

theorem Stmt.visitsOptional_rebuild (env : Env) : (stmt : Option Stmt) →
    Rebuilt agree old new change (stmt.elim [] (·.visits old env))
      ((stmt.map (·.rebuild change edit)).elim [] (·.visits new env))
  | none => .nil
  | some stmt => Stmt.visits_rebuild env stmt

theorem StmtKind.visits_rebuild (env : Env) : (kind : StmtKind) →
    Rebuilt agree old new change (kind.visits old env)
      ((kind.rebuild change edit).visits new env)
  | .decl decl => GenDecl.visits_rebuild true env decl
  | .empty => .nil
  | .branch _ _ => .nil
  | .labeled _ stmt => Stmt.visits_rebuild env stmt
  | .expr expr => Expr.visits_rebuild .none env expr
  | .go call => Expr.visits_rebuild .none env call
  | .defer call => Expr.visits_rebuild .none env call
  | .send channel value =>
      (Expr.visits_rebuild .none env channel).append (Expr.visits_rebuild .none env value)
  | .incDec operand _ => Expr.visits_rebuild .none env operand
  | .assign targets op values => by
      have targetsRebuilt := Expr.visitsAll_rebuild env targets
      have declaredRebuilt := Expr.visitsTargets_rebuild env targets
      have valuesRebuilt := Expr.visitsAll_rebuild env values
      rw [StmtKind.rebuild_assign, StmtKind.visits_assign, StmtKind.visits_assign]
      split
      · exact valuesRebuilt.append declaredRebuilt
      · exact targetsRebuilt.append valuesRebuilt
  | .ret results => Expr.visitsAll_rebuild env results
  | .block block => Block.visits_rebuild env block
  | .conditional init condition body alternative => by
      have initRebuilt := Stmt.visitsOptional_rebuild env init
      have conditionRebuilt :=
        Expr.visits_rebuild .none (env.bindAll (Stmt.bindsOf init)) condition
      have bodyRebuilt := Block.visits_rebuild (env.bindAll (Stmt.bindsOf init)) body
      have alternativeRebuilt :=
        Stmt.visitsOptional_rebuild (env.bindAll (Stmt.bindsOf init)) alternative
      rw [StmtKind.rebuild_conditional, StmtKind.visits_conditional,
        StmtKind.visits_conditional, Stmt.bindsOf_rebuild change faithful.renames]
      refine .ofSpared fun spared => ?_
      rw [map_eq_self (fun visit member => spared visit (by simp [member])) fun _ =>
        Stmt.binder_mem_visitsOptional old env init]
      exact ((initRebuilt.append conditionRebuilt).append bodyRebuilt).append alternativeRebuilt
  | .switch init tag clauses => by
      have initRebuilt := Stmt.visitsOptional_rebuild env init
      have tagRebuilt := Expr.visitsOptional_rebuild (env.bindAll (Stmt.bindsOf init)) tag
      have clausesRebuilt :=
        CaseClause.visitsAll_rebuild none (env.bindAll (Stmt.bindsOf init)) clauses
      rw [StmtKind.rebuild_switch, StmtKind.visits_switch, StmtKind.visits_switch,
        Stmt.bindsOf_rebuild change faithful.renames]
      refine .ofSpared fun spared => ?_
      rw [map_eq_self (fun visit member => spared visit (by simp [member])) fun _ =>
        Stmt.binder_mem_visitsOptional old env init]
      exact (initRebuilt.append tagRebuilt).append clausesRebuilt
  | .typeSwitch init binding subject clauses => by
      have initRebuilt := Stmt.visitsOptional_rebuild env init
      have subjectRebuilt :=
        Expr.visits_rebuild .none (env.bindAll (Stmt.bindsOf init)) subject
      have clausesRebuilt :=
        CaseClause.visitsAll_rebuild binding (env.bindAll (Stmt.bindsOf init)) clauses
      rw [StmtKind.rebuild_typeSwitch, StmtKind.visits_typeSwitch, StmtKind.visits_typeSwitch,
        Stmt.bindsOf_rebuild change faithful.renames]
      refine .ofSpared fun spared => ?_
      have listed : binding.toList.map change = binding.toList :=
        map_eq_self spared fun ident member =>
          List.mem_append_left _ (List.mem_append_right _ (List.mem_map_of_mem member))
      have fixed : binding.map change = binding := by
        cases binding with
        | none => rfl
        | some binding => simpa using listed
      have bindingRebuilt : Rebuilt agree old new change (binding.toList.map .binder) _ :=
        .binders binding.toList
      rw [listed] at bindingRebuilt
      rw [fixed, map_eq_self (fun visit member => spared visit (by simp [member])) fun _ =>
        Stmt.binder_mem_visitsOptional old env init]
      exact ((initRebuilt.append subjectRebuilt).append bindingRebuilt).append clausesRebuilt
  | .select clauses => CommClause.visitsAll_rebuild env clauses
  | .loop init condition post body => by
      have initRebuilt := Stmt.visitsOptional_rebuild env init
      have conditionRebuilt :=
        Expr.visitsOptional_rebuild (env.bindAll (Stmt.bindsOf init)) condition
      have postRebuilt := Stmt.visitsOptional_rebuild (env.bindAll (Stmt.bindsOf init)) post
      have bodyRebuilt := Block.visits_rebuild
        ((env.bindAll (Stmt.bindsOf init)).bindAll (Stmt.bindsOf post)) body
      rw [StmtKind.rebuild_loop, StmtKind.visits_loop, StmtKind.visits_loop,
        Stmt.bindsOf_rebuild change faithful.renames, Stmt.bindsOf_rebuild change faithful.renames]
      refine .ofSpared fun spared => ?_
      rw [map_eq_self (fun visit member => spared visit (by simp [member])) fun _ =>
        Stmt.binder_mem_visitsOptional old env init,
        map_eq_self (fun visit member => spared visit (by simp [member])) fun _ =>
        Stmt.binder_mem_visitsOptional old (env.bindAll (Stmt.bindsOf init)) post]
      exact ((initRebuilt.append conditionRebuilt).append postRebuilt).append bodyRebuilt
  | .range key value define subject body => by
      have subjectRebuilt := Expr.visits_rebuild .none env subject
      have keyRebuilt := Expr.rangeVisits_rebuild define env key
      have valueRebuilt :=
        Expr.rangeVisits_rebuild define (env.bindAll (Expr.rangeBinds define key)) value
      have bodyRebuilt := Block.visits_rebuild
        ((env.bindAll (Expr.rangeBinds define key)).bindAll (Expr.rangeBinds define value)) body
      rw [StmtKind.rebuild_range, StmtKind.visits_range, StmtKind.visits_range,
        Expr.rangeBinds_rebuild, Expr.rangeBinds_rebuild]
      refine .ofSpared fun spared => ?_
      rw [map_eq_self (fun visit member => spared visit (by simp [member])) fun _ =>
        Expr.binder_mem_rangeVisits old define env key,
        map_eq_self (fun visit member => spared visit (by simp [member])) fun _ =>
        Expr.binder_mem_rangeVisits old define (env.bindAll (Expr.rangeBinds define key)) value]
      exact ((subjectRebuilt.append keyRebuilt).append valueRebuilt).append bodyRebuilt

theorem Expr.rangeVisits_rebuild (define : Bool) (env : Env) : (target : Option Expr) →
    Rebuilt agree old new change (Expr.rangeVisits old define env target)
      (Expr.rangeVisits new define env (target.map (·.rebuild change edit)))
  | none => .nil
  | some expr => by
      have exprRebuilt := Expr.visits_rebuild .none env expr
      cases expr with
      | ident name =>
          cases define with
          | true => exact .ofRename rfl
          | false => exact exprRebuilt
      | composite type => cases type <;> exact exprRebuilt
      | slice _ low high max => cases low <;> cases high <;> cases max <;> exact exprRebuilt
      | assertion _ type => cases type <;> exact exprRebuilt
      | _ => exact exprRebuilt

theorem CaseClause.visitsAll_rebuild (binding : Option Ident) (env : Env) :
    (clauses : List CaseClause) →
    Rebuilt agree old new change (CaseClause.visitsAll old binding env clauses)
      (CaseClause.visitsAll new binding env (CaseClause.rebuildAll change edit clauses))
  | [] => .nil
  | ⟨_, list, body⟩ :: rest => by
      have bodyRebuilt := Stmt.visitsAll_rebuild (env.bindAll binding.toList) body
      have restRebuilt := CaseClause.visitsAll_rebuild binding env rest
      cases list with
      | none => exact bodyRebuilt.append restRebuilt
      | some list => exact ((Expr.visitsAll_rebuild env list).append bodyRebuilt).append restRebuilt

theorem CommClause.visitsAll_rebuild (env : Env) : (clauses : List CommClause) →
    Rebuilt agree old new change (CommClause.visitsAll old env clauses)
      (CommClause.visitsAll new env (CommClause.rebuildAll change edit clauses))
  | [] => .nil
  | ⟨doc, comm, body⟩ :: rest => by
      have commRebuilt := Stmt.visitsOptional_rebuild env comm
      have bodyRebuilt := Stmt.visitsAll_rebuild (env.bindAll (Stmt.bindsOf comm)) body
      have restRebuilt := CommClause.visitsAll_rebuild env rest
      rw [CommClause.rebuildAll_cons, CommClause.visitsAll_cons, CommClause.visitsAll_cons,
        Stmt.bindsOf_rebuild change faithful.renames]
      refine .ofSpared fun spared => ?_
      rw [map_eq_self (fun visit member => spared visit (by simp [member])) fun _ =>
        Stmt.binder_mem_visitsOptional old env comm]
      exact (commRebuilt.append bodyRebuilt).append restRebuilt

end

theorem FieldList.visitsAll_rebuild (env : Env) : (lists : List FieldList) →
    Rebuilt agree old new change (lists.flatMap (·.visits old env))
      ((lists.map (·.rebuild change edit)).flatMap (·.visits new env))
  | [] => .nil
  | list :: rest =>
      (FieldList.visits_rebuild change faithful env list).append (FieldList.visitsAll_rebuild env rest)

omit faithful in
theorem FuncDecl.lists_rebuild (decl : FuncDecl) :
    (decl.rebuild change edit).lists =
      decl.lists.map (·.rebuild change edit) := by
  obtain ⟨_, receiver, _, ⟨params, results⟩, _⟩ := decl
  cases receiver <;> cases results <;> rfl

theorem FuncDecl.visits_rebuild (decl : FuncDecl) :
    Rebuilt agree old new change (decl.visits old) ((decl.rebuild change edit).visits new) := by
  have typesRebuilt : Rebuilt agree old new change _ _ :=
    FieldList.visitsAll_rebuild change faithful [] decl.lists
  have named : ((decl.rebuild change edit).lists.flatMap FieldList.names) =
      (decl.lists.flatMap FieldList.names).map change := by
    simp [FuncDecl.lists_rebuild, List.flatMap_map, List.map_flatMap, FieldList.names_rebuild]
  have namesRebuilt : Rebuilt agree old new change _ _ :=
    .binders (decl.lists.flatMap FieldList.names)
  rw [FuncDecl.visits, FuncDecl.visits, named, FuncDecl.lists_rebuild]
  refine (typesRebuilt.append namesRebuilt).andThen fun _ spared => ?_
  rw [map_eq_self spared fun ident member =>
    List.mem_append_right _ (List.mem_map_of_mem member)]
  obtain ⟨_, _, _, _, body⟩ := decl
  cases body with
  | none => exact .nil
  | some body => exact Block.visits_rebuild change faithful _ body

theorem Decl.visits_rebuild : (decl : Decl) →
    Rebuilt agree old new change (decl.visits old) ((decl.rebuild change edit).visits new)
  | .gen decl => GenDecl.visits_rebuild change faithful false [] decl
  | .func decl => FuncDecl.visits_rebuild change faithful decl

theorem Decl.visitsAll_rebuild : (decls : List Decl) →
    Rebuilt agree old new change (decls.flatMap (·.visits old))
      ((decls.map (·.rebuild change edit)).flatMap (·.visits new))
  | [] => .nil
  | decl :: rest => (Decl.visits_rebuild change faithful decl).append (Decl.visitsAll_rebuild rest)

/-- What resolution meets in a rebuilt file. -/
theorem File.visits_rebuild (file : File) :
    Rebuilt agree old new change (file.visits old) ((file.rebuild change edit).visits new) :=
  Decl.visitsAll_rebuild change faithful file.decls

end

/-- Resolution meets the uses of a file under their new names. -/
theorem File.visits_mapIdents {old new : PackageScope} (change : Ident → Ident) (file : File)
    (packages : PackageScope.Alike old new)
    (spared : ∀ visit ∈ file.visits old, visit.Spared old new change) :
    (file.mapIdents change).visits new = (file.visits old).map (rename change) := by
  have rebuilt : Rebuilt Eq old new change _ _ := File.visits_rebuild change .none file
  exact (rebuilt .eq packages spared).symm

/-- A file that is not changed is visited as before. -/
theorem File.visits_alike {old new : PackageScope} (packages : PackageScope.Alike old new)
    (file : File) : file.visits new = file.visits old := by
  have renamed := File.visits_mapIdents id file packages fun visit _ => visit.spared_id
  rwa [File.mapIdents_id, rename_id, List.map_id] at renamed

end GoMend
