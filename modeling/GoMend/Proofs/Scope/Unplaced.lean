import GoMend.Proofs.Reprint.Tree
import GoMend.Proofs.Scope.Lexical

/-!
# Resolution without positions

Where a name stands in its text does not matter for what declares it.  A tree without offsets is
visited like the tree itself, name by name and among the same visible names, so a file that was
read resolves where the file does that it was written from.
-/

namespace GoMend

/-- The visit without the offset of its name. -/
def Visit.unplaced : Visit → Visit
  | .use ident env => .use ident.unplaced env
  | .binder ident => .binder ident.unplaced

/-- Visits that are the same up to positions. -/
def Visit.Agree (visits' visits : List Visit) : Prop :=
  visits'.map unplaced = visits.map unplaced

theorem Visit.Agree.append {before' before behind' behind : List Visit}
    (first : Agree before' before) (second : Agree behind' behind) :
    Agree (before' ++ behind') (before ++ behind) := by
  rw [Agree, List.map_append, List.map_append, first, second]

/-- The shape of a literal without offsets. -/
def Shape.unplaced : Shape → Shape
  | .struct => .struct
  | .map key value => .map key.unplaced value.unplaced
  | .array element => .array element.unplaced
  | .unknown => .unknown

/-! ## Trees -/

mutual

/-- Nothing is left to forget. -/
@[simp] theorem Expr.unplaced_unplaced : (expr : Expr) → expr.unplaced.unplaced = expr.unplaced
  | .ident _ => rfl
  | .literal _ => rfl
  | .composite type elements _ => by
      rw [Expr.unplaced_composite, Expr.unplaced_composite, Expr.unplacedAll_unplacedAll elements]
      cases type with
      | none => rfl
      | some type => simp [Expr.unplaced_unplaced type]
  | .function _ _ => rfl
  | .paren inner => congrArg Expr.paren (Expr.unplaced_unplaced inner)
  | .selector base _ => by
      simp [Expr.unplaced_selector, Expr.unplaced_unplaced base]
  | .index base position => by
      simp [Expr.unplaced_index, Expr.unplaced_unplaced base, Expr.unplaced_unplaced position]
  | .slice base low high max => by
      rw [Expr.unplaced_slice, Expr.unplaced_slice, Expr.unplaced_unplaced base]
      have lowest := Expr.unplacedOptional_unplaced low
      have highest := Expr.unplacedOptional_unplaced high
      have most := Expr.unplacedOptional_unplaced max
      rw [lowest, highest, most]
  | .assertion base type => by
      rw [Expr.unplaced_assertion, Expr.unplaced_assertion, Expr.unplaced_unplaced base,
        Expr.unplacedOptional_unplaced type]
  | .call callee arguments _ => by
      simp [Expr.unplaced_call, Expr.unplaced_unplaced callee,
        Expr.unplacedAll_unplacedAll arguments]
  | .star inner => congrArg Expr.star (Expr.unplaced_unplaced inner)
  | .unary op operand => congrArg (Expr.unary op) (Expr.unplaced_unplaced operand)
  | .binary left _ right => by
      simp [Expr.unplaced_binary, Expr.unplaced_unplaced left, Expr.unplaced_unplaced right]
  | .keyValue key value => by
      simp [Expr.unplaced_keyValue, Expr.unplaced_unplaced key, Expr.unplaced_unplaced value]
  | .arrayType length element => by
      simp [Expr.unplaced_arrayType, Expr.unplacedLength_unplacedLength length,
        Expr.unplaced_unplaced element]
  | .mapType key value => by
      simp [Expr.unplaced_mapType, Expr.unplaced_unplaced key, Expr.unplaced_unplaced value]
  | .chanType direction element =>
      congrArg (Expr.chanType direction) (Expr.unplaced_unplaced element)
  | .funcType _ => rfl
  | .structType _ => rfl
  | .interfaceType _ => rfl
  | .variadic element => congrArg Expr.variadic (Expr.unplaced_unplaced element)

theorem Expr.unplacedOptional_unplaced : (expr : Option Expr) →
    (expr.map Expr.unplaced).map Expr.unplaced = expr.map Expr.unplaced
  | none => rfl
  | some expr => congrArg some (Expr.unplaced_unplaced expr)

theorem Expr.unplacedAll_unplacedAll : (exprs : List Expr) →
    Expr.unplacedAll (Expr.unplacedAll exprs) = Expr.unplacedAll exprs
  | [] => rfl
  | expr :: rest => by
      rw [Expr.unplacedAll_cons, Expr.unplacedAll_cons, Expr.unplaced_unplaced expr,
        Expr.unplacedAll_unplacedAll rest]

theorem Expr.unplacedLength_unplacedLength : (length : ArrayLength) →
    Expr.unplacedLength (Expr.unplacedLength length) = Expr.unplacedLength length
  | .slice => rfl
  | .inferred => rfl
  | .fixed size => congrArg ArrayLength.fixed (Expr.unplaced_unplaced size)

end

/-! ## Shapes -/

section

variable {shape shape' : Shape} {type type' : Expr} (declared? : String → Option Expr)

theorem Shape.ofType_unplaced (steps : Nat) (type : Expr) :
    (Shape.ofType declared? steps type.unplaced).unplaced =
      (Shape.ofType declared? steps type).unplaced := by
  induction steps generalizing type with
  | zero => rfl
  | succ steps ih =>
      cases type with
      | paren inner | star inner => exact ih inner
      | mapType key value => simp [Expr.unplaced_mapType, ofType, unplaced]
      | arrayType length element => simp [Expr.unplaced_arrayType, ofType, unplaced]
      | composite type => cases type <;> rfl
      | slice _ low high max => cases low <;> cases high <;> cases max <;> rfl
      | assertion _ type => cases type <;> rfl
      | _ => rfl

/-- Types that are the same up to positions say the same about the elements of a literal. -/
theorem Shape.ofType_congr (steps : Nat) (same : type'.unplaced = type.unplaced) :
    (Shape.ofType declared? steps type').unplaced =
      (Shape.ofType declared? steps type).unplaced := by
  rw [← ofType_unplaced, same, ofType_unplaced]

theorem Env.shape_unplaced {package : PackageScope} {env : Env} {own own' hint hint' : Option Expr}
    (types : own'.map Expr.unplaced = own.map Expr.unplaced)
    (hints : hint'.map Expr.unplaced = hint.map Expr.unplaced) :
    (env.shape package own' hint').unplaced = (env.shape package own hint).unplaced := by
  have chosen : (own'.or hint').map Expr.unplaced = (own.or hint).map Expr.unplaced := by
    rw [Option.map_or, Option.map_or, types, hints]
  rw [shape, shape]
  generalize own'.or hint' = left, own.or hint = right at chosen
  cases left <;> cases right
  · rfl
  · cases chosen
  · cases chosen
  · exact Shape.ofType_congr _ _ (Option.some.inj chosen)

theorem Shape.element?_unplaced (same : shape'.unplaced = shape.unplaced) :
    shape'.element?.map Expr.unplaced = shape.element?.map Expr.unplaced := by
  have told : ∀ shape : Shape, shape.element?.map Expr.unplaced = shape.unplaced.element? := by
    rintro ⟨⟩ <;> rfl
  rw [told, told, same]

theorem Shape.key?_unplaced (same : shape'.unplaced = shape.unplaced) :
    shape'.key?.map Expr.unplaced = shape.key?.map Expr.unplaced := by
  have told : ∀ shape : Shape, shape.key?.map Expr.unplaced = shape.unplaced.key? := by
    rintro ⟨⟩ <;> rfl
  rw [told, told, same]

theorem Shape.resolvesKey_unplaced (same : shape'.unplaced = shape.unplaced) (key : Expr) :
    shape'.resolvesKey key.unplaced = shape.resolvesKey key := by
  have told : ∀ (shape : Shape) (key : Expr),
      shape.resolvesKey key = shape.unplaced.resolvesKey key := by
    rintro ⟨⟩ key <;> rfl
  rw [told shape', told shape, same]
  cases shape.unplaced with
  | unknown =>
      cases key with
      | composite type => cases type <;> rfl
      | slice _ low high max => cases low <;> cases high <;> cases max <;> rfl
      | assertion _ type => cases type <;> rfl
      | _ => rfl
  | struct | map | array => rfl

end

/-! ## Visits -/

section

open Visit (Agree)

variable {package : PackageScope} {env : Env}

mutual

/-- A tree without offsets is visited like the tree. -/
theorem Expr.visits_unplaced (hint hint' : Option Expr)
    (hints : hint'.map Expr.unplaced = hint.map Expr.unplaced) : (expr : Expr) →
    Agree (expr.unplaced.visits package hint' env) (expr.visits package hint env)
  | .ident _ => rfl
  | .literal _ => rfl
  | .composite none elements _ =>
      Expr.visitsElements_unplaced _ _ (Env.shape_unplaced rfl hints) elements
  | .composite (some type) elements _ => by
      have types : (some type.unplaced).map Expr.unplaced = (some type).map Expr.unplaced :=
        congrArg some type.unplaced_unplaced
      exact (Expr.visits_unplaced none none rfl type).append
        (Expr.visitsElements_unplaced _ _ (Env.shape_unplaced types hints) elements)
  | .function _ _ => rfl
  | .paren inner => Expr.visits_unplaced none none rfl inner
  | .selector base _ => Expr.visits_unplaced none none rfl base
  | .index base position =>
      (Expr.visits_unplaced none none rfl base).append
        (Expr.visits_unplaced none none rfl position)
  | .slice base low high max => by
      have based := Expr.visits_unplaced none none rfl base
      have lower := Expr.visitsOptional_unplaced low
      have upper := Expr.visitsOptional_unplaced high
      have most := Expr.visitsOptional_unplaced max
      cases low <;> cases high <;> cases max <;>
        exact ((based.append lower).append upper).append most
  | .assertion base type => by
      have based := Expr.visits_unplaced none none rfl base
      have typed := Expr.visitsOptional_unplaced type
      cases type <;> exact based.append typed
  | .call callee arguments _ =>
      (Expr.visits_unplaced none none rfl callee).append (Expr.visitsAll_unplaced arguments)
  | .star inner => Expr.visits_unplaced none none rfl inner
  | .unary _ operand => Expr.visits_unplaced none none rfl operand
  | .binary left _ right =>
      (Expr.visits_unplaced none none rfl left).append (Expr.visits_unplaced none none rfl right)
  | .keyValue key value =>
      (Expr.visits_unplaced none none rfl key).append (Expr.visits_unplaced none none rfl value)
  | .arrayType length element =>
      (ArrayLength.visits_unplaced length).append (Expr.visits_unplaced none none rfl element)
  | .mapType key value =>
      (Expr.visits_unplaced none none rfl key).append (Expr.visits_unplaced none none rfl value)
  | .chanType _ element => Expr.visits_unplaced none none rfl element
  | .funcType _ => rfl
  | .structType _ => rfl
  | .interfaceType _ => rfl
  | .variadic element => Expr.visits_unplaced none none rfl element

theorem Expr.visitsOptional_unplaced : (expr : Option Expr) →
    Agree ((expr.map Expr.unplaced).elim [] (·.visits package none env))
      (expr.elim [] (·.visits package none env))
  | none => rfl
  | some expr => Expr.visits_unplaced none none rfl expr

theorem Expr.visitsAll_unplaced : (exprs : List Expr) →
    Agree (Expr.visitsAll package env (Expr.unplacedAll exprs))
      (Expr.visitsAll package env exprs)
  | [] => rfl
  | expr :: rest =>
      (Expr.visits_unplaced none none rfl expr).append (Expr.visitsAll_unplaced rest)

theorem Expr.visitsElements_unplaced (shape shape' : Shape)
    (same : shape'.unplaced = shape.unplaced) : (elements : List Expr) →
    Agree (Expr.visitsElements package shape' env (Expr.unplacedAll elements))
      (Expr.visitsElements package shape env elements)
  | [] => rfl
  | element :: rest => by
      have first := Expr.visits_unplaced _ _ (Shape.element?_unplaced same) element
      have others := Expr.visitsElements_unplaced _ _ same rest
      cases element with
      | keyValue key value =>
          have keyed := Expr.visits_unplaced _ _ (Shape.key?_unplaced same) key
          have valued := Expr.visits_unplaced _ _ (Shape.element?_unplaced same) value
          rw [Expr.unplacedAll_cons, Expr.unplaced_keyValue, Expr.visitsElements,
            Expr.visitsElements, Shape.resolvesKey_unplaced same]
          split
          · exact (keyed.append valued).append others
          · exact valued.append others
      | composite type => cases type <;> exact first.append others
      | slice _ low high max =>
          cases low <;> cases high <;> cases max <;> exact first.append others
      | assertion _ type => cases type <;> exact first.append others
      | _ => exact first.append others

theorem ArrayLength.visits_unplaced : (length : ArrayLength) →
    Agree ((Expr.unplacedLength length).visits package env) (length.visits package env)
  | .slice => rfl
  | .inferred => rfl
  | .fixed size => Expr.visits_unplaced none none rfl size

end

/-! ## Files -/

theorem Spec.visitsAll_unplaced (specs : List Spec) :
    Agree (Spec.visitsAll package false env (specs.map Spec.unplaced))
      (Spec.visitsAll package false env specs) := by
  induction specs with
  | nil => rfl
  | cons spec rest ih =>
      cases spec with
      | imported spec => exact ih
      | value spec =>
          obtain ⟨doc, names, type, values, comment⟩ := spec
          have typed := @Expr.visitsOptional_unplaced package env type
          have each := @Expr.visitsAll_unplaced package env values
          cases type <;> exact ((typed.append each).append rfl).append ih
      | type spec =>
          obtain ⟨doc, name, isAlias, type, comment⟩ := spec
          exact (@Expr.visits_unplaced package env none none rfl type).append ih

theorem Decl.visits_unplaced (decl : Decl) :
    Agree (decl.unplaced.visits package) (decl.visits package) := by
  cases decl with
  | gen decl =>
      obtain ⟨doc, keyword, grouped, specs, offset⟩ := decl
      exact Spec.visitsAll_unplaced specs
  | func decl => rfl

theorem File.visits_unplaced (file : File) :
    Agree (file.unplaced.visits package) (file.visits package) := by
  rw [Agree, visits, visits, unplaced, List.flatMap_map, List.map_flatMap, List.map_flatMap]
  exact List.flatMap_congr fun decl _ => decl.visits_unplaced

end

namespace FileScope

theorem declared?_unplaced (spec : ImportSpec) : declared? spec.unplaced = declared? spec := by
  obtain ⟨doc, name, path, comment⟩ := spec
  cases name <;> rfl

/-- The imports of a file do not depend on positions. -/
theorem ofFile_unplaced (file : File) : ofFile file.unplaced = ofFile file := by
  have imports : file.unplaced.imports = file.imports.map ImportSpec.unplaced := by
    rw [File.imports, File.imports, File.unplaced, List.flatMap_map, List.map_flatMap]
    refine List.flatMap_congr fun decl _ => ?_
    cases decl with
    | func decl => rfl
    | gen decl =>
        obtain ⟨doc, keyword, grouped, specs, offset⟩ := decl
        simp only [Decl.unplaced, GenDecl.unplaced]
        split
        · rw [List.filterMap_map, List.map_filterMap]
          refine List.filterMap_congr fun spec _ => ?_
          cases spec <;> rfl
        · rfl
  rw [ofFile, ofFile, imports, List.filterMap_map, List.any_map]
  congr 1
  · congr 1
    funext spec
    exact declared?_unplaced spec
  · congr 1
    funext spec
    obtain ⟨doc, name, path, comment⟩ := spec
    cases name <;> rfl

end FileScope

namespace File

/-- A file resolves in a package exactly if it does without its offsets. -/
theorem firstUnresolved?_unplaced (package : PackageScope) (file : File) :
    file.unplaced.firstUnresolved? package = none ↔ file.firstUnresolved? package = none := by
  cases closed : (FileScope.ofFile file).hasDotImport with
  | true =>
      have closed' : (FileScope.ofFile file.unplaced).hasDotImport = true := by
        rw [FileScope.ofFile_unplaced, closed]
      rw [firstUnresolved?, firstUnresolved?, if_pos closed, if_pos closed']
  | false =>
      have closed' : (FileScope.ofFile file.unplaced).hasDotImport = false := by
        rw [FileScope.ofFile_unplaced, closed]
      have told : ∀ (names : FileNames) (visits : List Visit),
          visits.findSome? (·.unresolved? names) = none ↔
            ∀ visit ∈ visits.map Visit.unplaced, ¬visit.Unbound names := by
        intro names visits
        rw [List.findSome?_eq_none_iff, List.forall_mem_map]
        refine forall₂_congr fun visit _ => Visit.unresolved?_eq_none_iff.trans ?_
        cases visit <;> rfl
      rw [firstUnresolved?_eq package _ closed, firstUnresolved?_eq package _ closed', told, told,
        FileScope.ofFile_unplaced, show _ = _ from visits_unplaced file]

end File

end GoMend
