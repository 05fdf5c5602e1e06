import GoMend.Proofs.Unit.Placement
import GoMend.Proofs.Wrap.Enriching
import GoMend.Proofs.Wrap.Hygiene

/-!
# Moving a file again

A file that was moved into the package is in a form which moving it again keeps: the pattern
finds the wrapped struct, which has its wrapper already, and the wrapped constructor, whose
first assignment builds what its old body built.  This needs that the struct declared the
managed field once at most, and that it stands outside of the body that was replaced.
-/

namespace GoMend

/-! ## Parts of a wrapped body -/

section

variable {α : Type} {onIdent : Ident → List α} {onDecl : GenDecl → Option (List α)}

theorem Expr.collectAll_eq_flatMap (exprs : List Expr) :
    Expr.collectAll onIdent onDecl exprs = exprs.flatMap (·.collect onIdent onDecl) := by
  induction exprs with
  | nil => rfl
  | cons expr rest ih => exact congrArg (expr.collect onIdent onDecl ++ ·) ih

theorem Stmt.collectAll_eq_flatMap (stmts : List Stmt) :
    Stmt.collectAll onIdent onDecl stmts = stmts.flatMap (·.kind.collect onIdent onDecl) := by
  induction stmts with
  | nil => rfl
  | cons stmt rest ih =>
      obtain ⟨_, kind, _⟩ := stmt
      exact congrArg (kind.collect onIdent onDecl ++ ·) ih

end

/-- The type declarations in a body, those in the types of others left out. -/
def Block.typeDecls (block : Block) : List GenDecl :=
  block.collect (fun _ => []) fun decl => if decl.keyword = .types then some [decl] else none

theorem Block.mem_typeDecls {block : Block} {decl : GenDecl}
    (member : .types decl ∈ block.parts) : decl ∈ block.typeDecls := by
  rw [Block.typeDecls, (Block.told none id block).through piecewise_typeDecls]
  exact List.mem_flatMap.2 ⟨_, member, List.mem_cons_self⟩

/-- What is collected from a statement is collected from the body. -/
theorem Block.collect_sublist {α : Type} (onIdent : Ident → List α)
    (onDecl : GenDecl → Option (List α)) {block : Block} {stmt : Stmt}
    (inBlock : stmt ∈ block.stmts) :
    (stmt.kind.collect onIdent onDecl).Sublist (block.collect onIdent onDecl) := by
  obtain ⟨stmts, _⟩ := block
  change (stmt.kind.collect _ _).Sublist (Stmt.collectAll _ _ stmts)
  rw [Stmt.collectAll_eq_flatMap]
  exact List.sublist_flatten_of_mem (List.mem_map_of_mem inBlock)

namespace Wrapper

variable {wrapper : Wrapper} {present : Block} {init : Expr}

/-- What is collected from the expression that a body builds is collected from the body. -/
theorem Builds.collect_sublist {α : Type} {onIdent : Ident → List α}
    {onDecl : GenDecl → Option (List α)} (builds : Builds present init) :
    (init.collect onIdent onDecl).Sublist (present.collect onIdent onDecl) := by
  have ofResult : ∀ {result : Expr} {results : List Expr}, result ∈ results →
      (result.collect onIdent onDecl).Sublist (Expr.collectAll onIdent onDecl results) := by
    intro result results member
    rw [Expr.collectAll_eq_flatMap]
    exact List.sublist_flatten_of_mem (List.mem_map_of_mem member)
  cases builds with
  | @returned before after elements kept op type multiline returns plain earlier without =>
      obtain ⟨_, stmt, _, sections, isReturn, _⟩ := returns
      have inBody := Block.collect_sublist onIdent onDecl
        (sections ▸ List.mem_append_right _ List.mem_cons_self)
      rw [isReturn] at inBody
      refine List.Sublist.trans ?_
        ((ofResult (List.mem_append_right _ List.mem_cons_self)).trans inBody)
      change ((Expr.composite type kept multiline).collect onIdent onDecl).Sublist
        ((Expr.composite type elements multiline).collect onIdent onDecl)
      rw [Expr.collect_composite, Expr.collect_composite, Expr.collectAll_eq_flatMap,
        Expr.collectAll_eq_flatMap, without.eq_dropKey]
      exact (List.eraseP_sublist.flatMap _).append_left _
  | @assigned results targets values name assignOp op operand returns isName first =>
      obtain ⟨_, stmt, _, sections, isAssignment, _⟩ := first
      have inBody := Block.collect_sublist onIdent onDecl
        (sections ▸ List.mem_append_right _ List.mem_cons_self)
      rw [isAssignment] at inBody
      exact ((ofResult List.mem_cons_self).trans (List.sublist_append_right _ _)).trans inBody

/-- What a body builds has no parts but those of the body. -/
theorem Builds.parts_subset (builds : Builds present init) : init.parts ⊆ present.parts :=
  builds.collect_sublist.subset

/-- What is collected from a wrapped body: besides the expression that it builds, names that stand
nowhere. -/
theorem collect_body {α : Type} {onIdent : Ident → List α} {onDecl : GenDecl → Option (List α)} :
    (wrapper.body init).collect onIdent onDecl =
      onIdent (.ofName binding) ++ init.collect onIdent onDecl ++
        [binding, wrapper.name, wrapper.constructor, binding, binding].flatMap
          fun name => onIdent (.ofName name) := by
  have assigned : ∀ target op value, (Stmt.bare (.assign [target] op [value])).collect onIdent
      onDecl = target.collect onIdent onDecl ++ value.collect onIdent onDecl := by
    intro target op value
    change (target.collect onIdent onDecl ++ []) ++ (value.collect onIdent onDecl ++ []) = _
    rw [List.append_nil, List.append_nil]
  have inBody : ∀ first second third : Stmt, Block.collect onIdent onDecl
      { stmts := [first, second, third], closing := [] } = first.collect onIdent onDecl ++
        (second.collect onIdent onDecl ++ (third.collect onIdent onDecl ++ [])) :=
    fun _ _ _ => rfl
  have called : (Expr.call (.ident (.ofName wrapper.constructor)) [.ident (.ofName binding)]
      false).collect onIdent onDecl =
        onIdent (.ofName wrapper.constructor) ++ (onIdent (.ofName binding) ++ []) := rfl
  have returned : (Stmt.bare (.ret [.ident (.ofName binding)])).collect onIdent onDecl =
      onIdent (.ofName binding) ++ [] := rfl
  rw [body_eq, inBody, assigned, assigned, called, returned]
  simp [Expr.collect_ident, Expr.collect_selector]

/-- A wrapped body has the parts of the expression that it builds and names that stand nowhere. -/
theorem parts_body {part : Part} (member : part ∈ (wrapper.body init).parts) :
    part ∈ init.parts ∨ ∃ ident, part = .name ident ∧ ident.offset = none := by
  rw [Block.parts, collect_body] at member
  simp only [List.mem_append, List.mem_flatMap, List.mem_singleton] at member
  rcases member with (rfl | inInit) | ⟨name, _, rfl⟩
  · exact .inr ⟨_, rfl, rfl⟩
  · exact .inl inInit
  · exact .inr ⟨_, rfl, rfl⟩

/-- A wrapped body builds what it was made of. -/
theorem Builds.body (builds : Builds present init) : Builds (wrapper.body init) init := by
  have bound : Expr.ofName binding = .ident (.ofName binding) := Expr.ofName_plain (by decide)
  have returns : (wrapper.body init).FirstReturns [.ident (.ofName binding)] := by
    rw [← bound]
    exact Block.firstReturn?_eq_some_iff.1 rfl
  have unary : ∃ op operand, init = .unary op operand := by
    cases builds with
    | returned => exact ⟨_, _, rfl⟩
    | assigned => exact ⟨_, _, rfl⟩
  obtain ⟨op, operand, rfl⟩ := unary
  exact .assigned returns List.mem_cons_self (Block.firstAssignment?_eq_some_iff.1 rfl)

/-- A constructor that is wrapped is in its form already. -/
theorem normalizeConstructor_wrapped {decl : FuncDecl} (builds : Builds present init) :
    wrapper.normalizeConstructor (decl.withBody (wrapper.body init)) =
      .ok (decl.withBody (wrapper.body init)) :=
  normalizeConstructor_eq_ok_iff.2 ⟨_, init, rfl, builds.body, rfl⟩

end Wrapper

namespace Wrapper

variable {wrapper : Wrapper} {spec : TypeSpec}

/-- A struct with the wrapper that it selects. -/
def wrapped (spec : TypeSpec) : TypeSpec :=
  match (select spec).enrich spec with
  | .ok enriched => enriched
  | .error _ => spec

/-- Enriching a struct does not fail. -/
theorem enrich_select (spec : TypeSpec) :
    (select spec).enrich spec = .ok (Wrapper.wrapped spec) := by
  rw [Wrapper.wrapped]
  cases enriched : (select spec).enrich spec with
  | ok enriched => rfl
  | error fault =>
      cases selected : select spec with
      | notInjectable => simp [selected, enrich] at enriched
      | injectable =>
          simp only [selected, enrich] at enriched
          split at enriched
          · rename_i managed
            simp [TypeSpec.removeField, managed] at enriched
          · cases enriched

theorem Wraps.wrapped_eq (wraps : wrapper.Wraps spec) : Wrapper.wrapped spec = spec := by
  have same := enrich_select spec
  rw [wraps.select, wraps.enrich] at same
  exact (Except.ok.inj same).symm

end Wrapper

namespace Pipeline

variable {pipeline : Pipeline} {source moved : Source} {outcome : Option Record}
  {spec : TypeSpec} {wrapper : Wrapper}

theorem wrapStructure_of_none (nothing : source.file.structure? pipeline.structures = none) :
    pipeline.wrapStructure source = (.ok none, source) := by
  simp [wrapStructure, Source.editStructure?, File.editStructure?, nothing]

theorem wrapStructure_of_some (found : source.file.structure? pipeline.structures = some spec) :
    pipeline.wrapStructure source = (.ok (some (Wrapper.select spec)),
      { source with file := source.file.editTypeAt spec.name.offset Wrapper.wrapped }) := by
  simp [wrapStructure, Source.editStructure?, File.editStructure?, found, Wrapper.enrich_select,
    Except.map]

/-- A file whose struct has its wrapper is not changed by wrapping the struct. -/
theorem wrapStructure_of_wraps {heads tails : List Part} {decl : GenDecl}
    (locates : File.Locates pipeline.structures source.file.parts heads spec decl tails)
    (wraps : wrapper.Wraps spec) :
    pipeline.wrapStructure source = (.ok (some wrapper), source) := by
  rw [wrapStructure_of_some locates.structure?, locates.edited_eq wraps.wrapped_eq, wraps.select]

/-- A constructor that is wrapped is wrapped into itself. -/
theorem wrapFunction_of_wrapped {heads tails : List Decl} {decl : FuncDecl} {present : Block}
    {init : Expr} (found : source.file.LastFunction pipeline.functions heads
        (decl.withBody (wrapper.body init)) tails)
    (builds : Wrapper.Builds present init) :
    pipeline.wrapFunction wrapper source = (.ok (some ⟨wrapper, decl.name.name⟩), source) := by
  have normalized : wrapper.normalizeConstructor (decl.withBody (wrapper.body init)) =
      .ok (decl.withBody (wrapper.body init)) := Wrapper.normalizeConstructor_wrapped builds
  have same : { source.file with
      decls := heads ++ .func (decl.withBody (wrapper.body init)) :: tails } = source.file := by
    rw [← found.sections]
  rw [wrapFunction, Source.editFunction?, found.editFunction?]
  simp only [Option.map_some, normalized, Except.map, same]
  rfl

theorem transform_of_wraps {heads tails : List Part} {decl : GenDecl}
    (renamed : source.renamePackage pipeline.package = source)
    (locates : File.Locates pipeline.structures source.file.parts heads spec decl tails)
    (wraps : wrapper.Wraps spec) :
    pipeline.transform source = pipeline.wrapFunction wrapper source := by
  rw [transform, renamed, wrapStructure_of_wraps locates wraps]

/-- Moving a file again whose struct has its wrapper and stands outside of the constructor. -/
theorem transform_wrapFunction {heads tails : List Part} {entry : GenDecl}
    (renamed : source.renamePackage pipeline.package = source)
    (locates : File.Locates pipeline.structures source.file.parts heads spec entry tails)
    (wraps : wrapper.Wraps spec) (placed : spec.name.offset ≠ none)
    (elsewhere : ∀ before decl after body,
      source.file.LastFunction pipeline.functions before decl after → decl.body = some body →
        .types entry ∉ body.parts)
    (wrapped : pipeline.wrapFunction wrapper source = (.ok outcome, moved)) :
    pipeline.transform moved = (.ok outcome, moved) := by
  rcases wrapFunction_eq_ok wrapped with ⟨rfl, rfl⟩ |
    ⟨before, decl, after, init, constructs, rfl, rfl⟩
  · rw [transform_of_wraps renamed locates wraps]
    exact wrapped
  · obtain ⟨present, hasBody, builds⟩ := constructs.builds
    have found := constructs.found
    have kept : ∀ part ∈ (wrapper.body init).parts,
        part ∈ present.parts ∨ ∃ ident, part = .name ident ∧ ident.offset ≠ spec.name.offset := by
      intro part member
      rcases Wrapper.parts_body member with inInit | ⟨ident, isName, placeless⟩
      · exact .inl (builds.parts_subset inInit)
      · exact .inr ⟨ident, isName, placeless ▸ placed.symm⟩
    obtain ⟨_, _, again⟩ := locates.withBody found.sections hasBody
      (elsewhere _ _ _ _ found hasBody) kept
    have renamedFile : { source.file.package with name := pipeline.package } =
        source.file.package := congrArg (·.file.package) renamed
    rw [transform_of_wraps _ again wraps]
    · exact wrapFunction_of_wrapped ⟨rfl, found.isMatch, found.last⟩ builds
    · simp only [Source.renamePackage, renamedFile]

/-- The edited struct stands outside of a body if the struct did. -/
theorem not_mem_edited {file : File} {heads tails : List Part} {entry : GenDecl}
    {change : TypeSpec → TypeSpec} {before after : List Decl} {decl : FuncDecl} {body : Block}
    (locates : File.Locates pipeline.structures file.parts heads spec entry tails)
    (replaces : (change spec).Replaces spec)
    (found : (file.editTypeAt spec.name.offset change).LastFunction pipeline.functions before decl
      after)
    (hasBody : decl.body = some body)
    (elsewhere : ∀ decl body, file.function? pipeline.functions = some decl →
      decl.body = some body → ∀ entry ∈ body.typeDecls, .type spec ∉ entry.specs) :
    .types (entry.rebuild id (TypeSpec.editAt spec.name.offset change)) ∉ body.parts := by
  obtain ⟨before, function, after, isFound, -, rfl⟩ := found.of_mapTypes
  obtain ⟨old, hasOld, rfl⟩ := Option.map_eq_some_iff.1 hasBody
  obtain ⟨_, _, declares⟩ := locates.declares
  have absent : .types entry ∉ old.parts := fun member =>
    elsewhere function old isFound.function? hasOld entry (Block.mem_typeDecls member)
      declares.mem_specs
  have apart := locates.apart_body isFound.sections hasOld absent
  rw [(Block.told spec.name.offset change old).unchanged (.of_apart apart)]
  intro member
  exact (locates.edited replaces).not_apart (replaces.name ▸ apart _ member)

section

variable (isRead : source.IsRead)
  (found : source.file.structure? pipeline.structures = some spec)

include isRead found

/-- In a file that was read the struct stands somewhere, and nothing else stands there. -/
theorem exists_locates : spec.name.offset ≠ none ∧ ∃ heads decl tails,
    File.Locates pipeline.structures (source.renamePackage pipeline.package).file.parts heads spec
      decl tails := by
  have addressed := (Source.Reached.renamed pipeline.package (.read isRead)).addressed
  have renamedFound : (source.renamePackage pipeline.package).file.structure?
      pipeline.structures = some spec := found
  exact ⟨addressed.placed_structure renamedFound, addressed.locates renamedFound⟩

end

/-- Moving a file again changes nothing. -/
theorem transform_idempotent (isRead : source.IsRead)
    (transformed : pipeline.transform source = (.ok outcome, moved))
    (once : ∀ spec, source.file.structure? pipeline.structures = some spec →
      spec.declaredTimes Wrapper.managedField ≤ 1)
    (elsewhere : ∀ spec decl body, source.file.structure? pipeline.structures = some spec →
      source.file.function? pipeline.functions = some decl → decl.body = some body →
      ∀ entry ∈ body.typeDecls, .type spec ∉ entry.specs) :
    pipeline.transform moved = (.ok outcome, moved) := by
  have renamed : (source.renamePackage pipeline.package).renamePackage pipeline.package =
      source.renamePackage pipeline.package := rfl
  cases found : source.file.structure? pipeline.structures with
  | none =>
      have unwrapped : pipeline.wrapStructure (source.renamePackage pipeline.package) =
          (.ok none, source.renamePackage pipeline.package) := wrapStructure_of_none found
      rw [transform, unwrapped] at transformed
      cases transformed
      rw [transform, renamed, unwrapped]
  | some spec =>
      obtain ⟨placed, heads, decl, tails, locates⟩ := exists_locates isRead found
      obtain ⟨_, _, declares⟩ := locates.declares
      have enriched := Wrapper.enrich_select spec
      have isStruct := declares.fits.1
      have replaces := Wrapper.replaces_of_enrich isStruct declares.solitary placed enriched
      have wraps := Wrapper.wraps_of_enrich isStruct (once spec found) enriched
      have edited := locates.edited replaces
      have renamedFound : (source.renamePackage pipeline.package).file.structure?
          pipeline.structures = some spec := found
      rw [transform, wrapStructure_of_some renamedFound] at transformed
      apply transform_wrapFunction rfl edited wraps (replaces.name ▸ placed) _ transformed
      intro before function after body last hasBody
      exact not_mem_edited locates replaces last hasBody fun function body =>
        elsewhere spec function body found

/-- A struct with the managed field, and a constructor that sets it and declares a type. -/
def localTypeText : String :=
  "package p\ntype F struct{ subAggregations, n int }\n" ++
    "func N() *F { type T int; return &F{subAggregations: 1, n: 2} }"

/-- Whether a part of a declaration declares no type, or one of the name. -/
def declaresOnly (name : String) : Spec → Bool
  | .type spec => spec.name.name == name
  | _ => true

/-- The struct and the constructor are in their form after the file is moved once. -/
theorem transform_idempotent_managed :
    ∃ (pipeline : Pipeline) (source moved : Source),
      pipeline.transform source = (.ok (some ⟨.injectable, "N"⟩), moved) ∧
        pipeline.transform moved = (.ok (some ⟨.injectable, "N"⟩), moved) := by
  have checked : (Pipeline.ofTexts .standard "p" "F" "N" "" "").toOption.bind (fun pipeline =>
      (Source.parse ⟨"a.go"⟩ localTypeText).toOption.map fun source =>
        (source.path, (pipeline.transform source).1.toOption,
          (source.file.structure? pipeline.structures).all (fun spec =>
            spec.declaredTimes Wrapper.managedField == 1 && spec.name.name == "F"),
          (source.file.function? pipeline.functions).all fun decl => decl.body.all fun body =>
            body.typeDecls.all fun entry => entry.specs.all (declaresOnly "T"))) =
      some (⟨"a.go"⟩, some (some ⟨.injectable, "N"⟩), true, true) := by
    decide +kernel
  obtain ⟨pipeline, _, checked⟩ := Option.bind_eq_some_iff.1 checked
  obtain ⟨source, parsed, checked⟩ := Option.map_eq_some_iff.1 checked
  generalize isMoved : pipeline.transform source = result at checked
  obtain ⟨outcome, moved⟩ := result
  simp only [Prod.mk.injEq] at checked
  obtain ⟨path, isRecord, declared, types⟩ := checked
  have isRead : source.IsRead := by
    cases read : Source.parse ⟨"a.go"⟩ localTypeText with
    | error fault =>
        rw [read] at parsed
        cases parsed
    | ok other =>
        rw [read] at parsed
        cases parsed
        exact ⟨_, path ▸ read⟩
  cases outcome with
  | error fault => cases isRecord
  | ok outcome =>
      cases isRecord
      refine ⟨pipeline, source, moved, isMoved, transform_idempotent isRead isMoved ?_ ?_⟩
      · intro spec found
        simp only [found, Option.all_some, Bool.and_eq_true, beq_iff_eq] at declared
        exact declared.1.le
      · intro spec decl body found isFound hasBody entry inBody inEntry
        simp only [found, Option.all_some, Bool.and_eq_true, beq_iff_eq] at declared
        simp only [isFound, hasBody, Option.all_some, List.all_eq_true] at types
        have named := types entry inBody _ inEntry
        simp [declaresOnly, declared.2] at named

end Pipeline

end GoMend
