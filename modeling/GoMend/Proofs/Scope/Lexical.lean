import GoMend.Proofs.Scope.Resolution

/-!
# Lexical scoping

Resolution reports the first use in document order whose name nothing declares at its
place.  What is declared at a place is told by the names that the visits of a file carry
down the tree, so no scope that is opened and closed on the way matters for it.
-/

namespace GoMend

namespace Visit

/-- The use of a name that is neither blank nor predeclared, and that the imports, the
package and the names visible at its place do not declare.  A qualified name is looked up
by its package part. -/
def Unbound (names : FileNames) : Visit → Prop
  | use ident env =>
      ident.name ≠ "_" ∧ ident.headName ∉ predeclared ∧
        ident.headName ∉ names.imports.names ∧ ident.headName ∉ names.package.names ∧
        ident.headName ∉ env
  | binder _ => False

instance (names : FileNames) (visit : Visit) : Decidable (visit.Unbound names) :=
  match visit with
  | use ident env => inferInstanceAs (Decidable
      (ident.name ≠ "_" ∧ ident.headName ∉ predeclared ∧
        ident.headName ∉ names.imports.names ∧ ident.headName ∉ names.package.names ∧
        ident.headName ∉ env))
  | binder _ => inferInstanceAs (Decidable False)

/-- The report of an occurrence. -/
def unresolved (visit : Visit) : Unresolved :=
  { name := visit.ident.headName, offset := visit.ident.offset }

variable {names : FileNames}

theorem unbound_use {ident : Ident} {env : Env} :
    (use ident env).Unbound names ↔
      ¬(ident.isBlank || env.contains ident.headName || names.contains ident.headName) := by
  simp only [Unbound, FileNames.contains, FileScope.contains, PackageScope.contains,
    Ident.isBlank, Bool.or_eq_true, List.contains_iff_mem, beq_iff_eq, not_or]
  constructor
  · rintro ⟨notBlank, notPredeclared, notImported, notInPackage, notVisible⟩
    exact ⟨⟨notBlank, notVisible⟩, ⟨notImported, notInPackage⟩, notPredeclared⟩
  · rintro ⟨⟨notBlank, notVisible⟩, ⟨notImported, notInPackage⟩, notPredeclared⟩
    exact ⟨notBlank, notPredeclared, notImported, notInPackage, notVisible⟩

/-- Reported are the unbound uses. -/
theorem unresolved?_eq_some_iff {visit : Visit} {report : Unresolved} :
    visit.unresolved? names = some report ↔
      visit.Unbound names ∧ report = visit.unresolved := by
  cases visit with
  | binder ident => simp [unresolved?, Unbound]
  | use ident env =>
      rw [unbound_use, unresolved?]
      split
      · rename_i bound
        constructor
        · intro reported
          cases reported
        · intro reported
          exact absurd bound reported.1
      · rename_i unbound
        rw [Option.some.injEq]
        exact ⟨fun same => ⟨unbound, same.symm⟩, fun reported => reported.2.symm⟩

/-- Not reported is what is bound. -/
theorem unresolved?_eq_none_iff {visit : Visit} :
    visit.unresolved? names = none ↔ ¬visit.Unbound names := by
  constructor
  · intro quiet unbound
    have reported := unresolved?_eq_some_iff.2 ⟨unbound, rfl⟩
    rw [quiet] at reported
    cases reported
  · intro bound
    cases reported : visit.unresolved? names with
    | none => rfl
    | some report => exact absurd (unresolved?_eq_some_iff.1 reported).1 bound

end Visit

/-- A declaration that resolves leaves no scope open. -/
theorem Decl.resolve_closes {names : FileNames} {decl : Decl} {after : LocalScopes}
    (resolved : (decl.resolve names).run .empty = .ok ((), after)) : after = .empty := by
  have meets := Decl.resolve_meets names decl
  unfold Resolution.Meets Resolution.ending at meets
  rw [resolved] at meets
  cases reported : (decl.visits names.package).findSome? (·.unresolved? names) with
  | some unresolved =>
      rw [reported] at meets
      cases meets
  | none =>
      rw [reported] at meets
      cases meets
      rfl

namespace File

/-- In a file without a dot import the first unbound use in document order is reported, and
none if there is none.  Each declaration that resolves closes the scopes it has opened. -/
theorem firstUnresolved?_lexical (package : PackageScope) (file : File)
    (closed : (FileScope.ofFile file).hasDotImport = false) :
    (∀ report, file.firstUnresolved? package = some report ↔
      ∃ before visit behind, file.visits package = before ++ visit :: behind ∧
        (∀ earlier ∈ before, ¬earlier.Unbound ⟨package, .ofFile file⟩) ∧
        visit.Unbound ⟨package, .ofFile file⟩ ∧ report = visit.unresolved) ∧
    ∀ decl ∈ file.decls, ∀ after,
      (decl.resolve ⟨package, .ofFile file⟩).run .empty = .ok ((), after) →
        after = .empty := by
  refine ⟨fun report => ?_, fun decl _ after => Decl.resolve_closes⟩
  rw [firstUnresolved?_eq package file closed, List.findSome?_eq_some_iff]
  constructor
  · rintro ⟨before, visit, behind, split, reported, quiet⟩
    obtain ⟨unbound, same⟩ := Visit.unresolved?_eq_some_iff.1 reported
    exact ⟨before, visit, behind, split,
      fun earlier member => Visit.unresolved?_eq_none_iff.1 (quiet earlier member), unbound, same⟩
  · rintro ⟨before, visit, behind, split, bound, unbound, same⟩
    exact ⟨before, visit, behind, split, Visit.unresolved?_eq_some_iff.2 ⟨unbound, same⟩,
      fun earlier member => Visit.unresolved?_eq_none_iff.2 (bound earlier member)⟩

/-- A function whose parameter and local variable are visible, followed by a use of a name
that is not. -/
def localUses : File where
  doc := []
  package := ⟨"p", none⟩
  decls := [.func
    { doc := []
      receiver := none
      name := ⟨"f", none⟩
      signature := ⟨⟨[⟨[], [⟨"x", none⟩], .ident ⟨"int", none⟩, none, none⟩], []⟩, none⟩
      body := some ⟨[
        .bare (.assign [.ident ⟨"y", none⟩] .define [.ident ⟨"x", none⟩]),
        .bare (.assign [.ident ⟨"_", none⟩] .assign [.ident ⟨"y", none⟩]),
        .bare (.expr (.ident ⟨"z", some 51⟩))], []⟩ }]
  trailing := []

/-- The parameter, the variable behind its declaration and the blank name are bound. -/
theorem firstUnresolved?_lexical_localUses :
    (FileScope.ofFile localUses).hasDotImport = false ∧
      localUses.firstUnresolved? ⟨["f"], []⟩ = some ⟨"z", some 51⟩ :=
  ⟨rfl, ((firstUnresolved?_lexical ⟨["f"], []⟩ localUses rfl).1 _).2
    ⟨[.use ⟨"int", none⟩ [], .binder ⟨"x", none⟩, .use ⟨"x", none⟩ ["x"], .binder ⟨"y", none⟩,
        .use ⟨"_", none⟩ ["y", "x"], .use ⟨"y", none⟩ ["y", "x"]],
      .use ⟨"z", some 51⟩ ["y", "x"], [], rfl, by decide, by decide, rfl⟩⟩

/-- A use of a name that is qualified by the blank name. -/
def blankQualified : File where
  doc := []
  package := ⟨"p", none⟩
  decls := [.gen
    { doc := []
      keyword := .vars
      grouped := false
      specs := [.value ⟨[], [⟨"x", none⟩], none, [.ident ⟨"_.Bar", some 19⟩], none⟩]
      offset := none }]
  trailing := []

/-- A use is blank by its whole name: one whose package part alone is blank is reported. -/
theorem firstUnresolved?_blankQualified :
    (FileScope.ofFile blankQualified).hasDotImport = false ∧
      blankQualified.visits ⟨["x"], []⟩ = [.use ⟨"_.Bar", some 19⟩ []] ∧
      Ident.headName ⟨"_.Bar", some 19⟩ = "_" ∧
      blankQualified.firstUnresolved? ⟨["x"], []⟩ = some ⟨"_", some 19⟩ :=
  ⟨rfl, rfl, by decide, by decide⟩

end File

end GoMend
