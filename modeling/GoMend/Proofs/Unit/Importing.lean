import GoMend.Proofs.Names.Document
import GoMend.Proofs.Scope.Visits
import GoMend.Scope.Resolve
import GoMend.Unit.Source

/-!
# Adding an import

An added import stands in the first import declaration or in a new one before all others.
It declares the name of its package and touches nothing else: no name is lost or moved, and
the declarations and uses of the file stay as they are.
-/

namespace GoMend

namespace Spec

variable {specs : List Spec} {entry : ImportSpec}

theorem visitsAll_append_imported (package : PackageScope) (env : Env) (specs : List Spec) :
    Spec.visitsAll package false env (specs ++ [.imported entry]) =
      Spec.visitsAll package false env specs := by
  induction specs with
  | nil => rfl
  | cons spec rest ih =>
      cases spec with
      | imported _ => exact ih
      | value declared =>
          obtain ⟨_, _, type, _, _⟩ := declared
          cases type <;> exact congrArg (_ ++ ·) ih
      | type declared =>
          obtain ⟨_, _, _, _, _⟩ := declared
          exact congrArg (_ ++ ·) ih

/-- What is collected from an import is collected from its name. -/
theorem collectAll_append_imported {α : Type} {onIdent : Ident → List α}
    {onDecl : GenDecl → Option (List α)} :
    Spec.collectAll onIdent onDecl (specs ++ [.imported entry]) =
      Spec.collectAll onIdent onDecl specs ++ entry.name.elim [] onIdent := by
  induction specs with
  | nil => cases named : entry.name <;> simp [Spec.collectAll, Spec.collect, named]
  | cons spec rest ih => simp only [List.cons_append, Spec.collectAll, ih, List.append_assoc]

end Spec

/-- The name under which a package is imported holds no dot. -/
theorem ImportPath.packageName_undotted (path : String) :
    '.' ∉ (ImportPath.packageName path).toList := by
  rw [packageName, String.toList_ofList, List.mem_map]
  rintro ⟨c, _, mapped⟩
  split at mapped
  · cases mapped
  · rename_i kept
    exact kept (.inr mapped)

/-- No file with plain names declares a name with a dot by its imports. -/
theorem File.undotted_of_contains {file : File} {name : String}
    (plain : ∀ ident ∈ file.idents, ident.IsPlain ∨ ident.name = ".")
    (declared : (FileScope.ofFile file).contains name) : '.' ∉ name.toList := by
  simp only [FileScope.contains, FileScope.ofFile, List.contains_iff_mem,
    List.mem_filterMap] at declared
  obtain ⟨entry, member, isDeclared⟩ := declared
  rw [FileScope.declared?] at isDeclared
  split at isDeclared
  · rw [← Option.some.inj isDeclared]
    exact ImportPath.packageName_undotted _
  · rename_i given named
    split at isDeclared
    · cases isDeclared
    rename_i notDot
    rw [← Option.some.inj isDeclared]
    exact (plain given (File.mem_idents_of_mem_imports member named)).resolve_right
      fun isDot => notDot (.inl isDot)

namespace Source

variable {source : Source} {path : String}

/-- The first import declaration with another entry. -/
theorem extendFirstImport?_eq_some {entry : ImportSpec} {decls extended : List Decl}
    (found : extendFirstImport? entry decls = some extended) :
    ∃ before decl after, decls = before ++ .gen decl :: after ∧ decl.keyword = .imports ∧
      extended = before ++
        .gen { decl with specs := decl.specs ++ [.imported entry], grouped := true } ::
          after := by
  fun_induction extendFirstImport? entry decls generalizing extended with
  | case1 => cases found
  | case2 decl rest isImports =>
      cases found
      exact ⟨[], decl, rest, rfl, isImports, rfl⟩
  | case3 decl rest _ ih =>
      obtain ⟨others, foundRest, rfl⟩ := Option.map_eq_some_iff.1 found
      obtain ⟨before, extendedDecl, after, rfl, isImports, rfl⟩ := ih foundRest
      exact ⟨.gen decl :: before, extendedDecl, after, rfl, isImports, rfl⟩
  | case4 decl rest ih =>
      obtain ⟨others, foundRest, rfl⟩ := Option.map_eq_some_iff.1 found
      obtain ⟨before, extendedDecl, after, rfl, isImports, rfl⟩ := ih foundRest
      exact ⟨.func decl :: before, extendedDecl, after, rfl, isImports, rfl⟩

/-- What adding an import does to the declarations of a source. -/
inductive Imports (entry : ImportSpec) (decls : List Decl) : List Decl → Prop
  | present : Imports entry decls decls
  | extended (before : List Decl) (decl : GenDecl) (after : List Decl) :
      decls = before ++ .gen decl :: after → decl.keyword = .imports →
      Imports entry decls (before ++
        .gen { decl with specs := decl.specs ++ [.imported entry], grouped := true } :: after)
  | fresh : Imports entry decls (.gen (.importing [entry]) :: decls)

namespace Imports

variable {entry : ImportSpec} {decls decls' : List Decl}

/-- What an import has no part in is found in the declarations as before. -/
theorem flatMap {β : Type} {part : Decl → List β} (imports : Imports entry decls decls')
    (ignored : ∀ decl : GenDecl, decl.keyword = .imports →
      part (.gen { decl with specs := decl.specs ++ [.imported entry], grouped := true }) =
        part (.gen decl))
    (nothing : part (.gen (.importing [entry])) = []) :
    decls'.flatMap part = decls.flatMap part := by
  cases imports with
  | present => rfl
  | extended before decl after sections isImports =>
      simp only [sections, List.flatMap_append, List.flatMap_cons, ignored decl isImports]
  | fresh => rw [List.flatMap_cons, nothing, List.nil_append]

/-- The declarations are the old ones and the one that holds the import. -/
theorem mem {decl : Decl} (imports : Imports entry decls decls') (member : decl ∈ decls') :
    decl ∈ decls ∨ decl = .gen (.importing [entry]) ∨
      ∃ old, .gen old ∈ decls ∧ old.keyword = .imports ∧
        decl = .gen { old with specs := old.specs ++ [.imported entry], grouped := true } := by
  cases imports with
  | present => exact .inl member
  | extended before old after sections isImports =>
      have oldMember : .gen old ∈ decls := by simp [sections]
      rcases List.mem_append.1 member with isBefore | member
      · exact .inl (by simp [sections, isBefore])
      rcases List.mem_cons.1 member with rfl | isAfter
      · exact .inr (.inr ⟨old, oldMember, isImports, rfl⟩)
      · exact .inl (by simp [sections, isAfter])
  | fresh =>
      rcases List.mem_cons.1 member with rfl | member
      · exact .inr (.inl rfl)
      · exact .inl member

/-- Every old declaration is still there, or with the import behind its entries. -/
theorem mem_of {decl : Decl} (imports : Imports entry decls decls') (member : decl ∈ decls) :
    decl ∈ decls' ∨ ∃ old, decl = .gen old ∧
      .gen { old with specs := old.specs ++ [.imported entry], grouped := true } ∈ decls' := by
  cases imports with
  | present => exact .inl member
  | extended before old after sections isImports =>
      subst sections
      rcases List.mem_append.1 member with isBefore | member
      · exact .inl (by simp [isBefore])
      rcases List.mem_cons.1 member with rfl | isAfter
      · exact .inr ⟨old, rfl, by simp⟩
      · exact .inl (by simp [isAfter])
  | fresh => exact .inl (List.mem_cons_of_mem _ member)

end Imports

theorem addImport_imports (source : Source) (name : Option String) (path : String) :
    Imports (.ofPath name path) source.file.decls
      (source.addImport name path).2.file.decls := by
  rw [addImport]
  split
  · exact .present
  · simp only
    cases found : extendFirstImport? (.ofPath name path) source.file.decls with
    | none => exact .fresh
    | some decls =>
        obtain ⟨before, decl, after, sections, isImports, rfl⟩ :=
          extendFirstImport?_eq_some found
        exact .extended before decl after sections isImports

theorem addImport_path (source : Source) (name : Option String) (path : String) :
    (source.addImport name path).2.path = source.path := by
  rw [addImport]
  split <;> rfl

theorem addImport_index (source : Source) (name : Option String) (path : String) :
    (source.addImport name path).2.index = source.index := by
  rw [addImport]
  split <;> rfl

theorem addImport_package (source : Source) (name : Option String) (path : String) :
    (source.addImport name path).2.file.package = source.file.package := by
  rw [addImport]
  split <;> rfl

/-- The name of an import that is added is looked over by whoever looks over names that stand
nowhere. -/
theorem filterMap_idents_addImport {α : Type} {look : Ident → Option α}
    (skips : ∀ name, look (.ofName name) = none) (source : Source) (name : Option String)
    (path : String) : (source.addImport name path).2.file.idents.filterMap look =
      source.file.idents.filterMap look := by
  have skipped : ((ImportSpec.ofPath name path).name.elim [] fun ident => [ident]).filterMap look =
      [] := by
    rw [ImportSpec.ofPath]
    cases name.filter (!·.isEmpty) with
    | none => rfl
    | some given => exact List.filterMap_cons_none (skips given)
  have same : _ = source.file.decls.flatMap fun decl => decl.idents.filterMap look :=
    (source.addImport_imports name path).flatMap
      (fun ⟨_, _, _, specs, _⟩ _ => by
        change (Spec.identsAll (specs ++ [_])).filterMap look = (Spec.identsAll specs).filterMap look
        rw [Spec.identsAll, Spec.collectAll_append_imported, List.filterMap_append, skipped,
          List.append_nil])
      (by
        change (Spec.identsAll ([] ++ [_])).filterMap look = []
        rw [Spec.identsAll, Spec.collectAll_append_imported, List.filterMap_append, skipped]
        rfl)
  simp only [File.idents, File.collect, List.filterMap_append, List.filterMap_flatMap,
    addImport_package]
  exact congrArg _ same

section

variable (source path)

/-- An added import holds no occurrence of a name. -/
theorem idents_addImport :
    (source.addImport none path).2.file.idents = source.file.idents := by
  have same : _ = source.file.decls.flatMap Decl.idents :=
    (source.addImport_imports none path).flatMap
      (fun ⟨_, _, _, _, _⟩ _ => Spec.collectAll_append_imported.trans (List.append_nil _)) rfl
  rw [File.idents, File.collect, addImport_package, same]
  rfl

/-- An added import is not visited. -/
theorem visits_addImport (package : PackageScope) :
    (source.addImport none path).2.file.visits package = source.file.visits package :=
  (source.addImport_imports none path).flatMap
    (fun ⟨_, _, _, specs, _⟩ _ => Spec.visitsAll_append_imported package [] specs) rfl

/-- An added import declares no name of the package. -/
theorem declNames_addImport :
    (source.addImport none path).2.file.decls.flatMap PackageScope.declNames =
      source.file.decls.flatMap PackageScope.declNames :=
  (source.addImport_imports none path).flatMap (fun decl _ => by
    simp [PackageScope.declNames, PackageScope.specNames]) rfl

/-- An added import declares no type. -/
theorem declTypes_addImport :
    (source.addImport none path).2.file.decls.flatMap PackageScope.declTypes =
      source.file.decls.flatMap PackageScope.declTypes :=
  (source.addImport_imports none path).flatMap (fun decl _ => by
    simp [PackageScope.declTypes, PackageScope.specTypes]) rfl

theorem mem_imports_addImport {entry : ImportSpec} (member : entry ∈ source.file.imports) :
    entry ∈ (source.addImport none path).2.file.imports := by
  obtain ⟨decl, inDecls, isImports, inSpecs⟩ := File.mem_imports.1 member
  refine File.mem_imports.2 ?_
  rcases (source.addImport_imports none path).mem_of inDecls with kept | ⟨old, same, kept⟩
  · exact ⟨decl, kept, isImports, inSpecs⟩
  · cases same
    exact ⟨_, kept, isImports, List.mem_append_left _ inSpecs⟩

theorem mem_imports_of_addImport {entry : ImportSpec}
    (member : entry ∈ (source.addImport none path).2.file.imports) :
    entry ∈ source.file.imports ∨ entry = .ofPath none path := by
  obtain ⟨decl, inDecls, isImports, inSpecs⟩ := File.mem_imports.1 member
  rcases (source.addImport_imports none path).mem inDecls with kept | fresh | ⟨old, kept, _, same⟩
  · exact .inl (File.mem_imports.2 ⟨decl, kept, isImports, inSpecs⟩)
  · cases fresh
    simpa [GenDecl.importing] using Or.inr inSpecs
  · cases same
    rcases List.mem_append.1 inSpecs with inOld | isEntry
    · exact .inl (File.mem_imports.2 ⟨old, kept, isImports, inOld⟩)
    · simpa using Or.inr isEntry

/-- A file declares every name that it declared before an import was added. -/
theorem contains_addImport {name : String}
    (declared : (FileScope.ofFile source.file).contains name) :
    (FileScope.ofFile (source.addImport none path).2.file).contains name := by
  simp only [FileScope.contains, FileScope.ofFile, List.contains_iff_mem,
    List.mem_filterMap] at declared ⊢
  obtain ⟨entry, member, named⟩ := declared
  exact ⟨entry, source.mem_imports_addImport path member, named⟩

/-- Of the names that a file declares after an import was added, only one without a dot is
new. -/
theorem contains_of_addImport {name : String}
    (declared : (FileScope.ofFile (source.addImport none path).2.file).contains name) :
    (FileScope.ofFile source.file).contains name ∨ '.' ∉ name.toList := by
  simp only [FileScope.contains, FileScope.ofFile, List.contains_iff_mem,
    List.mem_filterMap] at declared ⊢
  obtain ⟨entry, member, isDeclared⟩ := declared
  rcases source.mem_imports_of_addImport path member with member | rfl
  · exact .inl ⟨entry, member, isDeclared⟩
  · rw [FileScope.declared?] at isDeclared
    split at isDeclared
    · rw [← Option.some.inj isDeclared]
      exact .inr (ImportPath.packageName_undotted _)
    · rename_i named
      cases named

/-- No file declares a name with a dot by its imports, not even by an added one. -/
theorem undotted_of_contains_addImport {name : String}
    (plain : ∀ ident ∈ source.file.idents, ident.IsPlain ∨ ident.name = ".")
    (declared : (FileScope.ofFile (source.addImport none path).2.file).contains name) :
    '.' ∉ name.toList :=
  (source.contains_of_addImport path declared).elim (File.undotted_of_contains plain) id

/-- Adding an import without a name does not add a dot import. -/
theorem hasDotImport_addImport :
    (FileScope.ofFile (source.addImport none path).2.file).hasDotImport =
      (FileScope.ofFile source.file).hasDotImport := by
  rw [Bool.eq_iff_iff]
  simp only [FileScope.ofFile, List.any_eq_true]
  constructor
  · rintro ⟨entry, member, isDot⟩
    rcases source.mem_imports_of_addImport path member with member | rfl
    · exact ⟨entry, member, isDot⟩
    · cases isDot
  · rintro ⟨entry, member, isDot⟩
    exact ⟨entry, source.mem_imports_addImport path member, isDot⟩

end

end Source

end GoMend
