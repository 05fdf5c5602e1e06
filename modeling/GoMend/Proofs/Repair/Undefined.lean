import GoMend.Proofs.Scope.Resolution
import GoMend.Repair.Verify

/-!
# Reports on visits

The check of a package reports the first visit, source by source in the order of paths,
that is unresolved.
-/

namespace GoMend

namespace Diagnostic

end Diagnostic

namespace Source

/-- The report about a visit, if it is unresolved.  Nothing is reported about a source with
a dot import. -/
def report? (package : PackageScope) (source : Source) (visit : Visit) : Option Diagnostic :=
  if (FileScope.ofFile source.file).hasDotImport then none
  else
    (visit.unresolved? ⟨package, .ofFile source.file⟩).map fun unresolved =>
      .undefined source.path (source.index.lines.position (unresolved.offset.getD 0))
        unresolved.name

variable {package scope new : PackageScope} {source : Source} {visit : Visit}
  {diagnostic : Diagnostic}

/-- What is reported is the use of a name that neither the visible names nor the file nor
the package declare. -/
theorem report?_eq_some (reported : source.report? package visit = some diagnostic) :
    ∃ ident env, visit = .use ident env ∧
      (FileScope.ofFile source.file).hasDotImport = false ∧ ident.isBlank = false ∧
      env.contains ident.headName = false ∧
      FileNames.contains ⟨package, .ofFile source.file⟩ ident.headName = false ∧
      diagnostic = .undefined source.path
        (source.index.lines.position (ident.offset.getD 0)) ident.headName := by
  rw [report?] at reported
  split at reported
  · cases reported
  rename_i closed
  obtain ⟨unresolved, isUnresolved, rfl⟩ := Option.map_eq_some_iff.1 reported
  cases visit with
  | binder ident => cases isUnresolved
  | use ident env =>
      rw [Visit.unresolved?] at isUnresolved
      split at isUnresolved
      · cases isUnresolved
      rename_i undeclared
      cases isUnresolved
      simp only [Bool.or_eq_true, not_or, Bool.not_eq_true] at closed undeclared
      exact ⟨ident, env, rfl, closed, undeclared.1.1, undeclared.1.2, undeclared.2, rfl⟩

theorem report?_use {ident : Ident} {env : Env} :
    source.report? scope (.use ident env) = none ↔
      (FileScope.ofFile source.file).hasDotImport ∨ ident.isBlank ∨
        env.contains ident.headName ∨
        FileNames.contains ⟨scope, .ofFile source.file⟩ ident.headName := by
  rw [report?]
  split
  · rename_i open_
    simp [open_]
  · rename_i closed
    rw [Option.map_eq_none_iff, Visit.unresolved?]
    split <;> simp_all [or_assoc]

/-- What is not reported is not reported where at least the same names are declared. -/
theorem report?_mono {other : Source}
    (dots : (FileScope.ofFile other.file).hasDotImport =
      (FileScope.ofFile source.file).hasDotImport)
    (imports : ∀ name, (FileScope.ofFile source.file).contains name →
      (FileScope.ofFile other.file).contains name)
    (names : scope.names ⊆ new.names) (quiet : source.report? scope visit = none) :
    other.report? new visit = none := by
  cases visit with
  | binder ident => simp [report?, Visit.unresolved?]
  | use ident env =>
      rw [report?_use] at quiet ⊢
      rw [dots]
      refine quiet.imp_right (.imp_right (.imp_right fun known => ?_))
      simp only [FileNames.contains, PackageScope.contains, List.contains_iff_mem,
        Bool.or_eq_true] at known ⊢
      exact known.imp (.imp (imports _) (@names _)) id

/-- The check of a source reports its first unresolved visit. -/
theorem undefined?_eq (package : PackageScope) (source : Source) :
    source.undefined? package =
      (source.file.visits package).findSome? (source.report? package) := by
  cases closed : (FileScope.ofFile source.file).hasDotImport with
  | true =>
      have quiet : (source.file.visits package).findSome? (source.report? package) = none :=
        List.findSome?_eq_none_iff.2 fun visit _ => if_pos closed
      simp [undefined?, File.firstUnresolved?, closed, quiet]
  | false =>
      rw [undefined?, File.firstUnresolved?_eq package source.file closed, List.map_findSome?]
      congr 1
      funext visit
      rw [report?, if_neg (by simp [closed])]
      rfl

/-- What the check of a package meets: an occurrence of a name, told by its place, and the
report about it. -/
structure Occurrence where
  path : Path
  offset : Option Nat
  report? : Option Diagnostic

/-- Where an occurrence stands. -/
def Occurrence.place (occurrence : Occurrence) : Path × Option Nat :=
  (occurrence.path, occurrence.offset)

/-- The occurrence that a visit meets. -/
def occurrence (package : PackageScope) (source : Source) (visit : Visit) : Occurrence where
  path := source.path
  offset := visit.ident.offset
  report? := source.report? package visit

/-- The package that sources make up. -/
abbrev packageOf (sources : List Source) : PackageScope :=
  .ofFiles (sources.map (·.file))

theorem names_packageOf (sources : List Source) : (packageOf sources).names =
    sources.flatMap fun source => source.file.decls.flatMap PackageScope.declNames :=
  List.flatMap_map ..

theorem types_packageOf (sources : List Source) : (packageOf sources).types =
    sources.flatMap fun source => source.file.decls.flatMap PackageScope.declTypes :=
  List.flatMap_map ..

/-- The occurrences in the order in which the check of a package meets them: source by
source in the order of paths, and within a source as resolution visits it. -/
def occurrences (sources : List Source) : List Occurrence :=
  (sources.mergeSort notAfter).flatMap fun source =>
    (source.file.visits (packageOf sources)).map (source.occurrence (packageOf sources))

/-- The check of a package of one source. -/
theorem firstUndefined?_singleton (source : Source) :
    firstUndefined? [source] = source.undefined? (packageOf [source]) := by
  simp [firstUndefined?, packageOf]

/-- The check of a package reports the first occurrence that there is a report about. -/
theorem firstUndefined?_eq (sources : List Source) :
    firstUndefined? sources = (occurrences sources).findSome? (·.report?) := by
  change (sources.mergeSort notAfter).findSome? (undefined? (packageOf sources)) = _
  rw [occurrences]
  generalize packageOf sources = package
  induction sources.mergeSort notAfter with
  | nil => rfl
  | cons source rest ih =>
      have first : ((source.file.visits package).map (source.occurrence package)).findSome?
          (·.report?) = source.undefined? package := by
        rw [undefined?_eq, List.findSome?_map]
        rfl
      rw [List.flatMap_cons, List.findSome?_append, ← ih, first, List.findSome?_cons]
      cases source.undefined? package <;> rfl

/-- The check of a package reports nothing exactly if there is no report about any visit. -/
theorem firstUndefined?_eq_none {sources : List Source} :
    firstUndefined? sources = none ↔
      ∀ source ∈ sources, ∀ visit ∈ source.file.visits (packageOf sources),
        source.report? (packageOf sources) visit = none := by
  rw [firstUndefined?_eq, List.findSome?_eq_none_iff]
  constructor
  · intro quiet source member visit met
    apply quiet (source.occurrence (packageOf sources) visit)
    exact List.mem_flatMap.2 ⟨source, List.mem_mergeSort.2 member, List.mem_map_of_mem met⟩
  · intro quiet occurrence member
    obtain ⟨source, inSorted, inSource⟩ := List.mem_flatMap.1 member
    obtain ⟨visit, met, rfl⟩ := List.mem_map.1 inSource
    exact quiet source (List.mem_mergeSort.1 inSorted) visit met

/-- The check reports the occurrence at an index, and nothing is reported about any before. -/
structure ReportedAt (sources : List Source) (diagnostic : Diagnostic) (index : Nat) : Prop where
  inside : index < (occurrences sources).length
  report : (occurrences sources)[index].report? = some diagnostic
  first : ∀ earlier (before : earlier < index), (occurrences sources)[earlier].report? = none

/-- A report is about one of the occurrences. -/
theorem firstUndefined?_eq_some {sources : List Source} :
    firstUndefined? sources = some diagnostic ↔ ∃ index, ReportedAt sources diagnostic index := by
  rw [firstUndefined?_eq, List.findSome?_eq_some_iff]
  constructor
  · rintro ⟨before, occurrence, after, sections, isReport, quiet⟩
    refine ⟨before.length, ⟨by simp [sections], by simpa [sections] using isReport, ?_⟩⟩
    intro earlier isBefore
    refine quiet _ (List.mem_iff_getElem.2 ⟨earlier, isBefore, ?_⟩)
    simp [sections, List.getElem_append_left isBefore]
  · rintro ⟨index, inside, isReport, quiet⟩
    refine ⟨(occurrences sources).take index, (occurrences sources)[index],
      (occurrences sources).drop (index + 1), by simp, isReport, fun occurrence isBefore => ?_⟩
    obtain ⟨earlier, before, rfl⟩ := List.mem_iff_getElem.1 isBefore
    have within : earlier < index := List.length_take_of_le (Nat.le_of_lt inside) ▸ before
    rw [List.getElem_take]
    exact quiet earlier within

end Source

end GoMend
