import GoMend.Proofs.Repair.Undefined
import GoMend.Proofs.Scope.Packages
import Mathlib.Data.List.Flatten

/-!
# Replacing one source of a package

A source is replaced by another one that imports the same and declares the same names, each
type name for a type alike.  Then nothing changes for the other sources, and the check of the
package is silent if it is silent about what resolution meets in the new source.
-/

namespace GoMend

namespace PackageScope

/-- Packages whose type names stand for the same types are alike. -/
theorem alike_of_eq {old new : PackageScope}
    (types : ∀ name, old.declaredType? name = new.declaredType? name) : Alike old new := by
  intro name
  rw [← types name]
  cases old.declaredType? name with
  | none => exact .none
  | some type => exact .some (.same type)

/-- A package is like itself. -/
theorem Alike.refl (scope : PackageScope) : Alike scope scope :=
  alike_of_eq fun _ => rfl

end PackageScope

/-- A file that imports and declares what another one does, every type name for a type
alike. -/
structure File.Keeps (file next : File) : Prop where
  imports : next.imports = file.imports
  names : next.decls.flatMap PackageScope.declNames = file.decls.flatMap PackageScope.declNames
  types : ∀ old new, List.Forall₂ (PackageScope.SameType old new)
    (file.decls.flatMap PackageScope.declTypes) (next.decls.flatMap PackageScope.declTypes)

namespace File.Keeps

variable {file next last : File}

theorem refl (file : File) : file.Keeps file where
  imports := rfl
  names := rfl
  types := fun _ _ => PackageScope.declTypes_same file

/-- What declares exactly the same types may come last. -/
theorem trans_of_eq (keeps : file.Keeps next) (imports : last.imports = next.imports)
    (names : last.decls.flatMap PackageScope.declNames =
      next.decls.flatMap PackageScope.declNames)
    (types : last.decls.flatMap PackageScope.declTypes =
      next.decls.flatMap PackageScope.declTypes) : file.Keeps last where
  imports := imports.trans keeps.imports
  names := names.trans keeps.names
  types := by
    intro old new
    rw [types]
    exact keeps.types old new

theorem scope (keeps : file.Keeps next) : FileScope.ofFile next = FileScope.ofFile file := by
  rw [FileScope.ofFile, FileScope.ofFile, keeps.imports]

end File.Keeps

namespace Source

variable {before after : List Source} {source next : Source}

/-- A package declares the names that it declared if the new source declares those of the old
one. -/
theorem names_packageOf_replace (names : next.file.decls.flatMap PackageScope.declNames =
      source.file.decls.flatMap PackageScope.declNames) :
    (packageOf (before ++ next :: after)).names =
      (packageOf (before ++ source :: after)).names := by
  rw [names_packageOf, names_packageOf, List.flatMap_append, List.flatMap_append,
    List.flatMap_cons, List.flatMap_cons, names]

/-- Packages are alike if the new source declares types alike. -/
theorem alike_packageOf_replace (types : List.Forall₂
      (PackageScope.SameType (packageOf (before ++ source :: after))
        (packageOf (before ++ next :: after)))
      (source.file.decls.flatMap PackageScope.declTypes)
      (next.file.decls.flatMap PackageScope.declTypes)) :
    PackageScope.Alike (packageOf (before ++ source :: after))
      (packageOf (before ++ next :: after)) := by
  apply PackageScope.alike_of_types
  rw [types_packageOf, types_packageOf, List.flatMap_append, List.flatMap_append,
    List.flatMap_cons, List.flatMap_cons]
  have unchanged : ∀ sources : List Source,
      List.Forall₂ (PackageScope.SameType (packageOf (before ++ source :: after))
        (packageOf (before ++ next :: after)))
        (sources.flatMap fun source => source.file.decls.flatMap PackageScope.declTypes)
        (sources.flatMap fun source => source.file.decls.flatMap PackageScope.declTypes) := by
    intro sources
    apply PackageScope.forall₂_flatMap
    intro other _
    exact PackageScope.declTypes_same other.file
  apply List.rel_append (unchanged before)
  exact List.rel_append types (unchanged after)

/-! ## A package with further sources -/

/-- The check of a package is silent exactly if it is silent about each source. -/
theorem firstUndefined?_eq_none_iff {sources : List Source} :
    firstUndefined? sources = none ↔
      ∀ source ∈ sources, source.undefined? (packageOf sources) = none := by
  refine List.findSome?_eq_none_iff.trans (forall_congr' fun source => ?_)
  rw [List.mem_mergeSort]

section

variable {sources : List Source} {old : Source → Bool}

/-- Sources that declare no types leave the types of the package as they are. -/
theorem types_packageOf_filter (typeless : ∀ source ∈ sources, old source = false →
      source.file.decls.flatMap PackageScope.declTypes = []) :
    (packageOf (sources.filter old)).types = (packageOf sources).types := by
  rw [types_packageOf, types_packageOf]
  induction sources with
  | nil => rfl
  | cons source rest ih =>
      obtain ⟨first, others⟩ := List.forall_mem_cons.1 typeless
      cases isOld : old source with
      | true => rw [List.filter_cons_of_pos isOld, List.flatMap_cons, List.flatMap_cons, ih others]
      | false =>
          rw [List.filter_cons_of_neg (by simp [isOld]), List.flatMap_cons, first isOld,
            List.nil_append, ih others]

/-- A package without undefined names has none with further sources that declare no types exactly
if these have none. -/
theorem firstUndefined?_filter (typeless : ∀ source ∈ sources, old source = false →
      source.file.decls.flatMap PackageScope.declTypes = [])
    (clean : firstUndefined? (sources.filter old) = none) :
    firstUndefined? sources = none ↔ ∀ source ∈ sources, old source = false →
      source.undefined? (packageOf sources) = none := by
  rw [firstUndefined?_eq_none_iff]
  refine forall₂_congr fun source member => ?_
  cases isOld : old source with
  | false => simp
  | true =>
      have packages : PackageScope.Alike (packageOf (sources.filter old)) (packageOf sources) :=
        PackageScope.alike_of_eq fun name => by
          rw [PackageScope.declaredType?, PackageScope.declaredType?,
            types_packageOf_filter typeless]
      have names : (packageOf (sources.filter old)).names ⊆ (packageOf sources).names := by
        rw [names_packageOf, names_packageOf]
        exact ((List.filter_sublist (p := old)).flatMap _).subset
      have quiet : source.undefined? (packageOf sources) = none := by
        rw [undefined?_eq, List.findSome?_eq_none_iff]
        intro visit met
        rw [File.visits_alike packages] at met
        exact report?_mono rfl (fun _ declared => declared) names
          (firstUndefined?_eq_none.1 clean source (List.mem_filter.2 ⟨member, isOld⟩) visit met)
      simp [quiet]

end

/-! ## A package with another source -/

variable (keeps : source.file.Keeps next.file)

include keeps

/-- The package declares the names that it declared. -/
theorem names_replace :
    (packageOf (before ++ next :: after)).names =
      (packageOf (before ++ source :: after)).names :=
  names_packageOf_replace keeps.names

/-- Every type name of the package stands for a type alike. -/
theorem alike_replace :
    PackageScope.Alike (packageOf (before ++ source :: after))
      (packageOf (before ++ next :: after)) :=
  alike_packageOf_replace (keeps.types _ _)

/-- Nothing is reported about a visit in the new source exactly if nothing would be reported
about it in the old one. -/
theorem report?_replace {visit : Visit} :
    next.report? (packageOf (before ++ next :: after)) visit = none ↔
      source.report? (packageOf (before ++ source :: after)) visit = none := by
  have names : (packageOf (before ++ next :: after)).names = _ := names_replace keeps
  constructor
  · apply report?_mono (by rw [keeps.scope]) _ (by simp [names])
    intro name declared
    rwa [← keeps.scope]
  · apply report?_mono (by rw [keeps.scope]) _ (by simp [names])
    intro name declared
    rwa [keeps.scope]

/-- The check of a package that was silent stays silent exactly if nothing is reported about
what resolution meets in the new source. -/
theorem firstUndefined?_replace
    (clean : firstUndefined? (before ++ source :: after) = none) :
    firstUndefined? (before ++ next :: after) = none ↔
      ∀ visit ∈ next.file.visits (packageOf (before ++ source :: after)),
        source.report? (packageOf (before ++ source :: after)) visit = none := by
  have packages : PackageScope.Alike (packageOf (before ++ source :: after)) _ :=
    alike_replace keeps
  have names : (packageOf (before ++ next :: after)).names = _ := names_replace keeps
  rw [firstUndefined?_eq_none] at clean ⊢
  constructor
  · intro silent visit met
    apply (report?_replace keeps).1
    apply silent next (List.mem_append_right _ List.mem_cons_self)
    rwa [File.visits_alike packages]
  · intro silent other member visit met
    rw [File.visits_alike packages] at met
    have others : other ∈ before ++ after → other ∈ before ++ source :: after := by
      intro inOthers
      rcases List.mem_append.1 inOthers with inBefore | inAfter
      · exact List.mem_append_left _ inBefore
      · exact List.mem_append_right _ (List.mem_cons_of_mem _ inAfter)
    have unchanged : other ∈ before ++ after →
        other.report? (packageOf (before ++ next :: after)) visit = none := by
      intro inOthers
      exact report?_mono rfl (fun _ declared => declared) (by simp [names])
        (clean other (others inOthers) visit met)
    rcases List.mem_append.1 member with inBefore | inRest
    · exact unchanged (List.mem_append_left _ inBefore)
    rcases List.mem_cons.1 inRest with rfl | inAfter
    · exact (report?_replace keeps).2 (silent visit met)
    · exact unchanged (List.mem_append_right _ inAfter)

end Source

end GoMend
