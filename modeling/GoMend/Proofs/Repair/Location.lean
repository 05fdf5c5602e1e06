import Mathlib.Data.List.Pairwise
import GoMend.Proofs.Repair.Undefined
import GoMend.Proofs.Unit.Placement

/-!
# Reports can be located

A reported position is that of the name the report is about, so the repair finds the name
and qualifies it alone.
-/

namespace GoMend

theorem Path.same_comm (left right : Path) : left.same right = right.same left :=
  Bool.beq_comm

theorem Path.same_refl (path : Path) : path.same path :=
  beq_self_eq_true path.components

namespace Source

variable {sources : List Source} {diagnostic : Diagnostic}

/-- Of sources under different paths only one is meant by a path. -/
theorem eq_of_same (distinct : sources.Pairwise fun one other => ¬one.path.same other.path)
    {source other : Source} (member : source ∈ sources) (otherMember : other ∈ sources)
    (same : other.path.same source.path) : other = source := by
  by_contra different
  have : Std.Symm fun one other : Source => ¬one.path.same other.path :=
    ⟨fun one other apart same => apart (Path.same_comm other.path one.path ▸ same)⟩
  exact distinct.forall otherMember member different same

/-- What is reported about a package is reported about a visit in one of its sources. -/
theorem exists_visit_of_reported (reported : firstUndefined? sources = some diagnostic) :
    ∃ source ∈ sources, ∃ visit ∈ source.file.visits (packageOf sources),
      source.report? (packageOf sources) visit = some diagnostic := by
  rw [firstUndefined?_eq] at reported
  obtain ⟨occurrence, met, isReport⟩ := List.exists_of_findSome?_eq_some reported
  obtain ⟨source, inSorted, inSource⟩ := List.mem_flatMap.1 met
  obtain ⟨visit, visited, rfl⟩ := List.mem_map.1 inSource
  exact ⟨source, List.mem_mergeSort.1 inSorted, visit, visited, isReport⟩

end Source

end GoMend
