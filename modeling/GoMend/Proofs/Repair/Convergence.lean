import Mathlib
import GoMend.Proofs.Repair.Progress

/-!
# Repairs come to an end

Sources that were read are ready to be repaired, and stay so.  The report moves on to a later
occurrence with every repair, so there are no more repairs than occurrences.
-/

namespace GoMend

namespace Source

variable {sources : List Source}

end Source

namespace Origin

variable {origin : Origin} {sources : List Source} {diagnostic : Diagnostic}

/-- Sources that were read are ready to be repaired. -/
theorem Ready.ofRead (read : ∀ source ∈ sources, source.IsRead)
    (distinct : sources.Pairwise fun one other => ¬one.path.same other.path)
    (importable : ∀ source ∈ sources,
      (FileScope.ofFile (source.addImport none origin.path).2.file).contains origin.name) :
    origin.Ready sources where
  toOrderly := .ofRead read distinct
  undotted := by
    intro source member
    obtain ⟨text, parsed, _⟩ := (read source member).text
    exact source.undotted_of_contains_addImport origin.path
      (fun ident inFile => (File.parse_reads parsed).2.plain_or_dot inFile)
      (importable source member)
  importable := importable

/-- A repair of what is reported keeps sources ready and repairs every occurrence. -/
theorem Ready.advance (ready : origin.Ready sources)
    (reported : Source.firstUndefined? sources = some diagnostic) :
    origin.Ready (origin.advance sources) ∧
      List.Forall₂ (Source.Occurrence.Repaired diagnostic none) (Source.occurrences sources)
        (Source.occurrences (origin.advance sources)) := by
  obtain ⟨source, member, target, env, start, missing, marked, isReport, rfl⟩ :=
    ready.missing reported
  rw [advance_eq ready.toOrderly member missing marked reported]
  exact ⟨ready.mendAt member missing, repaired_mendAt ready.toOrderly member missing marked isReport
    (ready.report?_qualified member missing)⟩

/-- Where nothing is reported nothing changes. -/
theorem advance_eq_self (clean : Source.firstUndefined? sources = none) :
    origin.advance sources = sources := by
  rw [advance, clean]

/-- However many repairs there were, sources are ready for the next one. -/
theorem Ready.iterate (ready : origin.Ready sources) (repairs : Nat) :
    origin.Ready (origin.advance^[repairs] sources) := by
  induction repairs with
  | zero => exact ready
  | succ repairs ih =>
      rw [Function.iterate_succ_apply']
      cases reported : Source.firstUndefined? (origin.advance^[repairs] sources) with
      | none => rwa [advance_eq_self reported]
      | some diagnostic => exact (ih.advance reported).1

end Origin

end GoMend
