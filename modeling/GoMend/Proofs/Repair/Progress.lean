import Mathlib.Logic.Function.Iterate
import Mathlib.Algebra.BigOperators.Group.List.Basic
import Mathlib.Algebra.Order.BigOperators.Group.List
import GoMend.Proofs.Repair.Location
import GoMend.Proofs.Repair.Mending

/-!
# Repairs make progress

A repair mends the reported name and leaves every other occurrence as it was.  The reports
move on through the occurrences, in the order of the check, until none is left.
-/

namespace GoMend

/-- A repair in memory: the source that the first report is about imports the origin and
has the reported name qualified. -/
def Origin.advance (origin : Origin) (sources : List Source) : List Source :=
  match Source.firstUndefined? sources with
  | none => sources
  | some diagnostic =>
      sources.map fun source =>
        if source.path.same diagnostic.path then
          (origin.mend? diagnostic.position source).getD source
        else source

/-- What holds of sources that were read, however often they were repaired since. -/
structure Source.Orderly (sources : List Source) : Prop where
  wellPlaced : ∀ source ∈ sources, source.WellPlaced
  distinct : sources.Pairwise fun one other => ¬one.path.same other.path
  plain : (Source.packageOf sources).Plain

/-- What holds of sources while repairs of them take effect. -/
structure Origin.Ready (origin : Origin) (sources : List Source) : Prop extends
    Source.Orderly sources where
  undotted : ∀ source ∈ sources, '.' ∉ origin.name.toList
  importable : ∀ source ∈ sources,
    (FileScope.ofFile (source.addImport none origin.path).2.file).contains origin.name

/-- An occurrence before and after a repair: what was not reported is still not, and of the
reported occurrence there is the given report, if any, afterwards. -/
structure Source.Occurrence.Repaired (diagnostic : Diagnostic) (next : Option Diagnostic)
    (before after : Source.Occurrence) : Prop where
  place : after.place = before.place
  quiet : before.report? = none → after.report? = none
  outcome : before.report? = some diagnostic → after.report? = next

namespace Source

variable {sources : List Source} {diagnostic : Diagnostic}

/-- The names that sources declare hold no dots. -/
theorem plain_packageOf (read : ∀ source ∈ sources, source.IsRead) :
    (packageOf sources).Plain := by
  intro name declared
  rw [names_packageOf] at declared
  obtain ⟨source, member, inSource⟩ := List.mem_flatMap.1 declared
  obtain ⟨decl, inDecls, inDecl⟩ := List.mem_flatMap.1 inSource
  obtain ⟨text, parsed, _⟩ := (read source member).text
  obtain ⟨ident, isBind, rfl⟩ := PackageScope.exists_binds_of_mem_declNames inDecl
  rcases (File.parse_reads parsed).2.plain inDecls with isImport | ⟨_, plain⟩
  · rw [PackageScope.binds_eq_nil isImport] at isBind
    cases isBind
  · exact plain ident (Decl.mem_idents_of_mem_binds isBind)

/-- Sources that were read are in order. -/
theorem Orderly.ofRead (read : ∀ source ∈ sources, source.IsRead)
    (distinct : sources.Pairwise fun one other => ¬one.path.same other.path) :
    Orderly sources where
  wellPlaced := fun source member => (read source member).wellPlaced
  distinct := distinct
  plain := plain_packageOf read

/-- What a report is about. -/
theorem Orderly.missing (orderly : Orderly sources)
    (reported : firstUndefined? sources = some diagnostic) :
    ∃ source ∈ sources, ∃ target env start,
      Missing (packageOf sources) source target env start ∧ source.index.Marks start ∧
        source.report? (packageOf sources) (.use target env) = some diagnostic ∧
        diagnostic = .undefined source.path (source.index.lines.position start)
          target.headName := by
  obtain ⟨source, member, visit, met, isReport⟩ := exists_visit_of_reported reported
  obtain ⟨target, env, start, rfl, missing, marked, same⟩ :=
    Missing.of_report? (orderly.wellPlaced source member) met isReport
  exact ⟨source, member, target, env, start, missing, marked, isReport, same⟩

/-- Behind a repair the next report is about a later occurrence. -/
theorem ReportedAt.lt_of_repaired {before after : List Source} {next : Diagnostic}
    {index later : Nat}
    (repaired : List.Forall₂ (Occurrence.Repaired diagnostic none) (occurrences before)
      (occurrences after))
    (reported : ReportedAt before diagnostic index) (reportedNext : ReportedAt after next later) :
    index < later := by
  obtain ⟨sameLength, each⟩ := List.forall₂_iff_get.1 repaired
  obtain ⟨inside, isReport, quiet⟩ := reported
  obtain ⟨insideNext, isNext, _⟩ := reportedNext
  by_contra notLater
  have notAfter : later ≤ index := Nat.le_of_not_lt notLater
  have same := each later (Nat.lt_of_le_of_lt notAfter inside) insideNext
  have mended : (occurrences after)[later].report? = none := by
    rcases Nat.lt_or_eq_of_le notAfter with isBefore | rfl
    · exact same.quiet (quiet later isBefore)
    · exact same.outcome isReport
  exact Option.some_ne_none next (isNext.symm.trans mended)

/-- If there is still a report about the reported occurrence, it is the next one. -/
theorem ReportedAt.of_repaired {before after : List Source} {next : Diagnostic} {index : Nat}
    (repaired : List.Forall₂ (Occurrence.Repaired diagnostic (some next)) (occurrences before)
      (occurrences after))
    (reported : ReportedAt before diagnostic index) : ReportedAt after next index := by
  obtain ⟨sameLength, each⟩ := List.forall₂_iff_get.1 repaired
  obtain ⟨inside, isReport, quiet⟩ := reported
  refine ⟨sameLength ▸ inside, (each index inside (sameLength ▸ inside)).outcome isReport, ?_⟩
  intro earlier isBefore
  have insideBefore := Nat.lt_trans isBefore inside
  exact (each earlier insideBefore (sameLength ▸ insideBefore)).quiet (quiet earlier isBefore)

end Source

namespace Origin

variable {origin : Origin} {sources : List Source}

/-- Mend the source with a path, and no other. -/
def mendAt (origin : Origin) (path : Path) (start : Nat) (other : Source) : Source :=
  if other.path.same path then origin.mended start other else other

@[simp] theorem mendAt_path (path : Path) (start : Nat) (other : Source) :
    (origin.mendAt path start other).path = other.path := by
  rw [mendAt]
  split <;> simp

@[simp] theorem mendAt_index (path : Path) (start : Nat) (other : Source) :
    (origin.mendAt path start other).index = other.index := by
  rw [mendAt]
  split <;> simp

section

variable {source : Source} {target : Ident} {env : Env} {start : Nat}

theorem mendAt_self : origin.mendAt source.path start source = origin.mended start source :=
  if_pos (Path.same_refl source.path)

variable (orderly : Source.Orderly sources) (member : source ∈ sources)

include orderly member

/-- Of all sources only the one that the report is about changes. -/
theorem mendAt_cases (start : Nat) {other : Source} (otherMember : other ∈ sources) :
    other = source ∨ origin.mendAt source.path start other = other := by
  by_cases same : other.path.same source.path
  · exact .inl (Source.eq_of_same orderly.distinct member otherMember same)
  · exact .inr (if_neg same)

omit orderly in
theorem declNames_subset : source.file.decls.flatMap PackageScope.declNames ⊆
    (Source.packageOf sources).names :=
  fun _ declared => List.mem_flatMap.2 ⟨source.file, List.mem_map_of_mem member, declared⟩

variable (missing : Source.Missing (Source.packageOf sources) source target env start)

include missing

theorem advance_eq (marked : source.index.Marks start)
    (reported : Source.firstUndefined? sources = some (.undefined source.path
      (source.index.lines.position start) target.headName)) :
    origin.advance sources = sources.map (origin.mendAt source.path start) := by
  rw [advance, reported]
  refine List.map_congr_left fun other otherMember => ?_
  by_cases same : other.path.same source.path
  · obtain rfl := Source.eq_of_same orderly.distinct member otherMember same
    have found := origin.mend?_position missing (orderly.wellPlaced other member) marked
    rw [mendAt_self]
    exact (if_pos same).trans (congrArg (·.getD other) found)
  · exact (if_neg same).trans (if_neg same).symm

/-- The names of the package stay as they are. -/
theorem names_mendAt :
    (Source.packageOf (sources.map (origin.mendAt source.path start))).names =
      (Source.packageOf sources).names := by
  rw [Source.names_packageOf, Source.names_packageOf, List.flatMap_map]
  refine List.flatMap_congr fun other otherMember => ?_
  rcases mendAt_cases orderly member start otherMember with rfl | kept
  · rw [mendAt_self]
    exact origin.declNames_mended missing (orderly.wellPlaced other member) orderly.plain
      (declNames_subset member)
  · rw [kept]

omit member in
theorem undeclared_target : (Source.packageOf sources).declaredType? target.name = none :=
  PackageScope.declaredType?_eq_none (missing.name_not_mem orderly.plain)

theorem undeclared_qualified (name : String) (dotted : '.' ∈ name.toList) :
    (Source.packageOf (sources.map (origin.mendAt source.path start))).declaredType? name =
      none := by
  refine PackageScope.declaredType?_eq_none fun declared => orderly.plain name ?_ dotted
  rwa [← names_mendAt orderly member missing]

/-- Every type name of the package stands for a type alike. -/
theorem alike_mendAt :
    PackageScope.Alike (Source.packageOf sources)
      (Source.packageOf (sources.map (origin.mendAt source.path start))) := by
  refine PackageScope.alike_of_types ?_
  rw [Source.types_packageOf, Source.types_packageOf, List.flatMap_map]
  refine PackageScope.forall₂_flatMap fun other otherMember => ?_
  rcases mendAt_cases orderly member start otherMember with rfl | kept
  · rw [mendAt_self]
    exact origin.declTypes_mended missing (orderly.wellPlaced other member) orderly.plain
      (declNames_subset member) (undeclared_target orderly missing)
      (undeclared_qualified orderly member missing)
  · rw [kept]
    exact PackageScope.declTypes_same other.file

omit missing in
/-- What is reported about a source at a marked place is about the name there. -/
theorem offset_of_report? {visit : Visit} {name : String}
    (met : visit ∈ source.file.visits (Source.packageOf sources))
    (marked : source.index.Marks start)
    (isReport : source.report? (Source.packageOf sources) visit =
      some (.undefined source.path (source.index.lines.position start) name)) :
    visit.ident.offset = some start := by
  obtain ⟨place, offset, visitMarked⟩ := (orderly.wellPlaced source member).marks met
  obtain ⟨ident, env, rfl, _, _, _, _, same⟩ := Source.report?_eq_some isReport
  simp only [Visit.ident] at offset
  have position : source.index.lines.position start = source.index.lines.position place := by
    rw [offset] at same
    exact congrArg Diagnostic.position same
  have samePlace : start = place := Option.some.inj
    (marked.identOffset?.symm.trans (position ▸ visitMarked.identOffset?))
  exact offset.trans (congrArg some samePlace.symm)

/-- What is reported of the qualified name, the repair does to the reported occurrence of the
mended source, and it leaves the others alone. -/
theorem repaired_mended {diagnostic : Diagnostic} {next : Option Diagnostic}
    (marked : source.index.Marks start)
    (isReport : source.report? (Source.packageOf sources) (.use target env) = some diagnostic)
    (outcome : (origin.mended start source).report?
      (Source.packageOf (sources.map (origin.mendAt source.path start)))
      (.use ⟨Ident.qualify origin.name target.name, target.offset⟩ env) = next) :
    List.Forall₂ (Source.Occurrence.Repaired diagnostic next)
      ((source.file.visits (Source.packageOf sources)).map
        (source.occurrence (Source.packageOf sources)))
      (((origin.mended start source).file.visits
          (Source.packageOf (sources.map (origin.mendAt source.path start)))).map
        ((origin.mended start source).occurrence
          (Source.packageOf (sources.map (origin.mendAt source.path start))))) := by
  have wellPlaced := orderly.wellPlaced source member
  rw [origin.visits_mended missing wellPlaced (undeclared_target orderly missing)
    (undeclared_qualified orderly member missing) (alike_mendAt orderly member missing),
    List.map_map, List.forall₂_map_left_iff, List.forall₂_map_right_iff, List.forall₂_same]
  intro visit met
  have samePlace : (visit.rename (Source.qualifyAt origin.name start)).ident.offset =
      visit.ident.offset := by
    cases visit <;> simp [Visit.rename, Visit.ident, Source.qualifyAt_offset]
  by_cases atPlace : visit.ident.offset = some start
  · have apart := (File.visits_among (Source.packageOf sources) source.file).nodup
      wellPlaced.distinct
    obtain rfl : visit = .use target env := List.inj_on_of_nodup_map apart met missing.met
      (atPlace.trans missing.place.symm)
    refine ⟨by simp [Source.Occurrence.place, Source.occurrence, samePlace], ?_, ?_⟩
    · intro quiet
      cases isReport.symm.trans quiet
    · intro _
      simpa [Source.occurrence, Visit.rename, Source.qualifyAt_of_eq missing.place, missing.place]
        using outcome
  · have unchanged : visit.rename (Source.qualifyAt origin.name start) = visit := by
      have kept : Source.qualifyAt origin.name start visit.ident = visit.ident :=
        Source.qualifyAt_of_ne atPlace
      cases visit with
      | use ident env => exact congrArg (Visit.use · env) kept
      | binder ident => exact congrArg Visit.binder kept
    refine ⟨by simp [Source.Occurrence.place, Source.occurrence, samePlace], ?_, ?_⟩
    · intro quiet
      have names : (Source.packageOf (sources.map (origin.mendAt source.path start))).names = _ :=
        names_mendAt orderly member missing
      have kept := origin.report?_kept missing wellPlaced names quiet
      simpa [Source.occurrence, unchanged] using kept
    · intro reported
      obtain ⟨_, _, same, _, _, _, _, rfl⟩ := Source.report?_eq_some isReport
      cases same
      rw [missing.place, Option.getD_some] at reported
      exact absurd (offset_of_report? orderly member met marked reported) atPlace

/-- What is reported of the qualified name, the repair does to the reported occurrence, and it
leaves all others alone. -/
theorem repaired_mendAt {diagnostic : Diagnostic} {next : Option Diagnostic}
    (marked : source.index.Marks start)
    (isReport : source.report? (Source.packageOf sources) (.use target env) = some diagnostic)
    (outcome : (origin.mended start source).report?
      (Source.packageOf (sources.map (origin.mendAt source.path start)))
      (.use ⟨Ident.qualify origin.name target.name, target.offset⟩ env) = next) :
    List.Forall₂ (Source.Occurrence.Repaired diagnostic next)
      (Source.occurrences sources)
      (Source.occurrences (sources.map (origin.mendAt source.path start))) := by
  have sorted : (sources.map (origin.mendAt source.path start)).mergeSort Source.notAfter =
      (sources.mergeSort Source.notAfter).map (origin.mendAt source.path start) :=
    (List.map_mergeSort fun _ _ _ _ => by simp [Source.notAfter]).symm
  rw [Source.occurrences, Source.occurrences, sorted, List.flatMap_map]
  refine PackageScope.forall₂_flatMap fun other inSorted => ?_
  have otherMember := List.mem_mergeSort.1 inSorted
  by_cases same : other.path.same source.path
  · obtain rfl := Source.eq_of_same orderly.distinct member otherMember same
    rw [mendAt_self]
    exact repaired_mended orderly member missing marked isReport outcome
  · have kept : origin.mendAt source.path start other = other := if_neg same
    rw [kept, ← File.visits_alike (alike_mendAt orderly member missing),
      List.forall₂_map_left_iff, List.forall₂_map_right_iff, List.forall₂_same]
    intro visit met
    refine ⟨rfl, ?_, ?_⟩
    · intro quiet
      exact Source.report?_mono rfl (fun _ declared => declared)
        (by simp [names_mendAt orderly member missing]) quiet
    · intro reported
      obtain ⟨_, _, _, _, _, _, _, here⟩ := Source.report?_eq_some isReport
      obtain ⟨_, _, _, _, _, _, _, there⟩ := Source.report?_eq_some reported
      have path : source.path = other.path := congrArg Diagnostic.path (here.symm.trans there)
      exact absurd (path ▸ Path.same_refl other.path) same

/-- A repair leaves sources in order. -/
theorem orderly_mendAt : Source.Orderly (sources.map (origin.mendAt source.path start)) where
  wellPlaced := by
    intro mended inMended
    obtain ⟨other, otherMember, rfl⟩ := List.mem_map.1 inMended
    rcases mendAt_cases orderly member start otherMember with rfl | kept
    · rw [mendAt_self]
      exact origin.wellPlaced_mended (orderly.wellPlaced other member)
    · rw [kept]
      exact orderly.wellPlaced other otherMember
  distinct := List.pairwise_map.2 (orderly.distinct.imp fun apart => by simpa using apart)
  plain := by
    rw [PackageScope.Plain, names_mendAt orderly member missing]
    exact orderly.plain

end

section

variable {source : Source} {target : Ident} {env : Env} {start : Nat}
  (ready : origin.Ready sources) (member : source ∈ sources)
  (missing : Source.Missing (Source.packageOf sources) source target env start)

include ready member missing

/-- Where the origin can be imported the qualified name is not reported. -/
theorem Ready.report?_qualified :
    (origin.mended start source).report?
      (Source.packageOf (sources.map (origin.mendAt source.path start)))
      (.use ⟨Ident.qualify origin.name target.name, target.offset⟩ env) = none := by
  apply (origin.report?_qualified (ready.undotted source member)).2
  right
  right
  rw [FileNames.contains, origin.scope_mended missing (ready.wellPlaced source member),
    ready.importable source member]
  rfl

theorem Ready.mendAt : origin.Ready (sources.map (origin.mendAt source.path start)) where
  toOrderly := orderly_mendAt ready.toOrderly member missing
  undotted := fun _ _ => ready.undotted source member
  importable := by
    intro mended inMended
    obtain ⟨other, otherMember, rfl⟩ := List.mem_map.1 inMended
    rcases mendAt_cases ready.toOrderly member start otherMember with rfl | kept
    · rw [mendAt_self]
      apply Source.contains_addImport
      rw [origin.scope_mended missing (ready.wellPlaced other member)]
      exact ready.importable other member
    · rw [kept]
      exact ready.importable other otherMember

end

end Origin

end GoMend
