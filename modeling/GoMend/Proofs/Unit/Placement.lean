import Mathlib.Data.List.Nodup
import Mathlib.Data.List.Pairwise
import GoMend.Proofs.Names.Document
import GoMend.Proofs.Scope.Occurrences
import GoMend.Proofs.Syntax.Visits
import GoMend.Proofs.Text.Offsets
import GoMend.Unit.Source

/-!
# Places of names

In a source that was read every name stands at a place of its own, and every name outside
of imports at one that the position index knows.  A position of such a place leads back to
the name, and only that name is qualified there.
-/

namespace GoMend

namespace Ident

/-- The places at which names stand. -/
def places (idents : List Ident) : List Nat :=
  idents.filterMap (·.offset)

variable {idents : List Ident}

@[simp] theorem places_append (before after : List Ident) :
    places (before ++ after) = places before ++ places after :=
  List.filterMap_append

theorem places_cons (ident : Ident) (rest : List Ident) :
    places (ident :: rest) = ident.offset.toList ++ places rest := by
  rw [places, List.filterMap_cons]
  cases ident.offset <;> rfl

theorem mem_places {start : Nat} : start ∈ places idents ↔
    ∃ ident ∈ idents, ident.offset = some start :=
  List.mem_filterMap

theorem places_map {change : Ident → Ident} (kept : ∀ ident, (change ident).offset = ident.offset) :
    places (idents.map change) = places idents := by
  rw [places, List.filterMap_map]
  exact congrArg (List.filterMap · idents) (funext kept)

/-- Names of which no two have the same offset stand at different places. -/
theorem nodup_places (distinct : (idents.map (·.offset)).Nodup) : (places idents).Nodup := by
  rw [List.Nodup, List.pairwise_map] at distinct
  exact List.pairwise_filterMap.2 (distinct.imp fun apart start isFirst other isSecond same =>
    apart (isFirst.trans (same ▸ isSecond.symm)))

theorem count_offset_le_one {offset : Option Nat} (distinct : (places idents).Nodup)
    (placed : offset ≠ none) : (idents.map (·.offset)).count offset ≤ 1 := by
  obtain ⟨start, rfl⟩ := Option.ne_none_iff_exists'.1 placed
  have once := List.nodup_iff_count_le_one.1 distinct start
  rw [places, List.count_filterMap] at once
  rw [List.count, List.countP_map]
  exact once

end Ident

/-- An import declaration uses no names. -/
theorem Decl.IsImport.visits {decl : Decl} (isImport : decl.IsImport) (package : PackageScope) :
    decl.visits package = [] := by
  cases decl with
  | func decl => exact isImport.elim
  | gen decl =>
      obtain ⟨_, _, _, specs, _⟩ := decl
      have imported := isImport.2
      change Spec.visitsAll package false [] specs = []
      induction specs with
      | nil => rfl
      | cons spec rest ih =>
          obtain ⟨first, others⟩ := List.forall_mem_cons.1 imported
          cases spec with
          | imported spec => exact ih ⟨isImport.1, others⟩ others
          | value | type => exact first.elim

/-- In a file that was read the names outside of imports are plain. -/
theorem File.WellRead.plain {file : File} (wellRead : file.WellRead) {decl : Decl}
    (member : decl ∈ file.decls) :
    decl.IsImport ∨ decl.IsOther ∧ ∀ ident ∈ decl.idents, ident.IsPlain := by
  obtain ⟨_, heads, others, sections, headsRead, othersRead⟩ := wellRead
  rcases List.mem_append.1 (sections ▸ member) with isHead | isOther
  · exact .inl (headsRead decl isHead).1
  · exact .inr (othersRead decl isOther)

/-- In a file that was read every name is plain, or the dot of an import. -/
theorem File.WellRead.plain_or_dot {file : File} (wellRead : file.WellRead) {ident : Ident}
    (member : ident ∈ file.idents) : ident.IsPlain ∨ ident.name = "." := by
  obtain ⟨packagePlain, heads, others, sections, headsRead, othersRead⟩ := wellRead
  rcases List.mem_append.1 member with isPackage | inDecls
  · rw [List.mem_singleton.1 isPackage]
    exact .inl packagePlain
  obtain ⟨decl, inDecls, inDecl⟩ := List.mem_flatMap.1 inDecls
  rcases List.mem_append.1 (sections ▸ inDecls) with isHead | isOther
  · exact (headsRead decl isHead).2 ident inDecl
  · exact .inl ((othersRead decl isOther).2 ident inDecl)

namespace PositionIndex

variable {index : PositionIndex} {start : Nat}

/-- Whether a name of the text begins at the offset. -/
def Marks (index : PositionIndex) (start : Nat) : Prop :=
  start ∈ index.idents ∧ start ≤ index.lines.size

theorem Marks.identOffset? (marked : index.Marks start) :
    index.identOffset? (index.lines.position start) = some start := by
  rw [PositionIndex.identOffset?, LineIndex.offset?_position marked.2]
  simp [marked.1]

end PositionIndex

namespace Source

variable {source : Source} {ident : Ident} {start : Nat} {package : String}

/-- A name, qualified if it begins at an offset. -/
def qualifyAt (package : String) (offset : Nat) (ident : Ident) : Ident :=
  (qualifyAt? package offset ident).getD ident

theorem qualifyAt_of_eq (place : ident.offset = some start) :
    qualifyAt package start ident = { ident with name := Ident.qualify package ident.name } := by
  rw [qualifyAt, qualifyAt?, if_pos place, Option.getD_some]

theorem qualifyAt_of_ne (apart : ident.offset ≠ some start) :
    qualifyAt package start ident = ident := by
  rw [qualifyAt, qualifyAt?, if_neg apart, Option.getD_none]

theorem qualifyAt_offset (package : String) (start : Nat) (ident : Ident) :
    (qualifyAt package start ident).offset = ident.offset := by
  by_cases place : ident.offset = some start
  · rw [qualifyAt_of_eq place]
  · rw [qualifyAt_of_ne place]

/-- Of names at different places no other one stands where one does. -/
theorem offset_ne_of_distinct {before after : List Ident}
    (distinct : (Ident.places (before ++ ident :: after)).Nodup)
    (place : ident.offset = some start) :
    ∀ other ∈ before ++ after, other.offset ≠ some start := by
  rw [Ident.places_append, Ident.places_cons, place, Option.toList_some, List.singleton_append,
    List.nodup_middle, List.nodup_cons, ← Ident.places_append] at distinct
  exact fun other member same => distinct.1 (Ident.mem_places.2 ⟨other, member, same⟩)

/-- Where names stand at different places, the first name at a place is the only one there, and to
qualify it is to qualify whatever stands there. -/
theorem qualify_eq (distinct : (Ident.places source.file.idents).Nodup) (position : Position)
    (package : String) :
    source.qualify position package = do
      let offset ← source.index.identOffset? position
      let ident ← source.identAt? position
      return (ident.name,
        { source with file := source.file.mapIdents (qualifyAt package offset) }) := by
  rw [qualify, identAt?]
  cases source.index.identOffset? position with
  | none => rfl
  | some offset =>
      cases found : source.file.idents.find? (·.offset == some offset) with
      | none => simp only [Option.bind_eq_bind, Option.bind_some, found, Option.bind_none]
      | some ident =>
          obtain ⟨atPlace, before, after, sections, -⟩ := List.find?_eq_some_iff_append.1 found
          have place : ident.offset = some offset := beq_iff_eq.1 atPlace
          rw [sections] at distinct
          have apart := offset_ne_of_distinct distinct place
          have untouched : ∀ other ∈ before ++ after, qualifyAt? package offset other = none :=
            fun other member => if_neg (apart other member)
          have same := File.changeFirst_eq_mapIdents sections (if_pos place) untouched
          simp only [Option.bind_eq_bind, Option.bind_some, found, same]
          rfl

/-- Every name stands at a place of its own, and those outside of imports at places that
the index marks. -/
structure WellPlaced (source : Source) : Prop where
  distinct : (source.file.idents.map (·.offset)).Nodup
  marked : ∀ decl ∈ source.file.decls, decl.IsImport ∨ decl.IsOther ∧
    ∀ ident ∈ decl.idents, ∃ start, ident.offset = some start ∧ source.index.Marks start

namespace WellPlaced

/-- What resolution meets stands at marked places. -/
theorem marks (wellPlaced : source.WellPlaced) {scope : PackageScope} {visit : Visit}
    (met : visit ∈ source.file.visits scope) :
    ∃ start, visit.ident.offset = some start ∧ source.index.Marks start := by
  obtain ⟨decl, inDecls, inDecl⟩ := List.mem_flatMap.1 met
  rcases wellPlaced.marked decl inDecls with isImport | ⟨_, marked⟩
  · rw [isImport.visits] at inDecl
    cases inDecl
  · exact marked visit.ident ((Decl.visits_among scope decl).mem inDecl)

/-- What resolution meets is not the name of an import. -/
theorem import_apart (wellPlaced : source.WellPlaced) {scope : PackageScope} {visit : Visit}
    (met : visit ∈ source.file.visits scope) {entry : ImportSpec}
    (imported : entry ∈ source.file.imports) (named : entry.name = some ident) :
    ident.offset ≠ visit.ident.offset := by
  obtain ⟨decl, inDecls, inDecl⟩ := List.mem_flatMap.1 met
  obtain ⟨imports, importsMember, isImports, inSpecs⟩ := File.mem_imports.1 imported
  have isImport : (Decl.gen imports).IsImport :=
    (wellPlaced.marked _ importsMember).resolve_right fun isOther => isOther.1 isImports
  have inImports : ident ∈ (Decl.gen imports).idents := by
    obtain ⟨_, _, _, specs, _⟩ := imports
    exact Spec.mem_identsAll.2 ⟨_, inSpecs, by simp [Spec.collect, named]⟩
  have apart : decl ≠ .gen imports := by
    rintro rfl
    rw [isImport.visits] at inDecl
    cases inDecl
  have distinct := wellPlaced.distinct
  rw [File.idents, File.collect, List.map_append, List.map_flatMap] at distinct
  have disjoint := (List.nodup_flatMap.1 (List.nodup_append.1 distinct).2.1).2
  have : Std.Symm (Function.onFun List.Disjoint fun decl : Decl =>
      decl.idents.map (·.offset)) := ⟨fun _ _ => List.Disjoint.symm⟩
  intro same
  exact disjoint.forall inDecls importsMember apart
    (List.mem_map_of_mem ((Decl.visits_among scope decl).mem inDecl))
    (List.mem_map.2 ⟨ident, inImports, same⟩)

/-- A name is the only one at its place. -/
theorem eq_of_offset_eq (wellPlaced : source.WellPlaced) {other : Ident}
    (member : ident ∈ source.file.idents) (otherMember : other ∈ source.file.idents)
    (same : ident.offset = other.offset) : ident = other :=
  List.inj_on_of_nodup_map wellPlaced.distinct member otherMember same

/-- A name at a marked place is found by its position. -/
theorem identAt?_position (wellPlaced : source.WellPlaced)
    (member : ident ∈ source.file.idents) (place : ident.offset = some start)
    (marked : source.index.Marks start) :
    source.identAt? (source.index.lines.position start) = some ident := by
  have isFound : (source.file.idents.find? (·.offset == some start)).isSome :=
    List.find?_isSome.2 ⟨ident, member, by simp [place]⟩
  obtain ⟨found, same⟩ := Option.isSome_iff_exists.1 isFound
  have foundPlace : found.offset = some start := by simpa using List.find?_some same
  rw [identAt?, marked.identOffset?, Option.bind_some, same, wellPlaced.eq_of_offset_eq
    (List.mem_of_find?_eq_some same) member (foundPlace.trans place.symm)]

/-- Qualifying by the position of a marked place succeeds. -/
theorem qualify_position (wellPlaced : source.WellPlaced)
    (member : ident ∈ source.file.idents) (place : ident.offset = some start)
    (marked : source.index.Marks start) :
    source.qualify (source.index.lines.position start) package = some (ident.name,
      { source with file := source.file.mapIdents (qualifyAt package start) }) := by
  have found := wellPlaced.identAt?_position member place marked
  rw [qualify_eq (Ident.nodup_places wellPlaced.distinct), marked.identOffset?, found]
  rfl

end WellPlaced

/-- A source as it was read, before any edit. -/
def IsRead (source : Source) : Prop :=
  ∃ text, Source.parse source.path text = .ok source

/-- Reading a text keeps its path, its tree and its positions. -/
theorem parse_eq_ok {path : Path} {text : String} : Source.parse path text = .ok source ↔
    File.parse text = .ok source.file ∧ source.path = path ∧ source.index = .ofText text := by
  obtain ⟨sourcePath, file, index⟩ := source
  rw [Source.parse]
  cases File.parse text with
  | error fault => simp
  | ok read => simp [eq_comm, and_left_comm]

/-- A source that was read holds the file that its text is read as. -/
theorem IsRead.text (isRead : source.IsRead) :
    ∃ text, File.parse text = .ok source.file ∧ source.index = .ofText text := by
  obtain ⟨text, parsed⟩ := isRead
  obtain ⟨read, -, indexed⟩ := parse_eq_ok.1 parsed
  exact ⟨text, read, indexed⟩

/-- A source that was read is well placed. -/
theorem IsRead.wellPlaced (isRead : source.IsRead) : source.WellPlaced := by
  obtain ⟨text, read, indexed⟩ := isRead.text
  obtain ⟨same, wellRead⟩ := File.parse_reads read
  have ordered := (Lexed.ofText_within text).2.sublist (Lexed.names_sublist _)
  refine ⟨?_, fun decl inDecls => (wellRead.plain inDecls).imp_right
    fun ⟨isOther, plain⟩ => ⟨isOther, ?_⟩⟩
  · rw [same, Lexed.idents, List.map_map]
    exact List.pairwise_map.2 (ordered.imp fun before same =>
      before.ne (Option.some.inj same))
  · intro ident inDecl
    have inFile : ident ∈ source.file.idents :=
      List.mem_append_right _ (List.mem_flatMap.2 ⟨decl, inDecls, inDecl⟩)
    obtain ⟨token, isName, rfl⟩ := List.mem_map.1 (same ▸ inFile)
    have member := (Lexed.names_sublist _).subset isName
    rw [indexed]
    refine ⟨token.offset, rfl, List.mem_map_of_mem ?_, Lexed.offset_le_of_mem_ofText member⟩
    rcases Lexed.kind_of_mem_names isName with identifier | isDot
    · exact List.mem_filter.2 ⟨member, by simp [identifier]⟩
    · have spelled := (Lexed.ofText_wellSpelled text token member).2.1 isDot
      have isPlain := plain _ inDecl
      simp [Ident.IsPlain, Token.toIdent, spelled] at isPlain

/-- In a source that was read every name stands somewhere. -/
theorem IsRead.placed (isRead : source.IsRead) : none ∉ source.file.idents.map (·.offset) := by
  obtain ⟨text, read, _⟩ := isRead.text
  rw [(File.parse_reads read).1, Lexed.idents, List.map_map]
  intro member
  obtain ⟨token, _, placeless⟩ := List.mem_map.1 member
  cases placeless

/-- In a source that was read a name is met as it is written there, without a dot. -/
theorem IsRead.visit_plain (isRead : source.IsRead) {scope : PackageScope} {visit : Visit}
    (met : visit ∈ source.file.visits scope) : visit.ident.IsPlain := by
  obtain ⟨text, read, _⟩ := isRead.text
  obtain ⟨decl, inDecls, inDecl⟩ := List.mem_flatMap.1 met
  rcases (File.parse_reads read).2.plain inDecls with isImport | ⟨_, plain⟩
  · rw [isImport.visits] at inDecl
    cases inDecl
  · exact plain visit.ident ((Decl.visits_among scope decl).mem inDecl)

end Source

end GoMend
