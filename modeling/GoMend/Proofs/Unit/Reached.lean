import GoMend.Proofs.Unit.Importing
import GoMend.Proofs.Unit.Locating
import GoMend.Proofs.Unit.Placement
import GoMend.Proofs.Unit.Structures

/-!
# Units that are reached by edits

A unit is read once and then edited.  Edits bring names that stand nowhere, take names away and
change the spelling of others, but they never let two names stand at one place.  So after whatever
edits a place leads to one type entry.
-/

namespace GoMend

open Ident (places)

/-! ## Edits that only take away -/

/-- An edit of a struct that leaves its name where it stands and brings no place into its type. -/
structure TypeSpec.Thins (edited spec : TypeSpec) : Prop where
  name : edited.name.offset = spec.name.offset
  places : (places edited.type.idents).Sublist (places spec.type.idents)

/-- An edit of a function that brings no place and no type declaration into it. -/
structure FuncDecl.Thins (edited decl : FuncDecl) : Prop where
  places : (places edited.idents).Sublist (places decl.idents)
  typeDecls : (Decl.func edited).typeDecls ⊆ (Decl.func decl).typeDecls

theorem TypeSpec.thins_refl (spec : TypeSpec) : spec.Thins spec :=
  ⟨rfl, List.Sublist.refl _⟩

theorem TypeSpec.Thins.trans {first second third : TypeSpec} (one : second.Thins first)
    (two : third.Thins second) : third.Thins first :=
  ⟨two.name.trans one.name, two.places.trans one.places⟩

theorem FuncDecl.thins_refl (decl : FuncDecl) : decl.Thins decl :=
  ⟨List.Sublist.refl _, List.Subset.refl _⟩

theorem Spec.places_type (spec : TypeSpec) :
    places (Spec.type spec).idents = spec.name.offset.toList ++ places spec.type.idents := by
  obtain ⟨_, _, _, _, _⟩ := spec
  exact Ident.places_cons _ _

/-- An edit of a struct in its declaration brings no place into it. -/
theorem GenDecl.Declares.places_rebuild {pattern : Matcher} {decl : GenDecl}
    {before after : List Spec} {spec : TypeSpec} {change : TypeSpec → TypeSpec}
    (declares : decl.Declares pattern before spec after) (thins : (change spec).Thins spec) :
    (places (decl.rebuild id (TypeSpec.editAt spec.name.offset change)).idents).Sublist
      (places decl.idents) := by
  have inner : (places (Spec.type (change spec)).idents).Sublist
      (places (Spec.type spec).idents) := by
    rw [Spec.places_type, Spec.places_type, thins.name]
    exact thins.places.append_left _
  rw [GenDecl.idents_eq_flatMap, declares.specs_rebuild, GenDecl.idents_eq_flatMap,
    declares.sections, List.flatMap_append, List.flatMap_append, List.flatMap_cons,
    List.flatMap_cons]
  simp only [Ident.places_append]
  exact (inner.append_right _).append_left _

/-! ## One place for each name -/

namespace File

/-- No two names stand at one place, and the name of every type entry stands somewhere. -/
structure Addressed (file : File) : Prop where
  distinct : (places file.idents).Nodup
  placed : ∀ decl ∈ file.typeDecls, ∀ spec, .type spec ∈ decl.specs → spec.name.offset ≠ none

variable {file : File} {pattern : Matcher} {spec : TypeSpec}

theorem Addressed.placed_structure (addressed : file.Addressed)
    (found : file.structure? pattern = some spec) : spec.name.offset ≠ none := by
  obtain ⟨decl, inFile, inDecl⟩ := List.mem_filterMap.1 (List.mem_of_getLast? found)
  obtain ⟨before, after, sections, -⟩ := GenDecl.structure?_eq_some_iff.1 inDecl
  exact addressed.placed decl inFile spec (sections ▸ List.mem_append_right _ List.mem_cons_self)

/-- The struct that a pattern finds is the only thing that an edit at its place changes. -/
theorem Addressed.locates (addressed : file.Addressed)
    (found : file.structure? pattern = some spec) :
    ∃ heads decl tails, Locates pattern file.parts heads spec decl tails :=
  locates_of_count_le_one found
    (Ident.count_offset_le_one addressed.distinct (addressed.placed_structure found))

section

variable {heads tails : List Part} {decl : GenDecl} {change : TypeSpec → TypeSpec}
  (locates : Locates pattern file.parts heads spec decl tails)

include locates

/-- A struct that is thinned out in its place brings no place into the file. -/
theorem places_editTypeAt (thins : (change spec).Thins spec) :
    (places (file.editTypeAt spec.name.offset change).idents).Sublist (places file.idents) := by
  obtain ⟨_, _, declares⟩ := locates.declares
  rw [idents_eq_parts, locates.parts_editTypeAt, List.flatMap_append, List.flatMap_cons,
    Ident.places_append, Ident.places_append, idents_eq_parts, locates.sections,
    List.flatMap_append, List.flatMap_cons, Ident.places_append, Ident.places_append]
  exact ((declares.places_rebuild thins).append_right _).append_left _

theorem Addressed.editTypeAt (addressed : file.Addressed) (thins : (change spec).Thins spec) :
    (file.editTypeAt spec.name.offset change).Addressed where
  distinct := addressed.distinct.sublist (places_editTypeAt locates thins)
  placed := by
    obtain ⟨before, after, declares⟩ := locates.declares
    have placed := addressed.placed
    rw [locates.typeDecls] at placed
    rw [locates.typeDecls_editTypeAt]
    simp only [List.forall_mem_append, List.forall_mem_cons] at placed ⊢
    obtain ⟨inHeads, inDecl, inTails⟩ := placed
    refine ⟨inHeads, fun entry member => ?_, inTails⟩
    rw [declares.specs_rebuild] at member
    rw [declares.sections] at inDecl
    simp only [List.mem_append, List.mem_cons, Spec.type.injEq] at member inDecl
    rcases member with isBefore | rfl | isAfter
    · exact inDecl entry (.inl isBefore)
    · exact thins.name ▸ inDecl spec (.inr (.inl rfl))
    · exact inDecl entry (.inr (.inr isAfter))

end

section

variable {before after : List Decl} {decl edited : FuncDecl}
  (sections : file.decls = before ++ .func decl :: after) (thins : edited.Thins decl)

include sections thins

/-- A function that is thinned out in its place brings no place into the file. -/
theorem places_withFunction :
    (places { file with decls := before ++ Decl.func edited :: after }.idents).Sublist
      (places file.idents) := by
  simp only [File.idents, File.collect, sections, List.flatMap_append, List.flatMap_cons,
    Ident.places_append]
  exact ((thins.places.append_right _).append_left _).append_left _

theorem Addressed.withFunction (addressed : file.Addressed) :
    { file with decls := before ++ Decl.func edited :: after }.Addressed where
  distinct := addressed.distinct.sublist (places_withFunction sections thins)
  placed := by
    have placed := addressed.placed
    have typeDecls : ∀ file : File, file.typeDecls = file.decls.flatMap Decl.typeDecls :=
      fun _ => rfl
    rw [typeDecls, sections, List.flatMap_append, List.flatMap_cons] at placed
    rw [typeDecls, List.flatMap_append, List.flatMap_cons]
    simp only [List.forall_mem_append] at placed ⊢
    obtain ⟨inBefore, inDecl, inAfter⟩ := placed
    exact ⟨inBefore, fun entry member => inDecl entry (thins.typeDecls member), inAfter⟩

end

/-- A way to collect type declarations from a file with other names. -/
theorem transfers_typeDecls (change : Ident → Ident) :
    Transfers change (GenDecl.rebuild change fun _ => none) (fun _ => [])
      (fun decl => if decl.keyword = .types then some [decl] else none) (fun _ => [])
      fun decl => if decl.keyword = .types then some [decl] else none where
  ident := fun _ => rfl
  decl := by
    rintro ⟨_, keyword, _, _, _⟩
    by_cases isTypes : keyword = .types <;> simp [GenDecl.rebuild, isTypes]

/-- Another spelling of names leaves them where they stand. -/
theorem places_mapIdents {change : Ident → Ident}
    (kept : ∀ ident, (change ident).offset = ident.offset) :
    places (file.mapIdents change).idents = places file.idents := by
  rw [File.idents_mapIdents, Ident.places_map kept]

theorem Addressed.mapIdents {change : Ident → Ident} (addressed : file.Addressed)
    (kept : ∀ ident, (change ident).offset = ident.offset) : (file.mapIdents change).Addressed where
  distinct := by
    rw [places_mapIdents kept]
    exact addressed.distinct
  placed := by
    have typeDecls : (file.mapIdents change).typeDecls = _ :=
      File.collect_mapIdents (transfers_typeDecls change) file
    rw [typeDecls]
    intro decl member spec inDecl
    obtain ⟨old, isOld, rfl⟩ := List.mem_map.1 member
    have specs : (old.rebuild change fun _ => none).specs =
        old.specs.map (·.rebuild change fun _ => none) := by
      obtain ⟨_, _, _, _, _⟩ := old
      exact Spec.rebuildAll_eq_map _ _ _
    obtain ⟨entry, isEntry, same⟩ := List.mem_map.1 (specs ▸ inDecl)
    cases entry with
    | imported | value => cases same
    | type entry =>
        cases same
        obtain ⟨_, name, _, _, _⟩ := entry
        exact (kept name).trans_ne (addressed.placed old isOld _ isEntry)

end File

/-! ## Edits of a unit -/

namespace Source

variable {source next : Source}

/-- What reading and editing lead to.  A struct and a function are edited where a pattern finds
them, by an edit that only takes away or brings what stands nowhere. -/
inductive Reached : Source → Prop
  | read {source : Source} : source.IsRead → Reached source
  | renamed {source : Source} (name : String) : Reached source → Reached (source.renamePackage name)
  | imported {source : Source} (name : Option String) (path : String) : Reached source →
      Reached (source.addImport name path).2
  | qualified {source next : Source} {position : Position} {package old : String} :
      Reached source → source.qualify position package = some (old, next) → Reached next
  | structured {α : Type} {source next : Source} {pattern : Matcher}
      {edit : TypeSpec → α × TypeSpec} {result : α} : Reached source →
      (∀ spec, (edit spec).2.Thins spec) →
      source.editStructure? pattern edit = some (result, next) → Reached next
  | constructed {α : Type} {source next : Source} {pattern : Matcher}
      {edit : FuncDecl → α × FuncDecl} {result : α} : Reached source →
      (∀ decl, (edit decl).2.Thins decl) →
      source.editFunction? pattern edit = some (result, next) → Reached next

theorem IsRead.addressed (isRead : source.IsRead) : source.file.Addressed where
  distinct := Ident.nodup_places isRead.wellPlaced.distinct
  placed := by
    intro decl member spec inDecl placeless
    apply isRead.placed
    rw [← placeless]
    refine List.mem_map_of_mem (f := fun ident : Ident => ident.offset) ?_
    obtain ⟨part, isPart, inPart⟩ := List.mem_flatMap.1 (source.file.typeDecls_eq_parts ▸ member)
    cases part with
    | name => cases inPart
    | types entry =>
        rw [List.mem_singleton.1 inPart] at inDecl
        rw [File.idents_eq_parts]
        refine List.mem_flatMap.2 ⟨_, isPart, ?_⟩
        rw [Part.idents, GenDecl.idents_eq_flatMap]
        refine List.mem_flatMap.2 ⟨_, inDecl, ?_⟩
        obtain ⟨_, _, _, _, _⟩ := spec
        exact List.mem_cons_self

/-- The name of an import that is added stands nowhere. -/
theorem places_addImport (source : Source) (name : Option String) (path : String) :
    places (source.addImport name path).2.file.idents = places source.file.idents :=
  filterMap_idents_addImport (fun _ => rfl) source name path

/-- An import brings no place and no type declaration. -/
theorem addImport_addressed (addressed : source.file.Addressed) (name : Option String)
    (path : String) : (source.addImport name path).2.file.Addressed where
  distinct := places_addImport source name path ▸ addressed.distinct
  placed := by
    have same : _ = source.file.decls.flatMap Decl.typeDecls :=
      (source.addImport_imports name path).flatMap
        (fun ⟨_, keyword, _, specs, _⟩ isImports => by
          cases isImports
          change Spec.collectAll _ _ (specs ++ [_]) = Spec.collectAll _ _ specs
          rw [Spec.collectAll_append_imported]
          cases (ImportSpec.ofPath name path).name <;> exact List.append_nil _)
        (by
          change Spec.collectAll _ _ ([] ++ [_]) = []
          rw [Spec.collectAll_append_imported]
          cases (ImportSpec.ofPath name path).name <;> rfl)
    have typeDecls : (source.addImport name path).2.file.typeDecls = source.file.typeDecls := same
    exact typeDecls ▸ addressed.placed

/-- An edit of a unit in which every name has its own place: it brings no place into the unit,
leaves every name its own, and the positions keep their meaning. -/
structure Thins (edited source : Source) : Prop where
  index : edited.index = source.index
  addressed : edited.file.Addressed
  places : (places edited.file.idents).Sublist (places source.file.idents)

theorem thins_refl (addressed : source.file.Addressed) : source.Thins source :=
  ⟨rfl, addressed, List.Sublist.refl _⟩

theorem Thins.trans {first second third : Source} (one : second.Thins first)
    (two : third.Thins second) : third.Thins first :=
  ⟨two.index.trans one.index, two.addressed, two.places.trans one.places⟩

section

variable (addressed : source.file.Addressed)

include addressed

theorem renamePackage_thins (name : String) : (source.renamePackage name).Thins source :=
  ⟨rfl, ⟨addressed.distinct, addressed.placed⟩, List.Sublist.refl _⟩

theorem addImport_thins (name : Option String) (path : String) :
    (source.addImport name path).2.Thins source :=
  ⟨addImport_index source name path, addImport_addressed addressed name path,
    by rw [places_addImport]⟩

theorem qualify_thins {position : Position} {package old : String}
    (qualified : source.qualify position package = some (old, next)) : next.Thins source := by
  rw [qualify_eq addressed.distinct] at qualified
  obtain ⟨offset, -, named⟩ := Option.bind_eq_some_iff.1 qualified
  obtain ⟨ident, -, same⟩ := Option.bind_eq_some_iff.1 named
  cases same
  have kept := qualifyAt_offset package offset
  exact ⟨rfl, addressed.mapIdents kept, by rw [File.places_mapIdents kept]⟩

theorem editStructure?_thins {α : Type} {pattern : Matcher} {edit : TypeSpec → α × TypeSpec}
    {result : α} (thins : ∀ spec, (edit spec).2.Thins spec)
    (edited : source.editStructure? pattern edit = some (result, next)) : next.Thins source := by
  obtain ⟨⟨_, file⟩, editedFile, same⟩ := Option.map_eq_some_iff.1 edited
  obtain ⟨spec, found, isEdited⟩ := Option.map_eq_some_iff.1 editedFile
  cases same
  cases isEdited
  obtain ⟨heads, decl, tails, locates⟩ := addressed.locates found
  exact ⟨rfl, addressed.editTypeAt locates (thins spec),
    File.places_editTypeAt locates (thins spec)⟩

theorem editFunction?_thins {α : Type} {pattern : Matcher} {edit : FuncDecl → α × FuncDecl}
    {result : α} (thins : ∀ decl, (edit decl).2.Thins decl)
    (edited : source.editFunction? pattern edit = some (result, next)) : next.Thins source := by
  obtain ⟨⟨_, file⟩, editedFile, same⟩ := Option.map_eq_some_iff.1 edited
  cases same
  obtain ⟨heads, decl, tails, found, -, rfl⟩ := File.editFunction?_eq_some editedFile
  exact ⟨rfl, addressed.withFunction found.sections (thins decl),
    File.places_withFunction found.sections (thins decl)⟩

end

/-- After whatever edits a place leads to one type entry. -/
theorem Reached.addressed (reached : source.Reached) : source.file.Addressed := by
  induction reached with
  | read isRead => exact isRead.addressed
  | renamed name _ addressed => exact (renamePackage_thins addressed name).addressed
  | imported name path _ addressed => exact (addImport_thins addressed name path).addressed
  | qualified _ qualified addressed => exact (qualify_thins addressed qualified).addressed
  | structured _ thins edited addressed =>
      exact (editStructure?_thins addressed thins edited).addressed
  | constructed _ thins edited addressed =>
      exact (editFunction?_thins addressed thins edited).addressed

end Source

end GoMend
