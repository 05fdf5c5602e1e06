import GoMend.Proofs.Repair.Rounds
import GoMend.Proofs.Volume.Directories

/-!
# Names that steps add and take away

Which names the files of a directory have after a step depends on the names before it alone:
copies and the lookup table add theirs, repairs add none, and handing over leaves the built names
and those that it may not take away.
-/

namespace GoMend

open Disk Volume

variable {volume final : Volume} {dir : Path} {name : String}

namespace Volume

theorem hasFile_of_stands {base : Location} {new : String} {content : Content}
    (stands : final.at? (base ++ [new]) = some (.file content))
    (others : ∀ location, location ≠ base ++ [new] → final.at? location = volume.at? location) :
    final.hasFile base name = (volume.hasFile base name || name == new) := by
  by_cases same : name = new
  · rw [same, beq_self_eq_true, Bool.or_true, hasFile, isSome_fileAt?]
    exact ⟨content, stands⟩
  · rw [beq_eq_false_iff_ne.2 same, Bool.or_false, hasFile, hasFile, fileAt?_congr]
    exact others _ fun here => same (List.singleton_inj.1 (List.append_right_inj _ |>.1 here))

theorem hasFile_erase {base : Location} {old : String} :
    (volume.erase (base ++ [old])).hasFile base name =
      (volume.hasFile base name && !(name == old)) := by
  by_cases same : name = old
  · rw [same, beq_self_eq_true, Bool.not_true, Bool.and_false, hasFile, fileAt?,
      at?_erase_self (by simp)]
    rfl
  · rw [beq_eq_false_iff_ne.2 same, Bool.not_false, Bool.and_true, hasFile, hasFile,
      fileAt?_congr]
    exact at?_erase_other fun here =>
      same (List.singleton_inj.1 (List.append_right_inj _ |>.1 here))

theorem hasFile_congr {base : Location} (same : final.fileAt? (base ++ [name]) =
    volume.fileAt? (base ++ [name])) : final.hasFile base name = volume.hasFile base name := by
  rw [hasFile, hasFile, same]

theorem contains_fileNames (unique : volume.Unique) {base : Location} :
    (volume.fileNames base).contains name = volume.hasFile base name := by
  rw [Bool.eq_iff_iff, List.contains_iff_mem, mem_fileNames_iff unique]

end Volume

theorem Path.map_fileName_join (nonempty : dir.text ≠ "") {names : List String}
    (proper : ∀ name ∈ names, ProperName name) :
    (names.map dir.join).map Path.fileName = names := by
  rw [List.map_map]
  refine (List.map_congr_left fun name member => ?_).trans (List.map_id names)
  rw [Function.comp_apply, Path.fileName, Path.fileName?_join nonempty (proper name member)]
  rfl

/-! ## Adding -/

namespace Disk

theorem spares_of_makeDirectories (tree : volume.IsTree)
    (made : makeDirectories dir volume = .ok () final) :
    Spares (fun _ => False) volume final :=
  ((stays_makeDirectories dir).of_ok tree made).2

theorem hasFile_makeDirectories (tree : volume.IsTree)
    (made : makeDirectories dir volume = .ok () final) (base : Location) :
    final.hasFile base name = volume.hasFile base name :=
  hasFile_congr ((spares_of_makeDirectories tree made).files _ id)

/-- The first of several copies. -/
theorem copyInto_cons {source : Path} {rest targets : List Path}
    (copied : copyInto dir (source :: rest) volume = .ok targets final) :
    ∃ others between, copy source (dir.join source.fileName) volume = .ok () between ∧
      copyInto dir rest between = .ok others final := by
  rw [copyInto, copyIntoBy, List.mapM_cons] at copied
  obtain ⟨target, between, first, copied⟩ := bind_eq_ok.1 copied
  obtain ⟨others, after, later, told⟩ := bind_eq_ok.1 copied
  obtain ⟨-, rfl⟩ := pure_eq_ok.1 told
  obtain ⟨_, _, one, told⟩ := bind_eq_ok.1 first
  obtain ⟨-, rfl⟩ := pure_eq_ok.1 told
  exact ⟨others, _, one, later⟩

/-- Copies are there under the names of their sources. -/
theorem hasFile_copyInto (name : String) (tree : volume.IsTree) (nonempty : dir.text ≠ "")
    {sources targets : List Path} (copied : copyInto dir sources volume = .ok targets final) :
    final.hasFile (dir.location volume.workDir) name =
      (volume.hasFile (dir.location volume.workDir) name ||
        (sources.map Path.fileName).contains name) := by
  induction sources generalizing volume targets with
  | nil =>
      obtain ⟨-, rfl⟩ := pure_eq_ok.1 copied
      simp
  | cons source rest ih =>
      obtain ⟨others, between, one, later⟩ := copyInto_cons copied
      obtain ⟨-, spares⟩ := (stays_copy source nonempty source.slash_fileName).of_ok tree one
      obtain ⟨content, stands, -, elsewhere⟩ := copy_eq_ok tree nonempty source.slash_fileName one
      have further := ih spares.tree later
      rw [spares.workDir] at further
      rw [further, hasFile_of_stands stands elsewhere, List.map_cons, List.contains_cons,
        Bool.or_assoc]

theorem hasFile_copyDependencies (name : String) (tree : volume.IsTree)
    (nonempty : dir.text ≠ "") {names : List String} {source : Path} {targets : List Path}
    (copied : copyDependencies names source dir volume = .ok targets final) :
    final.hasFile (dir.location volume.workDir) name =
      (volume.hasFile (dir.location volume.workDir) name ||
        ((names.map source.join).map Path.fileName).contains name) := by
  obtain ⟨_, between, made, copied⟩ := bind_eq_ok.1 copied
  have spares := spares_of_makeDirectories tree made
  have added := hasFile_copyInto name spares.tree nonempty copied
  rw [spares.workDir, hasFile_makeDirectories tree made] at added
  exact added

end Disk

/-- Where the lookup table was written it stands, and it is read there. -/
theorem Table.emit_eq_ok (tree : volume.IsTree) (nonempty : dir.text ≠ "") {table : Table}
    (slash : '/' ∉ table.fileName.toList) {records : List Record} {path : Path}
    (emitted : table.emit records dir volume = .ok path final) :
    path = table.path dir ∧ ProperName table.fileName ∧ final.IsTree ∧
      final = volume.put (dir.location volume.workDir ++ [table.fileName])
        (.file (.text (table.render records))) ∧
      final.textAt (table.path dir) = .ok (table.render records) := by
  obtain ⟨_, written, saved, told⟩ := bind_eq_ok.1 emitted
  obtain ⟨rfl, rfl⟩ := pure_eq_ok.1 told
  have isText := textAt_writeFile tree nonempty slash (change_eq_ok.1 saved)
  obtain ⟨put, proper, isTree⟩ := writeText_eq_ok tree nonempty slash saved
  exact ⟨rfl, proper, isTree, put, isText⟩

theorem Table.hasFile_emit (tree : volume.IsTree) (nonempty : dir.text ≠ "") {table : Table}
    (slash : '/' ∉ table.fileName.toList) {records : List Record} {path : Path}
    (emitted : table.emit records dir volume = .ok path final) :
    path = table.path dir ∧
      final.isDirectory (dir.location volume.workDir) = true ∧
      ∀ name, final.hasFile (dir.location volume.workDir) name =
        (volume.hasFile (dir.location volume.workDir) name || name == table.fileName) := by
  obtain ⟨isPath, -, isTree, rfl, -⟩ := emit_eq_ok tree nonempty slash emitted
  have stands : (volume.put (dir.location volume.workDir ++ [table.fileName])
      (.file (.text (table.render records)))).at?
        (dir.location volume.workDir ++ [table.fileName]) =
      some (.file (.text (table.render records))) := at?_put_self (by simp)
  refine ⟨isPath, ?_, fun name => hasFile_of_stands stands fun _ => at?_put_other⟩
  have above := isTree.parents _ (mem_of_at? (by simp) stands)
  rw [List.dropLast_concat] at above
  exact above

/-! ## Healing -/

namespace Origin

variable {origin : Origin} {analyzer : Analyzer}

/-- A round writes only what it has read, so the same files stand after it. -/
theorem isSome_healRound (settled : analyzer.Settled) {number : Nat} {healed : Healed}
    (ends : origin.healRound analyzer dir number volume = .ok healed final) (location : Location) :
    (final.fileAt? location).isSome = (volume.fileAt? location).isSome := by
  obtain ⟨-, rfl⟩ | ⟨diagnostic, mended, repaired, -⟩ := healRound_eq_ok settled ends
  · rfl
  · obtain ⟨-, ⟨before, after⟩, elsewhere⟩ := repair_eq_ok repaired
    by_cases here : location = diagnostic.path.location volume.workDir
    · rw [here, before, after]
    · rw [fileAt?_congr (elsewhere location here)]

theorem isSome_healRounds (settled : analyzer.Settled) {left number repairs count : Nat}
    {last : Option Diagnostic}
    (healed : origin.healRounds analyzer dir left number repairs last volume = .ok count final)
    (location : Location) :
    (final.fileAt? location).isSome = (volume.fileAt? location).isSome := by
  induction left generalizing volume number repairs last with
  | zero => cases healed
  | succ left ih =>
      rw [healRounds_succ] at healed
      obtain ⟨outcome, between, round, more⟩ := bind_eq_ok.1 healed
      rw [← isSome_healRound settled round]
      cases outcome with
      | clean =>
          obtain ⟨-, rfl⟩ := pure_eq_ok.1 more
          rfl
      | repaired diagnostic => exact ih more
      | unrepaired diagnostic => exact ih more

end Origin

/-! ## Handing over -/

namespace Disk

theorem hasFile_removeAll (name : String) (nonempty : dir.text ≠ "") {names : List String}
    (proper : ∀ name ∈ names, ProperName name)
    (removed : (names.map dir.join).forM remove volume = .ok () final) :
    final.hasFile (dir.location volume.workDir) name =
      (volume.hasFile (dir.location volume.workDir) name && !names.contains name) := by
  induction names generalizing volume with
  | nil =>
      obtain ⟨-, rfl⟩ := pure_eq_ok.1 removed
      simp
  | cons first rest ih =>
      obtain ⟨_, between, one, later⟩ := bind_eq_ok.1 removed
      obtain rfl := remove_eq_ok nonempty (proper first List.mem_cons_self) one
      refine (ih (fun other member => proper other (List.mem_cons_of_mem _ member)) later).trans ?_
      change ((volume.erase _).hasFile (dir.location volume.workDir) name && _) = _
      rw [hasFile_erase, List.contains_cons, Bool.not_or, Bool.and_assoc]

/-- The steps of handing over, behind each of which there is a volume: the built files are copied
into the project, which is there, and the files are taken away that were there before, may be taken
away and were not built. -/
structure Promotes (volume copied final : Volume) (build project : Path) (managed : Matcher)
    (removed targets : List Path) : Prop where
  projectHolds : volume.holds project = true
  buildHolds : volume.holds build = true
  stale : removed =
    ((volume.fileNames (project.location volume.workDir)).filter fun name =>
      managed.occursIn name && !volume.hasFile (build.location volume.workDir) name).map
        project.join
  copies : copyInto project ((volume.fileNames (build.location volume.workDir)).map build.join)
    volume = .ok targets copied
  cleans : removed.forM remove copied = .ok () final

theorem files_holds {paths : List Path} {between : Volume}
    (listed : files dir volume = .ok paths between) : volume.holds dir = true := by
  obtain ⟨_, _, asked, -⟩ := bind_eq_ok.1 listed
  obtain ⟨_, found, -⟩ := of_bind_eq_ok (ask_eq_ok.1 asked).1
  rw [Volume.holds, found]
  rfl

theorem promote_steps (tree : volume.IsTree) (unique : volume.Unique) {build project : Path}
    {managed : Matcher} {removed : List Path}
    (ends : promote build project managed volume = .ok removed final) :
    ∃ copied targets, Promotes volume copied final build project managed removed targets := by
  obtain ⟨published, _, matching, ends⟩ := bind_eq_ok.1 ends
  obtain ⟨listed, _, isListed, told⟩ := bind_eq_ok.1 matching
  have projectHolds := files_holds isListed
  obtain ⟨rfl, nonempty, rfl⟩ := files_eq_ok tree isListed
  obtain ⟨rfl, rfl⟩ := pure_eq_ok.1 told
  obtain ⟨built, _, isBuilt, ends⟩ := bind_eq_ok.1 ends
  have buildHolds := files_holds isBuilt
  obtain ⟨rfl, buildNonempty, rfl⟩ := files_eq_ok tree isBuilt
  obtain ⟨_, made, isMade, ends⟩ := bind_eq_ok.1 ends
  rw [makeDirectories_of_holds projectHolds isMade] at ends
  obtain ⟨targets, copied, isCopied, ends⟩ := bind_eq_ok.1 ends
  obtain ⟨_, cleaned, isCleaned, told⟩ := bind_eq_ok.1 ends
  obtain ⟨rfl, rfl⟩ := pure_eq_ok.1 told
  have proper : ∀ {base : Location}, ∀ name ∈ volume.fileNames base, ProperName name :=
    fun _ => tree.properName
  -- a path that was listed is told by its name
  have stale : (((volume.fileNames (project.location volume.workDir)).map project.join).filter
        fun path => managed.occursIn path.fileName).filter (fun path =>
          !(((volume.fileNames (build.location volume.workDir)).map build.join).map
            Path.fileName).contains path.fileName) =
      ((volume.fileNames (project.location volume.workDir)).filter fun name =>
        managed.occursIn name && !volume.hasFile (build.location volume.workDir) name).map
          project.join := by
    rw [Path.map_fileName_join buildNonempty proper, List.filter_map, List.filter_map,
      List.filter_filter]
    refine congrArg (List.map project.join) (List.filter_congr fun name member => ?_)
    simp only [Function.comp_apply, Path.fileName,
      Path.fileName?_join nonempty (proper name member), Option.getD_some,
      contains_fileNames unique]
    rw [Bool.and_comm]
  exact ⟨copied, targets, projectHolds, buildHolds, stale, isCopied, isCleaned⟩

/-- What is handed over are all built files.  Of the files that were there before, those go that
may be taken away and were not built. -/
theorem promote_eq_ok (tree : volume.IsTree) (unique : volume.Unique) {build project : Path}
    {managed : Matcher} {removed : List Path}
    (ends : promote build project managed volume = .ok removed final) :
    volume.holds build = true ∧
      removed = ((volume.fileNames (project.location volume.workDir)).filter fun name =>
        managed.occursIn name && !volume.hasFile (build.location volume.workDir) name).map
          project.join ∧
      ∀ name, final.hasFile (project.location volume.workDir) name =
        (volume.hasFile (build.location volume.workDir) name ||
          (volume.hasFile (project.location volume.workDir) name && !managed.occursIn name)) := by
  obtain ⟨copied, targets, steps⟩ := promote_steps tree unique ends
  refine ⟨steps.buildHolds, steps.stale, fun name => ?_⟩
  have nonempty := text_ne_of_holds steps.projectHolds
  have proper : ∀ {base : Location}, ∀ name ∈ volume.fileNames base, ProperName name :=
    fun _ => tree.properName
  obtain ⟨-, copySpares⟩ := (stays_copyInto nonempty _).of_ok tree steps.copies
  have added := hasFile_copyInto name tree nonempty steps.copies
  have isCleaned := steps.cleans
  rw [steps.stale] at isCleaned
  have taken := hasFile_removeAll name nonempty
    (fun other member => proper other (List.mem_of_mem_filter member)) isCleaned
  rw [copySpares.workDir] at taken
  rw [Path.map_fileName_join (text_ne_of_holds steps.buildHolds) proper,
    contains_fileNames unique] at added
  have isStale : ((volume.fileNames (project.location volume.workDir)).filter fun name =>
        managed.occursIn name && !volume.hasFile (build.location volume.workDir) name).contains
          name = (volume.hasFile (project.location volume.workDir) name &&
            (managed.occursIn name && !volume.hasFile (build.location volume.workDir) name)) := by
    rw [Bool.eq_iff_iff, List.contains_iff_mem, List.mem_filter, mem_fileNames_iff unique,
      Bool.and_eq_true (volume.hasFile _ _)]
  rw [taken, added, isStale]
  cases volume.hasFile (project.location volume.workDir) name <;>
    cases volume.hasFile (build.location volume.workDir) name <;>
      cases managed.occursIn name <;> rfl

end Disk

end GoMend
