import GoMend.Proofs.Sync.Publishing
import GoMend.Proofs.Sync.Names
import GoMend.Proofs.Volume.Outcome

/-!
# Handing over

After the finished files were handed over, the project holds each of them with its content, and of
its other files it holds those that a run may not take away.  Nothing is taken away before every
finished file was copied.
-/

namespace GoMend

open Disk Volume

variable {volume final : Volume} {build project : Path} {managed : Matcher}

namespace Disk

/-! ## Copying the files of a directory -/

/-- Copies of the files of another directory have their contents, and nothing else changes. -/
theorem at?_copyInto (tree : volume.IsTree) (projectText : project.text ≠ "")
    (buildText : build.text ≠ "")
    (apart : build.location volume.workDir ≠ project.location volume.workDir)
    {names : List String} (proper : ∀ name ∈ names, ProperName name) {targets : List Path}
    (copied : copyInto project (names.map build.join) volume = .ok targets final) :
    (∀ name ∈ names, final.fileAt? (project.location volume.workDir ++ [name]) =
      volume.fileAt? (build.location volume.workDir ++ [name])) ∧
    ∀ location, (∀ name ∈ names, location ≠ project.location volume.workDir ++ [name]) →
      final.at? location = volume.at? location := by
  induction names generalizing volume targets with
  | nil =>
      obtain ⟨-, rfl⟩ := pure_eq_ok.1 copied
      constructor
      · intro name member
        cases member
      · intro location _
        rfl
  | cons first rest ih =>
      have firstProper := proper first List.mem_cons_self
      have ownName : (build.join first).fileName = first := by
        rw [Path.fileName, Path.fileName?_join buildText firstProper]
        rfl
      have source : (build.join first).location volume.workDir =
          build.location volume.workDir ++ [first] := by
        rw [Path.location_join _ buildText firstProper.slash, firstProper.follow]
      have elsewhere : ∀ left right : String, build.location volume.workDir ++ [left] ≠
          project.location volume.workDir ++ [right] := by
        intro left right same
        exact apart (List.append_inj_left' same rfl)
      rw [List.map_cons] at copied
      obtain ⟨others, between, one, later⟩ := copyInto_cons copied
      rw [ownName] at one
      obtain ⟨-, spares⟩ :=
        (stays_copy (build.join first) projectText firstProper.slash).of_ok tree one
      obtain ⟨content, stands, holds, kept⟩ := copy_eq_ok tree projectText firstProper.slash one
      rw [source] at holds
      have isCopy := holds (elsewhere first first)
      have further := ih spares.tree (by rw [spares.workDir]; exact apart)
        (fun name member => proper name (List.mem_cons_of_mem _ member)) later
      rw [spares.workDir] at further
      constructor
      · intro name member
        by_cases again : name ∈ rest
        · rw [further.1 name again, fileAt?_congr (kept _ (elsewhere name first))]
        · obtain rfl : name = first := (List.mem_cons.1 member).resolve_right again
          have last : ∀ other ∈ rest, project.location volume.workDir ++ [name] ≠
              project.location volume.workDir ++ [other] := by
            intro other isOther same
            have equal := List.singleton_inj.1 (List.append_cancel_left same)
            exact again (equal ▸ isOther)
          rw [fileAt?_congr (further.2 _ last), isCopy, fileAt?, stands]
      · intro location other
        rw [further.2 location fun name member => other name (List.mem_cons_of_mem _ member)]
        exact kept location (other first List.mem_cons_self)

/-! ## Taking away -/

/-- Nothing but the files themselves is taken away. -/
theorem at?_removeAll (nonempty : project.text ≠ "") {names : List String}
    (proper : ∀ name ∈ names, ProperName name)
    (removed : (names.map project.join).forM remove volume = .ok () final) {location : Location}
    (other : ∀ name ∈ names, location ≠ project.location volume.workDir ++ [name]) :
    final.at? location = volume.at? location := by
  induction names generalizing volume with
  | nil =>
      cases removed
      rfl
  | cons first rest ih =>
      obtain ⟨_, between, one, later⟩ := bind_eq_ok.1 removed
      obtain rfl := remove_eq_ok nonempty (proper first List.mem_cons_self) one
      have further := ih (fun name member => proper name (List.mem_cons_of_mem _ member)) later
        fun name member => other name (List.mem_cons_of_mem _ member)
      rw [further]
      exact at?_erase_other (other first List.mem_cons_self)

theorem conserves_files_copyInto (sources : List Path) :
    Conserves isFile (copyInto project sources) := by
  apply Conserves.mapM
  intro source
  exact (conserves_files_copy _ _).bind fun _ => .pure _

/-- Hand the finished files over before anything is taken away; tell which files then go. -/
def deliver (build project : Path) (managed : Matcher) : Disk (List Path) := do
  let published ← filesMatching project managed
  let built ← files build
  makeDirectories project
  let _ ← copyInto project built
  return published.filter fun path => !(built.map (·.fileName)).contains path.fileName

theorem promote_eq (build project : Path) (managed : Matcher) :
    promote build project managed = deliver build project managed >>= fun stale => do
      stale.forM remove
      return stale := by
  simp only [promote, promoteBy, copyInto, deliver, bind_assoc, pure_bind]

theorem conserves_files_deliver (build project : Path) (managed : Matcher) :
    Conserves isFile (deliver build project managed) := by
  apply ((conserves_files project).bind fun _ => .pure _).bind
  intro published
  apply (conserves_files build).bind
  intro built
  apply (conserves_files_makeDirectories project).bind
  intro _
  apply (conserves_files_copyInto built).bind
  intro _
  exact .pure _

/-- Whatever else stops the handing over, no file has been taken away by then. -/
theorem isFile_of_promote_error {fault : Fault}
    (fails : promote build project managed volume = .error fault final)
    (early : ∀ path refusal, fault ≠ .fileSystem .remove path refusal) (location : Location)
    (stood : volume.isFile location = true) : final.isFile location = true := by
  rw [promote_eq] at fails
  cases bind_eq_error.1 fails with
  | inl fails => exact (conserves_files_deliver _ _ _).of_error fails location stood
  | inr delivered =>
      obtain ⟨stale, between, -, fails⟩ := delivered
      have removes : Raises (fun fault => ∃ path refusal, fault = .fileSystem .remove path refusal)
          (stale.forM remove >>= fun _ => pure stale) := by
        have each : ∀ path ∈ stale, Raises (fun fault => ∃ path refusal,
            fault = .fileSystem .remove path refusal) (remove path) := by
          intro path _
          exact .change fun refusal => ⟨path, refusal, rfl⟩
        exact (Raises.forM each).bind fun _ => .pure _
      obtain ⟨path, refusal, isRemoval⟩ := removes between fault final fails
      exact absurd isRemoval (early path refusal)

/-! ## The project afterwards -/

/-- What handing the files of one directory over to another comes to, when the files of these names
are taken away. -/
structure HandedOver (volume : Volume) (build project : Location) (managed : Matcher)
    (names : List String) (final : Volume) : Prop where
  /-- Each built file is in the project with its content. -/
  delivered : ∀ name content, volume.fileAt? (build ++ [name]) = some content →
    final.fileAt? (project ++ [name]) = some content
  /-- No file that may be taken away is left in the project unless it was built. -/
  wanted : ∀ name, final.hasFile project name = true → managed.occursIn name = true →
    volume.hasFile build name = true
  /-- What may not be taken away and was not built is left alone. -/
  kept : ∀ name, managed.occursIn name = false → volume.hasFile build name = false →
    final.at? (project ++ [name]) = volume.at? (project ++ [name])
  built : final.at? build = volume.at? build ∧
    ∀ name, final.at? (build ++ [name]) = volume.at? (build ++ [name])
  elsewhere : ∀ location, ¬project.Directly location → final.at? location = volume.at? location
  ordered : names.Pairwise (· < ·)
  removed : ∀ name, name ∈ names ↔
    volume.hasFile project name = true ∧ final.hasFile project name = false

namespace Promotes

variable {copied : Volume} {removed targets : List Path}

/-- What is copied has the contents of the built files, and nothing else changes. -/
theorem at?_copied (steps : Promotes volume copied final build project managed removed targets)
    (tree : volume.IsTree) (unique : volume.Unique)
    (apart : build.location volume.workDir ≠ project.location volume.workDir) :
    (∀ name, volume.hasFile (build.location volume.workDir) name = true →
      copied.fileAt? (project.location volume.workDir ++ [name]) =
        volume.fileAt? (build.location volume.workDir ++ [name])) ∧
    ∀ location, (∀ name, volume.hasFile (build.location volume.workDir) name = true →
        location ≠ project.location volume.workDir ++ [name]) →
      copied.at? location = volume.at? location := by
  have copies := at?_copyInto tree (text_ne_of_holds steps.projectHolds)
    (text_ne_of_holds steps.buildHolds) apart (fun _ => tree.properName) steps.copies
  simp only [mem_fileNames_iff unique] at copies
  exact copies

/-- Of what is there behind the copies, only files go that stood in the project before, may be taken
away and were not built. -/
theorem at?_final (steps : Promotes volume copied final build project managed removed targets)
    (tree : volume.IsTree) (unique : volume.Unique) {location : Location}
    (stays : ∀ name, volume.hasFile (project.location volume.workDir) name = true →
      managed.occursIn name = true →
        volume.hasFile (build.location volume.workDir) name = false →
          location ≠ project.location volume.workDir ++ [name]) :
    final.at? location = copied.at? location := by
  have nonempty := text_ne_of_holds steps.projectHolds
  have spares := ((stays_copyInto nonempty _).of_ok tree steps.copies).2
  have cleans := steps.cleans
  rw [steps.stale] at cleans
  apply at?_removeAll nonempty (fun _ member => tree.properName (List.mem_of_mem_filter member))
    cleans
  intro name member
  have chosen := List.mem_filter.1 member
  rw [Bool.and_eq_true, Bool.not_eq_true', mem_fileNames_iff unique] at chosen
  rw [spares.workDir]
  exact stays name chosen.1 chosen.2.1 chosen.2.2

/-- The build directory is left standing. -/
theorem at?_build (steps : Promotes volume copied final build project managed removed targets)
    (tree : volume.IsTree) (unique : volume.Unique)
    (isDirectory : volume.isDirectory (build.location volume.workDir) = true) :
    final.at? (build.location volume.workDir) = volume.at? (build.location volume.workDir) := by
  have stays : final.at? (build.location volume.workDir) =
      copied.at? (build.location volume.workDir) := by
    apply steps.at?_final tree unique
    intro name isFile _ _ here
    obtain ⟨content, stands⟩ := isSome_fileAt?.1 isFile
    rw [here, isDirectory_iff, stands] at isDirectory
    cases isDirectory
  have conserves : Conserves Volume.isDirectory (copyInto project
      ((volume.fileNames (build.location volume.workDir)).map build.join)) := by
    apply Conserves.mapM
    intro source
    exact (conserves_copy _ _).bind fun _ => .pure _
  have still := conserves.of_ok steps.copies _ isDirectory
  rw [stays, isDirectory_iff.1 still, isDirectory_iff.1 isDirectory]

theorem handedOver (steps : Promotes volume copied final build project managed removed targets)
    (tree : volume.IsTree) (unique : volume.Unique)
    (isDirectory : volume.isDirectory (build.location volume.workDir) = true)
    (apart : build.location volume.workDir ≠ project.location volume.workDir)
    (names : ∀ name, final.hasFile (project.location volume.workDir) name =
      (volume.hasFile (build.location volume.workDir) name ||
        (volume.hasFile (project.location volume.workDir) name && !managed.occursIn name))) :
    HandedOver volume (build.location volume.workDir) (project.location volume.workDir) managed
      ((volume.fileNames (project.location volume.workDir)).filter fun name =>
        managed.occursIn name && !volume.hasFile (build.location volume.workDir) name) final := by
  have copies := steps.at?_copied tree unique apart
  have inProject : ∀ {left right : String}, project.location volume.workDir ++ [left] =
      project.location volume.workDir ++ [right] → left = right := fun same =>
    List.singleton_inj.1 (List.append_cancel_left same)
  have elsewhere : ∀ location, ¬(project.location volume.workDir).Directly location →
      final.at? location = volume.at? location := by
    intro location outside
    rw [steps.at?_final tree unique fun name _ _ _ here => outside ⟨name, here⟩]
    exact copies.2 location fun name _ here => outside ⟨name, here⟩
  constructor
  case delivered =>
    intro name content holds
    have isBuilt : volume.hasFile (build.location volume.workDir) name = true := by
      rw [hasFile, holds]
      rfl
    have kept : final.at? (project.location volume.workDir ++ [name]) =
        copied.at? (project.location volume.workDir ++ [name]) := by
      apply steps.at?_final tree unique
      intro other _ _ unbuilt here
      rw [← inProject here, isBuilt] at unbuilt
      cases unbuilt
    rw [fileAt?_congr kept, copies.1 name isBuilt, holds]
  case wanted =>
    intro name stands isManaged
    rw [names, isManaged, Bool.not_true, Bool.and_false, Bool.or_false] at stands
    exact stands
  case kept =>
    intro name unmanaged unbuilt
    have stays : final.at? (project.location volume.workDir ++ [name]) =
        copied.at? (project.location volume.workDir ++ [name]) := by
      apply steps.at?_final tree unique
      intro other _ isManaged _ here
      rw [← inProject here, unmanaged] at isManaged
      cases isManaged
    rw [stays]
    apply copies.2
    intro other isBuilt here
    rw [← inProject here, unbuilt] at isBuilt
    cases isBuilt
  case built =>
    constructor
    · exact steps.at?_build tree unique isDirectory
    · intro name
      apply elsewhere
      intro directly
      obtain ⟨other, here⟩ := directly
      exact apart (List.append_inj_left' here rfl)
  case elsewhere => exact elsewhere
  case ordered =>
    have distinct : (volume.fileNames (project.location volume.workDir)).Pairwise (· ≠ ·) :=
      nodup_fileNames unique
    have sorted : (volume.fileNames (project.location volume.workDir)).Pairwise (· < ·) := by
      apply ((sorted_fileNames volume _).and distinct).imp
      intro left right before
      exact String.not_le.1 fun behind => before.2 (String.le_antisymm before.1 behind)
    exact sorted.filter _
  case removed =>
    intro name
    rw [List.mem_filter, mem_fileNames_iff unique, names]
    cases volume.hasFile (project.location volume.workDir) name <;>
      cases volume.hasFile (build.location volume.workDir) name <;>
        cases managed.occursIn name <;> decide

end Promotes

/-- Handing the files of one directory over to another: if it succeeds, the built files are in the
project with their contents, of its other files those are left alone that may not be taken away, the
rest goes and is told in the order of names, and nothing else changes.  If anything but taking a
file away fails, a copy among it, every file that stood somewhere still does. -/
theorem promote_handsOver (tree : volume.IsTree) (unique : volume.Unique)
    (isDirectory : volume.isDirectory (build.location volume.workDir) = true)
    (apart : build.location volume.workDir ≠ project.location volume.workDir) :
    (∀ removed final, promote build project managed volume = .ok removed final →
      ∃ names, removed = names.map project.join ∧
        HandedOver volume (build.location volume.workDir) (project.location volume.workDir)
          managed names final) ∧
    ∀ fault final, promote build project managed volume = .error fault final →
      (∀ path refusal, fault ≠ .fileSystem .remove path refusal) →
        ∀ name, volume.hasFile (project.location volume.workDir) name = true →
          final.hasFile (project.location volume.workDir) name = true := by
  constructor
  · intro removed final ends
    have names := (promote_eq_ok tree unique ends).2.2
    obtain ⟨copied, targets, steps⟩ := promote_steps tree unique ends
    exact ⟨_, steps.stale, steps.handedOver tree unique isDirectory apart names⟩
  · intro fault final fails early name stood
    exact isFile_of_promote_error fails early _ stood

/-- A project that holds the build directory, and a published file that was not built again. -/
def rebuilt : Volume where
  workDir := []
  entries :=
    [(["project"], .directory), (["project", "aggs_b.go"], .file (.text "package b\n")),
      (["project", "build"], .directory),
      (["project", "build", "aggs_a.go"], .file (.text "package p\n"))]

theorem promote_handsOver_rebuilt : ∃ final,
    promote ⟨"project/build"⟩ ⟨"project"⟩ (Pattern.fixed "aggs_").matcher rebuilt =
        .ok [⟨"project/aggs_b.go"⟩] final ∧
      ∃ names, [⟨"project/aggs_b.go"⟩] = names.map (Path.join ⟨"project"⟩) ∧
        HandedOver rebuilt ["project", "build"] ["project"] (Pattern.fixed "aggs_").matcher names
          final := by
  have tree : rebuilt.IsTree := by decide +kernel
  have unique : rebuilt.Unique := by decide +kernel
  have build : Path.location rebuilt.workDir ⟨"project/build"⟩ = ["project", "build"] := by
    decide +kernel
  have project : Path.location rebuilt.workDir ⟨"project"⟩ = ["project"] := by
    decide +kernel
  have isDirectory : rebuilt.isDirectory (Path.location rebuilt.workDir ⟨"project/build"⟩) := by
    rw [build]
    decide
  have apart : Path.location rebuilt.workDir ⟨"project/build"⟩ ≠
      Path.location rebuilt.workDir ⟨"project"⟩ := by
    rw [build, project]
    decide
  have ends : succeeds (promote ⟨"project/build"⟩ ⟨"project"⟩ (Pattern.fixed "aggs_").matcher)
      rebuilt (fun removed _ => removed = [⟨"project/aggs_b.go"⟩]) = true := by
    decide +kernel
  obtain ⟨removed, final, promoted, told⟩ := exists_ok ends
  obtain rfl := of_decide_eq_true told
  have handsOver := (promote_handsOver tree unique isDirectory apart).1 _ final promoted
  rw [build, project] at handsOver
  exact ⟨final, promoted, handsOver⟩

/-- Copying where a path may be a link: what is read and what is written is the file that it leads
to. -/
def copyThrough (links : Path → Path) (source target : Path) : Disk Unit :=
  copy (links source) (links target)

/-- A directory with a finished file and another one further below, and a project with a file of its
own. -/
def scattered : Volume where
  workDir := []
  entries :=
    [(["project"], .directory), (["project", "own.txt"], .file (.text "own\n")),
      (["build"], .directory), (["build", "aggs_a.go"], .file (.text "package a\n")),
      (["build", "below"], .directory),
      (["build", "below", "aggs_b.go"], .file (.text "package b\n"))]

/-- In the project the name of the finished file is a link to the file that the project has. -/
def ownLink (path : Path) : Path :=
  if path = ⟨"project/aggs_a.go"⟩ then ⟨"project/own.txt"⟩ else path

/-- Through a link a file of the project is overwritten that may not be taken away.  A file further
below is not delivered, and a project that is further below loses it, so that what the directory of
the finished files holds does change. -/
theorem promote_astray :
    (∃ final, promoteBy (copyThrough ownLink) ⟨"build"⟩ ⟨"project"⟩
        (Pattern.fixed "aggs_").matcher scattered = .ok [] final ∧
      (Pattern.fixed "aggs_").matcher.occursIn "own.txt" = false ∧
      scattered.hasFile ["build"] "own.txt" = false ∧
      final.at? ["project", "own.txt"] ≠ scattered.at? ["project", "own.txt"]) ∧
    (∃ final, promote ⟨"build"⟩ ⟨"project"⟩ (Pattern.fixed "aggs_").matcher scattered =
        .ok [] final ∧
      scattered.at? ["build", "below", "aggs_b.go"] = some (.file (.text "package b\n")) ∧
      ∀ entry ∈ final.entries, ["project"].isPrefixOf entry.1 = true →
        entry.2 ≠ .file (.text "package b\n")) ∧
    ∃ final, promote ⟨"build"⟩ ⟨"build/below"⟩ (Pattern.fixed "aggs_").matcher scattered =
        .ok [⟨"build/below/aggs_b.go"⟩] final ∧
      final.at? ["build", "below", "aggs_b.go"] ≠
        scattered.at? ["build", "below", "aggs_b.go"] := by
  refine ⟨?_, ?_, ?_⟩
  · have linked : succeeds (promoteBy (copyThrough ownLink) ⟨"build"⟩ ⟨"project"⟩
        (Pattern.fixed "aggs_").matcher) scattered (fun removed final => removed = [] ∧
          final.at? ["project", "own.txt"] ≠ scattered.at? ["project", "own.txt"]) = true := by
      decide +kernel
    obtain ⟨removed, final, promoted, told⟩ := exists_ok linked
    obtain ⟨rfl, changed⟩ := of_decide_eq_true told
    exact ⟨final, promoted, by decide +kernel, by decide +kernel, changed⟩
  · have undelivered : succeeds (promote ⟨"build"⟩ ⟨"project"⟩ (Pattern.fixed "aggs_").matcher)
        scattered (fun removed final => removed = [] ∧ ∀ entry ∈ final.entries,
          ["project"].isPrefixOf entry.1 = true → entry.2 ≠ .file (.text "package b\n")) =
            true := by
      decide +kernel
    obtain ⟨removed, final, promoted, told⟩ := exists_ok undelivered
    obtain ⟨rfl, missing⟩ := of_decide_eq_true told
    exact ⟨final, promoted, by decide +kernel, missing⟩
  · have nested : succeeds (promote ⟨"build"⟩ ⟨"build/below"⟩ (Pattern.fixed "aggs_").matcher)
        scattered (fun removed final => removed = [⟨"build/below/aggs_b.go"⟩] ∧
          final.at? ["build", "below", "aggs_b.go"] ≠
            scattered.at? ["build", "below", "aggs_b.go"]) = true := by
      decide +kernel
    obtain ⟨removed, final, promoted, told⟩ := exists_ok nested
    obtain ⟨rfl, changed⟩ := of_decide_eq_true told
    exact ⟨final, promoted, changed⟩

end Disk

end GoMend
