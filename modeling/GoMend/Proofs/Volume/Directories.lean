import GoMend.Proofs.Volume.Frame

/-!
# Directories and files that stay

What writes, copies and removes files or makes directories takes no directory away, and no file
either unless it removes one.  Where a path led to a directory before, it still does, and such a
directory is not made again.
-/

namespace GoMend

namespace Volume

/-- Whether a file stands at a location. -/
def isFile (volume : Volume) (location : Location) : Bool :=
  (volume.fileAt? location).isSome

/-- What stood somewhere still does, however an action ended that was started on a volume. -/
def Keeps {ε α : Type} (stands : Volume → Location → Bool) (volume : Volume) :
    EStateM.Result ε Volume α → Prop
  | .ok _ final | .error _ final =>
      ∀ location, stands volume location = true → stands final location = true

/-- An action that takes nothing of a kind away. -/
def Conserves {ε α : Type} (stands : Volume → Location → Bool) (action : EStateM ε Volume α) :
    Prop :=
  ∀ volume, Keeps stands volume (action volume)

namespace Conserves

variable {ε α β : Type} {stands : Volume → Location → Bool} {action : EStateM ε Volume α}

theorem pure (result : α) : Conserves stands (pure result : EStateM ε Volume α) :=
  fun _ _ stood => stood

theorem throw (fault : ε) : Conserves stands (throw fault : EStateM ε Volume α) :=
  fun _ _ stood => stood

theorem of_ok {result : α} {volume final : Volume} (conserves : Conserves stands action)
    (ends : action volume = .ok result final) (location : Location)
    (stood : stands volume location = true) : stands final location = true := by
  have kept := conserves volume
  rw [ends] at kept
  exact kept location stood

theorem of_error {fault : ε} {volume final : Volume} (conserves : Conserves stands action)
    (fails : action volume = .error fault final) (location : Location)
    (stood : stands volume location = true) : stands final location = true := by
  have kept := conserves volume
  rw [fails] at kept
  exact kept location stood

theorem bind {next : α → EStateM ε Volume β} (first : Conserves stands action)
    (further : ∀ result, Conserves stands (next result)) : Conserves stands (action >>= next) := by
  intro volume
  have kept := first volume
  simp only [Bind.bind, EStateM.bind]
  revert kept
  generalize action volume = outcome
  intro kept
  cases outcome with
  | error fault final => exact kept
  | ok result between =>
      have later := further result between
      revert later
      dsimp only
      generalize next result between = outcome
      intro later
      cases outcome <;> exact fun location stood => later _ (kept _ stood)

theorem tryCatch {handle : ε → EStateM ε Volume α} (first : Conserves stands action)
    (handled : ∀ fault, Conserves stands (handle fault)) :
    Conserves stands (tryCatch action handle) := by
  intro volume
  have kept := first volume
  simp only [MonadExcept.tryCatch, tryCatchThe, MonadExceptOf.tryCatch, EStateM.tryCatch]
  revert kept
  generalize action volume = outcome
  intro kept
  cases outcome with
  | ok result final => exact kept
  | error fault between =>
      have later := handled fault between
      revert later
      change Keeps stands between (handle fault between) →
        Keeps stands volume (handle fault between)
      generalize handle fault between = outcome
      intro later
      cases outcome <;> exact fun location stood => later _ (kept _ stood)

theorem mapM {action : α → EStateM ε Volume β} (each : ∀ part, Conserves stands (action part))
    (parts : List α) : Conserves stands (parts.mapM action) := by
  induction parts with
  | nil => exact pure []
  | cons part rest ih =>
      rw [List.mapM_cons]
      exact (each part).bind fun _ => ih.bind fun _ => pure _

theorem forM {action : α → EStateM ε Volume PUnit}
    (each : ∀ part, Conserves stands (action part)) (parts : List α) :
    Conserves stands (parts.forM action) := by
  induction parts with
  | nil => exact pure _
  | cons part rest ih => exact (each part).bind fun _ => ih

end Conserves

variable {volume final : Volume} {path : Path} {location end_ : Location}

/-! ## Files -/

theorem isDirectory_writeFile {content : Content}
    (written : volume.writeFile path content = .ok final)
    (isDirectory : volume.isDirectory location = true) : final.isDirectory location = true := by
  obtain ⟨target, -, -, free, rfl⟩ := writeFile_eq_ok written
  rw [isDirectory_put_other]
  · exact isDirectory
  · rintro rfl
    rw [isDirectory] at free
    cases free

/-- A copy is a file that is written twice. -/
theorem copyFile_eq_ok {source : Path} (copied : volume.copyFile source path = .ok final) :
    ∃ emptied content, volume.writeFile path (.text "") = .ok emptied ∧
      emptied.writeFile path content = .ok final := by
  obtain ⟨⟨there, node⟩, -, copied⟩ := of_bind_eq_ok copied
  cases node with
  | directory => cases copied
  | file known =>
      obtain ⟨emptied, first, copied⟩ := of_bind_eq_ok copied
      obtain ⟨content, -, second⟩ := of_bind_eq_ok copied
      exact ⟨emptied, content, first, second⟩

theorem isDirectory_copyFile {source : Path} (copied : volume.copyFile source path = .ok final)
    (isDirectory : volume.isDirectory location = true) : final.isDirectory location = true := by
  obtain ⟨emptied, content, first, second⟩ := copyFile_eq_ok copied
  exact isDirectory_writeFile second (isDirectory_writeFile first isDirectory)

theorem isDirectory_removeFile (removed : volume.removeFile path = .ok final)
    (isDirectory : volume.isDirectory location = true) : final.isDirectory location = true := by
  obtain ⟨⟨there, node⟩, found, erased⟩ := of_bind_eq_ok removed
  obtain ⟨rfl, stands⟩ := lookup_eq_ok found
  cases node with
  | directory => cases erased
  | file content =>
      cases erased
      rw [Volume.isDirectory, at?_erase_other]
      · exact isDirectory
      · rintro rfl
        rw [isDirectory_iff, stands] at isDirectory
        cases isDirectory

/-! ## Directories -/

/-- A directory is there already, or is put where nothing stood. -/
theorem ensureDirectory_eq_ok (made : volume.ensureDirectory path = .ok final) :
    final = volume ∨
      ∃ target, volume.at? target = none ∧ final = volume.put target .directory := by
  rw [ensureDirectory] at made
  split at made
  · split at made
    · cases made
      exact .inl rfl
    · cases made
  · obtain ⟨target, -, put⟩ := of_bind_eq_ok made
    split at put
    · cases put
    · rename_i absent
      cases put
      exact .inr ⟨target, by simpa using absent, rfl⟩

theorem isDirectory_ensureDirectory (made : volume.ensureDirectory path = .ok final)
    (isDirectory : volume.isDirectory location = true) : final.isDirectory location = true := by
  cases ensureDirectory_eq_ok made with
  | inl same => rw [same]; exact isDirectory
  | inr new =>
      obtain ⟨target, absent, rfl⟩ := new
      rw [isDirectory_put_other]
      · exact isDirectory
      · rintro rfl
        rw [isDirectory_iff, absent] at isDirectory
        cases isDirectory

/-- Making a directory takes nothing away that making one directory takes not away. -/
theorem conserves_makeDirectories_of (stands : Volume → Location → Bool)
    (steps : ∀ {volume final path location}, volume.ensureDirectory path = .ok final →
      stands volume location = true → stands final location = true) (path : Path) :
    Conserves stands (makeDirectories path) := by
  have ensures : ∀ path, Conserves stands (ensure path) := by
    intro path volume
    rw [ensure]
    split
    · rename_i made
      exact fun _ => steps made
    · exact fun _ => id
  rw [makeDirectories]
  generalize path.ancestors.filter (fun path => path.text ≠ "" && path.parent?.isSome) = paths
  induction paths with
  | nil => exact .pure ()
  | cons path outer ih =>
      apply (ensures path).tryCatch
      intro fault
      split
      · exact ih.bind fun _ => ensures path
      · exact .throw _

theorem conserves_makeDirectories (path : Path) : Conserves isDirectory (makeDirectories path) :=
  conserves_makeDirectories_of isDirectory isDirectory_ensureDirectory path

/-! ## Files that stay -/

theorem isFile_writeFile {content : Content}
    (written : volume.writeFile path content = .ok final)
    (stood : volume.isFile location = true) : final.isFile location = true := by
  obtain ⟨target, -, -, free, rfl⟩ := writeFile_eq_ok written
  by_cases here : location = target
  · have nonempty : target ≠ [] := by
      rintro rfl
      rw [isDirectory_root] at free
      cases free
    rw [here]
    exact isSome_fileAt?.2 ⟨content, at?_put_self nonempty⟩
  · rw [isFile, fileAt?_congr (at?_put_other here)]
    exact stood

theorem isFile_copyFile {source : Path} (copied : volume.copyFile source path = .ok final)
    (stood : volume.isFile location = true) : final.isFile location = true := by
  obtain ⟨emptied, content, first, second⟩ := copyFile_eq_ok copied
  exact isFile_writeFile second (isFile_writeFile first stood)

theorem isFile_ensureDirectory (made : volume.ensureDirectory path = .ok final)
    (stood : volume.isFile location = true) : final.isFile location = true := by
  cases ensureDirectory_eq_ok made with
  | inl same => rw [same]; exact stood
  | inr new =>
      obtain ⟨target, absent, rfl⟩ := new
      have apart : location ≠ target := by
        rintro rfl
        obtain ⟨content, stands⟩ := isSome_fileAt?.1 stood
        rw [stands] at absent
        cases absent
      rw [isFile, fileAt?_congr (at?_put_other apart)]
      exact stood

theorem conserves_files_makeDirectories (path : Path) :
    Conserves isFile (makeDirectories path) :=
  conserves_makeDirectories_of isFile isFile_ensureDirectory path

/-! ## Paths -/

/-- A walk gets as far among more directories. -/
theorem walk_mono (kept : ∀ location, volume.isDirectory location = true →
    final.isDirectory location = true) {parts : List String}
    (walked : volume.walk location parts = .ok end_) : final.walk location parts = .ok end_ := by
  induction parts generalizing location with
  | nil => exact walked
  | cons part rest ih =>
      have first := walk_cons_iff.1 walked
      exact walk_cons_iff.2 ⟨kept location first.1, first.2.1, ih first.2.2⟩

/-- A path leads to the same location among more directories. -/
theorem locate_mono (kept : ∀ location, volume.isDirectory location = true →
    final.isDirectory location = true) (works : final.workDir = volume.workDir)
    (located : volume.locate path = .ok end_) : final.locate path = .ok end_ := by
  obtain ⟨⟨start, parts⟩, routed, walked⟩ := of_bind_eq_ok located
  have sameRoute : final.route path = .ok (start, parts) := by
    rw [← routed, route, route, works]
  rw [locate, sameRoute]
  exact walk_mono kept walked

/-- A path that is located leads to what stands there. -/
theorem lookup_of_locate {node : Node} (located : volume.locate path = .ok end_)
    (stands : volume.at? end_ = some node) : volume.lookup path = .ok (end_, node) := by
  rw [lookup, located]
  simp only [bind, Except.bind, stands]
  rfl

/-- A path still leads to a directory if all directories are still there. -/
theorem lookup_mono (kept : ∀ location, volume.isDirectory location = true →
    final.isDirectory location = true) (works : final.workDir = volume.workDir)
    (found : volume.lookup path = .ok (location, .directory)) :
    final.lookup path = .ok (location, .directory) := by
  obtain ⟨there, located, -⟩ := of_bind_eq_ok found
  obtain ⟨rfl, stands⟩ := lookup_eq_ok found
  rw [locate_eq located] at located
  exact lookup_of_locate (locate_mono kept works located)
    (isDirectory_iff.1 (kept _ (isDirectory_iff.2 stands)))

/-- What stands as a text where a path leads to is its text. -/
theorem textAt_of_locate {text : String} (located : volume.locate path = .ok end_)
    (stands : volume.fileAt? end_ = some (.text text)) : volume.textAt path = .ok text := by
  have isFile : volume.at? end_ = some (.file (.text text)) := by
    rw [fileAt?] at stands
    split at stands
    · rename_i content isNode
      rw [isNode, Option.some.inj stands]
    · cases stands
  rw [textAt, contentAt, lookup_of_locate located isFile]
  rfl

/-- A text is still read if all directories are still there, and the same file. -/
theorem textAt_mono (kept : ∀ location, volume.isDirectory location = true →
    final.isDirectory location = true) (works : final.workDir = volume.workDir)
    (same : final.fileAt? (path.location volume.workDir) =
      volume.fileAt? (path.location volume.workDir)) {text : String}
    (isText : volume.textAt path = .ok text) : final.textAt path = .ok text := by
  obtain ⟨content, isContent, told⟩ := of_bind_eq_ok isText
  obtain ⟨⟨there, node⟩, found, isFile⟩ := of_bind_eq_ok isContent
  obtain ⟨end_, located, -⟩ := of_bind_eq_ok found
  obtain ⟨rfl, stands⟩ := lookup_eq_ok found
  rw [locate_eq located] at located
  cases node with
  | directory => cases isFile
  | file known =>
      cases isFile
      cases content with
      | binary bytes => cases told
      | text known =>
          cases told
          refine textAt_of_locate (locate_mono kept works located) ?_
          rw [same, fileAt?, stands]

/-- What is written under a name joined to a directory is read there. -/
theorem textAt_writeFile (tree : volume.IsTree) {base : Path} (nonempty : base.text ≠ "")
    {name text : String} (slash : '/' ∉ name.toList)
    (written : volume.writeFile (base.join name) (.text text) = .ok final) :
    final.textAt (base.join name) = .ok text := by
  obtain ⟨-, -, spares⟩ := writeFile_join_eq_ok tree nonempty slash written
  obtain ⟨target, located, ends, free, put⟩ := writeFile_eq_ok written
  have named := ne_empty_of_endsInSlash nonempty ends
  have joined := tree.locateNew_join nonempty slash named located free
  have found := locate_mono (fun _ => isDirectory_writeFile written) spares.workDir
    (locate_of_locateNew nonempty slash named located)
  refine textAt_of_locate found ?_
  rw [put, fileAt?, at?_put_self (by simp [joined])]

theorem holds_mono (kept : ∀ location, volume.isDirectory location = true →
    final.isDirectory location = true) (works : final.workDir = volume.workDir)
    (holds : volume.holds path = true)
    (isDirectory : volume.isDirectory (path.location volume.workDir) = true) :
    final.holds path = true := by
  rw [Volume.holds] at holds ⊢
  cases found : volume.lookup path with
  | error fault =>
      rw [found] at holds
      cases holds
  | ok entry =>
      obtain ⟨location, node⟩ := entry
      obtain ⟨rfl, stands⟩ := lookup_eq_ok found
      rw [isDirectory_iff, stands] at isDirectory
      cases isDirectory
      rw [lookup_mono kept works found]
      rfl

theorem text_ne_of_holds (holds : volume.holds path = true) : path.text ≠ "" := by
  cases found : volume.lookup path with
  | error fault =>
      rw [Volume.holds, found] at holds
      cases holds
  | ok entry => exact text_ne_of_lookup found

/-- A path that leads somewhere is not made again. -/
theorem makeDirectories_of_holds (holds : volume.holds path = true)
    (made : makeDirectories path volume = .ok () final) : final = volume := by
  cases found : volume.lookup path with
  | error fault =>
      rw [Volume.holds, found] at holds
      cases holds
  | ok entry =>
      obtain ⟨location, node⟩ := entry
      have stands := (lookup_eq_ok found).2
      obtain ⟨there, located, -⟩ := of_bind_eq_ok found
      have same : there = location := (locate_eq located).trans (lookup_eq_ok found).1.symm
      rw [same] at located
      have known : volume.makeDirectory path = .error .alreadyExists := by
        rw [makeDirectory, locateNew_of_locate located]
        simp only [bind, Except.bind, stands]
        rfl
      obtain ⟨outer, ancestors, outermost⟩ := path.ancestors_eq
      rw [makeDirectories, ancestors] at made
      cases parent : path.parent? with
      | none =>
          rw [outermost parent, List.filter_cons_of_neg (by simp [parent])] at made
          cases made
          rfl
      | some above =>
          have nonempty := text_ne_of_lookup found
          rw [List.filter_cons_of_pos (by simp [parent, nonempty]), makeAll] at made
          simp only [tryCatch, tryCatchThe, MonadExceptOf.tryCatch, EStateM.tryCatch, ensure,
            ensureDirectory, known] at made
          by_cases leads : volume.leadsToDirectory path = true
          · rw [if_pos leads] at made
            cases made
            rfl
          · rw [if_neg leads] at made
            cases made

end Volume

open Volume

namespace Disk

variable {α : Type} {stands : Volume → Location → Bool}

theorem conserves_ask (act : FileAction) (path : Path)
    (question : Volume → Except FileFault α) : Conserves stands (ask act path question) := by
  intro volume
  cases answered : question volume with
  | ok answer =>
      rw [ask_eq_ok.2 ⟨answered, rfl⟩]
      exact fun _ => id
  | error fault =>
      rw [ask_of_error answered]
      exact fun _ => id

theorem conserves_change {act : FileAction} {path : Path}
    {step : Volume → Except FileFault Volume}
    (steps : ∀ {volume final location}, step volume = .ok final →
      stands volume location = true → stands final location = true) :
    Conserves stands (change act path step) := by
  intro volume
  rw [change_run]
  split
  · rename_i stepped
    exact fun _ => steps stepped
  · exact fun _ => id

theorem conserves_files (dir : Path) : Conserves stands (files dir) :=
  (conserves_ask _ _ _).bind fun _ => .pure _

theorem conserves_copy (source target : Path) : Conserves isDirectory (copy source target) :=
  conserves_change isDirectory_copyFile

theorem conserves_remove (path : Path) : Conserves isDirectory (remove path) :=
  conserves_change isDirectory_removeFile

theorem conserves_of_makeDirectories
    (conserves : ∀ path, Conserves stands (Volume.makeDirectories path)) (dir : Path) :
    Conserves stands (makeDirectories dir) := by
  intro volume
  have made := conserves dir volume
  rw [makeDirectories]
  revert made
  generalize Volume.makeDirectories dir volume = outcome
  intro made
  cases outcome <;> exact made

theorem conserves_makeDirectories (dir : Path) : Conserves isDirectory (makeDirectories dir) :=
  conserves_of_makeDirectories Volume.conserves_makeDirectories dir

theorem conserves_files_copy (source target : Path) : Conserves isFile (copy source target) :=
  conserves_change isFile_copyFile

theorem conserves_files_makeDirectories (dir : Path) : Conserves isFile (makeDirectories dir) :=
  conserves_of_makeDirectories Volume.conserves_files_makeDirectories dir

theorem makeDirectories_of_holds {volume final : Volume} {dir : Path}
    (holds : volume.holds dir = true) (made : makeDirectories dir volume = .ok () final) :
    final = volume := by
  rw [makeDirectories] at made
  split at made
  · rename_i isMade
    cases made
    exact Volume.makeDirectories_of_holds holds isMade
  · cases made

end Disk

end GoMend
