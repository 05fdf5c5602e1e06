import GoMend.Proofs.Volume.Outcome
import GoMend.Proofs.Volume.Walk

/-!
# What actions leave alone

An action on a volume has an area: however it ends, the files outside of the area hold what they
held, and the volume is still a tree.  Areas are told for what writes, copies, removes and makes
entries, and an action made of others has their areas together.
-/

namespace GoMend

theorem Location.inside_concat (dir : Location) (name : String) :
    dir.Inside (dir ++ [name]) := by
  refine ⟨List.prefix_append _ _, fun same => ?_⟩
  exact List.cons_ne_nil _ _ (List.append_right_eq_self.1 same)

/-- The location is that of an entry directly in a directory. -/
def Location.Directly (dir location : Location) : Prop :=
  ∃ name, location = dir ++ [name]

theorem Location.Directly.inside {dir location : Location} (directly : dir.Directly location) :
    dir.Inside location := by
  obtain ⟨name, rfl⟩ := directly
  exact inside_concat dir name

namespace Volume

/-- What a change of a volume that is a tree leaves alone: it is still a tree, no location has got a
second entry, it works at the same location, and it has the same files outside of the area. -/
structure Spares (area : Location → Prop) (volume final : Volume) : Prop where
  tree : final.IsTree
  unique : volume.Unique → final.Unique
  workDir : final.workDir = volume.workDir
  files : ∀ location, ¬area location → final.fileAt? location = volume.fileAt? location

variable {volume final : Volume} {location : Location} {path : Path}
  {area wider : Location → Prop}

namespace Spares

theorem refl (tree : volume.IsTree) : Spares area volume volume :=
  ⟨tree, id, rfl, fun _ _ => rfl⟩

theorem trans {between : Volume} (first : Spares area volume between)
    (second : Spares area between final) : Spares area volume final :=
  ⟨second.tree, fun unique => second.unique (first.unique unique),
    second.workDir.trans first.workDir, fun location outside =>
    (second.files location outside).trans (first.files location outside)⟩

theorem mono (spares : Spares area volume final)
    (within : ∀ {location}, area location → wider location) : Spares wider volume final :=
  ⟨spares.tree, spares.unique, spares.workDir, fun location outside =>
    spares.files location fun inside => outside (within inside)⟩

end Spares

theorem fileAt?_of_isDirectory (isDirectory : volume.isDirectory location = true) :
    volume.fileAt? location = none := by
  rw [fileAt?, isDirectory_iff.1 isDirectory]

theorem fileAt?_congr {other : Volume} (same : other.at? location = volume.at? location) :
    other.fileAt? location = volume.fileAt? location := by
  rw [fileAt?, fileAt?, same]

theorem isSome_fileAt? : (volume.fileAt? location).isSome = true ↔
    ∃ content, volume.at? location = some (.file content) := by
  rw [fileAt?]
  cases volume.at? location with
  | none => simp
  | some node => cases node <;> simp

/-! ## Putting and erasing -/

/-- A file that is written spares all others. -/
theorem spares_put (tree : volume.IsTree) (node : Node)
    (proper : ∀ name ∈ location, ProperName name)
    (below : volume.isDirectory location.dropLast = true)
    (free : volume.isDirectory location = false) :
    Spares (· = location) volume (volume.put location node) :=
  ⟨tree.put proper below free, Unique.put, workDir_put, fun _ outside => fileAt?_congr (at?_put_other outside)⟩

theorem lookup_eq_ok {node : Node} (found : volume.lookup path = .ok (location, node)) :
    location = path.location volume.workDir ∧ volume.at? location = some node := by
  obtain ⟨there, located, stands⟩ := of_bind_eq_ok found
  split at stands
  · rename_i isNode
    cases stands
    exact ⟨locate_eq located, isNode⟩
  · cases stands

/-- What held nothing in a tree is taken away, and no file with it. -/
theorem spares_erase (tree : volume.IsTree)
    (childless : ∀ entry ∈ volume.entries, entry.1.dropLast = location → entry.1 = location) :
    Spares (· = location) volume (volume.erase location) :=
  ⟨tree.erase childless, fun unique => unique.filter _, rfl, fun _ outside => fileAt?_congr (at?_erase_other outside)⟩

/-- A file that is removed spares all others. -/
theorem spares_removeFile (tree : volume.IsTree)
    (removed : volume.removeFile path = .ok final) :
    Spares (· = path.location volume.workDir) volume final := by
  obtain ⟨⟨location, node⟩, found, erased⟩ := of_bind_eq_ok removed
  obtain ⟨rfl, stands⟩ := lookup_eq_ok found
  cases node with
  | directory => cases erased
  | file content =>
      cases erased
      refine spares_erase tree fun entry member above => ?_
      have isDirectory := tree.parents entry member
      rw [above, isDirectory_iff, stands] at isDirectory
      cases isDirectory

/-! ## Writing and copying -/

theorem writeFile_eq_ok {content : Content}
    (written : volume.writeFile path content = .ok final) :
    ∃ location, volume.locateNew path = .ok location ∧ endsInSlash path = false ∧
      volume.isDirectory location = false ∧ final = volume.put location (.file content) := by
  obtain ⟨location, located, put⟩ := of_bind_eq_ok written
  split at put
  · cases put
  · rename_i free
    rw [not_or, Bool.not_eq_true, Bool.not_eq_true] at free
    cases put
    exact ⟨location, located, free.1, free.2, rfl⟩

/-- A name that was joined to a directory and does not end in a slash is not empty. -/
theorem ne_empty_of_endsInSlash {base : Path} (nonempty : base.text ≠ "") {name : String}
    (ends : endsInSlash (base.join name) = false) : name ≠ "" := by
  rintro rfl
  obtain ⟨stem, -, joined⟩ := Path.join_text nonempty
  rw [joined "" List.not_mem_nil, endsInSlash] at ends
  simp at ends

/-- Writing to a name that was joined to a directory puts a file there. -/
theorem writeFile_join_eq_ok (tree : volume.IsTree) {base : Path} (nonempty : base.text ≠ "")
    {name : String} (slash : '/' ∉ name.toList) {content : Content}
    (written : volume.writeFile (base.join name) content = .ok final) :
    volume.isDirectory (base.location volume.workDir ++ [name]) = false ∧
      final = volume.put (base.location volume.workDir ++ [name]) (.file content) ∧
        Spares (· = base.location volume.workDir ++ [name]) volume final := by
  obtain ⟨location, located, ends, free, rfl⟩ := writeFile_eq_ok written
  have named := ne_empty_of_endsInSlash nonempty ends
  have proper : ∀ name ∈ location, ProperName name := by
    rw [locateNew_eq located]
    exact tree.proper_location _
  have spares := spares_put tree (.file content) proper (tree.above_locateNew located) free
  have joined := tree.locateNew_join nonempty slash named located free
  subst joined
  exact ⟨free, rfl, spares⟩

theorem spares_writeFile (tree : volume.IsTree) {base : Path} (nonempty : base.text ≠ "")
    {name : String} (slash : '/' ∉ name.toList) {content : Content}
    (written : volume.writeFile (base.join name) content = .ok final) :
    Spares (· = base.location volume.workDir ++ [name]) volume final :=
  (writeFile_join_eq_ok tree nonempty slash written).2.2

theorem spares_copyFile (tree : volume.IsTree) {source base : Path} (nonempty : base.text ≠ "")
    {name : String} (slash : '/' ∉ name.toList)
    (copied : volume.copyFile source (base.join name) = .ok final) :
    Spares (· = base.location volume.workDir ++ [name]) volume final := by
  obtain ⟨⟨location, node⟩, found, copied⟩ := of_bind_eq_ok copied
  cases node with
  | directory => cases copied
  | file content =>
      obtain ⟨emptied, first, copied⟩ := of_bind_eq_ok copied
      obtain ⟨filling, -, second⟩ := of_bind_eq_ok copied
      have one := spares_writeFile tree nonempty slash first
      have other := spares_writeFile one.tree nonempty slash second
      rw [one.workDir] at other
      exact one.trans other

/-! ## Taking directories away -/

theorem clearDirectory_eq_ok (cleared : volume.clearDirectory path = .ok final) :
    volume.isDirectory (path.location volume.workDir) = true ∧
      final = volume.eraseBelow (path.location volume.workDir) := by
  obtain ⟨⟨location, node⟩, found, erased⟩ := of_bind_eq_ok cleared
  obtain ⟨rfl, stands⟩ := lookup_eq_ok found
  cases node with
  | file content => cases erased
  | directory =>
      cases erased
      exact ⟨isDirectory_iff.2 stands, rfl⟩

theorem dropDirectory_eq_ok (dropped : volume.dropDirectory path = .ok final) :
    final = volume.erase (path.location volume.workDir) := by
  rw [dropDirectory] at dropped
  split at dropped
  · cases dropped
  · cases dropped
  · obtain ⟨⟨location, node⟩, found, erased⟩ := of_bind_eq_ok dropped
    obtain ⟨rfl, -⟩ := lookup_eq_ok found
    cases erased
    rfl

theorem spares_eraseBelow (tree : volume.IsTree) :
    Spares location.Inside volume (volume.eraseBelow location) :=
  ⟨tree.eraseBelow, fun unique => unique.filter _, rfl, fun _ outside => fileAt?_congr (at?_eraseBelow_other outside)⟩

/-- A directory that was cleared holds nothing that would go with it. -/
theorem spares_erase_eraseBelow (tree : volume.IsTree)
    (isDirectory : volume.isDirectory location = true) :
    Spares location.Inside volume ((volume.eraseBelow location).erase location) := by
  have cleared : Spares location.Inside volume (volume.eraseBelow location) :=
    spares_eraseBelow tree
  refine cleared.trans ?_
  have childless : ∀ entry ∈ (volume.eraseBelow location).entries,
      entry.1.dropLast = location → entry.1 = location := by
    intro entry member above
    have outside := (List.mem_filter.1 member).2
    rw [Bool.not_eq_true', Bool.eq_false_iff, ne_eq, ← Location.Inside.iff_isPrefixOf] at outside
    by_contra apart
    exact outside ⟨above ▸ List.dropLast_prefix entry.1, apart⟩
  have erased := spares_erase cleared.tree childless
  refine ⟨erased.tree, erased.unique, erased.workDir, fun other outside => ?_⟩
  by_cases here : other = location
  · have standing : (volume.eraseBelow location).isDirectory location = true := by
      rw [Volume.isDirectory, at?_eraseBelow_other fun inside => inside.apart rfl]
      exact isDirectory
    rw [here, fileAt?_of_isDirectory standing, fileAt?]
    by_cases root : location = []
    · rw [root, at?, if_pos rfl]
    · rw [at?_erase_self root]
  · exact erased.files other here

/-! ## Making directories -/

/-- A directory is made where nothing stood. -/
theorem spares_makeDirectory (tree : volume.IsTree)
    (made : volume.makeDirectory path = .ok final) : Spares (fun _ => False) volume final := by
  obtain ⟨location, located, put⟩ := of_bind_eq_ok made
  split at put
  · cases put
  · rename_i absent
    rw [Option.not_isSome_iff_eq_none] at absent
    cases put
    have free : volume.isDirectory location = false := by
      rw [isDirectory, absent]
      rfl
    have proper : ∀ name ∈ location, ProperName name := by
      rw [locateNew_eq located]
      exact tree.proper_location _
    have spares := spares_put tree .directory proper (tree.above_locateNew located) free
    refine ⟨spares.tree, spares.unique, spares.workDir, fun other _ => ?_⟩
    by_cases here : other = location
    · have nonempty : location ≠ [] := by
        rintro rfl
        rw [isDirectory_root] at free
        cases free
      rw [here, fileAt?, fileAt?, at?_put_self nonempty, absent]
    · exact spares.files other here

theorem spares_ensureDirectory (tree : volume.IsTree)
    (made : volume.ensureDirectory path = .ok final) : Spares (fun _ => False) volume final := by
  rw [ensureDirectory] at made
  split at made
  · split at made
    · cases made
      exact .refl tree
    · cases made
  · exact spares_makeDirectory tree made

/-- How an action ends that was started on a volume: with a result as told or with a fault, and
either way the files outside of the area are spared. -/
inductive Ends {ε α : Type} (area : Location → Prop) (told : α → Prop) (volume : Volume) :
    EStateM.Result ε Volume α → Prop where
  | ok {result final} : told result → Spares area volume final →
      Ends area told volume (.ok result final)
  | error {fault final} : Spares area volume final → Ends area told volume (.error fault final)

/-- On trees that work at a location an action stays within an area, and its results are as
told. -/
def Stays {ε α : Type} (workDir : Location) (area : Location → Prop) (told : α → Prop)
    (action : EStateM ε Volume α) : Prop :=
  ∀ ⦃volume : Volume⦄, volume.IsTree → volume.workDir = workDir →
    Ends area told volume (action volume)

namespace Stays

variable {ε α β : Type} {workDir : Location} {told : α → Prop} {then_ : β → Prop}
  {action : EStateM ε Volume α}

theorem pure {result : α} (holds : told result) :
    Stays workDir area told (pure result : EStateM ε Volume α) :=
  fun _ tree _ => .ok holds (.refl tree)

theorem throw (fault : ε) : Stays workDir area told (throw fault : EStateM ε Volume α) :=
  fun _ tree _ => .error (.refl tree)

theorem of_ok {result : α} (stays : Stays volume.workDir area told action) (tree : volume.IsTree)
    (ends : action volume = .ok result final) : told result ∧ Spares area volume final := by
  have outcome := stays tree rfl
  rw [ends] at outcome
  cases outcome with
  | ok holds spares => exact ⟨holds, spares⟩

theorem of_error {fault : ε} (stays : Stays volume.workDir area told action)
    (tree : volume.IsTree) (fails : action volume = .error fault final) :
    Spares area volume final := by
  have outcome := stays tree rfl
  rw [fails] at outcome
  cases outcome with
  | error spares => exact spares

theorem mono (stays : Stays workDir area told action)
    (within : ∀ {location}, area location → wider location) {weaker : α → Prop}
    (implies : ∀ {result}, told result → weaker result) :
    Stays workDir wider weaker action := by
  intro volume tree works
  have ends := stays tree works
  revert ends
  generalize action volume = outcome
  intro ends
  cases ends with
  | ok holds spares => exact .ok (implies holds) (spares.mono within)
  | error spares => exact .error (spares.mono within)

theorem bind {next : α → EStateM ε Volume β} (first : Stays workDir area told action)
    (further : ∀ result, told result → Stays workDir area then_ (next result)) :
    Stays workDir area then_ (action >>= next) := by
  intro volume tree works
  have ends := first tree works
  simp only [Bind.bind, EStateM.bind]
  revert ends
  generalize action volume = outcome
  intro ends
  cases ends with
  | error spares => exact .error spares
  | @ok result between holds spares =>
      have later := further result holds spares.tree (spares.workDir.trans works)
      revert later
      dsimp only
      generalize next result between = outcome
      intro later
      cases later with
      | ok holds more => exact .ok holds (spares.trans more)
      | error more => exact .error (spares.trans more)

/-- What comes next does not depend on what was told. -/
theorem seq {next : α → EStateM ε Volume β} (first : Stays workDir area (fun _ => True) action)
    (further : ∀ result, Stays workDir area then_ (next result)) :
    Stays workDir area then_ (action >>= next) :=
  first.bind fun result _ => further result

theorem tryCatch {handle : ε → EStateM ε Volume α} (first : Stays workDir area told action)
    (handled : ∀ fault, Stays workDir area told (handle fault)) :
    Stays workDir area told (tryCatch action handle) := by
  intro volume tree works
  have ends := first tree works
  simp only [MonadExcept.tryCatch, tryCatchThe, MonadExceptOf.tryCatch, EStateM.tryCatch]
  revert ends
  generalize action volume = outcome
  intro ends
  cases ends with
  | ok holds spares => exact .ok holds spares
  | @error fault between spares =>
      -- a fault that is caught takes nothing back
      have later := handled fault spares.tree (spares.workDir.trans works)
      revert later
      change Ends area told between (handle fault between) →
        Ends area told volume (handle fault between)
      generalize handle fault between = outcome
      intro later
      cases later with
      | ok holds more => exact .ok holds (spares.trans more)
      | error more => exact .error (spares.trans more)

end Stays

/-! ## Making directories with those above -/

variable {workDir : Location}

theorem stays_ensure (path : Path) :
    Stays workDir (fun _ => False) (fun _ => True) (ensure path) := by
  intro volume tree _
  rw [ensure]
  split
  · rename_i made
    exact .ok trivial (spares_ensureDirectory tree made)
  · exact .error (.refl tree)

/-- Directories that are made, however far that comes, spare all files. -/
theorem stays_makeAll (paths : List Path) :
    Stays workDir (fun _ => False) (fun _ => True) (makeAll paths) := by
  induction paths with
  | nil => exact .pure trivial
  | cons path outer ih =>
      refine (stays_ensure path).tryCatch fun fault => ?_
      split
      · exact ih.seq fun _ => stays_ensure path
      · exact .throw _

theorem stays_makeDirectories (path : Path) :
    Stays workDir (fun _ => False) (fun _ => True) (makeDirectories path) :=
  stays_makeAll _

end Volume

open Volume

namespace Disk

variable {α β : Type} {workDir : Location} {area : Location → Prop} {told : α → Prop}
  {then_ : β → Prop}

theorem stays_ofExcept {outcome : Except Fault α}
    (holds : ∀ result, outcome = .ok result → told result) :
    Stays workDir area told (ofExcept outcome) := by
  cases outcome with
  | ok result => exact .pure (holds result rfl)
  | error fault => exact .throw fault

theorem stays_ofExcept_any (outcome : Except Fault α) :
    Stays workDir area (fun _ => True) (ofExcept outcome) :=
  stays_ofExcept fun _ _ => trivial

theorem stays_get : Stays workDir area (fun volume => volume.IsTree ∧ volume.workDir = workDir)
    (get : Disk Volume) :=
  fun _ tree works => .ok ⟨tree, works⟩ (.refl tree)

theorem stays_ask {act : FileAction} {path : Path} {question : Volume → Except FileFault α}
    (holds : ∀ volume answer, volume.IsTree → question volume = .ok answer → told answer) :
    Stays workDir area told (ask act path question) := by
  refine stays_get.bind fun volume known => ?_
  split
  · rename_i answered
    exact .pure (holds _ _ known.1 answered)
  · exact .throw _

theorem change_run (act : FileAction) (path : Path) (step : Volume → Except FileFault Volume)
    (volume : Volume) : change act path step volume = match step volume with
      | .ok final => .ok () final
      | .error fault => .error (.fileSystem act path fault) volume := by
  cases stepped : step volume with
  | ok final => exact change_eq_ok.2 stepped
  | error fault => exact bind_of_error (ask_of_error stepped)

theorem stays_change {act : FileAction} {path : Path} {step : Volume → Except FileFault Volume}
    (steps : ∀ volume final, volume.IsTree → volume.workDir = workDir →
      step volume = .ok final → Spares area volume final) :
    Stays workDir area (fun _ => True) (change act path step) := by
  intro volume tree works
  rw [change_run]
  split
  · rename_i stepped
    exact .ok trivial (steps _ _ tree works stepped)
  · exact .error (.refl tree)

theorem stays_mapM {action : α → Disk β} {parts : List α}
    (each : ∀ part ∈ parts, Stays workDir area then_ (action part)) :
    Stays workDir area (fun results => ∀ result ∈ results, then_ result) (parts.mapM action) := by
  induction parts with
  | nil => exact .pure nofun
  | cons part rest ih =>
      rw [List.mapM_cons]
      refine (each part List.mem_cons_self).bind fun first holds =>
        (ih fun other member => each other (List.mem_cons_of_mem _ member)).bind
          fun others hold => .pure ?_
      exact List.forall_mem_cons.2 ⟨holds, hold⟩

theorem stays_mapM_any {action : α → Disk β} {parts : List α}
    (each : ∀ part ∈ parts, Stays workDir area (fun _ => True) (action part)) :
    Stays workDir area (fun _ => True) (parts.mapM action) :=
  (stays_mapM each).mono id fun _ => trivial

theorem stays_forM {action : α → Disk PUnit} {parts : List α}
    (each : ∀ part ∈ parts, Stays workDir area (fun _ => True) (action part)) :
    Stays workDir area (fun _ => True) (parts.forM action) := by
  induction parts with
  | nil => exact .pure trivial
  | cons part rest ih =>
      exact (each part List.mem_cons_self).bind fun _ _ =>
        ih fun other member => each other (List.mem_cons_of_mem _ member)

/-! ## Files and directories -/

variable {base : Path} {name : String}

theorem stays_readText (path : Path) :
    Stays workDir area (fun _ => True) (readText path) :=
  stays_ask fun _ _ _ _ => trivial

/-- A text is written to a name that was joined to a directory, and nowhere else. -/
theorem stays_writeText (nonempty : base.text ≠ "") (slash : '/' ∉ name.toList) (text : String) :
    Stays workDir (· = base.location workDir ++ [name]) (fun _ => True)
      (writeText (base.join name) text) :=
  stays_change fun _ _ tree works written => works ▸ spares_writeFile tree nonempty slash written

theorem stays_copy (source : Path) (nonempty : base.text ≠ "") (slash : '/' ∉ name.toList) :
    Stays workDir (· = base.location workDir ++ [name]) (fun _ => True)
      (copy source (base.join name)) :=
  stays_change fun _ _ tree works copied => works ▸ spares_copyFile tree nonempty slash copied

theorem stays_remove (nonempty : base.text ≠ "") (proper : ProperName name) :
    Stays workDir (· = base.location workDir ++ [name]) (fun _ => True)
      (remove (base.join name)) := by
  refine stays_change fun volume final tree works removed => ?_
  have spares := spares_removeFile tree removed
  rw [Path.location_join _ nonempty proper.slash, proper.follow, works] at spares
  exact spares

theorem stays_makeDirectories (dir : Path) :
    Stays workDir area (fun _ => True) (makeDirectories dir) := by
  intro volume tree works
  have made := Volume.stays_makeDirectories dir tree works
  rw [makeDirectories]
  revert made
  generalize Volume.makeDirectories dir volume = outcome
  intro made
  cases made with
  | ok _ spares => exact .ok trivial (spares.mono False.elim)
  | error spares => exact .error (spares.mono False.elim)

theorem removeTree_run (dir : Path) (volume : Volume) : removeTree dir volume =
    if volume.holds dir then
      (change .remove dir (clearDirectory dir) >>= fun _ =>
        change .remove dir (dropDirectory dir)) volume
    else .ok () volume := by
  rw [removeTree, bind_of_ok (get_eq volume)]
  split <;> rfl

/-- A directory is taken away with what it holds. -/
theorem stays_removeTree (dir : Path) :
    Stays workDir (dir.location workDir).Inside (fun _ => True) (removeTree dir) := by
  intro volume tree works
  subst works
  rw [removeTree_run]
  split
  · simp only [bind, EStateM.bind, change_run]
    cases clearing : volume.clearDirectory dir with
    | error fault => exact .error (.refl tree)
    | ok cleared =>
        obtain ⟨isDirectory, rfl⟩ := clearDirectory_eq_ok clearing
        dsimp only
        split
        · rename_i dropped
          cases dropDirectory_eq_ok dropped
          exact .ok trivial (spares_erase_eraseBelow tree isDirectory)
        · exact .error (spares_eraseBelow tree)
  · exact .ok trivial (.refl tree)

/-- Files that are listed have names that were joined to the directory. -/
theorem stays_files (dir : Path) :
    Stays workDir area (fun paths => ∀ path ∈ paths, ∃ name, ProperName name ∧
      path = dir.join name) (files dir) := by
  have proper : ∀ (volume : Volume) names, volume.IsTree → volume.filesIn dir = .ok names →
      ∀ name ∈ names, ProperName name := by
    intro volume names tree listed name member
    obtain ⟨⟨location, node⟩, -, listed⟩ := of_bind_eq_ok listed
    cases node with
    | file content =>
        cases listed
        cases member
    | directory =>
        cases listed
        obtain ⟨entry, isEntry, isFile⟩ :=
          List.mem_filterMap.1 (List.mem_mergeSort.1 member)
        rw [fileIn?] at isFile
        split at isFile
        · exact tree.names entry isEntry name (List.mem_of_getLast? isFile)
        · cases isFile
  refine (stays_ask proper).bind fun names proper => .pure fun path member => ?_
  obtain ⟨name, isName, rfl⟩ := List.mem_map.1 member
  exact ⟨name, proper name isName, rfl⟩

end Disk

end GoMend
