import GoMend.Proofs.Volume.Listing

/-!
# Runs that see the same files

Two volumes are alike at some locations if the same files stand there.  An action that reads and
writes nothing elsewhere comes to the same result on both, and leaves them alike.
-/

namespace GoMend

namespace Volume

/-- Two trees that work at the same location, with the same files at the locations that are
shown. -/
structure Alike (shown : Location → Prop) (volume other : Volume) : Prop where
  tree : volume.IsTree
  otherTree : other.IsTree
  unique : volume.Unique
  otherUnique : other.Unique
  workDir : other.workDir = volume.workDir
  files : ∀ location, shown location → other.fileAt? location = volume.fileAt? location

variable {shown area : Location → Prop} {volume other final final' : Volume}

/-- Volumes stay alike if the changes leave the same files where they change anything. -/
theorem Alike.change (alike : Alike shown volume other) (spares : Spares area volume final)
    (spares' : Spares area other final')
    (same : ∀ location, area location → shown location →
      final'.fileAt? location = final.fileAt? location) : Alike shown final final' := by
  refine ⟨spares.tree, spares'.tree, spares.unique alike.unique, spares'.unique alike.otherUnique,
    ?_, fun location isShown => ?_⟩
  · rw [spares.workDir, spares'.workDir, alike.workDir]
  · by_cases inside : area location
    · exact same location inside isShown
    · rw [spares.files location inside, spares'.files location inside,
        alike.files location isShown]

/-- A directory that is shown is listed alike. -/
theorem Alike.fileNames (alike : Alike shown volume other) {dir : Location}
    (shows : ∀ name, shown (dir ++ [name])) : other.fileNames dir = volume.fileNames dir := by
  refine fileNames_congr alike.otherUnique alike.unique fun name => ?_
  rw [hasFile, hasFile, alike.files _ (shows name)]

end Volume

open Volume

namespace Disk

variable {α β : Type} {workDir : Location} {shown : Location → Prop} {told : α → Prop}
  {then_ : β → Prop}

/-- On trees that work at a location and are alike, an action that succeeds comes to the same
result, which is as told, and leaves the trees alike. -/
def Agrees (workDir : Location) (shown : Location → Prop) (told : α → Prop)
    (action : Disk α) : Prop :=
  ∀ ⦃volume other final final' : Volume⦄ ⦃result result' : α⦄, volume.workDir = workDir →
    Alike shown volume other → action volume = .ok result final →
      action other = .ok result' final' →
        result' = result ∧ told result ∧ Alike shown final final' ∧ final.workDir = workDir

namespace Agrees

theorem pure {result : α} (holds : told result) :
    Agrees workDir shown told (pure result : Disk α) := by
  intro volume other final final' _ _ works alike ends ends'
  obtain ⟨rfl, rfl⟩ := pure_eq_ok.1 ends
  obtain ⟨rfl, rfl⟩ := pure_eq_ok.1 ends'
  exact ⟨rfl, holds, alike, works⟩

theorem ofExcept {outcome : Except Fault α} (holds : ∀ result, outcome = .ok result → told result) :
    Agrees workDir shown told (ofExcept outcome) := by
  cases outcome with
  | ok result => exact pure (holds result rfl)
  | error fault =>
      intro volume other final final' _ _ _ _ ends
      cases ends

theorem bind {action : Disk α} {next : α → Disk β} (first : Agrees workDir shown told action)
    (further : ∀ result, told result → Agrees workDir shown then_ (next result)) :
    Agrees workDir shown then_ (action >>= next) := by
  intro volume other final final' _ _ works alike ends ends'
  obtain ⟨value, between, one, ends⟩ := bind_eq_ok.1 ends
  obtain ⟨value', between', one', ends'⟩ := bind_eq_ok.1 ends'
  obtain ⟨rfl, holds, still, works⟩ := first works alike one one'
  exact further value' holds works still ends ends'

theorem mapM {action : α → Disk β} {parts : List α}
    (each : ∀ part ∈ parts, Agrees workDir shown (fun _ => True) (action part)) :
    Agrees workDir shown (fun _ => True) (parts.mapM action) := by
  induction parts with
  | nil => exact pure trivial
  | cons part rest ih =>
      rw [List.mapM_cons]
      exact (each part List.mem_cons_self).bind fun _ _ =>
        (ih fun other member => each other (List.mem_cons_of_mem _ member)).bind
          fun _ _ => pure trivial

theorem forM {action : α → Disk PUnit} {parts : List α}
    (each : ∀ part ∈ parts, Agrees workDir shown (fun _ => True) (action part)) :
    Agrees workDir shown (fun _ => True) (parts.forM action) := by
  induction parts with
  | nil => exact pure trivial
  | cons part rest ih =>
      exact (each part List.mem_cons_self).bind fun _ _ =>
        ih fun other member => each other (List.mem_cons_of_mem _ member)

/-- An action without a result agrees if it leaves the same files where it stays. -/
theorem of_stays {area : Location → Prop} {action : Disk Unit}
    (stays : Stays workDir area (fun _ => True) action)
    (same : ∀ {volume other final final' : Volume}, volume.workDir = workDir →
      Alike shown volume other → action volume = .ok () final → action other = .ok () final' →
        ∀ location, area location → shown location →
          final'.fileAt? location = final.fileAt? location) :
    Agrees workDir shown (fun _ => True) action := by
  intro volume other final final' _ _ works alike ends ends'
  subst works
  obtain ⟨-, spares⟩ := stays.of_ok alike.tree ends
  have stays' : Stays other.workDir area (fun _ => True) action := alike.workDir ▸ stays
  obtain ⟨-, spares'⟩ := stays'.of_ok alike.otherTree ends'
  exact ⟨rfl, trivial, alike.change spares spares' (same rfl alike ends ends'), spares.workDir⟩

end Agrees

/-! ## Files and directories -/

variable {dir base : Path} {name : String}

theorem agrees_makeDirectories (dir : Path) :
    Agrees workDir shown (fun _ => True) (makeDirectories dir) :=
  .of_stays (stays_makeDirectories dir) fun _ _ _ _ _ => False.elim

/-- What is listed of a directory that is shown has names that were joined to it. -/
theorem agrees_files (shows : ∀ name, shown (dir.location workDir ++ [name])) :
    Agrees workDir shown (fun paths => ∀ path ∈ paths, dir.text ≠ "" ∧ ∃ name, ProperName name ∧
      path = dir.join name) (files dir) := by
  intro volume other final final' _ _ works alike listed listed'
  subst works
  obtain ⟨rfl, nonempty, rfl⟩ := files_eq_ok alike.tree listed
  obtain ⟨rfl, -, rfl⟩ := files_eq_ok alike.otherTree listed'
  rw [alike.workDir, alike.fileNames shows]
  refine ⟨rfl, fun path member => ?_, alike, rfl⟩
  obtain ⟨name, isName, rfl⟩ := List.mem_map.1 member
  exact ⟨nonempty, name, alike.tree.properName isName, rfl⟩

theorem agrees_load {path : Path} (isShown : shown (path.location workDir)) :
    Agrees workDir shown (fun _ => True) (Source.load path) := by
  intro volume other final final' _ _ works alike loaded loaded'
  subst works
  obtain ⟨⟨text, isText, parsed⟩, rfl⟩ := Source.load_eq_ok.1 loaded
  obtain ⟨⟨text', isText', parsed'⟩, rfl⟩ := Source.load_eq_ok.1 loaded'
  have same := textAt_eq_ok isText'
  rw [alike.workDir, alike.files _ isShown, textAt_eq_ok isText] at same
  cases same
  rw [parsed] at parsed'
  cases parsed'
  exact ⟨rfl, trivial, alike, rfl⟩

theorem agrees_list (shows : ∀ name, shown (dir.location workDir ++ [name])) :
    Agrees workDir shown (fun paths => ∀ path ∈ paths, dir.text ≠ "" ∧ ∃ name, ProperName name ∧
      path = dir.join name) (Source.list dir) :=
  (agrees_files shows).bind fun _ listed => .pure fun path member =>
    listed path (List.mem_of_mem_filter member)

theorem agrees_writeText (nonempty : base.text ≠ "") (slash : '/' ∉ name.toList) (text : String) :
    Agrees workDir shown (fun _ => True) (writeText (base.join name) text) := by
  refine .of_stays (stays_writeText nonempty slash text) ?_
  rintro volume other final final' rfl alike written written' location rfl -
  obtain ⟨rfl, -, -⟩ := writeText_eq_ok alike.tree nonempty slash written
  obtain ⟨rfl, -, -⟩ := writeText_eq_ok alike.otherTree nonempty slash written'
  rw [alike.workDir, fileAt?, fileAt?, at?_put_self (by simp), at?_put_self (by simp)]

theorem agrees_remove (nonempty : base.text ≠ "") (proper : ProperName name) :
    Agrees workDir shown (fun _ => True) (remove (base.join name)) := by
  refine .of_stays (stays_remove nonempty proper) ?_
  rintro volume other final final' rfl alike removed removed' location rfl -
  rw [remove_eq_ok nonempty proper removed, remove_eq_ok nonempty proper removed', alike.workDir,
    fileAt?, fileAt?, at?_erase_self (by simp), at?_erase_self (by simp)]

/-- What is copied from elsewhere has to be shown. -/
theorem agrees_copy {source : Path} (nonempty : base.text ≠ "") (slash : '/' ∉ name.toList)
    (isShown : shown (source.location workDir))
    (apart : source.location workDir ≠ base.location workDir ++ [name]) :
    Agrees workDir shown (fun _ => True) (copy source (base.join name)) := by
  refine .of_stays (stays_copy source nonempty slash) ?_
  rintro volume other final final' rfl alike copied copied' location rfl -
  obtain ⟨content, stands, from_, -⟩ := copy_eq_ok alike.tree nonempty slash copied
  obtain ⟨content', stands', from', -⟩ := copy_eq_ok alike.otherTree nonempty slash copied'
  rw [alike.workDir] at stands' from'
  have same := from' apart
  rw [alike.files _ isShown, from_ apart] at same
  cases same
  rw [fileAt?, fileAt?, stands, stands']

end Disk

end GoMend
