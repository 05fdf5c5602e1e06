import GoMend.Proofs.Volume.Frame
import GoMend.Proofs.Volume.Outcome

/-!
# Entries of a directory

The names of the files directly in a directory are listed in their order, each of them once.  The
listing depends on nothing but on which names are there.  What reads, writes, copies or removes a
file under a name of the directory does so at one location.
-/

namespace GoMend

namespace Volume

variable {volume other : Volume} {dir location : Location} {name : String} {node : Node}

/-- Whether a file of the name stands directly in a directory. -/
def hasFile (volume : Volume) (dir : Location) (name : String) : Bool :=
  (volume.fileAt? (dir ++ [name])).isSome

theorem at?_of_mem (unique : volume.Unique) (nonempty : location ≠ [])
    (member : (location, node) ∈ volume.entries) : volume.at? location = some node := by
  rw [at?_eq_find? nonempty]
  have first : ∀ {entries : List (Location × Node)}, (entries.map Prod.fst).Nodup →
      (location, node) ∈ entries →
        entries.find? (·.1 = location) = some (location, node) := by
    intro entries distinct inside
    induction entries with
    | nil => cases inside
    | cons entry rest ih =>
        rw [List.map_cons, List.nodup_cons] at distinct
        rcases List.mem_cons.1 inside with rfl | later
        · rw [List.find?_cons, decide_eq_true rfl]
        · have apart : entry.1 ≠ location := fun same =>
            distinct.1 (same ▸ List.mem_map_of_mem later)
          rw [List.find?_cons_of_neg (by simpa using apart)]
          exact ih distinct.2 later
  rw [first unique member]
  rfl

theorem fileIn?_eq_some {entry : Location × Node} :
    fileIn? dir entry = some name ↔ ∃ content, entry = (dir ++ [name], .file content) := by
  obtain ⟨there, node⟩ := entry
  rw [fileIn?]
  constructor
  · intro isFile
    split at isFile
    · rename_i inside
      cases node with
      | directory => cases inside.2
      | file content =>
          exact ⟨content, Prod.ext (by rw [← inside.1, List.dropLast_append_getLast? name isFile])
            rfl⟩
    · cases isFile
  · rintro ⟨content, same⟩
    cases same
    rw [if_pos ⟨List.dropLast_concat, rfl⟩, List.getLast?_concat]

theorem mem_fileNames : name ∈ volume.fileNames dir ↔
    ∃ content, (dir ++ [name], .file content) ∈ volume.entries := by
  rw [fileNames, List.mem_mergeSort, List.mem_filterMap]
  simp only [fileIn?_eq_some]
  exact ⟨fun ⟨_, member, content, same⟩ => ⟨content, same ▸ member⟩,
    fun ⟨content, member⟩ => ⟨_, member, content, rfl⟩⟩

theorem mem_fileNames_iff (unique : volume.Unique) :
    name ∈ volume.fileNames dir ↔ volume.hasFile dir name = true := by
  rw [mem_fileNames, hasFile, isSome_fileAt?]
  have nonempty : dir ++ [name] ≠ [] := by simp
  exact exists_congr fun content => ⟨at?_of_mem unique nonempty, mem_of_at? nonempty⟩

theorem nodup_fileNames (unique : volume.Unique) : (volume.fileNames dir).Nodup := by
  have named : (volume.entries.filterMap (fileIn? dir)).Nodup := by
    refine List.Pairwise.filterMap (fileIn? dir) ?_ (List.pairwise_map.1 unique)
    rintro entry later apart first isFirst second isSecond rfl
    obtain ⟨_, rfl⟩ := fileIn?_eq_some.1 isFirst
    obtain ⟨_, rfl⟩ := fileIn?_eq_some.1 isSecond
    exact apart rfl
  exact (List.mergeSort_perm _ _).nodup_iff.2 named

theorem sorted_fileNames (volume : Volume) (dir : Location) :
    (volume.fileNames dir).Pairwise (· ≤ ·) := by
  have sorted : (volume.fileNames dir).Pairwise fun left right => decide (left ≤ right) := by
    apply List.pairwise_mergeSort
    · intro first second third before after
      exact decide_eq_true
        (String.le_trans (of_decide_eq_true before) (of_decide_eq_true after))
    · intro left right
      rw [Bool.or_eq_true, decide_eq_true_iff, decide_eq_true_iff]
      exact String.le_total left right
  exact sorted.imp of_decide_eq_true

/-- The files that are there of those in another directory are listed in the same order. -/
theorem fileNames_filter (unique : volume.Unique) (unique' : other.Unique) {dir' : Location}
    {keeps : String → Bool}
    (same : ∀ name, volume.hasFile dir name = (other.hasFile dir' name && keeps name)) :
    volume.fileNames dir = (other.fileNames dir').filter keeps := by
  refine List.Perm.eq_of_pairwise ?_ (sorted_fileNames _ _) ((sorted_fileNames _ _).filter _) ?_
  · intro left right _ _ before after
    exact String.le_antisymm before after
  · refine (List.perm_ext_iff_of_nodup (nodup_fileNames unique)
      ((nodup_fileNames unique').filter _)).2 ?_
    intro name
    rw [List.mem_filter, mem_fileNames_iff unique, mem_fileNames_iff unique', same,
      Bool.and_eq_true]

/-- Names are listed in one order, whatever the order of the entries. -/
theorem fileNames_congr (unique : volume.Unique) (unique' : other.Unique) {dir' : Location}
    (same : ∀ name, volume.hasFile dir name = other.hasFile dir' name) :
    volume.fileNames dir = other.fileNames dir' := by
  have kept : ∀ name, volume.hasFile dir name = (other.hasFile dir' name && true) := by
    simpa using same
  rw [fileNames_filter unique unique' kept, List.filter_true]

/-- No file stands below a file. -/
theorem IsTree.fileNames_of_file (tree : volume.IsTree) {content : Content}
    (stands : volume.at? dir = some (.file content)) : volume.fileNames dir = [] := by
  refine List.eq_nil_iff_forall_not_mem.2 fun name member => ?_
  obtain ⟨_, isEntry⟩ := mem_fileNames.1 member
  have above := tree.parents _ isEntry
  rw [List.dropLast_concat, isDirectory_iff, stands] at above
  cases above

theorem IsTree.properName (tree : volume.IsTree) (member : name ∈ volume.fileNames dir) :
    ProperName name := by
  obtain ⟨_, isEntry⟩ := mem_fileNames.1 member
  exact tree.names _ isEntry name (List.mem_append_right _ List.mem_cons_self)

theorem filesIn_eq_ok {path : Path} {names : List String} (tree : volume.IsTree)
    (listed : volume.filesIn path = .ok names) :
    names = volume.fileNames (path.location volume.workDir) := by
  obtain ⟨⟨there, node⟩, found, told⟩ := of_bind_eq_ok listed
  obtain ⟨rfl, stands⟩ := lookup_eq_ok found
  cases node with
  | directory =>
      cases told
      rfl
  | file content =>
      cases told
      exact (tree.fileNames_of_file stands).symm

theorem contentAt_eq_ok {path : Path} {content : Content}
    (isRead : volume.contentAt path = .ok content) :
    volume.fileAt? (path.location volume.workDir) = some content := by
  obtain ⟨⟨there, node⟩, found, told⟩ := of_bind_eq_ok isRead
  obtain ⟨rfl, stands⟩ := lookup_eq_ok found
  cases node with
  | directory => cases told
  | file known =>
      cases told
      rw [fileAt?, stands]

theorem textAt_eq_ok {path : Path} {text : String} (isRead : volume.textAt path = .ok text) :
    volume.fileAt? (path.location volume.workDir) = some (.text text) := by
  obtain ⟨content, isContent, told⟩ := of_bind_eq_ok isRead
  cases content with
  | text known =>
      cases told
      exact contentAt_eq_ok isContent
  | binary bytes => cases told

theorem IsTree.properName_of_at? (tree : volume.IsTree)
    (stands : volume.at? (dir ++ [name]) = some node) : ProperName name :=
  tree.names _ (mem_of_at? (by simp) stands) name (List.mem_append_right _ List.mem_cons_self)

end Volume

open Volume

namespace Disk

variable {volume final : Volume} {dir : Path} {paths : List Path}

theorem files_eq_ok (tree : volume.IsTree) (listed : files dir volume = .ok paths final) :
    volume = final ∧ dir.text ≠ "" ∧
      paths = (volume.fileNames (dir.location volume.workDir)).map dir.join := by
  obtain ⟨names, between, asked, told⟩ := bind_eq_ok.1 listed
  obtain ⟨answered, rfl⟩ := ask_eq_ok.1 asked
  obtain ⟨rfl, rfl⟩ := pure_eq_ok.1 told
  obtain ⟨_, found, -⟩ := of_bind_eq_ok answered
  exact ⟨rfl, text_ne_of_lookup found, by rw [filesIn_eq_ok tree answered]⟩

theorem files_of_holds (tree : volume.IsTree) (holds : volume.holds dir = true) :
    files dir volume =
      .ok ((volume.fileNames (dir.location volume.workDir)).map dir.join) volume := by
  cases found : volume.lookup dir with
  | error fault =>
      rw [Volume.holds, found] at holds
      cases holds
  | ok entry =>
      obtain ⟨location, node⟩ := entry
      obtain ⟨rfl, stands⟩ := lookup_eq_ok found
      have listed : volume.filesIn dir =
          .ok (volume.fileNames (dir.location volume.workDir)) := by
        rw [filesIn, found]
        cases node with
        | directory => rfl
        | file content =>
            rw [tree.fileNames_of_file stands]
            rfl
      exact bind_eq_ok.2 ⟨_, volume, ask_eq_ok.2 ⟨listed, rfl⟩, rfl⟩

/-- Files whose entries stand in the order of their names are listed like that. -/
theorem files_of_sorted (tree : volume.IsTree) (holds : volume.holds dir = true)
    {names : List String}
    (entries : volume.entries.filterMap (fileIn? (dir.location volume.workDir)) = names)
    (sorted : names.Pairwise fun left right => decide (left ≤ right)) :
    files dir volume = .ok (names.map dir.join) volume := by
  rw [files_of_holds tree holds, fileNames, entries, List.mergeSort_of_pairwise sorted]

variable {base : Path} {name text : String}

/-- A text that was written stands under a proper name. -/
theorem writeText_eq_ok (tree : volume.IsTree) (nonempty : base.text ≠ "")
    (slash : '/' ∉ name.toList) (written : writeText (base.join name) text volume = .ok () final) :
    final = volume.put (base.location volume.workDir ++ [name]) (.file (.text text)) ∧
      ProperName name ∧ final.IsTree := by
  obtain ⟨-, rfl, spares⟩ := writeFile_join_eq_ok tree nonempty slash (change_eq_ok.1 written)
  exact ⟨rfl, spares.tree.properName_of_at? (at?_put_self (by simp)), spares.tree⟩

theorem remove_eq_ok (nonempty : base.text ≠ "") (proper : ProperName name)
    (removed : remove (base.join name) volume = .ok () final) :
    final = volume.erase (base.location volume.workDir ++ [name]) := by
  obtain ⟨⟨there, node⟩, found, erased⟩ := of_bind_eq_ok (change_eq_ok.1 removed)
  obtain ⟨rfl, -⟩ := lookup_eq_ok found
  cases node with
  | directory => cases erased
  | file content =>
      cases erased
      rw [Path.location_join _ nonempty proper.slash, proper.follow]

/-- A copy has the content of what was copied, unless that is the copy itself. -/
theorem copy_eq_ok (tree : volume.IsTree) {source : Path} (nonempty : base.text ≠ "")
    (slash : '/' ∉ name.toList) (copied : copy source (base.join name) volume = .ok () final) :
    ∃ content,
      final.at? (base.location volume.workDir ++ [name]) = some (.file content) ∧
      (source.location volume.workDir ≠ base.location volume.workDir ++ [name] →
        volume.fileAt? (source.location volume.workDir) = some content) ∧
      ∀ location, location ≠ base.location volume.workDir ++ [name] →
        final.at? location = volume.at? location := by
  obtain ⟨⟨location, node⟩, found, copied⟩ := of_bind_eq_ok (change_eq_ok.1 copied)
  cases node with
  | directory => cases copied
  | file known =>
      obtain ⟨emptied, first, copied⟩ := of_bind_eq_ok copied
      obtain ⟨content, filled, second⟩ := of_bind_eq_ok copied
      obtain ⟨-, rfl, spares⟩ := writeFile_join_eq_ok tree nonempty slash first
      obtain ⟨-, rfl, -⟩ := writeFile_join_eq_ok spares.tree nonempty slash second
      rw [spares.workDir]
      refine ⟨content, at?_put_self (by simp), fun apart => ?_, fun location other => ?_⟩
      · have isContent := contentAt_eq_ok filled
        rw [spares.workDir] at isContent
        rw [← isContent]
        exact (spares.files _ apart).symm
      · rw [at?_put_other other, at?_put_other other]

end Disk

namespace Source

variable {volume final : Volume} {dir : Path} {paths : List Path}

/-- The names of the source files directly in a directory. -/
def names (volume : Volume) (dir : Path) : List String :=
  (volume.fileNames (dir.location volume.workDir)).filter fun name =>
    (dir.join name).extension? == some extension

theorem list_eq_ok (tree : volume.IsTree) (listed : list dir volume = .ok paths final) :
    volume = final ∧ dir.text ≠ "" ∧ paths = (names volume dir).map dir.join := by
  obtain ⟨files, between, isFiles, told⟩ := Disk.bind_eq_ok.1 listed
  obtain ⟨rfl, nonempty, rfl⟩ := Disk.files_eq_ok tree isFiles
  obtain ⟨rfl, rfl⟩ := Disk.pure_eq_ok.1 told
  exact ⟨rfl, nonempty, List.filter_map⟩

theorem list_of_holds (tree : volume.IsTree) (holds : volume.holds dir = true) :
    list dir volume = .ok ((names volume dir).map dir.join) volume := by
  refine Disk.bind_eq_ok.2 ⟨_, volume, Disk.files_of_holds tree holds, Disk.pure_eq_ok.2 ⟨?_, rfl⟩⟩
  exact List.filter_map

theorem properName_of_mem (tree : volume.IsTree) {name : String}
    (member : name ∈ names volume dir) : ProperName name :=
  tree.properName (List.mem_of_mem_filter member)

theorem nodup_names (unique : volume.Unique) : (names volume dir).Nodup :=
  (nodup_fileNames unique).filter _

end Source

end GoMend
