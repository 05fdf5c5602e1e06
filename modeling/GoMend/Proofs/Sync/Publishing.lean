import Mathlib.Data.List.Forall2
import GoMend.Proofs.Sync.Frame
import GoMend.Proofs.Volume.Listing

/-!
# Publishing the files of a directory

Files are renamed in place while an earlier listing of them is worked through.  If the two marks
at the front of names cannot be confused, no file is published over one that is still to be read or
over another published one, so none of them is lost.
-/

namespace GoMend

open Disk Volume

namespace Disk

variable {α β : Type} {action : α → Disk β} {parts : List α} {volume final : Volume}

/-- A fault over a list comes from one of its parts, and those before it succeeded. -/
theorem mapM_eq_error {fault : Fault} (fails : parts.mapM action volume = .error fault final) :
    ∃ before part after results between, parts = before ++ part :: after ∧
      before.mapM action volume = .ok results between ∧
        action part between = .error fault final := by
  induction parts generalizing volume with
  | nil => cases fails
  | cons part rest ih =>
      rw [List.mapM_cons] at fails
      cases first : action part volume with
      | error known between =>
          rw [bind_of_error first] at fails
          cases fails
          exact ⟨[], part, rest, [], volume, rfl, rfl, first⟩
      | ok result between =>
          rw [bind_of_ok first] at fails
          cases others : rest.mapM action between with
          | ok results after =>
              rw [bind_of_ok others] at fails
              cases fails
          | error known after =>
              rw [bind_of_error others] at fails
              cases fails
              obtain ⟨before, part', behind, results, reached, rfl, went, failed⟩ := ih others
              refine ⟨part :: before, part', behind, result :: results, reached, rfl, ?_, failed⟩
              rw [List.mapM_cons, bind_of_ok first, bind_of_ok went]
              rfl

end Disk

/-- What a part leads to is no other name of the directory. -/
theorem Location.follow_ne {location : Location} {part name : String} (apart : part ≠ name) :
    location.follow part ≠ location ++ [name] := by
  intro same
  have longer := congrArg List.length same
  rw [List.length_append, List.length_singleton] at longer
  rw [follow] at same longer
  split at same
  · rename_i idle
    rw [if_pos idle] at longer
    omega
  · rename_i moves
    rw [if_neg moves] at longer
    split at same
    · rename_i up
      rw [if_pos up, List.length_dropLast] at longer
      omega
    · exact apart (List.singleton_inj.1 (List.append_right_inj _ |>.1 same))

namespace Pipeline

variable {pipeline : Pipeline} {dir path : Path} {name other : String} {names : List String}
  {volume final : Volume} {record : Option Record} {moved : Source}

/-! ## One file -/

/-- Open the file at a path and move it into the package, without writing anything. -/
def move (pipeline : Pipeline) (path : Path) : Disk (Option Record × Source) := do
  let source ← Source.load path
  let (result, moved) := pipeline.transform source
  return (← Disk.ofExcept result, moved)

theorem publish_eq (path : Path) :
    pipeline.publish path = pipeline.move path >>= fun edited => do
      edited.2.saveTo (pipeline.publishedPath path)
      if (pipeline.publishedPath path).same path then
        return edited.1
      else
        Disk.remove path
        return edited.1 := by
  rw [publish, move, bind_assoc]
  refine congrArg (Source.load path >>= ·) (funext fun source => ?_)
  dsimp only
  rw [bind_assoc]
  rfl

/-- The file at a path of a volume holds a source that is moved with this record into this
form. -/
structure Moves (pipeline : Pipeline) (volume : Volume) (path : Path) (record : Option Record)
    (moved : Source) : Prop where
  transformed : ∃ text source, volume.fileAt? (path.location volume.workDir) = some (.text text) ∧
    Source.parse path text = .ok source ∧ pipeline.transform source = (.ok record, moved)

theorem move_eq_ok (ends : pipeline.move path volume = .ok (record, moved) final) :
    volume = final ∧ pipeline.Moves volume path record moved := by
  obtain ⟨source, between, loaded, ends⟩ := bind_eq_ok.1 ends
  obtain ⟨⟨text, isText, parsed⟩, rfl⟩ := Source.load_eq_ok.1 loaded
  obtain ⟨result, between, isOk, told⟩ := bind_eq_ok.1 ends
  obtain ⟨transformed, rfl⟩ := ofExcept_eq_ok.1 isOk
  obtain ⟨same, rfl⟩ := pure_eq_ok.1 told
  cases same
  exact ⟨rfl, text, source, textAt_eq_ok isText, parsed, Prod.ext transformed rfl⟩

/-- What is recorded was told by moving the source of a file. -/
theorem exists_moves_of_publishAll {records : List Record} {record : Record}
    (ends : pipeline.publishAll dir volume = .ok records final) (member : record ∈ records) :
    ∃ before path moved, pipeline.Moves before path (some record) moved := by
  obtain ⟨paths, _, -, ends⟩ := bind_eq_ok.1 ends
  obtain ⟨outcomes, _, each, told⟩ := bind_eq_ok.1 ends
  obtain ⟨rfl, -⟩ := pure_eq_ok.1 told
  obtain ⟨_, isOutcome, rfl⟩ := List.mem_filterMap.1 member
  obtain ⟨path, before, after, published⟩ := exists_step_of_mapM each isOutcome
  rw [publish_eq] at published
  obtain ⟨⟨outcome, moved⟩, _, isMoved, published⟩ := bind_eq_ok.1 published
  obtain ⟨-, moves⟩ := move_eq_ok isMoved
  obtain ⟨_, _, -, told⟩ := bind_eq_ok.1 published
  have same : outcome = some record := by
    dsimp only at told
    split at told
    · exact (pure_eq_ok.1 told).1
    · obtain ⟨_, _, -, told⟩ := bind_eq_ok.1 told
      exact (pure_eq_ok.1 told).1
  exact ⟨before, path, moved, same ▸ moves⟩

/-- What cannot be opened or moved is left as it is. -/
theorem move_eq_error {fault : Fault} (fails : pipeline.move path volume = .error fault final) :
    final = volume := by
  rcases bind_eq_error.1 fails with unread | ⟨source, between, loaded, fails⟩
  · exact Source.load_eq_error unread
  · obtain ⟨-, rfl⟩ := Source.load_eq_ok.1 loaded
    rcases bind_eq_error.1 fails with unmoved | ⟨record, between, isOk, told⟩
    · exact ofExcept_eq_error unmoved
    · cases told

theorem location_publishedPath (nonempty : dir.text ≠ "") (proper : ProperName name)
    (published : '/' ∉ pipeline.published.toList) (workDir : Location) :
    (pipeline.publishedPath (dir.join name)).location workDir =
      (dir.location workDir).follow (pipeline.publishedName name) := by
  obtain ⟨parent, beside, target⟩ := publishedPath_join nonempty proper
  rw [target, Path.location_join _ beside.nonempty (slash_publishedName published proper.slash),
    beside.location]

/-- A file that is published under another name stands there, edited, and no longer under its
own. -/
theorem publish_eq_ok (tree : volume.IsTree) (nonempty : dir.text ≠ "") (proper : ProperName name)
    (published : '/' ∉ pipeline.published.toList) (renamed : pipeline.publishedName name ≠ name)
    (ends : pipeline.publish (dir.join name) volume = .ok record final) :
    ProperName (pipeline.publishedName name) ∧ ∃ moved,
      pipeline.Moves volume (dir.join name) record moved ∧
      final = (volume.put (dir.location volume.workDir ++ [pipeline.publishedName name])
        (.file (.text moved.render))).erase (dir.location volume.workDir ++ [name]) := by
  obtain ⟨parent, beside, target⟩ := publishedPath_join nonempty proper
  rw [publish_eq] at ends
  obtain ⟨⟨told, moved⟩, between, isMoved, ends⟩ := bind_eq_ok.1 ends
  obtain ⟨rfl, moves⟩ := move_eq_ok isMoved
  obtain ⟨_, written, saved, ends⟩ := bind_eq_ok.1 ends
  rw [target, Source.saveTo] at saved
  obtain ⟨rfl, properNew, -⟩ := writeText_eq_ok tree beside.nonempty
    (slash_publishedName published proper.slash) saved
  rw [beside.location] at ends
  have apart : (pipeline.publishedPath (dir.join name)).same (dir.join name) = false := by
    rw [target, Path.same, beq_eq_false_iff_ne]
    intro same
    have last := Path.join_getLast?_components beside.nonempty properNew
    rw [same, Path.join_getLast?_components nonempty proper] at last
    exact renamed (PathComponent.named.inj (Option.some.inj last)).symm
  rw [apart, if_neg Bool.false_ne_true] at ends
  obtain ⟨_, erased, removed, ends⟩ := bind_eq_ok.1 ends
  obtain ⟨rfl, rfl⟩ := pure_eq_ok.1 ends
  refine ⟨properNew, moved, moves, ?_⟩
  rw [remove_eq_ok nonempty proper removed, workDir_put]

/-! ## All files -/

/-- Files of these names can be published one after the other: none of them comes to stand where
another one stands or was published. -/
structure Separates (pipeline : Pipeline) (names : List String) : Prop where
  distinct : names.Nodup
  fresh : ∀ name ∈ names, ∀ other ∈ names, pipeline.publishedName other ≠ name
  injective : ∀ name ∈ names, ∀ other ∈ names,
    pipeline.publishedName name = pipeline.publishedName other → name = other

theorem Separates.sublist {fewer : List String} (separates : pipeline.Separates names)
    (among : fewer.Sublist names) : pipeline.Separates fewer :=
  ⟨separates.distinct.sublist among,
    fun name member other inside => separates.fresh name (among.subset member) other
      (among.subset inside),
    fun name member other inside => separates.injective name (among.subset member) other
      (among.subset inside)⟩

theorem publishedName_staged (nonempty : pipeline.staging.isEmpty = false) {rest : List Char}
    (staged : pipeline.staging.toList ++ rest = name.toList) :
    pipeline.publishedName name = pipeline.published ++ String.ofList rest := by
  rw [publishedName, publishedName?, nonempty, if_neg Bool.false_ne_true,
    List.isPrefixOf?_eq_some_iff_append_eq.2 staged, Option.map_some, Option.getD_some]

/-- Marks that cannot be confused keep the files apart. -/
theorem separates_of_staged (distinct : names.Nodup)
    (ahead : ¬pipeline.staging.toList <+: pipeline.published.toList)
    (behind : ¬pipeline.published.toList <+: pipeline.staging.toList)
    (staged : ∀ name ∈ names, pipeline.staging.toList <+: name.toList) :
    pipeline.Separates names := by
  have nonempty : pipeline.staging.isEmpty = false := by
    rw [Bool.eq_false_iff]
    intro empty
    rw [String.isEmpty_iff] at empty
    exact ahead (by rw [empty]; exact List.nil_prefix)
  refine ⟨distinct, fun name member other inside same => ?_, fun name member other inside same => ?_⟩
  · obtain ⟨rest, isRest⟩ := staged other inside
    rw [publishedName_staged nonempty isRest] at same
    -- a published name begins with the published mark, so it does not begin with the other one
    have marked : pipeline.published.toList <+: name.toList := by
      rw [← same, String.toList_append]
      exact List.prefix_append _ _
    exact (List.prefix_or_prefix_of_prefix marked (staged name member)).elim behind ahead
  · obtain ⟨rest, isRest⟩ := staged name member
    obtain ⟨others, isOthers⟩ := staged other inside
    rw [publishedName_staged nonempty isRest, publishedName_staged nonempty isOthers] at same
    have tails := congrArg String.toList same
    rw [String.toList_append, String.toList_append, List.append_right_inj, String.toList_ofList,
      String.toList_ofList] at tails
    rw [← String.toList_inj, ← isRest, ← isOthers, tails]

/-- What becomes of the files under some names of a directory that are published one after the
other. -/
structure Published (pipeline : Pipeline) (dir : Path) (names : List String) (volume : Volume)
    (records : List (Option Record)) (final : Volume) : Prop where
  moved : List.Forall₂ (fun name record => ProperName (pipeline.publishedName name) ∧ ∃ moved,
    pipeline.Moves volume (dir.join name) record moved ∧
      final.at? (dir.location volume.workDir ++ [pipeline.publishedName name]) =
        some (.file (.text moved.render))) names records
  gone : ∀ name ∈ names, final.at? (dir.location volume.workDir ++ [name]) = none
  others : ∀ location, (∀ name ∈ names, location ≠ dir.location volume.workDir ++ [name] ∧
    location ≠ dir.location volume.workDir ++ [pipeline.publishedName name]) →
      final.at? location = volume.at? location

theorem Moves.congr (moves : pipeline.Moves volume path record moved)
    (works : final.workDir = volume.workDir)
    (same : final.at? (path.location volume.workDir) = volume.at? (path.location volume.workDir)) :
    pipeline.Moves final path record moved := by
  obtain ⟨text, source, isText, rest⟩ := moves.transformed
  refine ⟨text, source, ?_, rest⟩
  rw [works, fileAt?_congr same]
  exact isText

/-- A file that is published before the others is gone from its place when they are, and none of
them touches it where it went. -/
theorem Published.cons (tree : volume.IsTree) (nonempty : dir.text ≠ "")
    (slash : '/' ∉ pipeline.published.toList) (proper : ∀ other ∈ name :: names, ProperName other)
    (separates : pipeline.Separates (name :: names)) {between : Volume} {record : Option Record}
    {records : List (Option Record)}
    (first : pipeline.publish (dir.join name) volume = .ok record between)
    (later : pipeline.Published dir names between records final) :
    pipeline.Published dir (name :: names) volume (record :: records) final := by
  obtain ⟨-, spares⟩ :=
    (stays_publish nonempty slash (proper name List.mem_cons_self)).of_ok tree first
  obtain ⟨properNew, moved, moves, isPut⟩ := publish_eq_ok tree nonempty
    (proper name List.mem_cons_self) slash
    (separates.fresh name List.mem_cons_self name List.mem_cons_self) first
  obtain ⟨movedLater, gone, kept⟩ := later
  rw [spares.workDir] at movedLater gone kept
  have apart : ∀ other ∈ names, other ≠ name := by
    rintro _ member rfl
    exact (List.nodup_cons.1 separates.distinct).1 member
  have beside : ∀ location, location ≠ dir.location volume.workDir ++ [name] →
      location ≠ dir.location volume.workDir ++ [pipeline.publishedName name] →
        between.at? location = volume.at? location := by
    intro location old new
    rw [isPut, at?_erase_other old, at?_put_other new]
  have concat : ∀ {left right : String}, left ≠ right →
      dir.location volume.workDir ++ [left] ≠ dir.location volume.workDir ++ [right] :=
    fun differ same => differ (List.singleton_inj.1 (List.append_right_inj _ |>.1 same))
  refine ⟨.cons ⟨properNew, moved, moves, ?_⟩ ?_, ?_, ?_⟩
  · rw [kept, isPut, at?_erase_other, at?_put_self (by simp)]
    · exact concat (separates.fresh name List.mem_cons_self name List.mem_cons_self)
    · intro other member
      refine ⟨concat (separates.fresh other (List.mem_cons_of_mem _ member) name
        List.mem_cons_self), concat fun same => apart other member ?_⟩
      exact (separates.injective name List.mem_cons_self other
        (List.mem_cons_of_mem _ member) same).symm
  · -- the files that are still to be read are those of the first volume
    refine ((List.forall₂_and_left _ _).2 ⟨fun _ member => member, movedLater⟩).imp ?_
    rintro other record ⟨member, properOther, moved, moves, stands⟩
    refine ⟨properOther, moved, moves.congr spares.workDir.symm ?_, stands⟩
    rw [spares.workDir, Path.location_join _ nonempty
      (proper other (List.mem_cons_of_mem _ member)).slash,
      (proper other (List.mem_cons_of_mem _ member)).follow]
    exact (beside _ (concat (apart other member)) (concat
      (separates.fresh other (List.mem_cons_of_mem _ member) name List.mem_cons_self).symm)).symm
  · intro other member
    rcases List.mem_cons.1 member with rfl | later
    · rw [kept, isPut, at?_erase_self (by simp)]
      intro name member
      exact ⟨concat (apart name member).symm, concat
        (separates.fresh other List.mem_cons_self name (List.mem_cons_of_mem _ member)).symm⟩
    · exact gone other later
  · intro location outside
    obtain ⟨old, new⟩ := outside name List.mem_cons_self
    rw [kept location fun other member => outside other (List.mem_cons_of_mem _ member),
      beside location old new]

theorem publish_each (tree : volume.IsTree) (nonempty : dir.text ≠ "")
    (published : '/' ∉ pipeline.published.toList)
    (proper : ∀ name ∈ names, ProperName name) (separates : pipeline.Separates names)
    {records : List (Option Record)}
    (ends : (names.map dir.join).mapM pipeline.publish volume = .ok records final) :
    pipeline.Published dir names volume records final := by
  induction names generalizing volume records with
  | nil =>
      obtain ⟨rfl, rfl⟩ := pure_eq_ok.1 ends
      exact ⟨.nil, nofun, fun _ _ => rfl⟩
  | cons name rest ih =>
      rw [List.map_cons, List.mapM_cons] at ends
      obtain ⟨record, between, first, ends⟩ := bind_eq_ok.1 ends
      obtain ⟨others, after, later, told⟩ := bind_eq_ok.1 ends
      obtain ⟨rfl, rfl⟩ := pure_eq_ok.1 told
      obtain ⟨-, spares⟩ :=
        (stays_publish nonempty published (proper name List.mem_cons_self)).of_ok tree first
      apply Published.cons tree nonempty published proper separates first
      exact ih spares.tree (List.forall_mem_cons.1 proper).2
        (separates.sublist (List.sublist_cons_self name rest)) later

theorem stays_publishEach {workDir : Location} (nonempty : dir.text ≠ "")
    (published : '/' ∉ pipeline.published.toList) (proper : ∀ name ∈ names, ProperName name) :
    Stays workDir (fun location => ∃ name ∈ names, location = dir.location workDir ++ [name] ∨
        location = dir.location workDir ++ [pipeline.publishedName name]) (fun _ => True)
      ((names.map dir.join).mapM pipeline.publish) := by
  refine Disk.stays_mapM_any fun path member => ?_
  obtain ⟨name, isName, rfl⟩ := List.mem_map.1 member
  exact (stays_publish nonempty published (proper name isName)).mono
    (fun here => ⟨name, isName, here⟩) id

/-- Of a file that cannot be opened or moved, neither the file nor what stands under its published
name has changed since the first file was published. -/
theorem publish_untouched (tree : volume.IsTree) (nonempty : dir.text ≠ "")
    (published : '/' ∉ pipeline.published.toList) {before after : List String}
    (proper : ∀ other ∈ before ++ name :: after, ProperName other)
    (separates : pipeline.Separates (before ++ name :: after))
    {records : List (Option Record)} {between : Volume}
    (went : (before.map dir.join).mapM pipeline.publish volume = .ok records between) {fault : Fault}
    {unchanged : Volume} (failed : pipeline.move (dir.join name) between = .error fault unchanged)
    (fails : pipeline.publish (dir.join name) between = .error fault final) :
    ∀ path ∈ [dir.join name, pipeline.publishedPath (dir.join name)],
      final.fileAt? (path.location volume.workDir) =
        volume.fileAt? (path.location volume.workDir) := by
  have here : name ∈ before ++ name :: after := List.mem_append_right _ List.mem_cons_self
  have isProper := proper name here
  rw [publish_eq, bind_of_error failed] at fails
  cases fails
  cases move_eq_error failed
  obtain ⟨-, spares⟩ := (stays_publishEach nonempty published fun other member =>
    proper other (List.mem_append_left _ member)).of_ok tree went
  have apart : ∀ other ∈ before, other ≠ name := fun other member =>
    (List.nodup_append.1 separates.distinct).2.2 other member name List.mem_cons_self
  intro path member
  refine spares.files _ ?_
  rintro ⟨other, earlier, same⟩
  have there : other ∈ before ++ name :: after := List.mem_append_left _ earlier
  rcases List.mem_cons.1 member with rfl | isTarget
  · rw [Path.location_join _ nonempty isProper.slash] at same
    rcases same with same | same
    · exact Location.follow_ne (apart other earlier).symm same
    · exact Location.follow_ne (separates.fresh name here other there).symm same
  · rw [List.mem_singleton.1 isTarget, location_publishedPath nonempty isProper published] at same
    rcases same with same | same
    · exact Location.follow_ne (separates.fresh other there name here) same
    · refine Location.follow_ne (fun same => ?_) same
      exact apart other earlier (separates.injective name here other there same).symm

/-- What becomes of files that are published, told by their paths. -/
structure Publishes (pipeline : Pipeline) (paths : List Path) (volume : Volume)
    (records : List (Option Record)) (final : Volume) : Prop where
  /-- Each file stands moved where it is published. -/
  moved : List.Forall₂ (fun path record => ∃ moved, pipeline.Moves volume path record moved ∧
    final.at? ((pipeline.publishedPath path).location volume.workDir) =
      some (.file (.text moved.render))) paths records
  /-- Nothing is left where it was read. -/
  gone : ∀ path ∈ paths, final.at? (path.location volume.workDir) = none
  /-- Nothing else has changed. -/
  others : ∀ location, (∀ path ∈ paths, location ≠ path.location volume.workDir ∧
    location ≠ (pipeline.publishedPath path).location volume.workDir) →
      final.at? location = volume.at? location

theorem Published.publishes {records : List (Option Record)} (nonempty : dir.text ≠ "")
    (published : '/' ∉ pipeline.published.toList) (proper : ∀ name ∈ names, ProperName name)
    (holds : pipeline.Published dir names volume records final) :
    pipeline.Publishes (names.map dir.join) volume records final := by
  have located : ∀ name ∈ names,
      (dir.join name).location volume.workDir = dir.location volume.workDir ++ [name] := by
    intro name member
    rw [Path.location_join _ nonempty (proper name member).slash, (proper name member).follow]
  have target : ∀ name ∈ names, ProperName (pipeline.publishedName name) →
      (pipeline.publishedPath (dir.join name)).location volume.workDir =
        dir.location volume.workDir ++ [pipeline.publishedName name] := by
    intro name member properNew
    rw [location_publishedPath nonempty (proper name member) published, properNew.follow]
  have properNew : ∀ name ∈ names, ProperName (pipeline.publishedName name) :=
    ((List.forall₂_and_left _ _).1 holds.moved).1
  refine ⟨?_, ?_, ?_⟩
  · rw [List.forall₂_map_left_iff]
    refine ((List.forall₂_and_left _ _).2 ⟨fun _ member => member, holds.moved⟩).imp ?_
    rintro name record ⟨member, isProper, moved, moves, stands⟩
    exact ⟨moved, moves, target name member isProper ▸ stands⟩
  · intro path member
    obtain ⟨name, isName, rfl⟩ := List.mem_map.1 member
    rw [located name isName]
    exact holds.gone name isName
  · intro location outside
    refine holds.others location fun name member => ?_
    have apart := outside _ (List.mem_map_of_mem member)
    rw [located name member, target name member (properNew name member)] at apart
    exact apart

/-- No file is lost that is published from a directory in which all names begin with the staging
mark: each is found moved under its published name, and a file that cannot be opened or moved stays
as it was, and so does what stands where it would have gone. -/
theorem publishAll_lossless (tree : volume.IsTree) (unique : volume.Unique)
    (published : '/' ∉ pipeline.published.toList)
    (ahead : ¬pipeline.staging.toList <+: pipeline.published.toList)
    (behind : ¬pipeline.published.toList <+: pipeline.staging.toList)
    {paths : List Path} (listed : Source.list dir volume = .ok paths volume)
    (staged : ∀ path ∈ paths, pipeline.staging.toList <+: path.fileName.toList) :
    (∀ records final, pipeline.publishAll dir volume = .ok records final →
      ∃ outcomes, records = outcomes.filterMap id ∧
        pipeline.Publishes paths volume outcomes final) ∧
    ∀ fault final, pipeline.publishAll dir volume = .error fault final →
      ∃ before path after outcomes between, paths = before ++ path :: after ∧
        before.mapM pipeline.publish volume = .ok outcomes between ∧
        pipeline.publish path between = .error fault final ∧
        ((∃ unchanged, pipeline.move path between = .error fault unchanged) →
          ∀ touched ∈ [path, pipeline.publishedPath path],
            final.fileAt? (touched.location volume.workDir) =
              volume.fileAt? (touched.location volume.workDir)) := by
  obtain ⟨-, nonempty, rfl⟩ := Source.list_eq_ok tree listed
  have proper : ∀ name ∈ Source.names volume dir, ProperName name :=
    fun _ => Source.properName_of_mem tree
  have separates : pipeline.Separates (Source.names volume dir) := by
    refine separates_of_staged (Source.nodup_names unique) ahead behind fun name member => ?_
    have begins := staged _ (List.mem_map_of_mem member)
    rw [Path.fileName, Path.fileName?_join nonempty (proper name member)] at begins
    exact begins
  constructor
  · intro records final ends
    rw [publishAll, bind_of_ok listed] at ends
    obtain ⟨outcomes, after, each, told⟩ := bind_eq_ok.1 ends
    obtain ⟨rfl, rfl⟩ := pure_eq_ok.1 told
    exact ⟨outcomes, rfl, (publish_each tree nonempty published proper separates each).publishes
      nonempty published proper⟩
  · intro fault final fails
    rw [publishAll, bind_of_ok listed] at fails
    cases each : ((Source.names volume dir).map dir.join).mapM pipeline.publish volume with
    | ok outcomes after =>
        rw [bind_of_ok each] at fails
        cases fails
    | error known after =>
        rw [bind_of_error each] at fails
        cases fails
        obtain ⟨before, path, after, outcomes, between, split, went, failed⟩ :=
          Disk.mapM_eq_error each
        refine ⟨before, path, after, outcomes, between, split, went, failed, ?_⟩
        rintro ⟨unchanged, unmoved⟩
        obtain ⟨earlier, others, names, rfl, isRest⟩ := List.map_eq_append_iff.1 split
        obtain ⟨name, later, rfl, rfl, rfl⟩ := List.map_eq_cons_iff.1 isRest
        rw [names] at proper separates
        exact publish_untouched tree nonempty published proper separates went unmoved failed

/-- A build directory with two extracted files, one of them with a struct and its constructor. -/
def extractedFiles : Volume where
  workDir := []
  entries :=
    [(["build"], .directory), (["build", "search_x.go"], .file (.text "package q\n")),
      (["build", "search_y.go"],
        .file (.text "package q\ntype F struct{}\nfunc N() *F { return &F{} }\n"))]

/-- Both files are published, in the order of their names, and one of them yields a record. -/
theorem publishAll_lossless_extractedFiles : ∃ pipeline final,
    Pipeline.ofTexts .standard "p" "F" "N" "search_" "aggs_" = .ok pipeline ∧
      pipeline.publishAll ⟨"build"⟩ extractedFiles = .ok [⟨.notInjectable, "N"⟩] final ∧
        ∃ outcomes, [⟨.notInjectable, "N"⟩] = outcomes.filterMap id ∧
          pipeline.Publishes [⟨"build/search_x.go"⟩, ⟨"build/search_y.go"⟩] extractedFiles
            outcomes final := by
  have tree : extractedFiles.IsTree := by decide +kernel
  have unique : extractedFiles.Unique := by decide +kernel
  have listed : Source.list ⟨"build"⟩ extractedFiles =
      .ok [⟨"build/search_x.go"⟩, ⟨"build/search_y.go"⟩] extractedFiles := by
    have names : files ⟨"build"⟩ extractedFiles =
        .ok (["search_x.go", "search_y.go"].map (Path.join ⟨"build"⟩)) extractedFiles :=
      files_of_sorted tree (by decide +kernel) (by decide +kernel) (by decide +kernel)
    exact bind_eq_ok.2 ⟨_, _, names, pure_eq_ok.2 ⟨by decide +kernel, rfl⟩⟩
  have ends : (Pipeline.ofTexts .standard "p" "F" "N" "search_" "aggs_").toOption.any
      (fun pipeline =>
        succeeds ([⟨"build/search_x.go"⟩, ⟨"build/search_y.go"⟩].mapM pipeline.publish)
          extractedFiles (fun outcomes _ => outcomes = [none, some ⟨.notInjectable, "N"⟩]) &&
        (pipeline.staging == "search_" && pipeline.published == "aggs_")) = true := by
    decide +kernel
  obtain ⟨pipeline, read, ends⟩ := exists_of_any ends
  simp only [Bool.and_eq_true, beq_iff_eq] at ends
  obtain ⟨checked, staging, published⟩ := ends
  obtain ⟨outcomes, final, each, told⟩ := exists_ok checked
  obtain rfl := of_decide_eq_true told
  have publishing : pipeline.publishAll ⟨"build"⟩ extractedFiles =
      .ok [⟨.notInjectable, "N"⟩] final := by
    rw [publishAll, bind_of_ok listed, bind_of_ok each]
    rfl
  have slash : '/' ∉ pipeline.published.toList := published ▸ by decide
  have ahead : ¬pipeline.staging.toList <+: pipeline.published.toList :=
    staging ▸ published ▸ by decide
  have behind : ¬pipeline.published.toList <+: pipeline.staging.toList :=
    staging ▸ published ▸ by decide
  have staged : ∀ path ∈ [(⟨"build/search_x.go"⟩ : Path), ⟨"build/search_y.go"⟩],
      pipeline.staging.toList <+: path.fileName.toList := staging ▸ by decide
  obtain ⟨ends, -⟩ := publishAll_lossless tree unique slash ahead behind listed staged
  obtain ⟨outcomes, told, publishes⟩ := ends _ final publishing
  exact ⟨pipeline, final, read, publishing, outcomes, told, publishes⟩

end Pipeline

end GoMend
