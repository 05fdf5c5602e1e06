import GoMend.Volume.Disk
import Mathlib.Data.List.Forall2

/-!
# How actions end

An action that succeeds took each of its steps with success, from one volume to the next.  What
only asks leaves the volume as it is, and what changes the volume does so by the step it is given.
An action that stops does so with a fault of one of its steps, and what asks or changes a volume
stops with nothing but a refusal of the volume.
-/

namespace GoMend

namespace Disk

variable {α β : Type} {volume final : Volume}

/-- Whether an action succeeds, with a look at what it ends in. -/
def succeeds (action : Disk α) (volume : Volume) (look : α → Volume → Bool) : Bool :=
  match action volume with
  | .ok value final => look value final
  | .error _ _ => false

theorem exists_ok {action : Disk α} {look : α → Volume → Bool}
    (checked : succeeds action volume look = true) :
    ∃ value final, action volume = .ok value final ∧ look value final = true := by
  rw [succeeds] at checked
  cases ends : action volume with
  | ok value final =>
      rw [ends] at checked
      exact ⟨value, final, rfl, checked⟩
  | error fault final =>
      rw [ends] at checked
      cases checked

/-- What is seen of an outcome is so of its value. -/
theorem exists_of_any {ε : Type} {outcome : Except ε α} {look : α → Bool}
    (checked : outcome.toOption.any look = true) :
    ∃ value, outcome = .ok value ∧ look value = true := by
  cases outcome with
  | error fault => cases checked
  | ok value => exact ⟨value, rfl, checked⟩

/-- Whether an action stops with a fault. -/
def stops (action : Disk α) (volume : Volume) : Bool :=
  match action volume with
  | .ok _ _ => false
  | .error _ _ => true

theorem exists_error {action : Disk α} (checked : stops action volume = true) :
    ∃ fault final, action volume = .error fault final := by
  rw [stops] at checked
  cases ends : action volume with
  | ok value final =>
      rw [ends] at checked
      cases checked
  | error fault final => exact ⟨fault, final, rfl⟩

theorem bind_eq_ok {action : Disk α} {next : α → Disk β} {result : β} :
    (action >>= next) volume = .ok result final ↔
      ∃ value between, action volume = .ok value between ∧
        next value between = .ok result final := by
  simp only [bind, EStateM.bind]
  cases action volume with
  | ok value between =>
      constructor
      · intro ends
        exact ⟨value, between, rfl, ends⟩
      · rintro ⟨_, _, same, ends⟩
        cases same
        exact ends
  | error fault between => simp

/-- An action goes on from where its first step ended. -/
theorem bind_of_ok {action : Disk α} {next : α → Disk β} {value : α} {between : Volume}
    (ends : action volume = .ok value between) :
    (action >>= next) volume = next value between := by
  simp only [bind, EStateM.bind, ends]

/-- A fault of the first step is one of the whole action. -/
theorem bind_of_error {action : Disk α} {next : α → Disk β} {fault : Fault}
    (fails : action volume = .error fault final) :
    (action >>= next) volume = .error fault final := by
  simp only [bind, EStateM.bind, fails]

/-- A fault of an action is one of its steps. -/
theorem bind_eq_error {action : Disk α} {next : α → Disk β} {fault : Fault} :
    (action >>= next) volume = .error fault final ↔
      action volume = .error fault final ∨ ∃ value between, action volume = .ok value between ∧
        next value between = .error fault final := by
  cases ends : action volume with
  | error known between => simp [bind_of_error ends]
  | ok value between =>
      rw [bind_of_ok ends]
      constructor
      · intro fails
        exact .inr ⟨value, between, rfl, fails⟩
      · rintro (first | ⟨_, _, same, fails⟩)
        · cases first
        · cases same
          exact fails

theorem pure_eq_ok {value result : α} :
    (pure value : Disk α) volume = .ok result final ↔ value = result ∧ volume = final := by
  simp [pure, EStateM.pure]

theorem ofExcept_eq_ok {outcome : Except Fault α} {result : α} :
    ofExcept outcome volume = .ok result final ↔ outcome = .ok result ∧ volume = final := by
  cases outcome with
  | ok value => simp [ofExcept, pure_eq_ok]
  | error fault => exact ⟨nofun, fun ⟨known, _⟩ => nomatch known⟩

theorem ofExcept_eq_error {outcome : Except Fault α} {fault : Fault}
    (fails : ofExcept outcome volume = .error fault final) : final = volume := by
  cases outcome <;> cases fails
  rfl

theorem get_eq (volume : Volume) : (get : Disk Volume) volume = .ok volume volume :=
  rfl

theorem ask_eq_ok {action : FileAction} {path : Path} {question : Volume → Except FileFault α}
    {answer : α} :
    ask action path question volume = .ok answer final ↔
      question volume = .ok answer ∧ volume = final := by
  rw [ask, bind_of_ok (get_eq volume)]
  cases question volume with
  | ok known => simp [pure_eq_ok]
  | error fault =>
      constructor
      · rintro ⟨⟩
      · rintro ⟨⟨⟩, -⟩

/-- A question that is refused leaves the volume as it is. -/
theorem ask_of_error {action : FileAction} {path : Path} {question : Volume → Except FileFault α}
    {fault : FileFault} (refused : question volume = .error fault) :
    ask action path question volume = .error (.fileSystem action path fault) volume := by
  rw [ask, bind_of_ok (get_eq volume), refused]
  rfl

theorem ask_eq_error {action : FileAction} {path : Path} {question : Volume → Except FileFault α}
    {fault : Fault} (fails : ask action path question volume = .error fault final) :
    final = volume := by
  cases answered : question volume with
  | ok answer =>
      rw [ask_eq_ok.2 ⟨answered, rfl⟩] at fails
      cases fails
  | error refusal =>
      rw [ask_of_error answered] at fails
      cases fails
      rfl

theorem change_eq_ok {action : FileAction} {path : Path}
    {step : Volume → Except FileFault Volume} :
    change action path step volume = .ok () final ↔ step volume = .ok final := by
  constructor
  · intro changed
    obtain ⟨stepped, between, asked, told⟩ := bind_eq_ok.1 changed
    obtain ⟨answered, rfl⟩ := ask_eq_ok.1 asked
    cases told
    exact answered
  · intro stepped
    exact bind_eq_ok.2 ⟨final, volume, ask_eq_ok.2 ⟨stepped, rfl⟩, rfl⟩

/-- What several steps result in are the results of the steps. -/
theorem exists_step_of_mapM {step : α → Disk β} {parts : List α} {results : List β} {result : β}
    (ends : parts.mapM step volume = .ok results final) (member : result ∈ results) :
    ∃ part before after, step part before = .ok result after := by
  induction parts generalizing volume results with
  | nil =>
      obtain ⟨rfl, -⟩ := pure_eq_ok.1 ends
      cases member
  | cons part rest ih =>
      rw [List.mapM_cons] at ends
      obtain ⟨first, between, one, ends⟩ := bind_eq_ok.1 ends
      obtain ⟨others, after, more, told⟩ := bind_eq_ok.1 ends
      obtain ⟨rfl, rfl⟩ := pure_eq_ok.1 told
      rcases List.mem_cons.1 member with rfl | later
      · exact ⟨part, volume, between, one⟩
      · exact ih more later

/-- The action leaves the volume as it is. -/
def Looks (action : Disk α) : Prop :=
  ∀ ⦃volume result final⦄, action volume = .ok result final → final = volume

namespace Looks

theorem pure (value : α) : Looks (pure value) := by
  intro volume result final ends
  exact (pure_eq_ok.1 ends).2.symm

theorem bind {action : Disk α} {next : α → Disk β} (looks : Looks action)
    (nextLooks : ∀ value, Looks (next value)) : Looks (action >>= next) := by
  intro volume result final ends
  obtain ⟨value, between, first, second⟩ := bind_eq_ok.1 ends
  rw [nextLooks value second, looks first]

theorem ofExcept (outcome : Except Fault α) : Looks (ofExcept outcome) := by
  intro volume result final ends
  exact (ofExcept_eq_ok.1 ends).2.symm

theorem ask {action : FileAction} {path : Path} {question : Volume → Except FileFault α} :
    Looks (ask action path question) := by
  intro volume result final ends
  exact (ask_eq_ok.1 ends).2.symm

theorem mapM {action : α → Disk β} (looks : ∀ part, Looks (action part)) (parts : List α) :
    Looks (parts.mapM action) := by
  induction parts with
  | nil => exact Looks.pure []
  | cons part rest ih =>
      rw [List.mapM_cons]
      exact (looks part).bind fun _ => ih.bind fun _ => Looks.pure _

end Looks

/-! ## The faults that an action stops with -/

section

variable {allowed wider : Fault → Prop} {action : Disk α}

/-- On whatever volume the action stops, it stops with one of the allowed faults. -/
def Raises (allowed : Fault → Prop) (action : Disk α) : Prop :=
  ∀ volume fault final, action volume = .error fault final → allowed fault

namespace Raises

theorem mono (raises : Raises allowed action) (within : ∀ fault, allowed fault → wider fault) :
    Raises wider action := by
  intro volume fault final fails
  exact within fault (raises volume fault final fails)

theorem pure (value : α) : Raises allowed (pure value) := by
  intro volume fault final fails
  cases fails

theorem throw {fault : Fault} (allows : allowed fault) :
    Raises allowed (throw fault : Disk α) := by
  intro volume raised final fails
  cases fails
  exact allows

theorem bind {next : α → Disk β} (first : Raises allowed action)
    (further : ∀ value, Raises allowed (next value)) : Raises allowed (action >>= next) := by
  intro volume fault final fails
  cases bind_eq_error.1 fails with
  | inl fails => exact first volume fault final fails
  | inr later =>
      obtain ⟨value, between, -, fails⟩ := later
      exact further value between fault final fails

/-- Looking at the whole volume raises nothing. -/
theorem get_bind {next : Volume → Disk β} (further : ∀ volume, Raises allowed (next volume)) :
    Raises allowed (get >>= next) := by
  intro volume fault final fails
  rw [bind_of_ok (get_eq volume)] at fails
  exact further volume volume fault final fails

theorem ofExcept {outcome : Except Fault α}
    (allows : ∀ fault, outcome = .error fault → allowed fault) :
    Raises allowed (ofExcept outcome) := by
  intro volume fault final fails
  cases outcome with
  | ok value => cases fails
  | error known =>
      cases fails
      exact allows fault rfl

/-- A computation that has a value raises nothing. -/
theorem ofExcept_bind {outcome : Except Fault α} {value : α} {next : α → Disk β}
    (isOk : outcome = .ok value) (further : Raises allowed (next value)) :
    Raises allowed (Disk.ofExcept outcome >>= next) := by
  intro volume fault final fails
  rw [bind_of_ok (ofExcept_eq_ok.2 ⟨isOk, rfl⟩)] at fails
  exact further volume fault final fails

theorem ite {condition : Prop} [Decidable condition] {other : Disk α}
    (first : Raises allowed action) (second : Raises allowed other) :
    Raises allowed (if condition then action else other) := by
  split
  · exact first
  · exact second

theorem mapM {step : α → Disk β} {parts : List α}
    (each : ∀ part ∈ parts, Raises allowed (step part)) : Raises allowed (parts.mapM step) := by
  induction parts with
  | nil => exact pure []
  | cons part rest ih =>
      rw [List.mapM_cons]
      apply (each part List.mem_cons_self).bind
      intro result
      apply (ih fun other member => each other (List.mem_cons_of_mem _ member)).bind
      intro results
      exact pure _

theorem forM {step : α → Disk PUnit} {parts : List α}
    (each : ∀ part ∈ parts, Raises allowed (step part)) : Raises allowed (parts.forM step) := by
  induction parts with
  | nil => exact pure _
  | cons part rest ih =>
      apply (each part List.mem_cons_self).bind
      intro _
      exact ih fun other member => each other (List.mem_cons_of_mem _ member)

variable {act : FileAction} {path : Path}

theorem ask {question : Volume → Except FileFault α}
    (allows : ∀ refusal, allowed (.fileSystem act path refusal)) :
    Raises allowed (ask act path question) := by
  intro volume fault final fails
  cases answered : question volume with
  | ok answer =>
      rw [ask_eq_ok.2 ⟨answered, rfl⟩] at fails
      cases fails
  | error refusal =>
      rw [ask_of_error answered] at fails
      cases fails
      exact allows refusal

theorem change {step : Volume → Except FileFault Volume}
    (allows : ∀ refusal, allowed (.fileSystem act path refusal)) :
    Raises allowed (change act path step) := by
  apply (Raises.ask allows).bind
  intro stepped volume fault final fails
  cases fails

end Raises

/-- A fault is a refusal of the volume. -/
def Refused (fault : Fault) : Prop :=
  ∃ act path refusal, fault = .fileSystem act path refusal

theorem Refused.fileSystem (act : FileAction) (path : Path) (refusal : FileFault) :
    Refused (.fileSystem act path refusal) :=
  ⟨act, path, refusal, rfl⟩

theorem raises_files (dir : Path) : Raises Refused (files dir) := by
  apply (Raises.ask (Refused.fileSystem _ _)).bind
  intro names
  exact .pure _

theorem raises_makeDirectories (dir : Path) : Raises Refused (makeDirectories dir) := by
  intro volume fault final fails
  rw [makeDirectories] at fails
  split at fails
  · cases fails
  · cases fails
    exact Refused.fileSystem _ _ _

theorem raises_removeTree (dir : Path) : Raises Refused (removeTree dir) := by
  apply Raises.get_bind
  intro volume
  apply Raises.ite
  · apply (Raises.change (Refused.fileSystem _ _)).bind
    intro _
    exact .change (Refused.fileSystem _ _)
  · exact .pure _

end

end Disk

namespace Source

open Disk

variable {path : Path} {source : Source} {volume final : Volume}

/-- What is read is the text of the file. -/
theorem load_eq_ok :
    load path volume = .ok source final ↔
      (∃ text, volume.textAt path = .ok text ∧ parse path text = .ok source) ∧
        volume = final := by
  rw [load, bind_eq_ok]
  constructor
  · rintro ⟨text, between, isRead, parsed⟩
    obtain ⟨isText, rfl⟩ := ask_eq_ok.1 isRead
    obtain ⟨isSource, rfl⟩ := ofExcept_eq_ok.1 parsed
    exact ⟨⟨text, isText, isSource⟩, rfl⟩
  · rintro ⟨⟨text, isText, isSource⟩, rfl⟩
    exact ⟨text, volume, ask_eq_ok.2 ⟨isText, rfl⟩, ofExcept_eq_ok.2 ⟨isSource, rfl⟩⟩

/-- The file at a path is read as the source. -/
def Reads (volume : Volume) (path : Path) (source : Source) : Prop :=
  ∃ text, volume.textAt path = .ok text ∧ parse path text = .ok source

/-- What is loaded are the sources that the files are read as. -/
theorem mapM_load_eq_ok {paths : List Path} {sources : List Source} :
    paths.mapM load volume = .ok sources final ↔
      List.Forall₂ (Reads volume) paths sources ∧ volume = final := by
  induction paths generalizing sources with
  | nil =>
      rw [List.mapM_nil, pure_eq_ok, List.forall₂_nil_left_iff]
      exact and_congr_left' eq_comm
  | cons path rest ih =>
      rw [List.mapM_cons, bind_eq_ok, List.forall₂_cons_left_iff]
      constructor
      · rintro ⟨source, between, loaded, others⟩
        obtain ⟨read, rfl⟩ := load_eq_ok.1 loaded
        obtain ⟨sources, _, each, told⟩ := bind_eq_ok.1 others
        obtain ⟨rfl, rfl⟩ := pure_eq_ok.1 told
        obtain ⟨eachRead, rfl⟩ := ih.1 each
        exact ⟨⟨source, sources, read, eachRead, rfl⟩, rfl⟩
      · rintro ⟨⟨source, sources, read, eachRead, rfl⟩, rfl⟩
        exact ⟨source, volume, load_eq_ok.2 ⟨read, rfl⟩,
          bind_eq_ok.2 ⟨sources, volume, ih.2 ⟨eachRead, rfl⟩, rfl⟩⟩

/-- A file is read as one source at most. -/
theorem Reads.unique {source other : Source} (one : Reads volume path source)
    (two : Reads volume path other) : source = other := by
  obtain ⟨text, isText, parsed⟩ := one
  obtain ⟨text', isText', parsed'⟩ := two
  rw [isText] at isText'
  cases isText'
  rw [parsed] at parsed'
  exact Except.ok.inj parsed'

section

variable {paths : List Path} {sources : List Source}
  (reads : List.Forall₂ (Reads volume) paths sources)

include reads

/-- Each of the sources was read from one of the files. -/
theorem exists_path_of_mem {source : Source} (member : source ∈ sources) :
    ∃ path ∈ paths, Reads volume path source := by
  obtain ⟨index, inside, rfl⟩ := List.mem_iff_getElem.1 member
  obtain ⟨length, each⟩ := List.forall₂_iff_get.1 reads
  exact ⟨_, List.getElem_mem (length ▸ inside), each index (length ▸ inside) inside⟩

/-- Each of the files is read as one of the sources. -/
theorem exists_source_of_mem {path : Path} (member : path ∈ paths) :
    ∃ source ∈ sources, Reads volume path source := by
  obtain ⟨index, inside, rfl⟩ := List.mem_iff_getElem.1 member
  obtain ⟨length, each⟩ := List.forall₂_iff_get.1 reads
  exact ⟨_, List.getElem_mem (length ▸ inside), each index inside (length ▸ inside)⟩

end

theorem load_eq_error {fault : Fault} (fails : load path volume = .error fault final) :
    final = volume := by
  rcases bind_eq_error.1 fails with unread | ⟨text, between, isRead, unparsed⟩
  · exact ask_eq_error unread
  · obtain ⟨-, rfl⟩ := ask_eq_ok.1 isRead
    exact ofExcept_eq_error unparsed

theorem load_looks (path : Path) : Looks (load path) :=
  Looks.ask.bind fun _ => Looks.ofExcept _

theorem list_looks (dir : Path) : Looks (list dir) :=
  (Looks.ask.bind fun _ => Looks.pure _).bind fun _ => Looks.pure _

theorem path_of_parse {text : String} (parsed : parse path text = .ok source) :
    source.path = path := by
  rw [parse] at parsed
  cases read : File.parse text with
  | error error =>
      rw [read] at parsed
      cases parsed
  | ok file =>
      rw [read] at parsed
      cases parsed
      rfl

theorem path_of_load (loaded : load path volume = .ok source final) : source.path = path := by
  obtain ⟨⟨_, _, parsed⟩, _⟩ := load_eq_ok.1 loaded
  exact path_of_parse parsed

end Source

end GoMend
