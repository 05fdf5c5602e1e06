import GoMend.Proofs.Text.Trimming
import GoMend.Proofs.Unit.Importing
import GoMend.Proofs.Unit.Placement

/-!
# Imports added one after the other

Whatever imports are added, each path that was new is imported once and every other path as often
as before.  The new entries stand together, in the first import declaration or in one before all
other declarations, and nothing else changes.  Adding the same imports again adds nothing.
-/

namespace GoMend

/-! ## Paths between quotes -/

/-- A path of visible ASCII characters and blanks, without quotes, back quotes and backslashes. -/
def ImportPath.IsPlain (path : String) : Prop :=
  ∀ c ∈ path.toList, 0x20 ≤ c.toNat ∧ c.toNat ≤ 0x7E ∧ c ≠ '"' ∧ c ≠ '`' ∧ c ≠ '\\'

theorem Text.isPrintable_of_ascii {c : Char} (visible : 0x20 ≤ c.toNat) (ascii : c.toNat ≤ 0x7E) :
    isPrintable c = true := by
  have printable : ∀ code < 0x7F, 0x20 ≤ code → isPrintable (Char.ofNat code) = true := by
    decide +kernel
  rw [← Char.ofNat_toNat c]
  exact printable _ (Nat.lt_succ_of_le ascii) visible

namespace ImportPath.IsPlain

variable {path : String}

theorem quote (plain : IsPlain path) :
    (Text.quote path).toList = '"' :: (path.toList ++ ['"']) := by
  have itself : ∀ c ∈ path.toList, Text.quoteChar c = c.toString := by
    intro c member
    obtain ⟨visible, ascii, noQuote, _, noBackslash⟩ := plain c member
    have control : ∀ other : Char, other.toNat < 0x20 → c ≠ other := by
      rintro _ small rfl
      omega
    rw [Text.quoteChar, if_neg (control _ (by decide)), if_neg (control _ (by decide)),
      if_neg (control _ (by decide)), if_neg (control _ (by decide)), if_neg noBackslash,
      if_neg noQuote, if_pos (Text.isPrintable_of_ascii visible ascii)]
  rw [Text.quote, List.map_congr_left itself, String.toList_append, String.toList_append,
    String.toList_join, List.flatMap_map]
  simp

/-- The path of an import that was built is the path that it was built for. -/
theorem pathValue (plain : IsPlain path) (name : Option String) :
    (ImportSpec.ofPath name path).pathValue = path := by
  have unquoted : ∀ c ∈ path.toList, (c == '"' || c == '`') = false := by
    intro c member
    obtain ⟨_, _, noQuote, noBackQuote, _⟩ := plain c member
    simp [noQuote, noBackQuote]
  have literal : (ImportSpec.ofPath name path).path.text =
      String.ofList (['"'] ++ (path.toList ++ ['"'])) := by
    rw [← String.toList_inj, String.toList_ofList]
    exact plain.quote
  have mark : ∀ c ∈ ['"'], (c == '"' || c == '`') = true :=
    List.forall_mem_singleton.2 (by decide)
  rw [ImportSpec.pathValue, literal, Text.trimBy_surrounded mark mark, String.ofList_toList]
  exact Text.Trimmed.trimBy ⟨fun c first => unquoted c (List.mem_of_mem_head? first),
    fun c last => unquoted c (List.mem_of_mem_getLast? last)⟩

end ImportPath.IsPlain

/-! ## Declarations that gain imports -/

namespace Decl

/-- The imports of a declaration. -/
def imports : Decl → List ImportSpec
  | .gen decl =>
      if decl.keyword = .imports then
        decl.specs.filterMap fun
          | .imported spec => some spec
          | _ => none
      else []
  | .func _ => []

theorem IsOther.imports {decl : Decl} (isOther : decl.IsOther) : decl.imports = [] := by
  cases decl with
  | gen decl => exact if_neg isOther
  | func decl => rfl

theorem flatMap_imports_of_others {decls : List Decl} (others : ∀ decl ∈ decls, decl.IsOther) :
    decls.flatMap imports = [] :=
  List.flatMap_eq_nil_iff.2 fun decl member => (others decl member).imports

theorem IsImport.not_isOther {decl : Decl} (isImport : decl.IsImport) : ¬decl.IsOther := by
  cases decl with
  | gen decl => exact fun isOther => isOther isImport.1
  | func decl => exact fun _ => isImport

/-- Whether a declaration declares anything but imports. -/
def isOther : Decl → Bool
  | .gen decl => decl.keyword != .imports
  | .func _ => true

theorem isOther_iff {decl : Decl} : decl.isOther = true ↔ decl.IsOther := by
  cases decl <;> simp [isOther, IsOther]

end Decl

/-- Imports stand before all other declarations. -/
def ImportsFirst (decls : List Decl) : Prop :=
  ∃ heads others, decls = heads ++ others ∧ (∀ decl ∈ heads, decl.IsImport) ∧
    ∀ decl ∈ others, decl.IsOther

theorem File.WellRead.importsFirst {file : File} (wellRead : file.WellRead) :
    ImportsFirst file.decls := by
  obtain ⟨_, heads, others, sections, headsRead, othersRead⟩ := wellRead
  exact ⟨heads, others, sections, fun decl isHead => (headsRead decl isHead).1,
    fun decl isOther => (othersRead decl isOther).1⟩

theorem File.imports_eq_flatMap (file : File) : file.imports = file.decls.flatMap Decl.imports := by
  rw [File.imports]
  congr 1

/-- A declaration with entries behind the others. -/
def GenDecl.withImports (decl : GenDecl) (entries : List ImportSpec) : GenDecl :=
  { decl with specs := decl.specs ++ entries.map .imported, grouped := true }

theorem Decl.IsImport.withImports {decl : GenDecl} (isImport : (Decl.gen decl).IsImport)
    (entries : List ImportSpec) : (Decl.gen (decl.withImports entries)).IsImport := by
  refine ⟨isImport.1, fun spec member => ?_⟩
  rcases List.mem_append.1 member with old | new
  · exact isImport.2 spec old
  · obtain ⟨entry, _, rfl⟩ := List.mem_map.1 new
    exact trivial

/-- Where imports stand before all other declarations, nothing stands before the first of them. -/
theorem ImportsFirst.of_first {before : List Decl} {decl : GenDecl} {after : List Decl}
    (sorted : ImportsFirst (before ++ .gen decl :: after)) (isImports : decl.keyword = .imports)
    (others : ∀ other ∈ before, other.IsOther) :
    before = [] ∧ (Decl.gen decl).IsImport ∧ ∃ heads tails, after = heads ++ tails ∧
      (∀ decl ∈ heads, decl.IsImport) ∧ ∀ decl ∈ tails, decl.IsOther := by
  obtain ⟨heads, tails, whole, headsImport, tailsOther⟩ := sorted
  cases heads with
  | nil =>
      rw [List.nil_append] at whole
      exact absurd isImports (tailsOther (.gen decl) (by simp [← whole]))
  | cons first heads =>
      obtain ⟨firstImport, restImport⟩ := List.forall_mem_cons.1 headsImport
      cases before with
      | nil =>
          obtain ⟨rfl, rfl⟩ := List.cons.inj whole
          exact ⟨rfl, firstImport, heads, tails, rfl, restImport, tailsOther⟩
      | cons other before =>
          obtain ⟨rfl, -⟩ := List.cons.inj whole
          exact absurd (others _ List.mem_cons_self) firstImport.not_isOther

/-- Declarations before and after they gain imports.  The first import declaration takes them, or
a new one before all others. -/
inductive Gains (decls : List Decl) : List ImportSpec → List Decl → Prop
  | nothing : Gains decls [] decls
  | extended {added : List ImportSpec} (before : List Decl) (decl : GenDecl) (after : List Decl) :
      added ≠ [] → decls = before ++ .gen decl :: after → decl.keyword = .imports →
      (∀ other ∈ before, other.IsOther) →
      Gains decls added (before ++ .gen (decl.withImports added) :: after)
  | fresh {added : List ImportSpec} : added ≠ [] → (∀ other ∈ decls, other.IsOther) →
      Gains decls added (.gen (.importing added) :: decls)

namespace Source

variable {entry : ImportSpec}

theorem extendFirstImport?_of_first {before : List Decl} {decl : GenDecl} {after : List Decl}
    (others : ∀ other ∈ before, other.IsOther) (isImports : decl.keyword = .imports) :
    extendFirstImport? entry (before ++ .gen decl :: after) =
      some (before ++ .gen (decl.withImports [entry]) :: after) := by
  induction before with
  | nil => exact if_pos isImports
  | cons first before ih =>
      obtain ⟨isOther, othersBehind⟩ := List.forall_mem_cons.1 others
      cases first with
      | gen first =>
          rw [List.cons_append, extendFirstImport?, if_neg isOther, ih othersBehind]
          rfl
      | func first =>
          rw [List.cons_append, extendFirstImport?, ih othersBehind]
          rfl

theorem extendFirstImport?_of_others {decls : List Decl}
    (others : ∀ other ∈ decls, other.IsOther) : extendFirstImport? entry decls = none := by
  cases found : extendFirstImport? entry decls with
  | none => rfl
  | some extended =>
      obtain ⟨before, decl, after, rfl, isImports, _⟩ := extendFirstImport?_eq_some found
      exact absurd isImports (others (.gen decl) (by simp))

end Source

namespace Gains

variable {decls decls' : List Decl} {added : List ImportSpec} {entry : ImportSpec}

/-- The first import declaration, if there is one. -/
theorem first_import (decls : List Decl) : (∀ other ∈ decls, other.IsOther) ∨
    ∃ before decl after, decls = before ++ Decl.gen decl :: after ∧ decl.keyword = .imports ∧
      ∀ other ∈ before, other.IsOther := by
  induction decls with
  | nil => exact .inl fun _ member => absurd member List.not_mem_nil
  | cons first rest ih =>
      by_cases isOther : first.IsOther
      · rcases ih with others | ⟨before, decl, after, rfl, isImports, others⟩
        · exact .inl (List.forall_mem_cons.2 ⟨isOther, others⟩)
        · exact .inr ⟨first :: before, decl, after, rfl, isImports,
            List.forall_mem_cons.2 ⟨isOther, others⟩⟩
      · cases first with
        | gen decl =>
            exact .inr ⟨[], decl, rest, rfl, Decidable.of_not_not isOther, fun _ member =>
              absurd member List.not_mem_nil⟩
        | func decl => exact absurd trivial isOther

/-- One more import stands behind those that were added before. -/
theorem extend (gains : Gains decls added decls') (entry : ImportSpec) :
    Gains decls (added ++ [entry])
      ((Source.extendFirstImport? entry decls').getD (.gen (.importing [entry]) :: decls')) := by
  have filled : added ++ [entry] ≠ [] := by simp
  cases gains with
  | nothing =>
      rcases first_import decls with others | ⟨before, decl, after, rfl, isImports, others⟩
      · rw [Source.extendFirstImport?_of_others others]
        exact .fresh filled others
      · rw [Source.extendFirstImport?_of_first others isImports]
        exact .extended before decl after filled rfl isImports others
  | extended before decl after _ sections isImports others =>
      have kept : (decl.withImports added).keyword = .imports := isImports
      rw [Source.extendFirstImport?_of_first others kept, Option.getD_some]
      have both : (decl.withImports added).withImports [entry] =
          decl.withImports (added ++ [entry]) := by
        simp [GenDecl.withImports]
      rw [both]
      exact .extended before decl after filled sections isImports others
  | fresh _ others =>
      have both : (GenDecl.importing added).withImports [entry] =
          .importing (added ++ [entry]) := by
        simp [GenDecl.withImports, GenDecl.importing]
      have front := @Source.extendFirstImport?_of_first entry [] (.importing added) decls
        (fun _ member => absurd member List.not_mem_nil) rfl
      rw [List.nil_append, List.nil_append] at front
      rw [front, Option.getD_some, both]
      exact .fresh filled others

/-- The new imports stand together among the old ones. -/
theorem flatMap_imports (gains : Gains decls added decls') : ∃ front back,
    decls.flatMap Decl.imports = front ++ back ∧
      decls'.flatMap Decl.imports = front ++ (added ++ back) := by
  have imported : ∀ entries : List ImportSpec,
      (entries.map Spec.imported).filterMap (fun
        | .imported spec => some spec
        | _ => none) = entries := by
    intro entries
    rw [List.filterMap_map]
    exact List.filterMap_some
  cases gains with
  | nothing => exact ⟨[], _, rfl, rfl⟩
  | extended before decl after _ sections isImports others =>
      have kept : (decl.withImports added).keyword = .imports := isImports
      refine ⟨(Decl.gen decl).imports, after.flatMap Decl.imports, ?_, ?_⟩
      · rw [sections, List.flatMap_append, List.flatMap_cons,
          Decl.flatMap_imports_of_others others, List.nil_append]
      · rw [List.flatMap_append, List.flatMap_cons, Decl.flatMap_imports_of_others others,
          List.nil_append, Decl.imports, Decl.imports, if_pos kept, if_pos isImports,
          ← List.append_assoc]
        congr 1
        exact List.filterMap_append.trans (congrArg (_ ++ ·) (imported added))
  | fresh _ others =>
      refine ⟨[], decls.flatMap Decl.imports, rfl, ?_⟩
      rw [List.flatMap_cons, List.nil_append]
      exact congrArg (· ++ _) (imported added)

theorem countP (gains : Gains decls added decls') (p : ImportSpec → Bool) :
    (decls'.flatMap Decl.imports).countP p =
      (decls.flatMap Decl.imports).countP p + added.countP p := by
  obtain ⟨front, back, before, after⟩ := gains.flatMap_imports
  rw [before, after, List.countP_append, List.countP_append, List.countP_append]
  omega

/-- All other declarations stay, in their order. -/
theorem filter_isOther (gains : Gains decls added decls') :
    decls'.filter Decl.isOther = decls.filter Decl.isOther := by
  cases gains with
  | nothing => rfl
  | extended before decl after _ sections isImports others =>
      have old : ¬(Decl.gen decl).isOther = true := fun isOther =>
        Decl.isOther_iff.1 isOther isImports
      have new : ¬(Decl.gen (decl.withImports added)).isOther = true := old
      rw [sections, List.filter_append, List.filter_append, List.filter_cons_of_neg old,
        List.filter_cons_of_neg new]
  | fresh _ others => exact List.filter_cons_of_neg (by simp [Decl.isOther, GenDecl.importing])

/-- Imports that stand before all other declarations still do. -/
theorem importsFirst (gains : Gains decls added decls') (sorted : ImportsFirst decls) :
    ImportsFirst decls' := by
  cases gains with
  | nothing => exact sorted
  | extended before decl after _ sections isImports others =>
      obtain ⟨rfl, isImport, heads, tails, rfl, headsImport, tailsOther⟩ :=
        (sections ▸ sorted).of_first isImports others
      exact ⟨.gen (decl.withImports added) :: heads, tails, rfl,
        List.forall_mem_cons.2 ⟨isImport.withImports added, headsImport⟩, tailsOther⟩
  | fresh _ others =>
      have none_ : (Decl.gen (.importing [])).IsImport := ⟨rfl, List.forall_mem_nil _⟩
      exact ⟨[.gen (.importing added)], decls, rfl,
        List.forall_mem_singleton.2 (none_.withImports added), others⟩

end Gains

/-! ## Calls one after the other -/

namespace Source

/-- How often a path is imported. -/
def timesImported (source : Source) (path : String) : Nat :=
  source.file.imports.countP (·.pathValue == path)

/-- Import paths one after the other, each under a name or under none; tell for each whether an
entry was added. -/
def addImports : List (Option String × String) → Source → List Bool × Source
  | [], source => ([], source)
  | (name, path) :: rest, source =>
      let (added, source) := source.addImport name path
      let (answers, source) := addImports rest source
      (added :: answers, source)

variable {source moved : Source} {calls front back : List (Option String × String)}
  {added : List ImportSpec} {name : Option String} {path : String}

theorem addImports_append (front back : List (Option String × String)) (source : Source) :
    source.addImports (front ++ back) =
      ((source.addImports front).1 ++ ((source.addImports front).2.addImports back).1,
        ((source.addImports front).2.addImports back).2) := by
  induction front generalizing source with
  | nil => rfl
  | cons call front ih =>
      simp only [List.cons_append, addImports, ih]

theorem length_addImports (calls : List (Option String × String)) (source : Source) :
    (source.addImports calls).1.length = calls.length := by
  induction calls generalizing source with
  | nil => rfl
  | cons call calls ih => exact congrArg (· + 1) (ih _)

theorem hasImport_iff : source.hasImport path = true ↔ source.timesImported path ≠ 0 := by
  rw [hasImport, timesImported, List.any_eq_true, Nat.ne_zero_iff_zero_lt, List.countP_pos_iff]

/-- An entry is added exactly if the path is not imported. -/
theorem addImport_eq_true_iff : (source.addImport name path).1 = true ↔
    ∀ entry ∈ source.file.imports, entry.pathValue ≠ path := by
  rw [addImport]
  split
  · rename_i imported
    obtain ⟨entry, member, same⟩ := List.any_eq_true.1 imported
    simp only [Bool.false_eq_true, false_iff]
    exact fun absent => absent entry member (by simpa using same)
  · rename_i missing
    simp only [true_iff]
    intro entry member same
    exact missing (List.any_eq_true.2 ⟨entry, member, by simpa using same⟩)

/-- Nothing is added where everything is imported. -/
theorem addImports_of_hasImport (imported : ∀ call ∈ calls, source.hasImport call.2 = true) :
    source.addImports calls = (calls.map fun _ => false, source) := by
  induction calls with
  | nil => rfl
  | cons call calls ih =>
      obtain ⟨first, rest⟩ := List.forall_mem_cons.1 imported
      rw [addImports, addImport, if_pos first]
      dsimp only
      rw [ih rest]
      rfl

/-- What a source has become by calls that added the given entries. -/
structure Added (source : Source) (calls : List (Option String × String))
    (added : List ImportSpec) (moved : Source) : Prop where
  rest : moved = { source with file := { source.file with decls := moved.file.decls } }
  gains : Gains source.file.decls added moved.file.decls
  isNew : ∀ entry ∈ added, source.timesImported entry.pathValue = 0
  distinct : (added.map (·.pathValue)).Nodup
  called : ∀ entry ∈ added, ∃ call ∈ calls, entry = .ofPath call.1 call.2
  imported : ∀ call ∈ calls, moved.hasImport call.2 = true

namespace Added

theorem nothing (source : Source) : Added source [] [] source where
  rest := rfl
  gains := .nothing
  isNew := fun _ member => absurd member List.not_mem_nil
  distinct := .nil
  called := fun _ member => absurd member List.not_mem_nil
  imported := fun _ member => absurd member List.not_mem_nil

/-- The times a path is imported, before and among what was added. -/
theorem timesImported (isAdded : Added source calls added moved) (path : String) :
    moved.timesImported path =
      source.timesImported path + added.countP (·.pathValue == path) := by
  rw [Source.timesImported, Source.timesImported, File.imports_eq_flatMap,
    File.imports_eq_flatMap]
  exact isAdded.gains.countP _

/-- One more call. -/
theorem addImport (isAdded : Added source calls added moved) (plain : ImportPath.IsPlain path)
    (name : Option String) :
    ∃ added', Added source (calls ++ [(name, path)]) added' (moved.addImport name path).2 := by
  by_cases present : moved.hasImport path = true
  · rw [Source.addImport, if_pos present]
    refine ⟨added, { isAdded with called := ?_, imported := ?_ }⟩
    · intro entry member
      obtain ⟨call, isCall, built⟩ := isAdded.called entry member
      exact ⟨call, List.mem_append_left _ isCall, built⟩
    · exact List.forall_mem_append.2 ⟨isAdded.imported, by simpa using present⟩
  rw [Source.addImport, if_neg present]
  have value := plain.pathValue name
  -- nothing of the path is imported yet, neither from the start nor by the calls before
  have absent : source.timesImported path + added.countP (·.pathValue == path) = 0 := by
    rw [← isAdded.timesImported, ← Decidable.not_not (p := moved.timesImported path = 0)]
    exact fun times => present (hasImport_iff.2 times)
  have gains := isAdded.gains.extend (.ofPath name path)
  refine ⟨added ++ [.ofPath name path], by rw [isAdded.rest], gains, ?_, ?_, ?_, ?_⟩
  · exact List.forall_mem_append.2 ⟨isAdded.isNew, by simpa [value] using (by omega)⟩
  · rw [List.map_append, List.map_singleton, value]
    refine isAdded.distinct.append (List.nodup_singleton path) ?_
    rw [List.disjoint_singleton]
    intro member
    obtain ⟨entry, isAdded, same⟩ := List.mem_map.1 member
    have times : 0 < added.countP (·.pathValue == path) :=
      List.countP_pos_iff.2 ⟨entry, isAdded, beq_iff_eq.2 same⟩
    omega
  · refine List.forall_mem_append.2 ⟨fun entry member => ?_, by simp⟩
    obtain ⟨call, isCall, built⟩ := isAdded.called entry member
    exact ⟨call, List.mem_append_left _ isCall, built⟩
  · intro call isCall
    rw [hasImport_iff, Source.timesImported, File.imports_eq_flatMap, gains.countP,
      List.countP_append, ← File.imports_eq_flatMap]
    rcases List.mem_append.1 isCall with before | isLast
    · have times := hasImport_iff.1 (isAdded.imported call before)
      rw [isAdded.timesImported, Source.timesImported] at times
      omega
    · rw [List.mem_singleton.1 isLast]
      simp [value]

/-- What a source becomes by any number of calls. -/
theorem addImports (plain : ∀ call ∈ calls, ImportPath.IsPlain call.2) :
    ∃ added, Added source calls added (source.addImports calls).2 := by
  induction calls using List.reverseRecOn with
  | nil => exact ⟨[], nothing source⟩
  | append_singleton calls call ih =>
      obtain ⟨others, last⟩ := List.forall_mem_append.1 plain
      obtain ⟨added, isAdded⟩ := ih others
      rw [addImports_append]
      exact isAdded.addImport (last call (List.mem_singleton_self call)) call.1

/-- How often a path is imported after the calls. -/
theorem timesImported_eq (isAdded : Added source calls added moved)
    (plain : ∀ call ∈ calls, ImportPath.IsPlain call.2) (path : String) :
    moved.timesImported path =
      if source.timesImported path = 0 ∧ path ∈ calls.map (·.2) then 1
      else source.timesImported path := by
  have values : added.countP (·.pathValue == path) = (added.map (·.pathValue)).count path := by
    rw [List.count, List.countP_map]
    rfl
  rw [isAdded.timesImported, values]
  split
  · rename_i isNew
    obtain ⟨absent, called⟩ := isNew
    obtain ⟨call, isCall, rfl⟩ := List.mem_map.1 called
    have times := hasImport_iff.1 (isAdded.imported call isCall)
    rw [isAdded.timesImported, values, absent, Nat.zero_add] at times
    rw [absent, Nat.zero_add]
    exact List.count_eq_one_of_mem isAdded.distinct
      (List.count_pos_iff.1 (Nat.pos_of_ne_zero times))
  · rename_i other
    rw [Nat.add_eq_left, List.count_eq_zero]
    intro member
    obtain ⟨entry, inAdded, rfl⟩ := List.mem_map.1 member
    obtain ⟨call, isCall, rfl⟩ := isAdded.called entry inAdded
    refine other ⟨isAdded.isNew _ inAdded, List.mem_map.2 ⟨call, isCall, ?_⟩⟩
    exact ((plain call isCall).pathValue call.1).symm

end Added

/-- Each call adds an entry exactly if nothing then imports its path.  In the end every path that
was new is imported once and every other path as often as before, the old entries and all other
declarations are kept in their order, and the same calls add nothing more. -/
theorem addImports_exact (isRead : source.IsRead)
    (plain : ∀ call ∈ calls, ImportPath.IsPlain call.2) :
    let answers := (source.addImports calls).1
    let moved := (source.addImports calls).2
    answers.length = calls.length ∧
    (∀ front call back, calls = front ++ call :: back →
      (answers[front.length]? = some true ↔
        ∀ entry ∈ (source.addImports front).2.file.imports, entry.pathValue ≠ call.2)) ∧
    (∀ path, moved.timesImported path =
      if source.timesImported path = 0 ∧ path ∈ calls.map (·.2) then 1
      else source.timesImported path) ∧
    source.file.imports.Sublist moved.file.imports ∧
    (∃ added, Gains source.file.decls added moved.file.decls) ∧
    moved.file.decls.filter Decl.isOther = source.file.decls.filter Decl.isOther ∧
    ImportsFirst moved.file.decls ∧
    moved = { source with file := { source.file with decls := moved.file.decls } } ∧
    moved.addImports calls = (calls.map fun _ => false, moved) := by
  intro answers moved
  obtain ⟨added, isAdded⟩ : ∃ added, Added source calls added moved := Added.addImports plain
  obtain ⟨text, read, _⟩ := isRead.text
  refine ⟨length_addImports calls source, ?_, isAdded.timesImported_eq plain, ?_,
    ⟨added, isAdded.gains⟩, isAdded.gains.filter_isOther,
    isAdded.gains.importsFirst (File.parse_reads read).2.importsFirst, isAdded.rest,
    addImports_of_hasImport isAdded.imported⟩
  · rintro front call back rfl
    have answer : answers[front.length]? =
        some ((source.addImports front).2.addImport call.1 call.2).1 := by
      rw [show answers = _ from congrArg Prod.fst (addImports_append front _ source),
        ← length_addImports front source, List.getElem?_append_right le_rfl, Nat.sub_self]
      rfl
    rw [answer, Option.some_inj, addImport_eq_true_iff]
  · obtain ⟨front, back, before, after⟩ := isAdded.gains.flatMap_imports
    rw [File.imports_eq_flatMap, File.imports_eq_flatMap, before, after]
    exact (List.sublist_append_right added back).append_left front

/-- A path that is imported twice, a path between back quotes and a declaration behind them. -/
def mixedImportsText : String :=
  "package p\nimport (\n\t\"fmt\"\n\tes `a/b`\n)\nimport \"fmt\"\nimport ()\nvar x = 1\n"

/-- Of four calls the one for a new path adds an entry, and the old paths stay as they were. -/
theorem addImports_exact_mixed :
    ∃ (source : Source) (calls : List (Option String × String)),
      (source.addImports calls).1 = [false, true, false, false] ∧
        (source.addImports calls).2.timesImported "c d" = 1 ∧
        (source.addImports calls).2.timesImported "fmt" = 2 ∧
        (source.addImports calls).2.addImports calls =
          ([false, false, false, false], (source.addImports calls).2) := by
  let calls := [(some "q", "a/b"), (none, "c d"), (some "e", "c d"), (some ".", "fmt")]
  have checked : (Source.parse ⟨"a.go"⟩ mixedImportsText).toOption.map (fun source =>
      (source.path, (source.addImports calls).1, source.timesImported "c d",
        source.timesImported "fmt")) =
      some (⟨"a.go"⟩, [false, true, false, false], 0, 2) := by
    decide +kernel
  cases read : Source.parse ⟨"a.go"⟩ mixedImportsText with
  | error fault => simp [read, Except.toOption] at checked
  | ok source =>
      simp only [read, Except.toOption, Option.map_some, Option.some.injEq,
        Prod.mk.injEq] at checked
      obtain ⟨path, answers, absent, twice⟩ := checked
      have plain : ∀ call ∈ calls, ImportPath.IsPlain call.2 := by
        simp [calls, ImportPath.IsPlain]
      obtain ⟨_, _, times, _, _, _, _, _, again⟩ :=
        addImports_exact ⟨_, path ▸ read⟩ plain
      refine ⟨source, calls, answers, ?_, ?_, again⟩
      · rw [times, absent]
        decide
      · rw [times, twice]
        decide

end Source

end GoMend
