import Mathlib.Data.List.TakeWhile
import GoMend.Proofs.Scope.Lexical
import GoMend.Proofs.Token.Names
import GoMend.Wrap.Table

/-!
# Names of the lookup table

The table uses the constructors by their names alone.  It resolves where every recorded
name is declared, and nothing in the table itself sees to that.
-/

namespace GoMend

namespace PackageScope

/-- Whether a plain or qualified name needs no declaration beside those of the package. -/
def Provides (package : PackageScope) (name : String) : Prop :=
  let ident := Ident.ofName name
  ident.headName = "_" ∨ ident.headName ∈ predeclared ∨ ident.headName ∈ package.names

end PackageScope

namespace Table

variable {package : PackageScope} {records : List Record}

theorem mem_eraseReps_loop {α : Type} [BEq α] [LawfulBEq α] {value last : α}
    {rest done : List α} :
    value ∈ List.eraseRepsBy.loop (· == ·) last rest done ↔
      value = last ∨ value ∈ rest ∨ value ∈ done := by
  induction rest generalizing last done with
  | nil => simp [List.eraseRepsBy.loop, or_comm]
  | cons next rest ih =>
      rw [List.eraseRepsBy.loop]
      split
      · rename_i same
        rw [ih, eq_of_beq same, List.mem_cons]
        grind
      · rw [ih, List.mem_cons, List.mem_cons]
        grind

/-- Listed under a wrapper are the recorded constructors that use it. -/
theorem mem_symbols {wrapper : Wrapper} {symbol : String} :
    symbol ∈ symbols wrapper records ↔
      ∃ record ∈ records, record.wrapper = wrapper ∧ record.symbol = symbol := by
  have sorted : symbol ∈ symbols wrapper records ↔
      symbol ∈ ((records.filter (·.wrapper = wrapper)).map (·.symbol)).mergeSort
        fun left right => decide (left ≤ right) := by
    rw [symbols, List.eraseReps, List.eraseRepsBy.eq_def]
    split
    · rename_i nothing
      rw [nothing]
    · rename_i first rest some
      rw [some, mem_eraseReps_loop, List.mem_cons]
      simp
  rw [sorted, List.mem_mergeSort]
  simp [and_assoc]

/-- The package part of a package part is the package part. -/
theorem headName_ofName_headName (name : String) :
    (Ident.ofName (Ident.ofName name).headName).headName = (Ident.ofName name).headName :=
  Ident.headName_headName _ _

/-- A name is used by its package part, or as it stands if it has none. -/
theorem visits_ofName {hint : Option Expr} {env : Env} (name : String) :
    (Expr.ofName name).visits package hint env =
      [.use (.ofName (Ident.ofName name).headName) env] := by
  unfold Expr.ofName
  dsimp only
  split
  · rename_i plain
    have whole : name.toList.takeWhile (· != '.') = name.toList := by
      have parts := List.takeWhile_append_dropWhile (p := (· != '.')) (l := name.toList)
      rwa [plain, List.append_nil] at parts
    simp [Expr.visits, Ident.headName, Ident.ofName, whole]
  · rfl

/-- The file resolves where all its visits are bound. -/
theorem firstUnresolved?_eq_none_iff_visits (table : Table) :
    (table.file records).firstUnresolved? package = none ↔
      ∀ visit ∈ (table.file records).visits package,
        ¬visit.Unbound ⟨package, .ofFile (table.file records)⟩ := by
  rw [File.firstUnresolved?_eq package _ rfl, List.findSome?_eq_none_iff]
  exact forall₂_congr fun visit _ => Visit.unresolved?_eq_none_iff

/-- The use of a name by its package part. -/
def use (name : String) : Visit :=
  .use (.ofName (Ident.ofName name).headName) []

theorem not_unbound_use (table : Table) {name : String} :
    ¬(use name).Unbound ⟨package, .ofFile (table.file records)⟩ ↔ package.Provides name := by
  simp only [use, Visit.Unbound, headName_ofName_headName, PackageScope.Provides]
  have none_imported : (FileScope.ofFile (table.file records)).names = [] := rfl
  rw [none_imported]
  simp only [Ident.ofName, List.not_mem_nil, not_false_eq_true, true_and, and_true]
  tauto

/-- Keys are texts, so the visits in entries are those in their values. -/
theorem visitsElements_entries {α : Type} {shape : Shape} {env : Env} (key : α → String)
    (value : α → Expr) (parts : List α) :
    Expr.visitsElements package shape env (parts.map fun part => entry (key part) (value part)) =
      parts.flatMap fun part => (value part).visits package shape.element? env := by
  induction parts with
  | nil => rfl
  | cons part rest ih =>
      rw [List.map_cons, List.flatMap_cons, ← ih]
      simp [entry, Expr.visitsElements, Expr.visits]

/-- A literal of a map type is visited type first. -/
theorem visits_mapLiteral {hint : Option Expr} {env : Env} {key element : Expr}
    {elements : List Expr} :
    (mapLiteral (.mapType key element) elements).visits package hint env =
      key.visits package none env ++ element.visits package none env ++
        Expr.visitsElements package (.map key element) env elements :=
  rfl

/-- The part for one wrapper uses the constructors that are listed under it. -/
theorem visits_listing {hint : Option Expr} (symbols : List String) :
    (mapLiteral innerType (symbols.map fun symbol => entry symbol (.ofName symbol))).visits
        package hint [] =
      use "string" :: symbols.map use := by
  have key : (Expr.ofName "string").visits package none [] = [use "string"] :=
    visits_ofName "string"
  have element : (Expr.interfaceType ⟨[], []⟩).visits package none [] = [] := rfl
  rw [innerType, visits_mapLiteral, visitsElements_entries, key, element]
  simp only [visits_ofName, List.append_nil, List.singleton_append, List.cons.injEq, true_and]
  exact List.flatMap_pure_eq_map use symbols

/-- The table uses the type of its keys and the listed constructors. -/
theorem visits_file (table : Table) :
    (table.file records).visits package =
      use "string" :: use "string" :: Wrapper.all.flatMap fun wrapper =>
        use "string" :: (symbols wrapper records).map use := by
  have key : (Expr.ofName "string").visits package none [] = [use "string"] :=
    visits_ofName "string"
  have element : innerType.visits package none [] = [use "string"] := by
    rw [innerType, Expr.visits, key]
    rfl
  have parts : Expr.visitsElements package (.map (.ofName "string") innerType) []
      (Wrapper.all.map (category records)) = _ :=
    visitsElements_entries Wrapper.name
      (fun wrapper => mapLiteral innerType
        ((symbols wrapper records).map fun symbol => entry symbol (.ofName symbol))) Wrapper.all
  have literal : (mapLiteral outerType (Wrapper.all.map (category records))).visits package
      none [] = _ := visits_mapLiteral
  simp only [visits_listing] at parts
  rw [key, element, parts] at literal
  simp only [File.visits, file, List.flatMap_cons, List.flatMap_nil, Decl.visits,
    GenDecl.visits, Spec.visitsAll, Expr.visitsAll, literal]
  simp

/-- The table resolves exactly where every recorded name is declared. -/
theorem firstUnresolved?_eq_none_iff (table : Table) :
    (table.file records).firstUnresolved? package = none ↔
      ∀ record ∈ records, package.Provides record.symbol := by
  have string : package.Provides "string" := .inr (.inl (by decide))
  rw [firstUnresolved?_eq_none_iff_visits, visits_file]
  constructor
  · intro bound record member
    refine (not_unbound_use table).1 (bound _ ?_)
    have listed := mem_symbols.2 ⟨record, member, rfl, rfl⟩
    have known : record.wrapper ∈ Wrapper.all := by cases record.wrapper <;> decide
    simp only [List.mem_cons, List.mem_flatMap, List.mem_map]
    exact .inr (.inr ⟨_, known, .inr ⟨_, listed, rfl⟩⟩)
  · intro provided visit member
    simp only [List.mem_cons, List.mem_flatMap, List.mem_map] at member
    obtain rfl | rfl | ⟨wrapper, -, rfl | ⟨symbol, listed, rfl⟩⟩ := member
    · exact (not_unbound_use table).2 string
    · exact (not_unbound_use table).2 string
    · exact (not_unbound_use table).2 string
    · obtain ⟨record, inRecords, -, rfl⟩ := mem_symbols.1 listed
      exact (not_unbound_use table).2 (provided record inRecords)

end Table

end GoMend
