import GoMend.Proofs.Unit.Locating
import GoMend.Proofs.Wrap.Embedding
import GoMend.Proofs.Wrap.Initializer

/-!
# Names in a wrapped constructor

Moving a file into the package keeps one expression of a constructor and drops the body around
it.  The package stays free of undefined names exactly if this expression needs no name that
the dropped body declares.  The new body binds one name, the same for every constructor, whether or
not a parameter has it.
-/

namespace GoMend

namespace Expr

theorem ofName_plain {name : String} (plain : '.' ∉ name.toList) :
    ofName name = .ident (.ofName name) := by
  have noDot : name.toList.dropWhile (· != '.') = [] := by
    apply List.dropWhile_eq_nil_iff.2
    intro c member
    exact bne_iff_ne.2 fun isDot => plain (isDot ▸ member)
  simp only [ofName, noDot]

theorem ofName_qualify {package name : String} (plain : '.' ∉ package.toList) :
    ofName (Ident.qualify package name) =
      .selector (.ident (.ofName package)) (.ofName name) := by
  have spelled : (Ident.qualify package name).toList =
      package.toList ++ '.' :: name.toList := by
    simp [Ident.qualify]
  have before : ∀ c ∈ package.toList, (c != '.') = true := fun c member =>
    bne_iff_ne.2 fun isDot => plain (isDot ▸ member)
  simp only [ofName, spelled, List.takeWhile_append_of_pos before,
    List.dropWhile_append_of_pos before]
  simp

/-- Every name that an expression uses is declared: where it is used, by an import, in the
package or everywhere. -/
def Resolves (names : FileNames) (env : Env) (expr : Expr) : Prop :=
  ∀ ident inner, .use ident inner ∈ expr.visits names.package none env →
    ident.isBlank ∨ inner.contains ident.headName ∨ names.contains ident.headName

end Expr

/-- The names that the statements of a block define for it. -/
def Block.defines (block : Block) : List Ident :=
  block.stmts.flatMap fun stmt =>
    match stmt.kind with
    | .assign targets .define _ => targets.filterMap Expr.ident?
    | _ => []

namespace FuncDecl

/-- The names of receiver, parameters and results. -/
def headNames (decl : FuncDecl) : List Ident :=
  decl.lists.flatMap FieldList.names

/-- The names of receiver, parameters and results, which are visible to any body. -/
def env (decl : FuncDecl) : Env :=
  Env.bindAll [] decl.headNames

/-- What the body defines is fresh: no receiver, parameter or result has the name of it. -/
def DefinesFresh (decl : FuncDecl) : Prop :=
  ∀ body, decl.body = some body → ∀ ident ∈ body.defines, ∀ other ∈ decl.headNames,
    other.name ≠ ident.name

end FuncDecl

namespace Wrapper

/-- The names of the wrappers are declared in the package. -/
def Declared (scope : PackageScope) : Prop :=
  ∀ wrapper : Wrapper, wrapper.name ∈ scope.names ∧ wrapper.constructor ∈ scope.names

/-- What the body of a wrapped constructor adds to the expression that it keeps. -/
def bodyVisits (wrapper : Wrapper) (env : Env) : List Visit :=
  [.binder (.ofName binding),
    .use (.ofName binding) (env.bind (.ofName binding)),
    .use (.ofName wrapper.constructor) (env.bind (.ofName binding)),
    .use (.ofName binding) (env.bind (.ofName binding)),
    .use (.ofName binding) (env.bind (.ofName binding))]

variable {wrapper : Wrapper} {scope : PackageScope} {source : Source}

/-- A wrapped constructor builds its value, wraps it and returns it. -/
theorem body_eq (init : Expr) :
    wrapper.body init =
      { stmts :=
          [.bare (.assign [.ident (.ofName binding)] .define [init]),
            .bare (.assign [.selector (.ident (.ofName binding)) (.ofName wrapper.name)] .assign
              [.call (.ident (.ofName wrapper.constructor)) [.ident (.ofName binding)] false]),
            .bare (.ret [.ident (.ofName binding)])]
        closing := [] } := by
  have bound : Expr.ofName binding = .ident (.ofName binding) := Expr.ofName_plain (by decide)
  have called : Expr.ofName wrapper.constructor = .ident (.ofName wrapper.constructor) :=
    Expr.ofName_plain (by cases wrapper <;> decide)
  have embedded : Expr.ofName (Ident.qualify binding wrapper.name) =
      .selector (.ident (.ofName binding)) (.ofName wrapper.name) :=
    Expr.ofName_qualify (by decide)
  simp [body, Stmt.assignTo, Stmt.returning, Expr.callOf, bound, called, embedded]

/-- What resolution meets in the body of a wrapped constructor. -/
theorem visits_body (init : Expr) (env : Env) :
    (wrapper.body init).visits scope env =
      init.visits scope none env ++ wrapper.bodyVisits env := by
  rw [body_eq]
  change init.visits scope none env ++ [] ++ _ ++ _ = _
  rw [List.append_nil, List.append_assoc]
  rfl

/-- A name of the package is not reported. -/
theorem report?_ofName {name : String} {env : Env} (plain : '.' ∉ name.toList)
    (declared : name ∈ scope.names) : source.report? scope (.use (.ofName name) env) = none := by
  apply Source.report?_use.2
  have head : (Ident.ofName name).headName = name := Ident.IsPlain.headName plain
  rw [head]
  simp [FileNames.contains, PackageScope.contains, declared]

/-- The body of a wrapped constructor defines one name, the same for all. -/
theorem defines_body (wrapper : Wrapper) (init : Expr) :
    (wrapper.body init).defines = [.ofName binding] :=
  rfl

/-- That name is fresh only where receiver, parameters and results leave it free. -/
theorem definesFresh_withBody {decl : FuncDecl} (init : Expr) :
    (decl.withBody (wrapper.body init)).DefinesFresh ↔
      ∀ other ∈ decl.headNames, other.name ≠ binding := by
  constructor
  · intro fresh
    exact fresh _ rfl (.ofName binding) (defines_body wrapper init ▸ List.mem_singleton_self _)
  · rintro free _ ⟨⟩ ident defined
    rw [defines_body, List.mem_singleton] at defined
    exact defined ▸ free

variable (declared : Declared scope)

include declared

theorem report?_names {visit : Visit} (names : Names visit) :
    source.report? scope visit = none := by
  obtain ⟨wrapper, env, rfl⟩ := names
  apply report?_ofName _ (declared wrapper).1
  cases wrapper <;> decide

/-- Nothing is reported about what a wrapped constructor adds. -/
theorem report?_bodyVisits {env : Env} {visit : Visit}
    (member : visit ∈ wrapper.bodyVisits env) : source.report? scope visit = none := by
  have bound : source.report? scope
      (.use (.ofName binding) (env.bind (.ofName binding))) = none := by
    apply Source.report?_use.2
    have head : (Ident.ofName binding).headName = binding := by decide
    have visible : env.bind (.ofName binding) = binding :: env := if_neg (by decide)
    rw [head, visible]
    simp
  have called : source.report? scope
      (.use (.ofName wrapper.constructor) (env.bind (.ofName binding))) = none := by
    apply report?_ofName _ (declared wrapper).2
    cases wrapper <;> decide
  simp only [bodyVisits, List.mem_cons, List.not_mem_nil, or_false] at member
  rcases member with rfl | rfl | rfl | rfl | rfl
  · simp [Source.report?, Visit.unresolved?]
  · exact bound
  · exact called
  · exact bound
  · exact bound

/-- Nothing is reported about the body of a wrapped constructor exactly if the expression that
it keeps resolves, or nothing is reported about the file at all. -/
theorem report?_body_iff (init : Expr) (env : Env) :
    (∀ visit ∈ (wrapper.body init).visits scope env, source.report? scope visit = none) ↔
      (FileScope.ofFile source.file).hasDotImport ∨
        init.Resolves ⟨scope, .ofFile source.file⟩ env := by
  rw [visits_body]
  constructor
  · intro quiet
    by_cases open_ : (FileScope.ofFile source.file).hasDotImport
    · exact .inl open_
    · right
      intro ident inner met
      have silent := Source.report?_use.1 (quiet _ (List.mem_append_left _ met))
      exact silent.resolve_left open_
  · intro resolves visit member
    rcases List.mem_append.1 member with inInit | isAdded
    · cases visit with
      | binder ident => simp [Source.report?, Visit.unresolved?]
      | use ident inner =>
          apply Source.report?_use.2
          exact resolves.imp_right fun resolved => resolved ident inner inInit
    · exact report?_bodyVisits declared isAdded

end Wrapper

namespace Pipeline

variable {pipeline : Pipeline} {wrapper : Wrapper} {source moved : Source}
  {outcome : Option Record}

/-- The constructor of a file, between the declarations before and behind it, and the
expression that its body builds. -/
structure Constructs (pipeline : Pipeline) (file : File) (heads : List Decl) (decl : FuncDecl)
    (tails : List Decl) (init : Expr) : Prop where
  found : file.LastFunction pipeline.functions heads decl tails
  builds : ∃ present, decl.body = some present ∧ Wrapper.Builds present init

/-- What wrapping the constructor does, and what it tells. -/
theorem wrapFunction_cases (pipeline : Pipeline) (wrapper : Wrapper) (source : Source) :
    (∀ decl ∈ source.file.funcDecls, decl.matchesName pipeline.functions = false) ∧
        pipeline.wrapFunction wrapper source = (.ok none, source) ∨
      ∃ heads decl tails, source.file.LastFunction pipeline.functions heads decl tails ∧
        ((∃ fault, wrapper.normalizeConstructor decl = .error fault ∧
            pipeline.wrapFunction wrapper source = (.error fault, source)) ∨
          ∃ body, wrapper.normalizeConstructor decl = .ok (decl.withBody body) ∧
            pipeline.wrapFunction wrapper source = (.ok (some ⟨wrapper, decl.name.name⟩),
              { source with file := { source.file with
                decls := heads ++ .func (decl.withBody body) :: tails } })) := by
  rw [wrapFunction]
  split
  · rename_i absent
    exact .inl ⟨File.editFunction?_eq_none (Option.map_eq_none_iff.1 absent), rfl⟩
  · rename_i result edited isEdited
    obtain ⟨⟨_, file⟩, editedFile, same⟩ := Option.map_eq_some_iff.1 isEdited
    cases same
    obtain ⟨heads, decl, tails, found, rfl, rfl⟩ := File.editFunction?_eq_some editedFile
    refine .inr ⟨heads, decl, tails, found, ?_⟩
    cases normalized : wrapper.normalizeConstructor decl with
    | error fault =>
        refine .inl ⟨fault, rfl, ?_⟩
        have same : { source.file with decls := heads ++ .func decl :: tails } = source.file := by
          rw [← found.sections]
        simp [Except.map, same]
    | ok normal =>
        obtain ⟨present, init, hasBody, builds, rfl⟩ :=
          Wrapper.normalizeConstructor_eq_ok_iff.1 normalized
        exact .inr ⟨_, rfl, by simp [Except.map]⟩

/-- What wrapping a constructor changes, and what it tells. -/
theorem wrapFunction_eq_ok (wrapped : pipeline.wrapFunction wrapper source = (.ok outcome, moved)) :
    outcome = none ∧ moved = source ∨
      ∃ heads decl tails init, pipeline.Constructs source.file heads decl tails init ∧
        outcome = some ⟨wrapper, decl.name.name⟩ ∧
        moved = { source with file := { source.file with
          decls := heads ++ .func (decl.withBody (wrapper.body init)) :: tails } } := by
  rcases wrapFunction_cases pipeline wrapper source with ⟨_, same⟩ |
    ⟨heads, decl, tails, found, ⟨fault, _, same⟩ | ⟨body, normalized, same⟩⟩
  · cases same.symm.trans wrapped
    exact .inl ⟨rfl, rfl⟩
  · cases same.symm.trans wrapped
  · cases same.symm.trans wrapped
    obtain ⟨present, init, hasBody, builds, normal⟩ :=
      Wrapper.normalizeConstructor_eq_ok_iff.1 normalized
    exact .inr ⟨heads, decl, tails, init, ⟨found, present, hasBody, builds⟩, rfl, by rw [normal]⟩

/-- What moving a file changes behind the wrapping of its struct. -/
theorem transform_eq_ok {wrapped : Source}
    (isWrapped : wrapped = (pipeline.wrapStructure (source.renamePackage pipeline.package)).2)
    (transformed : pipeline.transform source = (.ok outcome, moved)) :
    outcome = none ∧ moved = wrapped ∨
      ∃ record heads decl tails init, outcome = some record ∧ record.symbol = decl.name.name ∧
        pipeline.Constructs wrapped.file heads decl tails init ∧
        moved = { wrapped with file := { wrapped.file with
          decls := heads ++ .func (decl.withBody (record.wrapper.body init)) :: tails } } := by
  rw [transform] at transformed
  split at transformed
  · cases transformed
  · rename_i same
    cases transformed
    rw [same] at isWrapped
    exact .inl ⟨rfl, isWrapped.symm⟩
  · rename_i wrapper other same
    rw [same] at isWrapped
    cases isWrapped
    rcases wrapFunction_eq_ok transformed with unchanged | constructed
    · exact .inl unchanged
    · obtain ⟨heads, decl, tails, init, constructs, rfl, rfl⟩ := constructed
      exact .inr ⟨_, heads, decl, tails, init, rfl, rfl, constructs, rfl⟩

/-- A constructor that is recorded is a function of the file. -/
theorem transform_symbol {record : Record}
    (transformed : pipeline.transform source = (.ok (some record), moved)) :
    ∃ decl, .func decl ∈ source.file.decls ∧ decl.name.name = record.symbol := by
  rcases transform_eq_ok rfl transformed with ⟨nothing, -⟩ |
    ⟨_, heads, decl, tails, init, same, symbol, constructs, -⟩
  · cases nothing
  · cases same
    have found := constructs.found
    rcases wrapStructure_cases pipeline (source.renamePackage pipeline.package) with
      unchanged | ⟨offset, edit, -, edited⟩
    · rw [unchanged] at found
      have sections : source.file.decls = heads ++ .func decl :: tails := found.sections
      exact ⟨decl, by simp [sections], symbol.symm⟩
    · rw [edited] at found
      obtain ⟨before, function, after, isLast, -, rebuilt⟩ := found.of_mapTypes
      have sections : source.file.decls = before ++ .func function :: after := isLast.sections
      exact ⟨function, by simp [sections], by rw [symbol, rebuilt]; rfl⟩

section

variable (pipeline) (source)

theorem keeps_wrapRenamed :
    source.file.Keeps
      (pipeline.wrapStructure (source.renamePackage pipeline.package)).2.file := by
  have keeps := pipeline.keeps_wrapStructure (source.renamePackage pipeline.package)
  exact ⟨keeps.imports, keeps.names, keeps.types⟩

variable {before after : List Source}
  (clean : Source.firstUndefined? (before ++ source :: after) = none)
  (declared : Wrapper.Declared (Source.packageOf (before ++ source :: after)))

include clean declared

/-- Nothing is reported about a file once its struct is wrapped. -/
theorem report?_wrapRenamed (visit : Visit)
    (met : visit ∈ (pipeline.wrapStructure (source.renamePackage pipeline.package)).2.file.visits
      (Source.packageOf (before ++ source :: after))) :
    source.report? (Source.packageOf (before ++ source :: after)) visit = none := by
  rcases pipeline.mem_visits_wrapStructure (source.renamePackage pipeline.package) met with
    old | names
  · exact Source.firstUndefined?_eq_none.1 clean source
      (List.mem_append_right _ List.mem_cons_self) visit old
  · exact Wrapper.report?_names declared names

end

/-- Moving a file of a package without undefined names leaves it without them if no
constructor is wrapped.  If one is, then exactly if the expression which the constructor keeps
of its body resolves among the names of receiver, parameters and results, or if the file has a
dot import.  What the wrapped constructor defines is `a` in any case, which is fresh unless a
receiver, parameter or result is called so. -/
theorem transform_hygiene {before after : List Source}
    (clean : Source.firstUndefined? (before ++ source :: after) = none)
    (declared : Wrapper.Declared (Source.packageOf (before ++ source :: after)))
    (transformed : pipeline.transform source = (.ok outcome, moved)) :
    (outcome = none → Source.firstUndefined? (before ++ moved :: after) = none) ∧
      ∀ record, outcome = some record →
        ∃ heads decl tails init,
          pipeline.Constructs
            (pipeline.wrapStructure (source.renamePackage pipeline.package)).2.file
            heads decl tails init ∧
          moved.file.decls =
            heads ++ .func (decl.withBody (record.wrapper.body init)) :: tails ∧
          (Source.firstUndefined? (before ++ moved :: after) = none ↔
            (FileScope.ofFile source.file).hasDotImport ∨
              init.Resolves ⟨Source.packageOf (before ++ source :: after), .ofFile source.file⟩
                decl.env) ∧
          (record.wrapper.body init).defines = [.ofName "a"] ∧
          ((decl.withBody (record.wrapper.body init)).DefinesFresh ↔
            ∀ other ∈ decl.headNames, other.name ≠ "a") := by
  have keeps := pipeline.keeps_wrapRenamed source
  have quiet := pipeline.report?_wrapRenamed source clean declared
  generalize isWrapped :
    (pipeline.wrapStructure (source.renamePackage pipeline.package)).2 = wrapped at keeps quiet ⊢
  rcases transform_eq_ok isWrapped.symm transformed with ⟨rfl, rfl⟩ |
    ⟨record, heads, decl, tails, init, rfl, _, constructs, rfl⟩
  · constructor
    · intro _
      exact (Source.firstUndefined?_replace keeps clean).2 quiet
    · rintro record ⟨⟩
  · constructor
    · rintro ⟨⟩
    rintro _ ⟨⟩
    refine ⟨heads, decl, tails, init, constructs, rfl, ?_, Wrapper.defines_body _ init,
      Wrapper.definesFresh_withBody init⟩
    have sections := constructs.found.sections
    have keepsMoved := keeps.withBody (record.wrapper.body init) sections
    rw [Source.firstUndefined?_replace keepsMoved clean, ← Wrapper.report?_body_iff declared]
    constructor
    · intro silent visit met
      exact silent visit (File.mem_visits_body _ met)
    · intro silent visit met
      rcases File.mem_visits_withBody _ sections met with old | inBody
      · exact quiet visit old
      · exact silent visit inBody

/-- A package that declares the wrappers, with a struct and a constructor. -/
def wrapperText (constructor : String) : String :=
  "package p\ntype Injectable struct{}\ntype NotInjectable struct{}\nfunc newInjectable()\n" ++
    "func newNotInjectable()\ntype F struct{ n int }\n" ++ constructor

theorem declared_of_names {names : List String}
    (same : (Source.packageOf [source]).names =
      "Injectable" :: "NotInjectable" :: "newInjectable" :: "newNotInjectable" :: names) :
    Wrapper.Declared (Source.packageOf [source]) := by
  intro wrapper
  rw [same]
  cases wrapper <;> simp [Wrapper.name, Wrapper.constructor]

/-- A constructor moved out of a package without undefined names, and a look at the unit that it
ends in. -/
theorem exists_moved {α : Type} {shown : α} (constructor : String) (look : Source → Source → α)
    (checked : (ofTexts .standard "p" "F" "N" "" "").toOption.bind (fun pipeline =>
      (Source.parse ⟨"a.go"⟩ (wrapperText constructor)).toOption.map fun source =>
        ((Source.packageOf [source]).names, (pipeline.transform source).1.toOption,
          (source.undefined? (Source.packageOf [source])).isNone,
          look source (pipeline.transform source).2)) =
      some (["Injectable", "NotInjectable", "newInjectable", "newNotInjectable", "F", "N"],
        some (some ⟨.notInjectable, "N"⟩), true, shown)) :
    ∃ (pipeline : Pipeline) (source moved : Source), Source.firstUndefined? [source] = none ∧
      Wrapper.Declared (Source.packageOf [source]) ∧
      pipeline.transform source = (.ok (some ⟨.notInjectable, "N"⟩), moved) ∧
      look source moved = shown := by
  obtain ⟨pipeline, _, checked⟩ := Option.bind_eq_some_iff.1 checked
  obtain ⟨source, _, checked⟩ := Option.map_eq_some_iff.1 checked
  generalize isMoved : pipeline.transform source = result at checked
  obtain ⟨outcome, moved⟩ := result
  simp only [Prod.mk.injEq, Option.isNone_iff_eq_none] at checked
  obtain ⟨names, isRecord, clean, isShown⟩ := checked
  rw [← Source.firstUndefined?_singleton] at clean
  cases outcome with
  | error fault => cases isRecord
  | ok outcome =>
      cases isRecord
      exact ⟨pipeline, source, moved, clean, declared_of_names names, isMoved, isShown⟩

/-- A constructor that keeps a literal without local names. -/
theorem transform_hygiene_literal :
    ∃ (pipeline : Pipeline) (source moved : Source) (record : Record),
      Source.firstUndefined? [source] = none ∧ pipeline.transform source = (.ok record, moved) ∧
        ∃ (heads : List Decl) (decl : FuncDecl) (tails : List Decl) (init : Expr),
          moved.file.decls = heads ++ .func (decl.withBody (record.wrapper.body init)) :: tails ∧
            init.Resolves ⟨Source.packageOf [source], .ofFile source.file⟩ decl.env := by
  obtain ⟨pipeline, source, moved, clean, declared, isMoved, isShown⟩ :=
    exists_moved "func N() *F { return &F{} }"
      (fun source moved => ((FileScope.ofFile source.file).hasDotImport,
        moved.undefined? (Source.packageOf [moved])))
      (show _ = some (_, _, _, false, none) by decide +kernel)
  obtain ⟨closed, cleanAfter⟩ := Prod.mk.inj isShown
  rw [← Source.firstUndefined?_singleton] at cleanAfter
  have isClean : Source.firstUndefined? ([] ++ source :: []) = none := clean
  obtain ⟨heads, decl, tails, init, _, decls, resolves, _⟩ :=
    (transform_hygiene isClean declared isMoved).2 _ rfl
  refine ⟨pipeline, source, moved, _, clean, isMoved, heads, decl, tails, init, decls, ?_⟩
  exact (resolves.1 cleanAfter).resolve_left (by simp [closed])

/-- A constructor that keeps a literal with a local name, which is undefined afterwards; and one
with a parameter of the name that its new body defines. -/
theorem transform_hygiene_local :
    (∃ (pipeline : Pipeline) (source moved : Source) (record : Record),
      Source.firstUndefined? [source] = none ∧
        Wrapper.Declared (Source.packageOf [source]) ∧
        pipeline.transform source = (.ok record, moved) ∧
        Source.firstUndefined? [moved] = some (.undefined ⟨"a.go"⟩ ⟨7, 39⟩ "v")) ∧
    ∃ (pipeline : Pipeline) (source moved : Source) (record : Record),
      Source.firstUndefined? [source] = none ∧
        Wrapper.Declared (Source.packageOf [source]) ∧
        pipeline.transform source = (.ok record, moved) ∧
        ∃ decl ∈ moved.file.funcDecls, decl.name.name = record.symbol ∧ ¬decl.DefinesFresh := by
  constructor
  · obtain ⟨pipeline, source, moved, clean, declared, isMoved, undefined⟩ :=
      exists_moved "func N() *F { var v = 1; return &F{n: v} }"
        (fun _ moved => moved.undefined? (Source.packageOf [moved]))
        (show _ = some (_, _, _, some (.undefined ⟨"a.go"⟩ ⟨7, 39⟩ "v")) by decide +kernel)
    rw [← Source.firstUndefined?_singleton] at undefined
    exact ⟨pipeline, source, moved, _, clean, declared, isMoved, undefined⟩
  · obtain ⟨pipeline, source, moved, clean, declared, isMoved, isShown⟩ :=
      exists_moved "func N(a int) *F { return &F{n: a} }"
        (fun _ moved => moved.file.funcDecls.any fun decl => decl.name.name = "N" &&
          decl.body.any fun body => body.defines.any fun ident =>
            decl.headNames.any fun other => other.name = ident.name)
        (show _ = some (_, _, _, true) by decide +kernel)
    simp only [List.any_eq_true, Option.any_eq_true, Bool.and_eq_true, decide_eq_true_eq]
      at isShown
    obtain ⟨decl, isFunc, named, body, hasBody, ident, defined, other, isHead, same⟩ := isShown
    exact ⟨pipeline, source, moved, _, clean, declared, isMoved, decl, isFunc, named,
      fun fresh => fresh body hasBody ident defined other isHead same⟩

end Pipeline

end GoMend
