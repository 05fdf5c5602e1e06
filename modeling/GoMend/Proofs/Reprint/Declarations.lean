import GoMend.Proofs.Reprint.Shaping

/-!
# Values of declarations are shaped

Behind the values of an entry the end of the entry is read, so no error stands there, and what
is read keeps the promise of the grammar.
-/

namespace GoMend

open GoMend.Parser
open ParserState (Leads)

/-- The values of the entry are shaped, unless they hold a node that its layout need not bring
back. -/
def Spec.ValuesShaped (spec : Spec) : Prop :=
  ∀ entry, spec = .value entry → ∀ value ∈ entry.values, value.reprints = true →
    Shaped (.binary 1) value

/-- The values of all entries are shaped. -/
def Decl.ValuesShaped (decl : Decl) : Prop :=
  ∀ group, decl = .gen group → ∀ spec ∈ group.specs, spec.ValuesShaped

namespace Grammar

variable {below : Reader} [∀ production, Forward (below production)] {state : ParserState}

theorem takeTrailing_kind : takeTrailing.Ensures state fun _ final => final.kind = state.kind := by
  apply takeTrailing_ensures.weaken
  rintro comment final ⟨comments, rfl⟩
  exact ParserState.kind_setComments

/-- Where an entry ends no error stands. -/
theorem expectSemicolon_calm :
    expectSemicolon.Ensures state fun _ _ => state.kind ≠ .error := by
  simp only [expectSemicolon, ends_bind, ends_eat, ends_ite, ends_pure, ends_atAny, ends_peek,
    ends_fail]
  refine ⟨fun isEnd => ⟨fun _ => calm_of isEnd (by decide), (absurd trivial ·)⟩,
    fun _ => ⟨(absurd · Bool.false_ne_true), fun _ => ⟨fun closes => ?_, fun _ => trivial⟩⟩⟩
  have tested : Kind.error ∉ [Kind.rightParen, .rightBrace, .endOfFile] := by decide
  exact fun isError => tested (isError ▸ List.contains_iff_mem.1 closes)

theorem exprList_shapes (shapes : below.Shapes) :
    (exprList below).Promises state fun exprs _ =>
      ∀ value ∈ exprs, value.reprints = true → Shaped (.binary 1) value := by
  refine Forward.promises fun orderly => ?_
  simp only [exprList, ends_bind, ends_pure]
  refine (shapes (.binary 1) _ orderly).weaken fun first middle firstPromise => ?_
  refine (shapes .exprTail _ firstPromise.1.orderly).weaken fun others final promise calm => ?_
  obtain ⟨middleCalm, othersShaped⟩ := promise.2 calm
  refine List.forall_mem_cons.2 ⟨fun reprints => ?_, othersShaped⟩
  exact (firstPromise.2 middleCalm reprints).1.shaped

theorem valueSpec_shapes (shapes : below.Shapes) (doc : List Comment) :
    (valueSpec below doc).Promises state fun entry _ => (Spec.value entry).ValuesShaped := by
  refine Forward.promises fun orderly => ?_
  have ended : ∀ (names : List Ident) (type : Option Expr) (values : List Expr)
      (now : ParserState), (now.kind ≠ .error → ∀ value ∈ values, value.reprints = true →
        Shaped (.binary 1) value) →
      takeTrailing.Ensures now fun comment final => final.kind ≠ .error →
        (Spec.value ⟨doc, names, type, values, comment⟩).ValuesShaped := by
    intro names type values now shaped
    refine takeTrailing_kind.weaken fun comment final same calm => ?_
    rintro _ ⟨⟩
    exact shaped (same ▸ calm)
  have valued : ∀ (names : List Ident) (type : Option Expr) (now : ParserState), now.Orderly →
      (now.kind = .eq → (exprList below).Ensures now.advance fun values last =>
        takeTrailing.Ensures last fun comment final => final.kind ≠ .error →
          (Spec.value ⟨doc, names, type, values, comment⟩).ValuesShaped) ∧
      (now.kind ≠ .eq → takeTrailing.Ensures now fun comment final => final.kind ≠ .error →
        (Spec.value ⟨doc, names, type, [], comment⟩).ValuesShaped) := by
    intro names type now nowOrderly
    refine ⟨fun _ => ?_, fun _ => ended _ _ _ _ nofun⟩
    refine (exprList_shapes shapes (Leads.advance nowOrderly).orderly).weaken
      fun values last promise => ended _ _ _ _ promise.2
  simp only [valueSpec, ends_bind, ends_atAny, ends_ite, ends_pure, ends_eat, true_implies,
    not_true_eq_false, false_implies, and_true, Bool.false_eq_true, not_false_eq_true, true_and]
  refine (Forward.leads orderly).weaken fun names middle leads => ⟨fun _ => ?_, fun _ => ?_⟩
  · exact valued names none middle leads.orderly
  · refine (Forward.leads leads.orderly).weaken fun type now typeLeads => ?_
    exact valued names (some type) now typeLeads.orderly

theorem spec_shapes (shapes : below.Shapes) (keyword : DeclKeyword) (doc : List Comment) :
    (spec below keyword doc).Promises state fun entry _ => entry.ValuesShaped := by
  refine Forward.promises fun orderly => ?_
  unfold spec
  cases keyword with
  | imports | types =>
      simp only [ends_bind, ends_pure]
      exact (ensures_trivial _ _).weaken fun _ _ _ _ => by simp [Spec.ValuesShaped]
  | consts | vars =>
      simp only [ends_bind, ends_pure]
      exact (valueSpec_shapes shapes doc orderly).weaken fun _ _ promise => promise.2

end Grammar

namespace Production

open Grammar

variable {state : ParserState}

/-- The entries of a group that was read. -/
theorem specs_shaped (bound : Nat) (keyword : DeclKeyword) (orderly : state.Orderly) :
    (read bound (.specs keyword)).Ensures state fun entries _ =>
      ∀ spec ∈ entries, spec.ValuesShaped := by
  induction bound generalizing state with
  | zero => exact trivial
  | succ bound ih =>
      show (Grammar.specs (read bound) keyword).Ensures _ _
      simp only [Grammar.specs, ends_bind, ends_atAny, ends_ite, ends_pure]
      refine ⟨fun _ => by simp, fun _ => ?_⟩
      refine (Forward.leads orderly).weaken fun doc afterDoc docLeads => ?_
      refine (spec_shapes (read_shapes bound) keyword doc docLeads.orderly).weaken
        fun first middle promise => ?_
      refine (Ends.and expectSemicolon_calm (Forward.leads promise.1.orderly)).weaken
        fun _ now ended => ?_
      exact (ih ended.2.orderly).weaken fun others final shaped =>
        List.forall_mem_cons.2 ⟨promise.2 ended.1, shaped⟩

/-- A declaration of entries behind which no error stands. -/
theorem genDecl_shaped (bound : Nat) (keyword : DeclKeyword) (doc : List Comment) :
    (genDecl (read bound) keyword doc).Promises state fun group _ =>
      ∀ spec ∈ group.specs, spec.ValuesShaped := by
  refine Forward.promises fun orderly => ?_
  have next := Leads.advance orderly
  simp only [genDecl, ends_bind, ends_bump, ends_eat, ends_ite, ends_expect, ends_pure,
    true_implies, not_true_eq_false, false_implies, and_true, Bool.false_eq_true,
    not_false_eq_true, true_and]
  refine ⟨fun _ => ?_, fun _ => ?_⟩
  · refine (specs_shaped bound keyword (Leads.advance next.orderly).orderly).weaken
      fun entries final shaped => ⟨fun _ _ => shaped, fun _ => trivial⟩
  · refine (spec_shapes (read_shapes bound) keyword [] next.orderly).weaken
      fun only final promise calm => ?_
    exact List.forall_mem_singleton.2 (promise.2 calm)

theorem decl_shaped (bound : Nat) (doc : List Comment) :
    (decl (read bound) doc).Promises state fun decl _ => decl.ValuesShaped := by
  refine Forward.promises fun orderly => ?_
  unfold decl
  simp only [ends_bind, ends_peek]
  split
  case h_1 | h_2 | h_3 =>
    simp only [ends_bind, ends_pure]
    refine (genDecl_shaped bound _ doc orderly).weaken fun group final promise calm => ?_
    rintro _ ⟨⟩
    exact promise.2 calm
  case h_4 =>
    simp only [ends_bind, ends_pure]
    exact (ensures_trivial _ _).weaken fun _ _ _ _ => by simp [Decl.ValuesShaped]
  case h_5 | h_6 => exact trivial

theorem imports_shaped (bound : Nat) (orderly : state.Orderly) :
    (read bound .imports).Ensures state fun decls _ => ∀ decl ∈ decls, decl.ValuesShaped := by
  induction bound generalizing state with
  | zero => exact trivial
  | succ bound ih =>
      show (Grammar.imports (read bound)).Ensures _ _
      simp only [Grammar.imports, ends_bind, ends_at?, ends_ite, ends_pure]
      refine ⟨fun _ => ?_, fun _ => by simp⟩
      refine (Forward.leads orderly).weaken fun doc afterDoc docLeads => ?_
      refine (genDecl_shaped bound .imports doc docLeads.orderly).weaken
        fun first middle promise => ?_
      refine (Ends.and expectSemicolon_calm (Forward.leads promise.1.orderly)).weaken
        fun _ now ended => ?_
      refine (ih ended.2.orderly).weaken fun others final shaped =>
        List.forall_mem_cons.2 ⟨?_, shaped⟩
      rintro _ ⟨⟩
      exact promise.2 ended.1

theorem decls_shaped (bound : Nat) (orderly : state.Orderly) :
    (read bound .decls).Ensures state fun decls _ => ∀ decl ∈ decls, decl.ValuesShaped := by
  induction bound generalizing state with
  | zero => exact trivial
  | succ bound ih =>
      show (Grammar.decls (read bound)).Ensures _ _
      simp only [Grammar.decls, ends_bind, ends_at?, ends_ite, ends_pure]
      refine ⟨fun _ => by simp, fun _ => ?_⟩
      refine (Forward.leads orderly).weaken fun doc afterDoc docLeads => ?_
      refine (decl_shaped bound doc docLeads.orderly).weaken fun first middle promise => ?_
      refine (Ends.and expectSemicolon_calm (Forward.leads promise.1.orderly)).weaken
        fun _ now ended => ?_
      exact (ih ended.2.orderly).weaken fun others final shaped =>
        List.forall_mem_cons.2 ⟨promise.2 ended.1, shaped⟩

end Production

namespace File

open Grammar Production

/-- The values of the declarations of a file that was read are shaped. -/
theorem parse_shaped {text : String} {file : File} (parsed : File.parse text = .ok file) :
    ∀ decl ∈ file.decls, decl.ValuesShaped := by
  have orderly : (ParserState.ofText text).Orderly := Lexed.ofText_orderly text
  have run : ∀ bound, (Grammar.file (read bound)).Ensures (.ofText text) fun file _ =>
      ∀ decl ∈ file.decls, decl.ValuesShaped := by
    intro bound
    simp only [Grammar.file, ends_bind, ends_pure]
    refine (Forward.leads orderly).weaken fun doc _ docLeads => ?_
    refine (Forward.leads docLeads.orderly).weaken fun _ _ packageLeads => ?_
    refine (Forward.leads packageLeads.orderly).weaken fun _ _ nameLeads => ?_
    refine (Forward.leads nameLeads.orderly).weaken fun _ _ endLeads => ?_
    have forward : Forward (read bound .imports) := read_forward bound .imports
    refine (Ends.and (imports_shaped bound endLeads.orderly)
      (Forward.leads endLeads.orderly)).weaken fun imports _ importsRead => ?_
    refine (decls_shaped bound importsRead.2.orderly).weaken fun decls _ declsShaped => ?_
    refine (ensures_trivial _ _).weaken fun trailing _ _ => ?_
    exact List.forall_mem_append.2 ⟨importsRead.1, declsShaped⟩
  simp only [File.parse] at parsed
  split at parsed
  · rename_i final ran
    cases parsed
    exact (run _).of_ok ran
  · cases parsed

end File

end GoMend
