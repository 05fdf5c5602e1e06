import GoMend.Proofs.Formed.Heads
import GoMend.Proofs.Grammar.Forward
import GoMend.Proofs.Grammar.Outcome

/-!
# Signatures are made of what stands there

The lists of a signature are made of the entries that were read: as many names and unnamed types
come out of them as entries stand between the commas.
-/

namespace GoMend

open GoMend.Parser

/-- What is read by a parser is a row of words. -/
theorem Parser.ensures_consumes {α : Type} (parser : Parser α) [forward : Forward parser]
    (state : ParserState) : parser.Ensures state fun result final =>
      ∃ words, state.ahead = words ++ final.ahead ∧ parser.Consumes words result := by
  apply ensures_of_ok
  intro result final run
  obtain ⟨words, ahead⟩ := ((forward.before state).of_ok run).ahead
  exact ⟨words, ahead.symm, state, final, run, ahead.symm⟩

theorem FieldList.arity_cons (field : Field) (fields : List Field) :
    FieldList.arity ⟨field :: fields, []⟩ =
      max field.names.length 1 + FieldList.arity ⟨fields, []⟩ :=
  rfl

namespace Grammar

/-! ## Lists of a signature -/

/-- Entries are read as they stand, each of them behind the comma of the one before. -/
theorem entries_params {bound : Nat}
    (below : ∀ state, (Production.read bound .params).Ensures state fun entries final =>
      ∃ words, state.ahead = words ++ final.ahead ∧ ParamEntries words entries)
    (state : ParserState) : (params (Production.read bound)).Ensures state fun entries final =>
      ∃ words, state.ahead = words ++ final.ahead ∧ ParamEntries words entries := by
  have further : ∀ (entry : Expr × Option Expr) (middle : ParserState) (words : List Token),
      state.ahead = words ++ middle.ahead → IsParamEntry words entry → (do
        if ← eat .comma then return entry :: (← Production.read bound .params)
        else return [entry] : Parser (List (Expr × Option Expr))).Ensures middle
          fun entries final =>
            ∃ words, state.ahead = words ++ final.ahead ∧ ParamEntries words entries := by
    intro entry middle words ahead isEntry
    rw [Ensures, ends_bind, ends_eat]
    constructor
    · intro isComma
      rw [if_pos rfl, ends_bind]
      obtain ⟨comma, parts, behind⟩ := ParserState.ahead_of_kind isComma (by decide)
      apply (below middle.advance).weaken
      rintro entries final ⟨rest, restAhead, others⟩
      refine ⟨words ++ comma :: rest, ?_, .more isEntry parts others⟩
      rw [ahead, behind, restAhead, List.append_assoc, List.cons_append]
    · intro _
      exact ⟨words, ahead, .last isEntry⟩
  rw [params, Ensures, ends_bind, ends_atAny, ends_ite]
  constructor
  · intro _
    exact ⟨[], rfl, .none⟩
  · intro _
    rw [ends_bind]
    apply (ensures_consumes (paramType (Production.read bound)) state).weaken
    rintro first middle ⟨words, ahead, readsName⟩
    rw [ends_bind, ends_atAny, ends_ite]
    constructor
    · intro _
      exact further (first, none) middle words ahead (.plain readsName)
    · intro _
      rw [ends_bind]
      apply (ensures_consumes (paramType (Production.read bound)) middle).weaken
      rintro type behind ⟨typeWords, typeAhead, readsType⟩
      apply further (first, some type) behind (words ++ typeWords)
      · rw [ahead, typeAhead, List.append_assoc]
      · exact .named readsName readsType

theorem read_entries (bound : Nat) (state : ParserState) :
    (Production.read bound .params).Ensures state fun entries final =>
      ∃ words, state.ahead = words ++ final.ahead ∧ ParamEntries words entries := by
  induction bound generalizing state with
  | zero => trivial
  | succ bound ih => exact entries_params ih state

/-- Names are gathered until one of them has a type, and all that are gathered count. -/
theorem Groups.arity {pending : List Ident} {entries : List (Expr × Option Expr)}
    {fields : List Field} (groups : Groups pending entries fields) :
    FieldList.arity ⟨fields, []⟩ = pending.length + entries.length := by
  induction groups with
  | nil => rfl
  | wait name _ ih =>
      rw [ih, List.length_append, List.length_singleton, List.length_cons]
      omega
  | take pending name type _ ih =>
      rw [FieldList.arity_cons, ih, namedField, List.length_append, List.length_singleton,
        List.length_cons, List.length_nil]
      omega

theorem arity_unnamed (entries : List (Expr × Option Expr)) :
    FieldList.arity ⟨entries.map fun entry => unnamedField entry.1, []⟩ = entries.length := by
  induction entries with
  | nil => rfl
  | cons entry rest ih =>
      rw [List.map_cons, FieldList.arity_cons, ih, unnamedField, List.length_nil, List.length_cons]
      omega

/-- The fields that the entries of a list make are together as many as the entries. -/
theorem arity_groupParams? {entries : List (Expr × Option Expr)} {fields : List Field}
    (grouped : groupParams? entries = some fields) :
    FieldList.arity ⟨fields, []⟩ = entries.length := by
  rw [groupParams?] at grouped
  split at grouped
  · rw [(groups_of_groupNamed? grouped).arity, List.length_nil, Nat.zero_add]
  · cases grouped
    exact arity_unnamed entries

variable (bound : Nat) (state : ParserState)

theorem madeOf_parameters :
    (parameters (Production.read bound)).Ensures state fun list final =>
      ∃ words, state.ahead = words ++ final.ahead ∧ list.MadeOf words := by
  rw [parameters, Ensures, ends_bind, ends_expect]
  constructor
  · intro isOpening
    obtain ⟨opening, opens, behind⟩ := ParserState.ahead_of_kind isOpening (by decide)
    rw [ends_bind, ends_level, ends_bind, ends_setLevel, ends_bind]
    apply (read_entries bound (state.advance.setLevel 0)).weaken
    rintro entries middle ⟨words, ahead, listed⟩
    rw [ParserState.ahead_setLevel] at ahead
    rw [ends_bind, ends_setLevel, ends_bind, ends_expect]
    constructor
    · intro isClose
      obtain ⟨close, closes, after⟩ := ParserState.ahead_of_kind isClose (by decide)
      rw [ParserState.advance_setLevel, ParserState.ahead_setLevel,
        ParserState.ahead_setLevel] at after
      split
      · rename_i fields grouped
        refine ⟨opening :: (words ++ [close]), ?_,
          .enclosed opens listed closes grouped (arity_groupParams? grouped)⟩
        rw [behind, ahead, after, ParserState.advance_setLevel, ParserState.ahead_setLevel,
          List.cons_append, List.append_assoc, List.singleton_append]
      · trivial
    · intro _
      trivial
  · intro _
    trivial

theorem madeOf_results :
    (results (Production.read bound)).Ensures state fun results final =>
      ∃ words, state.ahead = words ++ final.ahead ∧ ∀ (params : FieldList) (before : List Token),
        params.MadeOf before → Signature.MadeOf ⟨params, results⟩ (before ++ words) := by
  rw [results, Ensures, ends_bind, ends_at?, ends_ite]
  constructor
  · intro _
    rw [ends_bind]
    apply (madeOf_parameters bound state).weaken
    rintro list final ⟨words, ahead, giving⟩
    exact ⟨words, ahead, fun params before taking => .listed taking giving⟩
  · intro _
    rw [ends_bind, ends_peek, ends_ite]
    constructor
    · intro _
      have := Production.read_forward bound .type
      rw [ends_bind]
      apply (ensures_consumes (Production.read bound .type) state).weaken
      rintro type final ⟨words, ahead, reads⟩
      exact ⟨words, ahead, fun params before taking => .single taking reads⟩
    · intro _
      refine ⟨[], rfl, fun params before taking => ?_⟩
      rw [List.append_nil]
      exact .plain taking

/-- A signature is made of the words that it is read from. -/
theorem madeOf_signature :
    (signature (Production.read bound)).Ensures state fun signature final =>
      ∃ words, state.ahead = words ++ final.ahead ∧ signature.MadeOf words := by
  rw [signature, Ensures, ends_bind]
  apply (madeOf_parameters bound state).weaken
  rintro params middle ⟨before, ahead, taking⟩
  rw [ends_bind]
  apply (madeOf_results bound middle).weaken
  rintro results final ⟨behind, behindAhead, giving⟩
  exact ⟨before ++ behind, by rw [ahead, behindAhead, List.append_assoc],
    giving params before taking⟩

end Grammar

end GoMend
