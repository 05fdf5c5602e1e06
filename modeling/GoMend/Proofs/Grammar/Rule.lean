import GoMend.Proofs.Grammar.Forward

/-!
# The rules of the grammar

A rule is a production that others refer to, or a part of productions that has a name of its own.
All rules are put together from primitive parsers and the productions below.  So whatever primitive
parsers do and putting parsers together keeps, all rules do: each of them goes on to later words
only, and one that succeeds leaves the nesting level as it found it.
-/

namespace GoMend

namespace Parser

variable {α β γ : Type}

/-! ## The nesting level -/

/-- Whenever the parser succeeds, it leaves the level as it found it. -/
class Steady (parser : Parser α) : Prop where
  same : ∀ state, parser.Ensures state fun _ final => final.level = state.level

theorem level_advance (state : ParserState) : state.advance.level = state.level := by
  unfold ParserState.advance
  split <;> rfl

instance {parser : Parser α} [primitive : Primitive parser] : Steady parser where
  same state := by
    cases primitive with
    | bump => exact level_advance state
    | eat => exact ends_eat.2 ⟨fun _ => level_advance state, fun _ => rfl⟩
    | expect => exact ends_expect.2 ⟨fun _ => level_advance state, fun _ => trivial⟩
    | takeTrailing =>
        apply takeTrailing_ensures.weaken
        rintro comment final ⟨comments, rfl⟩
        rfl
    | fail | failAt | stop => trivial
    | _ => rfl

instance {first : Parser α} {next : α → Parser β} [steady : Steady first]
    [each : ∀ result, Steady (next result)] : Steady (first >>= next) where
  same state := by
    rw [Ensures, ends_bind]
    apply (steady.same state).weaken
    intro result middle same
    rw [← same]
    exact (each result).same middle

/-- A change of the level is undone if the inner parser leaves the level as it finds it. -/
theorem steady_atLevel {enter : Int → Int} {leave : Int → Int → Int} {parser : Parser α}
    [steady : Steady parser] (undone : ∀ level, leave level (enter level) = level) :
    Steady (atLevel enter leave parser) where
  same state := by
    rw [Ensures, ends_atLevel]
    apply (steady.same _).mono
    · intro result final same
      change leave state.level final.level = state.level
      rw [same]
      exact undone state.level
    · intro error final _
      trivial

/-- A level that was kept aside is put back whatever the first parser does with it. -/
theorem steady_restored {level : Int} {first : Int → Parser α} {next : α → Parser β}
    [each : ∀ result, Steady (next result)] :
    Steady (Parser.level >>= fun saved => setLevel level >>= fun _ =>
      first saved >>= fun result => setLevel saved >>= fun _ => next result) where
  same state := by
    rw [Ensures, ends_bind, ends_level, ends_bind, ends_setLevel, ends_bind]
    apply (ensures_trivial _ _).weaken
    intro result middle _
    rw [ends_bind, ends_setLevel]
    exact (each result).same (middle.setLevel state.level)

/-- Parsers that are put together from productions which leave the level as they find it do so. -/
theorem Parallel.steady {left right : Reader} [each : ∀ production, Steady (left production)]
    {first second : Parser α} (parallel : Parallel left right first second) : Steady first := by
  induction parallel with
  | primitive isPrimitive => infer_instance
  | below production => exact each production
  | bind _ _ steadyFirst steadyNext => infer_instance
  | atLevel undone _ steadyInner => exact steady_atLevel undone
  | restored level _ _ _ steadyNext => exact steady_restored
  | attempt _ _ _ told steadyFirst steadyClosing steadyNext =>
      refine ⟨fun state => ?_⟩
      rw [Ensures, ends_bind, ends_outcome]
      apply (steadyFirst.same state).mono
      · intro result middle same
        rw [ends_bind]
        apply (steadyClosing.same middle).weaken
        intro close behind sameBehind
        rw [← same, ← sameBehind]
        exact (steadyNext result).same behind
      -- A parser that has failed gives no result, whatever it does with the level.
      · intro error middle _
        rw [ends_bind]
        apply (ensures_trivial _ _).weaken
        intro close behind _
        rw [(told error).1]
        trivial

/-! ## What is given at a level -/

/-- Whatever the parser gives at the level is as wanted, and the level is the same afterwards. -/
def GivesAt (level : Int) (wanted : α → Prop) (parser : Parser α) : Prop :=
  ∀ state : ParserState, state.level = level →
    parser.Ensures state fun result final => wanted result ∧ final.level = level

namespace GivesAt

variable {level : Int} {good : α → Prop} {wanted : β → Prop}

theorem of_steady {parser : Parser α} [steady : Steady parser] :
    parser.GivesAt level fun _ => True := by
  intro state here
  apply (steady.same state).weaken
  intro result final same
  exact ⟨trivial, same.trans here⟩

theorem weaken {parser : Parser α} {weak : α → Prop} (gives : parser.GivesAt level good)
    (goodWeak : ∀ value, good value → weak value) : parser.GivesAt level weak :=
  fun state here => (gives state here).weaken fun value _ read => ⟨goodWeak value read.1, read.2⟩

/-- What is wanted of a parser only under a condition may be shown under it. -/
theorem of_imp {parser : Parser β} [Steady parser] {given : Prop}
    (gives : given → parser.GivesAt level wanted) :
    parser.GivesAt level fun result => given → wanted result := by
  by_cases holds : given
  · exact (gives holds).weaken fun _ read _ => read
  · exact of_steady.weaken fun _ _ other => absurd other holds

theorem pure {result : β} (holds : wanted result) :
    (Pure.pure result : Parser β).GivesAt level wanted :=
  fun _ here => ⟨holds, here⟩

theorem fail {fault : SyntaxFault} : (Parser.fail fault : Parser β).GivesAt level wanted :=
  fun _ _ => trivial

theorem failAt {fault : SyntaxFault} {offset : Nat} :
    (Parser.failAt fault offset : Parser β).GivesAt level wanted :=
  fun _ _ => trivial

/-- A parser that sets the level and stops gives nothing. -/
theorem stop {outer : Int} {fault : SyntaxFault} :
    (setLevel outer >>= fun _ => (Parser.fail fault : Parser β)).GivesAt level wanted :=
  fun _ _ => trivial

theorem bind {first : Parser α} {next : α → Parser β} (gives : first.GivesAt level good)
    (each : ∀ value, good value → (next value).GivesAt level wanted) :
    (first >>= next).GivesAt level wanted := by
  intro state here
  rw [Ensures, ends_bind]
  apply (gives state here).weaken
  intro value middle read
  exact each value read.1 middle read.2

theorem after {first : Parser α} {next : α → Parser β} [Steady first]
    (each : ∀ value, (next value).GivesAt level wanted) :
    (first >>= next).GivesAt level wanted :=
  of_steady.bind fun value _ => each value

theorem ite {condition : Prop} [Decidable condition] {yes no : Parser β}
    (givesYes : yes.GivesAt level wanted) (givesNo : no.GivesAt level wanted) :
    (if condition then yes else no).GivesAt level wanted := by
  split
  · exact givesYes
  · exact givesNo

theorem atLevel {enter : Int → Int} {leave : Int → Int → Int} {parser : Parser β}
    (undone : leave level (enter level) = level) (gives : parser.GivesAt (enter level) wanted) :
    (Parser.atLevel enter leave parser).GivesAt level wanted := by
  intro state here
  rw [Ensures, ends_atLevel, here]
  apply (gives (state.setLevel (enter level)) rfl).mono
  · intro result final read
    refine ⟨read.1, ?_⟩
    change leave level final.level = level
    rw [read.2, undone]
  · intro error final _
    trivial

/-- In brackets the inner parser starts one level further in. -/
theorem nested {parser : Parser β} (gives : parser.GivesAt (level + 1) wanted) :
    (Parser.nested parser).GivesAt level wanted :=
  .atLevel (by omega) gives

theorem fresh {parser : Parser β} (gives : parser.GivesAt 0 wanted) :
    (Parser.fresh parser).GivesAt level wanted :=
  .atLevel rfl gives

/-- Between setting the level and putting it back the first parser starts at the level that was
set. -/
theorem restored {inner : Int} {first : Int → Parser α} {next : α → Parser β}
    (gives : (first level).GivesAt inner good)
    (each : ∀ value, good value → (next value).GivesAt level wanted) :
    (Parser.level >>= fun saved => setLevel inner >>= fun _ =>
      first saved >>= fun result => setLevel saved >>= fun _ => next result).GivesAt
        level wanted := by
  intro state here
  rw [Ensures, ends_bind, ends_level, ends_bind, ends_setLevel, ends_bind, here]
  apply (gives (state.setLevel inner) rfl).weaken
  intro value middle read
  rw [ends_bind, ends_setLevel]
  exact each value read.1 (middle.setLevel level) rfl

/-- An error that is told only after the closing has been read gives no result. -/
theorem attempt {first : Parser α} {closing : Parser γ} {next : Except SyntaxError α → Parser β}
    [Steady closing] (gives : first.GivesAt level good)
    (each : ∀ value, good value → (next (.ok value)).GivesAt level wanted)
    (told : ∀ error, next (.error error) = throw error) :
    (outcome first >>= fun read => closing >>= fun _ => next read).GivesAt level wanted := by
  intro state here
  rw [Ensures, ends_bind, ends_outcome]
  apply (gives state here).mono
  · intro value middle read
    have closed : (closing >>= fun _ => next (.ok value)).GivesAt level wanted :=
      after fun _ => each value read.1
    exact closed middle read.2
  · intro error middle _
    rw [ends_bind]
    apply (ensures_trivial _ _).weaken
    intro close behind _
    rw [told error]
    trivial

end GivesAt

end Parser

namespace Grammar

/-! ## Rules -/

/-- The parser is a rule of the grammar, given a reader for the productions below it. -/
inductive Rule (below : Reader) : {α : Type} → Parser α → Prop
  | production (production : Production) : Rule below (below production)
  | body (production : Production) : Rule below (production.body below)
  | expectSemicolon : Rule below Parser.expectSemicolon
  | ident : Rule below Parser.ident
  | typeName : Rule below typeName
  | identList : Rule below (identList below)
  | paramType : Rule below (paramType below)
  | parameters : Rule below (parameters below)
  | results : Rule below (results below)
  | signature : Rule below (signature below)
  | arrayLength : Rule below (arrayLength below)
  | fieldTag : Rule below fieldTag
  | structFieldHead : Rule below (structFieldHead below)
  | interfaceMemberHead : Rule below (interfaceMemberHead below)
  | structMembers : Rule below (memberList (below .structFields))
  | interfaceMembers : Rule below (memberList (below .interfaceMembers))
  | expr : Rule below (expr below)
  | exprList : Rule below (exprList below)
  | functionBody : Rule below (functionBody below)
  | compositeBody (type : Option Expr) : Rule below (compositeBody below type)
  | exprOrType : Rule below (exprOrType below)
  | operand : Rule below (operand below)
  | sliceBounds (base : Expr) (low : Option Expr) : Rule below (sliceBounds below base low)
  | indexOrSlice (base : Expr) : Rule below (indexOrSlice below base)
  | selectorOrAssertion (base : Expr) : Rule below (selectorOrAssertion below base)
  | simpleFrom (first : Expr) (others : List Expr) : Rule below (simpleFrom below first others)
  | simple : Rule below (simple below)
  | loopClause : Rule below (loopClause below)
  | conditionalHeader (saved : Int) : Rule below (conditionalHeader below saved)
  | alternative : Rule below (alternative below)
  | switchHeader : Rule below (switchHeader below)
  | switch : Rule below (switch below)
  | select : Rule below (select below)
  | loopClauses (init : Option Stmt) : Rule below (loopClauses below init)
  | loopHeader (saved : Int) : Rule below (loopHeader below saved)
  | loop : Rule below (loop below)
  | importName : Rule below importName
  | importSpec (doc : List Comment) : Rule below (importSpec doc)
  | valueSpec (doc : List Comment) : Rule below (valueSpec below doc)
  | typeSpec (doc : List Comment) : Rule below (typeSpec below doc)
  | spec (keyword : DeclKeyword) (doc : List Comment) : Rule below (spec below keyword doc)
  | genDecl (keyword : DeclKeyword) (doc : List Comment) : Rule below (genDecl below keyword doc)
  | funcDecl (doc : List Comment) : Rule below (funcDecl below doc)
  | decl (doc : List Comment) : Rule below (decl below doc)
  | file : Rule below (file below)

end Grammar

open GoMend.Parser

theorem Production.body_parallel (left right : Reader) (production : Production) :
    Parallel left right (production.body left) (production.body right) := by
  cases production <;> dsimp only [body] <;> infer_instance

namespace Grammar

namespace Rule

variable {below : Reader} {α : Type} {parser : Parser α}

/-- A rule is put together from the productions below it. -/
theorem parallel (rule : Rule below parser) : Parallel below below parser parser := by
  cases rule with
  | body production => exact production.body_parallel _ _
  | _ => infer_instance

/-- However a rule ends, it has only gone on to later words. -/
theorem forward [∀ production, Forward (below production)] (rule : Rule below parser) :
    Forward parser := by
  cases rule with
  | body production => exact production.body_forward _
  | _ => infer_instance

/-- A rule that succeeds leaves the nesting level as it found it. -/
theorem steady [∀ production, Steady (below production)] (rule : Rule below parser) :
    Steady parser :=
  rule.parallel.steady

end Rule

end Grammar

namespace Production

-- What a production reads is computed from it, so instances cannot be found by it.
instance read_steady (bound : Nat) (production : Production) :
    @Steady (no_index production.Result) (read bound production) := by
  induction bound generalizing production with
  | zero => exact ⟨fun _ => trivial⟩
  | succ bound ih => exact (production.body_parallel (read bound) (read bound)).steady

end Production

namespace Grammar

/-! ## Parts that no expression is read in -/

instance : Steady Parser.ident :=
  (Rule.ident : Rule (Production.read 0) Parser.ident).steady

instance : Steady Parser.expectSemicolon :=
  (Rule.expectSemicolon : Rule (Production.read 0) Parser.expectSemicolon).steady

instance : Steady fieldTag :=
  (Rule.fieldTag : Rule (Production.read 0) fieldTag).steady

instance (doc : List Comment) : Steady (importSpec doc) :=
  (Rule.importSpec doc : Rule (Production.read 0) (importSpec doc)).steady

end Grammar

end GoMend
