import GoMend.Grammar.Parser
import GoMend.Proofs.Token.Tiling
import GoMend.Proofs.Token.Words

/-!
# Where semicolons are inserted

Of the tokens of a text the grammar reads the words, and a semicolon behind every word that ends a
statement and has the end of its line, or of the text, before the next word.  Line breaks, and
comments over several lines, decide this together with the last word before them, so what is due
behind a word depends on the tokens that follow it and on nothing in front of it.
-/

namespace GoMend

open ParserState (isInserted)

namespace Token

/-- A semicolon that the scanner finds is spelled in the text. -/
theorem isInserted_of_mem_scan {text : String} {token : Token} (member : token ∈ scan text) :
    isInserted token = false := by
  have spelled : token.kind = .semicolon → token.text = ";" := by
    intro isSemicolon
    obtain ⟨before, behind, -, -, -, longest, -⟩ := scanFrom_cutOut _ _ token member
    obtain ⟨shape, listed, inShape⟩ := (longest (by simp [isSemicolon])).shaped
    rw [isSemicolon] at listed
    -- a category has one shape, and that of semicolons is their spelling
    have unique : (shapes.map Prod.fst).Nodup := by decide +kernel
    have own : fixedShape .semicolon ∈ shapes := by
      simp [shapes, Kind.punctuation]
    obtain rfl := (Prod.mk.inj (List.inj_on_of_nodup_map unique listed own rfl)).2
    rw [← String.toList_inj]
    exact Pattern.mem_language_fixed.1 inShape
  by_cases isSemicolon : token.kind = .semicolon
  · simp [isInserted, spelled isSemicolon]
  · simp [isInserted, isSemicolon]

end Token

namespace Lexed

variable {stop : Nat} {pending : Bool} {tokens before behind : List Token} {token semicolon : Token}

/-- The tokens begin with a line break, or with the end of the text, as far as words are concerned:
nothing but blanks and comments on one line stands before it.  The semicolon for it stands at the
break or at the end. -/
inductive Due (stop : Nat) : List Token → Token → Prop where
  | broken {passed behind : List Token} {breaker : Token} :
      (∀ token ∈ passed, token.kind.isTrivia ∧ breaksLine token = false) → breaksLine breaker →
      Due stop (passed ++ breaker :: behind) (insertedSemicolon "\n" breaker.offset)
  | ended {passed : List Token} :
      (∀ token ∈ passed, token.kind.isTrivia ∧ breaksLine token = false) →
      Due stop passed (insertedSemicolon "" stop)

theorem isTrivia_of_breaksLine (breaks : breaksLine token) : token.kind.isTrivia = true := by
  simp only [breaksLine, Bool.or_eq_true, Bool.and_eq_true, beq_iff_eq] at breaks
  rcases breaks with isBreak | ⟨isComment, -⟩
  · rw [isBreak]
    rfl
  · rw [isComment]
    rfl

theorem due_nil : Due stop [] semicolon ↔ semicolon = insertedSemicolon "" stop := by
  constructor
  · generalize nothing : ([] : List Token) = tokens
    intro due
    cases due with
    | broken => simp at nothing
    | ended => rfl
  · rintro rfl
    exact .ended (List.forall_mem_nil _)

theorem due_cons_of_breaksLine (breaks : breaksLine token) :
    Due stop (token :: behind) semicolon ↔ semicolon = insertedSemicolon "\n" token.offset := by
  constructor
  · generalize whole : token :: behind = tokens
    intro due
    cases due with
    | @broken passed _ breaker quiet _ =>
        cases passed with
        | nil =>
            cases whole
            rfl
        | cons first passed =>
            cases whole
            simp [(quiet token List.mem_cons_self).2] at breaks
    | ended quiet =>
        cases whole
        simp [(quiet token List.mem_cons_self).2] at breaks
  · rintro rfl
    exact .broken (List.forall_mem_nil _) breaks

theorem due_cons_of_not_breaksLine (quiet : breaksLine token = false) :
    Due stop (token :: behind) semicolon ↔ token.kind.isTrivia ∧ Due stop behind semicolon := by
  constructor
  · generalize whole : token :: behind = tokens
    intro due
    cases due with
    | @broken passed _ breaker others breaks =>
        cases passed with
        | nil =>
            cases whole
            simp [quiet] at breaks
        | cons first passed =>
            cases whole
            obtain ⟨first, rest⟩ := List.forall_mem_cons.1 others
            exact ⟨first.1, .broken rest breaks⟩
    | ended others =>
        cases whole
        obtain ⟨first, rest⟩ := List.forall_mem_cons.1 others
        exact ⟨first.1, .ended rest⟩
  · rintro ⟨trivia, due⟩
    cases due with
    | broken others breaks =>
        exact .broken (List.forall_mem_cons.2 ⟨⟨trivia, quiet⟩, others⟩) breaks
    | ended others => exact .ended (List.forall_mem_cons.2 ⟨⟨trivia, quiet⟩, others⟩)

/-! ## Steps of the insertion -/

theorem filter_cons_of_isTrivia (trivia : token.kind.isTrivia) :
    (token :: tokens).filter (!·.kind.isTrivia) = tokens.filter (!·.kind.isTrivia) :=
  List.filter_cons_of_neg (by simp [trivia])

/-- Without the inserted semicolons the words are the tokens that are no trivia. -/
theorem filter_words (spelled : ∀ token ∈ tokens, isInserted token = false) :
    (words stop pending tokens).filter (!isInserted ·) = tokens.filter (!·.kind.isTrivia) := by
  fun_induction words stop pending tokens with
  | case1 => rfl
  | case2 => rfl
  | case3 pending token rest trivia breaks ih =>
      rw [filter_cons_of_isTrivia trivia,
        List.filter_cons_of_neg (by simp [insertedSemicolon, isInserted])]
      exact ih (List.forall_mem_cons.1 spelled).2
  | case4 pending token rest trivia noBreak ih =>
      exact (ih (List.forall_mem_cons.1 spelled).2).trans (filter_cons_of_isTrivia trivia).symm
  | case5 pending token rest isWord ih =>
      obtain ⟨isSpelled, others⟩ := List.forall_mem_cons.1 spelled
      rw [List.filter_cons_of_pos (by simp [isSpelled]),
        List.filter_cons_of_pos (by simpa using isWord), ih others]

/-- What is inserted behind a word depends on the word and on what follows it. -/
theorem words_append (stop : Nat) (pending : Bool) (behind : List Token)
    (spelled : ∀ token ∈ before, isInserted token = false)
    (isWord : token.kind.isTrivia = false) :
    ∃ front, words stop pending (before ++ token :: behind) =
        front ++ token :: words stop token.kind.endsStatement behind ∧
      front.filter (!isInserted ·) = before.filter (!·.kind.isTrivia) := by
  induction before generalizing pending with
  | nil => exact ⟨[], by simp [words, isWord], rfl⟩
  | cons first before ih =>
      obtain ⟨isSpelled, others⟩ := List.forall_mem_cons.1 spelled
      rw [List.cons_append, words]
      split
      · rename_i trivia
        rw [filter_cons_of_isTrivia trivia]
        split
        · obtain ⟨front, same, kept⟩ := ih false others
          refine ⟨_ :: front, congrArg _ same, ?_⟩
          rwa [List.filter_cons_of_neg (by simp [insertedSemicolon, isInserted])]
        · exact ih pending others
      · rename_i noTrivia
        obtain ⟨front, same, kept⟩ := ih first.kind.endsStatement others
        refine ⟨first :: front, congrArg _ same, ?_⟩
        rw [List.filter_cons_of_pos (by simp [isSpelled]),
          List.filter_cons_of_pos (by simpa using noTrivia), kept]

/-- The words begin with an inserted semicolon exactly if one is pending and due. -/
theorem head?_words_iff (spelled : ∀ token ∈ tokens, isInserted token = false) :
    ((words stop pending tokens).head? = some semicolon ∧ isInserted semicolon) ↔
      pending ∧ Due stop tokens semicolon := by
  have inserted : ∀ {text offset}, text ≠ ";" → isInserted (insertedSemicolon text offset) := by
    intro text offset apart
    simpa [isInserted, insertedSemicolon] using apart
  fun_induction words stop pending tokens with
  | case1 =>
      rw [due_nil, List.head?_cons, Option.some.injEq]
      constructor
      · rintro ⟨rfl, -⟩
        exact ⟨rfl, rfl⟩
      · rintro ⟨-, rfl⟩
        exact ⟨rfl, inserted (by decide)⟩
  | case2 => simp_all
  | case3 pending token rest trivia breaks ih =>
      obtain ⟨rfl, breaks⟩ := Bool.and_eq_true_iff.1 breaks
      rw [due_cons_of_breaksLine breaks, List.head?_cons, Option.some.injEq]
      constructor
      · rintro ⟨rfl, -⟩
        exact ⟨rfl, rfl⟩
      · rintro ⟨-, rfl⟩
        exact ⟨rfl, inserted (by decide)⟩
  | case4 pending token rest trivia noBreak ih =>
      refine (ih (List.forall_mem_cons.1 spelled).2).trans ?_
      refine and_congr_right fun isPending => ?_
      rw [isPending, Bool.true_and, Bool.not_eq_true] at noBreak
      rw [due_cons_of_not_breaksLine noBreak, and_iff_right trivia]
  | case5 pending token rest isWord ih =>
      have isSpelled := (List.forall_mem_cons.1 spelled).1
      rw [Bool.not_eq_true] at isWord
      have quiet : breaksLine token = false := by
        by_contra breaks
        rw [Bool.not_eq_false] at breaks
        simp [isTrivia_of_breaksLine breaks] at isWord
      rw [due_cons_of_not_breaksLine quiet, List.head?_cons, Option.some.injEq]
      constructor
      · rintro ⟨rfl, isInserted⟩
        simp [isSpelled] at isInserted
      · rintro ⟨-, trivia, -⟩
        simp [isWord] at trivia

/-- Every inserted semicolon stands directly behind a word of the text. -/
theorem word_before_semicolon (spelled : ∀ token ∈ tokens, isInserted token = false)
    {front back : List Token} (split : words stop pending tokens = front ++ semicolon :: back)
    (inserted : isInserted semicolon) :
    front = [] ∧ pending ∨
      ∃ passed token, front = passed ++ [token] ∧ isInserted token = false := by
  have behind : ∀ {first : Token} {front : List Token},
      (∃ passed token, front = passed ++ [token] ∧ isInserted token = false) →
      ∃ passed token, first :: front = passed ++ [token] ∧ isInserted token = false := by
    rintro first _ ⟨passed, token, rfl, isSpelled⟩
    exact ⟨first :: passed, token, rfl, isSpelled⟩
  fun_induction words stop pending tokens generalizing front with
  | case1 =>
      cases front with
      | nil => exact .inl ⟨rfl, rfl⟩
      | cons first front => simp at split
  | case2 => simp at split
  | case3 pending token rest trivia breaks ih =>
      cases front with
      | nil => exact .inl ⟨rfl, (Bool.and_eq_true_iff.1 breaks).1⟩
      | cons first front =>
          rcases ih (List.forall_mem_cons.1 spelled).2 (List.cons.inj split).2 with
            ⟨-, isPending⟩ | found
          · cases isPending
          · exact .inr (behind found)
  | case4 pending token rest trivia noBreak ih =>
      exact ih (List.forall_mem_cons.1 spelled).2 split
  | case5 pending token rest isWord ih =>
      obtain ⟨isSpelled, others⟩ := List.forall_mem_cons.1 spelled
      cases front with
      | nil =>
          rw [← (List.cons.inj split).1, isSpelled] at inserted
          cases inserted
      | cons first front =>
          obtain ⟨rfl, later⟩ := List.cons.inj split
          rcases ih others later with ⟨rfl, -⟩ | found
          · exact .inr ⟨[], token, rfl, isSpelled⟩
          · exact .inr (behind found)

/-! ## Insertion as a loop -/

/-- The words and comments that a loop over tokens has come by, with offsets of 32 bits, and whether
a semicolon is pending. -/
structure Narrow where
  tokens : List Token.Narrow := []
  comments : List Token.Narrow := []
  pending : Bool := false

namespace Narrow

/-- Add the pending semicolon. -/
def insert (lexed : Narrow) (text : String) (offset : UInt32) : Narrow :=
  { lexed with
    tokens := lexed.tokens ++ [{ kind := .semicolon, text, offset }]
    pending := false }

/-- Take one token. -/
def take (lexed : Narrow) (token : Token.Narrow) : Narrow :=
  match token.kind with
  | .newline => if lexed.pending then lexed.insert "\n" token.offset else lexed
  | .lineComment => { lexed with comments := lexed.comments ++ [token] }
  | .blockComment =>
      let lexed := { lexed with comments := lexed.comments ++ [token] }
      if lexed.pending && token.text.toList.contains '\n' then lexed.insert "\n" token.offset
      else lexed
  | kind => { lexed with tokens := lexed.tokens ++ [token], pending := kind.endsStatement }

/-- Take the tokens of a text, and add the semicolon that is pending at its end.  A size of the text
that does not fit into 32 bits is no place to put it at. -/
def ofText? (text : String) : Option Narrow :=
  let lexed := ((Token.scan text).map Token.narrow).foldl take {}
  if lexed.pending then
    if text.utf8ByteSize < 2 ^ 32 then some (lexed.insert "" text.utf8ByteSize.toUInt32)
    else none
  else some lexed

/-- The words, with the semicolon that is pending at the end. -/
def ended (stop : Nat) (lexed : Narrow) : List Token.Narrow :=
  if lexed.pending then lexed.tokens ++ [(insertedSemicolon "" stop).narrow] else lexed.tokens

variable {lexed : Narrow}

/-- What one token adds to the words and comments, in front of those of the tokens behind it. -/
theorem take_narrow (stop : Nat) (lexed : Narrow) (token : Token) (rest : List Token) :
    (lexed.take token.narrow).tokens ++
        (words stop (lexed.take token.narrow).pending rest).map Token.narrow =
      lexed.tokens ++ (words stop lexed.pending (token :: rest)).map Token.narrow ∧
    (lexed.take token.narrow).comments =
      lexed.comments ++ ([token].filter isComment).map Token.narrow := by
  obtain ⟨kind, text, offset⟩ := token
  obtain ⟨tokens, comments, pending⟩ := lexed
  by_cases isTrivia : kind.isTrivia = true
  · by_cases spansLines : '\n' ∈ text.toList <;> cases pending <;> cases kind <;>
      simp_all [take, insert, words, Token.narrow, Kind.isTrivia, breaksLine, insertedSemicolon,
        isComment]
  · have isWord : isComment { kind, text, offset } = false := by
      cases kind <;> simp_all [isComment, Kind.isTrivia]
    have taken : take { tokens, comments, pending } (Token.narrow { kind, text, offset }) =
        { tokens := tokens ++ [Token.narrow { kind, text, offset }]
          comments := comments
          pending := kind.endsStatement } := by
      cases kind <;> first | rfl | simp [Kind.isTrivia] at isTrivia
    simp [taken, words, isTrivia, isWord]

/-- A loop over tokens ends with their words and comments. -/
theorem foldl_take (stop : Nat) (lexed : Narrow) (tokens : List Token) :
    ((tokens.map Token.narrow).foldl take lexed).ended stop =
      lexed.tokens ++ (words stop lexed.pending tokens).map Token.narrow ∧
    ((tokens.map Token.narrow).foldl take lexed).comments =
      lexed.comments ++ (tokens.filter isComment).map Token.narrow := by
  induction tokens generalizing lexed with
  | nil =>
      constructor
      · rw [List.map_nil, List.foldl_nil, ended, words]
        split <;> simp
      · simp
  | cons token rest ih =>
      obtain ⟨taken, kept⟩ := take_narrow stop lexed token rest
      obtain ⟨tokens, comments⟩ := ih (lexed.take token.narrow)
      rw [List.map_cons, List.foldl_cons, tokens, taken, comments, kept]
      refine ⟨rfl, ?_⟩
      rw [List.append_assoc, ← List.map_append, ← List.filter_append, List.singleton_append]

/-- In a text whose size fits into 32 bits the loop ends with the words and comments of the text. -/
theorem ofText?_eq_some {text : String} (short : text.utf8ByteSize < 2 ^ 32) :
    ∃ lexed, ofText? text = some lexed ∧
      lexed.tokens = (ofText text).tokens.map Token.narrow ∧
      lexed.comments = (ofText text).comments.map Token.narrow := by
  obtain ⟨tokens, comments⟩ := foldl_take text.utf8ByteSize {} (Token.scan text)
  rw [ended] at tokens
  rw [ofText?]
  split at tokens
  · rename_i isPending
    exact ⟨_, (if_pos isPending).trans (if_pos short), tokens, comments⟩
  · rename_i isDone
    exact ⟨_, if_neg isDone, tokens, comments⟩

end Narrow

/-! ## The words of a text -/

/-- The words of a text are its tokens without line breaks and comments, which are kept aside, and
semicolons that are inserted.  One is inserted behind a word exactly if the word ends a statement
and a semicolon is due there, and none is inserted anywhere else.  All words stand in order.  Those
that a loop over tokens with offsets of 32 bits comes by are the same. -/
theorem ofText_semicolons {text : String} (short : text.utf8ByteSize < 2 ^ 32) :
    (ofText text).tokens.filter (!isInserted ·) =
        (Token.scan text).filter (!·.kind.isTrivia) ∧
    (ofText text).comments = (Token.scan text).filter isComment ∧
    (∀ before token behind, Token.scan text = before ++ token :: behind →
      token.kind.isTrivia = false →
      ∃ front back, (ofText text).tokens = front ++ token :: back ∧
        front.filter (!isInserted ·) = before.filter (!·.kind.isTrivia) ∧
        ∀ semicolon, (back.head? = some semicolon ∧ isInserted semicolon) ↔
          token.kind.endsStatement ∧ Due text.utf8ByteSize behind semicolon) ∧
    (∀ front semicolon back, (ofText text).tokens = front ++ semicolon :: back →
      isInserted semicolon →
      ∃ passed token, front = passed ++ [token] ∧ isInserted token = false) ∧
    (ofText text).tokens.Pairwise (·.offset < ·.offset) ∧
    ∃ lexed, Narrow.ofText? text = some lexed ∧
      lexed.tokens.map Token.Narrow.widen = (ofText text).tokens ∧
      lexed.comments.map Token.Narrow.widen = (ofText text).comments := by
  have spelled : ∀ token ∈ Token.scan text, isInserted token = false :=
    fun token => Token.isInserted_of_mem_scan
  refine ⟨filter_words spelled, rfl, ?_, ?_, (ofText_within text).2, ?_⟩
  · intro before token behind whole isWord
    rw [whole, List.forall_mem_append, List.forall_mem_cons] at spelled
    obtain ⟨front, same, kept⟩ :=
      words_append text.utf8ByteSize false behind spelled.1 isWord
    refine ⟨front, _, ?_, kept, fun semicolon => head?_words_iff spelled.2.2⟩
    rw [← same, ← whole]
    rfl
  · intro front semicolon back split inserted
    rcases word_before_semicolon spelled split inserted with ⟨-, isPending⟩ | found
    · cases isPending
    · exact found
  · obtain ⟨lexed, taken, tokens, comments⟩ := Narrow.ofText?_eq_some short
    refine ⟨lexed, taken, ?_, ?_⟩
    · rw [tokens]
      apply Token.map_widen_narrow
      intro token member
      exact (offset_le_of_mem_ofText member).trans_lt short
    · rw [comments]
      apply Token.map_widen_narrow
      intro token member
      exact Token.offset_lt_of_mem_scan short (List.mem_of_mem_filter member)

/-- Of a line break inside a comment and of the end of the text the words are told alike. -/
theorem ofText_semicolons_breaks : ∃ lexed,
    "x /* a\nb */ y // z".utf8ByteSize < 2 ^ 32 ∧
      Narrow.ofText? "x /* a\nb */ y // z" = some lexed ∧
      lexed.tokens.map Token.Narrow.widen =
        [⟨.identifier, "x", 0⟩, ⟨.semicolon, "\n", 2⟩, ⟨.identifier, "y", 12⟩,
          ⟨.semicolon, "", 18⟩] := by
  have short : "x /* a\nb */ y // z".utf8ByteSize < 2 ^ 32 := by decide
  obtain ⟨lexed, taken, tokens, -⟩ := (ofText_semicolons short).2.2.2.2.2
  refine ⟨lexed, short, taken, tokens.trans ?_⟩
  decide +kernel

end Lexed

end GoMend
