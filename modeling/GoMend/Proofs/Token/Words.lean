import Mathlib.Data.List.Sort
import GoMend.Proofs.Names.Reads
import GoMend.Proofs.Token.Scanning

/-!
# Words of a text

The grammar reads the tokens of a text with semicolons inserted.  These disturb neither
the spelling of the other words nor the order in which words stand.
-/

namespace GoMend.Lexed

open Token (Within Spelled)

/-- A word is a token of the text or an inserted semicolon. -/
theorem mem_words {stop : Nat} {pending : Bool} {tokens : List Token} {word : Token}
    (member : word ∈ words stop pending tokens) : word ∈ tokens ∨ word.kind = .semicolon := by
  fun_induction words stop pending tokens with
  | case1 =>
      rw [List.mem_singleton.1 member]
      exact .inr rfl
  | case2 => cases member
  | case3 pending token rest trivia breaks ih =>
      rcases List.mem_cons.1 member with rfl | member
      · exact .inr rfl
      · exact (ih member).imp_left (List.mem_cons_of_mem _)
  | case4 pending token rest trivia noBreak ih =>
      exact (ih member).imp_left (List.mem_cons_of_mem _)
  | case5 pending token rest isWord ih =>
      rcases List.mem_cons.1 member with rfl | member
      · exact .inl List.mem_cons_self
      · exact (ih member).imp_left (List.mem_cons_of_mem _)

/-- Words stand in the order of the tokens; only the last may stand at the end. -/
theorem words_within {start stop : Nat} {pending : Bool} {tokens : List Token}
    (within : Within start stop tokens) (inside : start ≤ stop) :
    Within start (stop + 1) (words stop pending tokens) := by
  fun_induction words stop pending tokens generalizing start with
  | case1 => simp [Within, insertedSemicolon, inside]
  | case2 => simp [Within]
  | case3 pending token rest trivia breaks ih =>
      obtain ⟨behind, before⟩ := within.1 token List.mem_cons_self
      have semicolon : (insertedSemicolon "\n" token.offset).offset < token.offset + 1 :=
        Nat.lt_succ_self _
      exact ((ih within.tail before).cons semicolon (by omega)).from behind
  | case4 pending token rest trivia noBreak ih =>
      obtain ⟨behind, before⟩ := within.1 token List.mem_cons_self
      exact (ih within.tail before).from (by omega)
  | case5 pending token rest isWord ih =>
      obtain ⟨behind, before⟩ := within.1 token List.mem_cons_self
      exact ((ih within.tail before).cons (Nat.lt_succ_self _) (by omega)).from behind

theorem ofText_within (text : String) :
    Within 0 (text.utf8ByteSize + 1) (ofText text).tokens := by
  have scanned := Token.scanFrom_within text.toList 0
  rw [Nat.zero_add, Token.byteLength_toList] at scanned
  exact words_within scanned (Nat.zero_le _)

/-- Every word of a text begins inside it or at its end. -/
theorem offset_le_of_mem_ofText {text : String} {word : Token}
    (member : word ∈ (ofText text).tokens) : word.offset ≤ text.utf8ByteSize :=
  Nat.le_of_lt_succ ((ofText_within text).1 word member).2

/-- Of two words that begin at one offset each is the other. -/
theorem eq_of_offset_eq {text : String} {one other : Token}
    (oneMember : one ∈ (ofText text).tokens) (otherMember : other ∈ (ofText text).tokens)
    (same : one.offset = other.offset) : one = other := by
  have distinct : ((ofText text).tokens.map (·.offset)).Nodup :=
    List.pairwise_map.2 ((ofText_within text).2.imp Nat.ne_of_lt)
  exact List.inj_on_of_nodup_map distinct oneMember otherMember same

/-- Lists of tokens in order that have the same members are the same. -/
theorem eq_of_mem_iff {left right : List Token}
    (leftOrdered : left.Pairwise (·.offset < ·.offset))
    (rightOrdered : right.Pairwise (·.offset < ·.offset))
    (same : ∀ token, token ∈ left ↔ token ∈ right) : left = right := by
  have : Std.Irrefl fun one other : Token => one.offset < other.offset := ⟨fun _ => lt_irrefl _⟩
  have : Std.Antisymm fun one other : Token => one.offset < other.offset :=
    ⟨fun _ _ before behind => absurd before behind.asymm⟩
  exact List.Pairwise.eq_of_mem_iff leftOrdered rightOrdered same

/-- The words of a text are spelled as the grammar relies on. -/
theorem ofText_wellSpelled (text : String) : WellSpelled (ofText text).tokens := by
  intro word member
  rcases mem_words member with inTokens | inserted
  · have spelled := Token.scanFrom_spelled text.toList 0 word inTokens
    refine ⟨fun isName => spelled.1 (.inl isName), fun isDot => ?_, spelled.2.2⟩
    rw [← String.toList_inj, spelled.2.1 isDot]
    rfl
  · simp [inserted]

end GoMend.Lexed
