import Mathlib.Data.List.TakeWhile
import GoMend.Syntax.Tree
import GoMend.Token.Lexed

/-!
# The names among the words

Which words of a text spell a name, and what it takes to tell them apart from the
words that remain: identifiers, and the dot of a dot import, which alone of all dots
stands directly before a string.
-/

namespace GoMend

namespace Token

/-- The occurrence of a name that a word spells. -/
def toIdent (token : Token) : Ident :=
  { name := token.text, offset := some token.offset }

end Token

namespace Ident

/-- A name without a dot: one word, neither the mark of a dot import nor qualified. -/
def IsPlain (ident : Ident) : Prop :=
  '.' ∉ ident.name.toList

theorem IsPlain.headName {ident : Ident} (plain : ident.IsPlain) :
    ident.headName = ident.name := by
  have whole : ident.name.toList.takeWhile (· != '.') = ident.name.toList := by
    rw [List.takeWhile_eq_self_iff]
    intro c member
    simp only [bne_iff_ne, ne_eq]
    rintro rfl
    exact plain member
  rw [Ident.headName, whole, String.ofList_toList]

/-- The package part of a package part is the package part. -/
theorem headName_headName (ident : Ident) (offset : Option Nat) :
    headName ⟨ident.headName, offset⟩ = ident.headName := by
  simp only [headName, String.toList_ofList, List.takeWhile_idem]

end Ident

namespace Lexed

/-- Whether a word spells a name when the given words follow it. -/
def spellsName (token : Token) (rest : List Token) : Bool :=
  token.kind == .identifier || (token.kind == .dot && rest.head?.any (·.kind == .string))

/-- The words that spell names. -/
def names : List Token → List Token
  | [] => []
  | token :: rest => if spellsName token rest then token :: names rest else names rest

/-- The occurrences of names that the words spell. -/
def idents (words : List Token) : List Ident :=
  (names words).map Token.toIdent

theorem names_sublist (words : List Token) : (names words).Sublist words := by
  induction words with
  | nil => exact .slnil
  | cons token rest ih =>
      simp only [names]
      split
      · exact ih.cons_cons token
      · exact ih.cons token

theorem kind_of_mem_names {words : List Token} {token : Token} (member : token ∈ names words) :
    token.kind = .identifier ∨ token.kind = .dot := by
  induction words with
  | nil => cases member
  | cons first rest ih =>
      rw [names] at member
      split at member
      · rename_i spells
        rcases List.mem_cons.1 member with rfl | member
        · simp only [spellsName, Bool.or_eq_true, Bool.and_eq_true, beq_iff_eq] at spells
          exact spells.imp_right And.left
        · exact ih member
      · exact ih member

theorem mem_names_of_identifier {words : List Token} {token : Token} (member : token ∈ words)
    (identifier : token.kind = .identifier) : token ∈ names words := by
  induction words with
  | nil => cases member
  | cons first rest ih =>
      rw [names]
      rcases List.mem_cons.1 member with rfl | member
      · simp [spellsName, identifier]
      · split
        · exact List.mem_cons_of_mem _ (ih member)
        · exact ih member

end Lexed

end GoMend
