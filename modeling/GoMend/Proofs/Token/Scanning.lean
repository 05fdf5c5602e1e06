import GoMend.Proofs.Pattern.Language
import GoMend.Proofs.Token.Names

/-!
# What the scanner cuts

Every token is a piece of the text that has the shape of its category, and tokens
follow one another without overlapping.
-/

namespace GoMend.Token

open Pattern (language mem_language_fixed mem_language_many_one)

/-- A name holds no dot. -/
theorem dot_not_mem_nameShape {piece : List Char} (member : piece ∈ nameShape.language) :
    '.' ∉ piece := by
  obtain ⟨start, ⟨c, starts, rfl⟩, rest, inRest, rfl⟩ := Language.mem_mul.1 member
  rw [List.singleton_append, List.mem_cons]
  rintro (rfl | inside)
  · exact absurd starts (by decide)
  · exact absurd (mem_language_many_one inRest '.' inside) (by decide)

/-- The shape of a category with a fixed text matches that text alone. -/
theorem mem_language_fixedShape {kinds : List Kind} {kind : Kind} {shape : Pattern}
    {piece : List Char} (listed : (kind, shape) ∈ kinds.map fixedShape)
    (member : piece ∈ shape.language) : kind ∈ kinds ∧ piece = kind.spelling.toList := by
  obtain ⟨other, inKinds, same⟩ := List.mem_map.1 listed
  obtain ⟨rfl, rfl⟩ := Prod.mk.inj same
  exact ⟨inKinds, mem_language_fixed.1 member⟩

/-- A piece is spelled as its category asks: a name or keyword holds no dot, a dot is
nothing but a dot, and no piece marks the end of the text. -/
def Spelled (kind : Kind) (piece : List Char) : Prop :=
  (kind = .identifier ∨ kind.isKeyword = true → '.' ∉ piece) ∧
    (kind = .dot → piece = ['.']) ∧ kind ≠ .endOfFile

instance (kind : Kind) (piece : List Char) : Decidable (Spelled kind piece) :=
  inferInstanceAs (Decidable (_ ∧ _ ∧ _))

theorem spelled_spelling :
    ∀ kind ∈ Kind.keywords ++ Kind.operators ++ Kind.punctuation,
      Spelled kind kind.spelling.toList := by
  decide

/-- A category that is neither a name nor a mark asks nothing of its pieces. -/
theorem spelled_of_other {kind : Kind} (piece : List Char)
    (other : kind ≠ .identifier ∧ kind.isKeyword = false ∧ kind ≠ .dot ∧ kind ≠ .endOfFile) :
    Spelled kind piece :=
  ⟨by simp [other], by simp [other], other.2.2.2⟩

/-- Whatever has one of the shapes is spelled as its category asks. -/
theorem spelled_of_mem_shapes {kind : Kind} {shape : Pattern} {piece : List Char}
    (listed : (kind, shape) ∈ shapes) (member : piece ∈ shape.language) :
    Spelled kind piece := by
  simp only [shapes, List.mem_append] at listed
  rcases listed with (((blank | keyword) | free) | operator) | mark
  · simp only [List.mem_cons, Prod.mk.injEq, List.not_mem_nil, or_false] at blank
    rcases blank with ⟨rfl, _⟩ | ⟨rfl, _⟩ | ⟨rfl, _⟩ <;>
      exact spelled_of_other piece (by decide)
  · obtain ⟨inKinds, rfl⟩ := mem_language_fixedShape keyword member
    exact spelled_spelling kind (by simp [inKinds])
  · simp only [List.mem_cons, Prod.mk.injEq, List.not_mem_nil, or_false] at free
    rcases free with ⟨rfl, rfl⟩ | ⟨rfl, _⟩ | ⟨rfl, _⟩ | ⟨rfl, _⟩ | ⟨rfl, _⟩ | ⟨rfl, _⟩
    · exact ⟨fun _ => dot_not_mem_nameShape member, by simp, by simp⟩
    all_goals exact spelled_of_other piece (by decide)
  · obtain ⟨inKinds, rfl⟩ := mem_language_fixedShape operator member
    exact spelled_spelling kind (by simp [inKinds])
  · obtain ⟨inKinds, rfl⟩ := mem_language_fixedShape mark member
    exact spelled_spelling kind (by simp [inKinds])

/-- A word that is no keyword after all is spelled as a name. -/
theorem Spelled.settle {kind : Kind} {piece : List Char} (spelled : Spelled kind piece)
    (behind : List Char) : Spelled (settle kind behind) piece := by
  unfold Token.settle
  split
  · rename_i demoted
    rw [Bool.and_eq_true] at demoted
    exact ⟨fun _ => spelled.1 (.inr demoted.1), by simp, by simp⟩
  · exact spelled

/-- The longest piece that fits has one of the shapes. -/
theorem mem_of_longestShape? {text : List Char} {candidates : List (Kind × Pattern)}
    {kind : Kind} {length : Nat}
    (found : longestShape? text candidates = some (kind, length)) :
    ∃ shape, (kind, shape) ∈ candidates ∧ shape.longest? text = some length := by
  induction candidates generalizing kind length with
  | nil => cases found
  | cons head rest ih =>
      obtain ⟨headKind, headShape⟩ := head
      rw [longestShape?] at found
      have headed : ∀ {size}, headShape.longest? text = some size →
          some (headKind, size) = some (kind, length) →
          ∃ shape, (kind, shape) ∈ (headKind, headShape) :: rest ∧
            shape.longest? text = some length := by
        intro size fits same
        cases same
        exact ⟨headShape, List.mem_cons_self, fits⟩
      have later : longestShape? text rest = some (kind, length) →
          ∃ shape, (kind, shape) ∈ (headKind, headShape) :: rest ∧
            shape.longest? text = some length := by
        intro fits
        obtain ⟨shape, member, longest⟩ := ih fits
        exact ⟨shape, List.mem_cons_of_mem _ member, longest⟩
      split at found
      · rename_i headFits restFits
        split at found
        · exact headed headFits found
        · exact later (restFits.trans found)
      · rename_i headFits _
        exact headed headFits found
      · exact later found

/-- The token at the head of a text is not longer than the text and spelled as its
category asks. -/
theorem headToken_spelled {c : Char} {rest : List Char} {kind : Kind} {length : Nat}
    (head : headToken (c :: rest) = (kind, length)) :
    Spelled kind (c :: rest.take (length - 1)) := by
  rw [headToken, List.head?_cons, Option.elim_some, longestShape?_shapesAt] at head
  split at head
  · rename_i found
    split at head
    · cases head
      exact spelled_of_other _ (by decide)
    · cases head
      obtain ⟨shape, listed, fits⟩ := mem_of_longestShape? found
      obtain ⟨_, member⟩ := Pattern.longest?_mem_language fits
      refine (spelled_of_mem_shapes listed ?_).settle _
      cases length with
      | zero =>
          have notNullable := nullable_of_mem_shapes _ listed
          have isNullable := Pattern.nil_mem_language.1 member
          simp [notNullable] at isNullable
      | succ length => simpa using member
  · cases head
    exact spelled_of_other _ (by decide)

/-- Tokens that stand between two offsets, one behind the other. -/
def Within (start stop : Nat) (tokens : List Token) : Prop :=
  (∀ token ∈ tokens, start ≤ token.offset ∧ token.offset < stop) ∧
    tokens.Pairwise (·.offset < ·.offset)

theorem Within.from {early start stop : Nat} {tokens : List Token}
    (within : Within start stop tokens) (earlier : early ≤ start) :
    Within early stop tokens :=
  ⟨fun token member => ⟨earlier.trans (within.1 token member).1, (within.1 token member).2⟩,
    within.2⟩

theorem Within.cons {start stop : Nat} {token : Token} {tokens : List Token}
    (within : Within start stop tokens) (before : token.offset < start)
    (inside : start ≤ stop) : Within token.offset stop (token :: tokens) := by
  constructor
  · intro other member
    rcases List.mem_cons.1 member with rfl | member
    · exact ⟨Nat.le_refl _, before.trans_le inside⟩
    · exact (within.from before.le).1 other member
  · exact List.pairwise_cons.2
      ⟨fun other member => before.trans_le (within.1 other member).1, within.2⟩

theorem Within.tail {start stop : Nat} {token : Token} {tokens : List Token}
    (within : Within start stop (token :: tokens)) : Within (token.offset + 1) stop tokens :=
  ⟨fun other member => ⟨List.rel_of_pairwise_cons within.2 member,
    (within.1 other (List.mem_cons_of_mem _ member)).2⟩, within.2.of_cons⟩

theorem byteLength_cons (c : Char) (text : List Char) :
    byteLength (c :: text) = c.utf8Size + byteLength text :=
  rfl

theorem byteLength_append (left right : List Char) :
    byteLength (left ++ right) = byteLength left + byteLength right := by
  induction left with
  | nil => simp [byteLength]
  | cons c left ih => rw [List.cons_append, byteLength_cons, byteLength_cons, ih, Nat.add_assoc]

theorem byteLength_toList (text : String) : byteLength text.toList = text.utf8ByteSize := by
  have ofList : ∀ chars : List Char, byteLength chars = (String.ofList chars).utf8ByteSize := by
    intro chars
    induction chars with
    | nil => rfl
    | cons c rest ih =>
        rw [byteLength_cons, ih, ← List.singleton_append, String.ofList_append,
          String.utf8ByteSize_append]
        congr
        exact String.utf8ByteSize_singleton.symm
  rw [ofList, String.ofList_toList]

/-- The tokens of a text stand inside it, one behind the other. -/
theorem scanFrom_within (text : List Char) (offset : Nat) :
    Within offset (offset + byteLength text) (scanFrom text offset) := by
  fun_induction scanFrom text offset with
  | case1 => simp [Within]
  | case2 c rest offset separator ih =>
      rw [byteLength_cons, ← Nat.add_assoc]
      exact ih.from (Nat.le_add_right _ _)
  | case3 c rest offset noSeparator kind length head piece ih =>
      have whole : offset + byteLength (c :: rest) =
          offset + byteLength piece + byteLength (rest.drop (length - 1)) := by
        rw [Nat.add_assoc, ← byteLength_append, List.cons_append, List.take_append_drop]
      have before : offset < offset + byteLength piece := by
        have filled := c.utf8Size_pos
        rw [byteLength_cons]
        omega
      rw [whole]
      exact ih.cons before (Nat.le_add_right _ _)

/-- The tokens of a text are spelled as their categories ask. -/
theorem scanFrom_spelled (text : List Char) (offset : Nat) :
    ∀ token ∈ scanFrom text offset, Spelled token.kind token.text.toList := by
  fun_induction scanFrom text offset with
  | case1 => simp
  | case2 c rest offset separator ih => exact ih
  | case3 c rest offset noSeparator kind length head piece ih =>
      intro token member
      rcases List.mem_cons.1 member with rfl | member
      · rw [String.toList_ofList]
        exact headToken_spelled head
      · exact ih token member

end GoMend.Token
