import GoMend.Proofs.Token.Lines

/-!
# Tokens tile the text

The scanner leaves nothing of a text out but the blanks between the tokens.  Each token is
the longest lexeme at its place, and an error stands only where there is none.
-/

namespace GoMend.Token

open Pattern (covers_iff cons_mem_kstar mem_language_all mem_language_char mem_language_fixed
  language_followedBy language_orElse mem_characters)

/-! ## Block comments -/

/-- The text holds no closing mark of a block comment. -/
def Unclosed (text : List Char) : Prop :=
  ¬['*', '/'] <:+: text

instance (text : List Char) : Decidable (Unclosed text) :=
  inferInstanceAs (Decidable (¬_))

/-- Stars in front of a closing slash. -/
def commentStars : Pattern :=
  (Pattern.char '*').atLeastOnce

/-- What a block comment consists of: a character, or stars that close nothing. -/
def commentItem : Pattern :=
  (Pattern.one (· != '*')).orElse
    (commentStars.followedBy (.one fun c => c != '*' && c != '/'))

theorem blockCommentShape_eq :
    blockCommentShape =
      .all [.fixed "/*", .many commentItem, commentStars, .char '/'] :=
  rfl

section

variable {c : Char} {count : Nat} {piece text body items : List Char}

theorem unclosed_cons :
    Unclosed (c :: text) ↔ ¬(c = '*' ∧ text.head? = some '/') ∧ Unclosed text := by
  have begins : ['*', '/'] <+: c :: text ↔ c = '*' ∧ text.head? = some '/' := by
    cases text <;> simp [List.cons_prefix_cons, eq_comm]
  rw [Unclosed, List.infix_cons_iff, not_or, begins, Unclosed]

/-- Stars and another character close a comment only if the character is a slash. -/
theorem unclosed_stars_cons (plain : c ≠ '*') :
    Unclosed (List.replicate count '*' ++ c :: text) ↔
      (c = '/' → count = 0) ∧ Unclosed text := by
  induction count with
  | zero => simp [unclosed_cons, plain]
  | succ count ih =>
      rw [List.replicate_succ, List.cons_append, unclosed_cons, ih]
      cases count with
      | zero => simp
      | succ count => simp [List.replicate_succ]

theorem mem_commentStars :
    piece ∈ commentStars.language ↔ ∃ count, piece = List.replicate (count + 1) '*' := by
  have mem_many : ∀ {piece}, piece ∈ (Pattern.many (.char '*')).language ↔
      ∃ count, piece = List.replicate count '*' := by
    intro piece
    constructor
    · intro member
      refine ⟨piece.length, List.eq_replicate_iff.2 ⟨rfl, fun c inside => ?_⟩⟩
      simpa using Pattern.mem_language_many_one member c inside
    · rintro ⟨count, rfl⟩
      induction count with
      | zero => exact Language.nil_mem_kstar _
      | succ count ih =>
          exact cons_mem_kstar.2 ⟨[], _, mem_language_char.2 rfl, ih, rfl⟩
  rw [commentStars, Pattern.atLeastOnce, language_followedBy, Language.mem_mul]
  constructor
  · rintro ⟨_, star, _, stars, rfl⟩
    obtain ⟨count, rfl⟩ := mem_many.1 stars
    exact ⟨count, by rw [mem_language_char.1 star]; rfl⟩
  · rintro ⟨count, rfl⟩
    exact ⟨['*'], mem_language_char.2 rfl, _, mem_many.2 ⟨count, rfl⟩, rfl⟩

theorem mem_commentItem :
    piece ∈ commentItem.language ↔
      ∃ count c, c ≠ '*' ∧ (c = '/' → count = 0) ∧
        piece = List.replicate count '*' ++ [c] := by
  rw [commentItem, language_orElse, language_followedBy, Language.mem_add, Language.mem_mul]
  constructor
  · rintro (⟨c, plain, rfl⟩ | ⟨_, stars, _, ⟨c, plain, rfl⟩, rfl⟩)
    · exact ⟨0, c, by simpa using plain, fun _ => rfl, rfl⟩
    · obtain ⟨count, rfl⟩ := mem_commentStars.1 stars
      simp only [Bool.and_eq_true, bne_iff_ne] at plain
      exact ⟨count + 1, c, plain.1, fun slash => absurd slash plain.2, rfl⟩
  · rintro ⟨count, c, plain, single, rfl⟩
    cases count with
    | zero => exact .inl ⟨c, by simpa using plain, rfl⟩
    | succ count =>
        have noSlash : c ≠ '/' := fun slash => Nat.succ_ne_zero _ (single slash)
        exact .inr ⟨_, mem_commentStars.2 ⟨count, rfl⟩, [c], ⟨c, by simp [plain, noSlash], rfl⟩,
          rfl⟩

/-- Items of a comment close nothing. -/
theorem Unclosed.of_items (member : items ∈ (Pattern.many commentItem).language)
    (unclosed : Unclosed text) : Unclosed (items ++ text) := by
  obtain ⟨parts, rfl, inItem⟩ := Language.mem_kstar.1 member
  clear member
  induction parts with
  | nil => exact unclosed
  | cons part parts ih =>
      obtain ⟨first, others⟩ := List.forall_mem_cons.1 inItem
      obtain ⟨count, c, plain, single, rfl⟩ := mem_commentItem.1 first
      rw [List.flatten_cons, List.append_assoc, List.append_assoc, List.singleton_append]
      exact (unclosed_stars_cons plain).2 ⟨single, ih others⟩

/-- Up to its last stars, a text that closes no comment consists of items.  The stars read so
far are counted, for only the next character tells what they are. -/
theorem Unclosed.exists_items (count : Nat)
    (unclosed : Unclosed (List.replicate count '*' ++ (body ++ ['*']))) :
    ∃ items ∈ (Pattern.many commentItem).language, ∃ rest,
      List.replicate count '*' ++ body = items ++ List.replicate rest '*' := by
  induction body generalizing count with
  | nil => exact ⟨[], Language.nil_mem_kstar _, count, by simp⟩
  | cons c body ih =>
      by_cases star : c = '*'
      · subst star
        have shifted : ∀ text, List.replicate count '*' ++ '*' :: text =
            List.replicate (count + 1) '*' ++ text := by
          simp [List.replicate_succ']
        rw [List.cons_append, shifted] at unclosed
        rw [shifted]
        exact ih _ unclosed
      · obtain ⟨single, further⟩ := (unclosed_stars_cons star).1 unclosed
        obtain ⟨items, inItems, rest, same⟩ := ih 0 further
        rw [List.replicate_zero, List.nil_append] at same
        refine ⟨(List.replicate count '*' ++ [c]) ++ items, ?_, rest, by simp [same]⟩
        have first := mem_commentItem.2 ⟨count, c, star, single, rfl⟩
        have below : commentItem.language * (Pattern.many commentItem).language ≤
          (Pattern.many commentItem).language := mul_kstar_le_kstar
        exact below (Language.append_mem_mul first inItems)

/-- A block comment reaches from its opening mark to the first closing mark. -/
theorem mem_blockCommentShape :
    piece ∈ blockCommentShape.language ↔
      ∃ body, piece = '/' :: '*' :: (body ++ ['*', '/']) ∧ Unclosed (body ++ ['*']) := by
  rw [blockCommentShape_eq]
  constructor
  · intro member
    obtain ⟨_, opening, _, behind, rfl⟩ := mem_language_all.1 member
    obtain ⟨items, inItems, _, ending, rfl⟩ := mem_language_all.1 behind
    obtain ⟨_, stars, _, closing, rfl⟩ := mem_language_all.1 ending
    obtain ⟨_, slash, _, ended, rfl⟩ := mem_language_all.1 closing
    obtain ⟨count, rfl⟩ := mem_commentStars.1 stars
    rw [mem_language_fixed.1 opening, mem_language_char.1 slash, (Language.mem_one _).1 ended]
    refine ⟨items ++ List.replicate count '*', by simp [List.replicate_succ'], ?_⟩
    have onlyStars : ∀ count, Unclosed (List.replicate count '*') := by
      intro count closed
      have slash := closed.subset (by simp : '/' ∈ ['*', '/'])
      simp at slash
    rw [List.append_assoc, ← List.replicate_succ']
    exact (onlyStars _).of_items inItems
  · rintro ⟨body, rfl, unclosed⟩
    obtain ⟨items, inItems, count, same⟩ := Unclosed.exists_items 0 unclosed
    rw [List.replicate_zero, List.nil_append] at same
    refine mem_language_all.2 ⟨_, mem_language_fixed.2 rfl, _, ?_, rfl⟩
    refine mem_language_all.2 ⟨items, inItems, List.replicate (count + 1) '*' ++ ['/'], ?_, ?_⟩
    · refine mem_language_all.2 ⟨_, mem_commentStars.2 ⟨count, rfl⟩, _, ?_, rfl⟩
      exact mem_language_all.2 ⟨_, mem_language_char.2 rfl, [], rfl, rfl⟩
    · simp [same, List.replicate_succ']

/-- A text that is closed somewhere begins with a body and the first closing mark. -/
theorem exists_first_closing (closed : ¬Unclosed text) :
    ∃ body behind, text = body ++ (['*', '/'] ++ behind) ∧ Unclosed (body ++ ['*']) := by
  induction text with
  | nil => exact absurd (by simp [Unclosed]) closed
  | cons c text ih =>
      rw [unclosed_cons, not_and_or, not_not] at closed
      by_cases here : c = '*' ∧ text.head? = some '/'
      · obtain ⟨rfl, slash⟩ := here
        obtain ⟨behind, rfl⟩ := List.head?_eq_some_iff.1 slash
        exact ⟨[], behind, rfl, by decide⟩
      · obtain ⟨body, behind, rfl, unclosed⟩ := ih (closed.resolve_left here)
        refine ⟨c :: body, behind, rfl, ?_⟩
        rw [List.cons_append, unclosed_cons]
        refine ⟨?_, unclosed⟩
        rintro ⟨star, slash⟩
        refine here ⟨star, ?_⟩
        cases body with
        | nil => simp at slash
        | cons d body => simpa using slash

end

/-! ## The token at the head of a text -/

/-- A piece in front of the text behind it is the longest one that has a shape, a keyword rather
than a name if it is spelled as one, and a comment where one is opened.  The scanner tells the end
of a keyword by the next byte, so the piece is a name after all where that byte might begin a
letter or a digit. -/
structure Longest (kind : Kind) (piece behind : List Char) : Prop where
  shaped : ∃ shape, (kind, shape) ∈ shapes ∧ piece ∈ shape.language
  longest : ∀ longer, Fits shapes (piece ++ behind) longer → longer.length ≤ piece.length
  keyword : ∀ keyword ∈ Kind.keywords, piece = keyword.spelling.toList →
    kind = if behind.head?.any Text.beginsLikeLetter then .identifier else keyword
  comment : kind = .blockComment →
    ∃ body, piece = '/' :: '*' :: (body ++ ['*', '/']) ∧ Unclosed (body ++ ['*'])
  opened : ∀ rest, piece ++ behind = '/' :: '*' :: rest → kind = .blockComment

/-- Nothing can be read at the head of a text: no shape fits, or a comment opens there that is
never closed. -/
def Unreadable (text : List Char) : Prop :=
  (∀ piece, ¬Fits shapes text piece) ∨ ∃ rest, text = '/' :: '*' :: rest ∧ Unclosed rest

section

variable {kind : Kind} {text piece behind : List Char} {length : Nat}

/-- The first shape that covers a keyword is its own. -/
theorem covering?_keyword :
    ∀ kind ∈ Kind.keywords, covering? shapes kind.spelling.toList = some kind := by
  decide +kernel

/-- A covered piece has a shape of its category, and is no error. -/
theorem exists_shape_of_covering? (covered : covering? shapes piece = some kind) :
    (∃ shape, (kind, shape) ∈ shapes ∧ piece ∈ shape.language) ∧ kind ≠ .error := by
  obtain ⟨shape, found, rfl⟩ := Option.map_eq_some_iff.1 covered
  have listed := List.mem_of_find?_eq_some found
  have covers : shape.2.covers piece = true := by simpa using List.find?_some found
  have noError : ∀ shape ∈ shapes, shape.1 ≠ .error := by decide +kernel
  exact ⟨⟨shape.2, listed, covers_iff.1 covers⟩, noError shape listed⟩

/-- What is covered as a block comment has the shape of block comments, for no other shape is of
that category. -/
theorem mem_blockCommentShape_of_covering?
    (covered : covering? shapes piece = some .blockComment) :
    piece ∈ blockCommentShape.language := by
  obtain ⟨⟨shape, listed, member⟩, -⟩ := exists_shape_of_covering? covered
  have unique : (shapes.map Prod.fst).Nodup := by decide +kernel
  have same := List.inj_on_of_nodup_map unique listed
    (by simp [shapes] : (.blockComment, blockCommentShape) ∈ shapes) rfl
  cases same
  exact member

/-- Where the shape of a comment fits, it is the shape of the longest piece. -/
theorem unclosed_of_longestShape? {rest : List Char}
    (found : longestShape? ('/' :: '*' :: rest) shapes = some (kind, length))
    (noComment : kind ≠ .blockComment) : Unclosed rest := by
  by_contra closed
  obtain ⟨body, behind, rfl, unclosed⟩ := exists_first_closing closed
  obtain ⟨covered, -, bound⟩ := covering?_of_longestShape? found
  have long := bound ('/' :: '*' :: (body ++ ['*', '/']))
    ⟨(.blockComment, blockCommentShape), by simp [shapes],
      mem_blockCommentShape.2 ⟨body, rfl, unclosed⟩, ⟨behind, by simp⟩⟩
  obtain ⟨size, rfl⟩ : ∃ size, length = size + 2 := ⟨length - 2, by simp at long; omega⟩
  exact noComment (looks_of_covering? covered).blockComment_of_opens

/-- Only a keyword is settled otherwise. -/
theorem settle_cases (kind : Kind) (behind : List Char) :
    settle kind behind = kind ∨
      kind.isKeyword = true ∧ settle kind behind = .identifier := by
  unfold settle
  split
  · rename_i demoted
    exact .inr ⟨(Bool.and_eq_true _ _ ▸ demoted).1, rfl⟩
  · exact .inl rfl

/-- A covered piece that nothing longer fits is the longest once its category is settled. -/
theorem Longest.of_covering? (covered : covering? shapes piece = some kind)
    (bound : ∀ longer, Fits shapes (piece ++ behind) longer → longer.length ≤ piece.length)
    (opened : opensComment (piece ++ behind) = true → kind = .blockComment) :
    Longest (settle kind behind) piece behind where
  shaped := by
    rcases settle_cases kind behind with same | ⟨keyword, named⟩
    · rw [same]
      exact (exists_shape_of_covering? covered).1
    · rw [named, (looks_of_covering? covered).eq_spelling keyword]
      have inName := mem_nameShape_of_keyword keyword (List.forall_mem_nil _)
      rw [List.append_nil] at inName
      exact ⟨nameShape, by simp [shapes], inName⟩
  longest := bound
  keyword := by
    rintro keyword listed rfl
    cases covered.symm.trans (covering?_keyword keyword listed)
    have isKeyword : kind.isKeyword = true := List.contains_iff_mem.2 listed
    rw [settle, isKeyword, Bool.true_and]
  comment := by
    intro isComment
    rcases settle_cases kind behind with same | ⟨-, named⟩
    · rw [same] at isComment
      exact mem_blockCommentShape.1 (mem_blockCommentShape_of_covering? (isComment ▸ covered))
    · cases named.symm.trans isComment
  opened := by
    intro rest opens
    obtain rfl := opened (by rw [opens]; rfl)
    rfl

/-- The token at the head of a text is the longest there, unless it is an error. -/
theorem longest_of_headToken {c : Char} {rest : List Char}
    (head : headToken (c :: rest) = (kind, length)) (noError : kind ≠ .error) :
    Longest kind (c :: rest.take (length - 1)) (rest.drop (length - 1)) := by
  rw [headToken, List.head?_cons, Option.elim_some, longestShape?_shapesAt] at head
  split at head
  · rename_i found
    split at head
    · cases head
      exact absurd rfl noError
    · rename_i closed
      cases head
      obtain ⟨covered, inside, bound⟩ := covering?_of_longestShape? found
      cases length with
      | zero => simp [covering?_nil] at covered
      | succ length =>
          rw [List.take_succ_cons] at covered
          rw [Nat.add_sub_cancel, List.drop_succ_cons]
          have whole : c :: rest.take length ++ rest.drop length = c :: rest := by
            rw [List.cons_append, List.take_append_drop]
          refine .of_covering? covered (fun longer fits => ?_) fun opens => ?_
          · rw [whole] at fits
            rw [List.length_cons, List.length_take,
              Nat.min_eq_left (Nat.le_of_succ_le_succ inside)]
            exact bound longer fits
          · rw [whole] at opens
            simpa [opens] using closed
  · cases head
    exact absurd rfl noError

/-- An error stands only where nothing can be read. -/
theorem unreadable_of_headToken {c : Char} {rest : List Char}
    (head : headToken (c :: rest) = (.error, length)) : Unreadable (c :: rest) := by
  rw [headToken, List.head?_cons, Option.elim_some, longestShape?_shapesAt] at head
  split at head
  · rename_i other size found
    split at head
    · rename_i opens
      rw [Bool.and_eq_true, bne_iff_ne] at opens
      obtain ⟨behind, opened⟩ := exists_of_opensComment opens.1
      rw [opened] at found
      exact .inr ⟨behind, opened, unclosed_of_longestShape? found opens.2⟩
    · obtain ⟨covered, -, -⟩ := covering?_of_longestShape? found
      have settled : settle other ((c :: rest).drop size) = .error := congrArg Prod.fst head
      rcases settle_cases other ((c :: rest).drop size) with same | ⟨-, named⟩
      · exact absurd (same.symm.trans settled) (exists_shape_of_covering? covered).2
      · cases named.symm.trans settled
  · rename_i nothing
    exact .inl fun piece => not_fits_of_longestShape? nothing

end

/-! ## Offsets of 32 bits -/

/-- A token whose offset has 32 bits. -/
structure Narrow where
  kind : Kind
  text : String
  offset : UInt32
  deriving DecidableEq, Repr

/-- The token with its offset as a number. -/
def Narrow.widen (token : Narrow) : Token :=
  { kind := token.kind, text := token.text, offset := token.offset.toNat }

/-- The token with as much of its offset as fits into 32 bits. -/
def narrow (token : Token) : Narrow :=
  { kind := token.kind, text := token.text, offset := token.offset.toUInt32 }

theorem widen_narrow {token : Token} (small : token.offset < 2 ^ 32) :
    token.narrow.widen = token := by
  rw [narrow, Narrow.widen, Nat.toUInt32_eq, UInt32.toNat_ofNat_of_lt' small]

theorem map_widen_narrow {tokens : List Token} (small : ∀ token ∈ tokens, token.offset < 2 ^ 32) :
    (tokens.map narrow).map Narrow.widen = tokens := by
  rw [List.map_map]
  exact (List.map_congr_left fun token member => widen_narrow (small token member)).trans
    (List.map_id _)

/-- In a text whose size fits into 32 bits no offset of a token loses anything. -/
theorem offset_lt_of_mem_scan {text : String} (short : text.utf8ByteSize < 2 ^ 32) {token : Token}
    (member : token ∈ scan text) : token.offset < 2 ^ 32 := by
  have inside := ((scanFrom_within text.toList 0).1 token member).2
  rw [Nat.zero_add, byteLength_toList] at inside
  exact inside.trans short

/-! ## The tokens of a text -/

/-- A token is cut out of a text that begins at an offset: it is the piece of the text at its
own offset, the longest there or, if it is an error, at a place where nothing can be read. -/
def CutOut (text : List Char) (offset : Nat) (token : Token) : Prop :=
  ∃ before behind, text = before ++ (token.text.toList ++ behind) ∧
    token.offset = offset + byteLength before ∧ token.offset < token.stop ∧
    (token.kind ≠ .error → Longest token.kind token.text.toList behind) ∧
    (token.kind = .error → Unreadable (token.text.toList ++ behind))

section

variable {text : List Char} {offset : Nat} {token : Token}

theorem CutOut.append (before : List Char)
    (cutOut : CutOut text (offset + byteLength before) token) :
    CutOut (before ++ text) offset token := by
  obtain ⟨passed, behind, rfl, place, rest⟩ := cutOut
  refine ⟨before ++ passed, behind, by simp, ?_, rest⟩
  rw [place, byteLength_append, Nat.add_assoc]

theorem stop_eq (kind : Kind) (piece : List Char) (offset : Nat) :
    Token.stop { kind, text := String.ofList piece, offset } = offset + byteLength piece := by
  rw [stop, ← byteLength_toList, String.toList_ofList]

/-- A separator is one byte long. -/
theorem utf8Size_of_isSeparator {c : Char} (separator : isSeparator c = true) :
    c.utf8Size = 1 := by
  simp only [isSeparator, Bool.or_eq_true, beq_iff_eq] at separator
  rcases separator with ((rfl | rfl) | rfl) | rfl <;> rfl

/-- Every token of a text is cut out of it. -/
theorem scanFrom_cutOut (text : List Char) (offset : Nat) :
    ∀ token ∈ scanFrom text offset, CutOut text offset token := by
  fun_induction scanFrom text offset with
  | case1 => simp
  | case2 c rest offset separator ih =>
      intro token member
      exact .append [c] (ih token member)
  | case3 c rest offset noSeparator kind length head piece ih =>
      have whole : piece ++ rest.drop (length - 1) = c :: rest := by
        rw [List.cons_append, List.take_append_drop]
      rw [List.forall_mem_cons]
      constructor
      · refine ⟨[], rest.drop (length - 1), ?_, rfl, ?_, fun noError => ?_, fun isError => ?_⟩
        · rw [String.toList_ofList, List.nil_append, whole]
        · have filled := c.utf8Size_pos
          change offset < Token.stop _
          rw [stop_eq, byteLength_cons]
          omega
        · rw [String.toList_ofList]
          exact longest_of_headToken head noError
        · rw [String.toList_ofList, whole]
          exact unreadable_of_headToken (head.trans (congrArg (·, length) isError))
      · intro token member
        have cutOut := ih token member
        rw [← whole]
        exact cutOut.append piece

/-- No token of a text reaches into a later one. -/
theorem scanFrom_disjoint (text : List Char) (offset : Nat) :
    (scanFrom text offset).Pairwise fun token later => token.stop ≤ later.offset := by
  fun_induction scanFrom text offset with
  | case1 => exact .nil
  | case2 c rest offset separator ih => exact ih
  | case3 c rest offset noSeparator kind length head piece ih =>
      refine List.pairwise_cons.2 ⟨fun later member => ?_, ih⟩
      rw [stop_eq]
      exact ((scanFrom_within _ _).1 later member).1

/-- Every byte of a text is in a token or separates tokens. -/
theorem scanFrom_covers (text : List Char) (offset : Nat) :
    ∀ place, offset ≤ place → place < offset + byteLength text →
      (∃ token ∈ scanFrom text offset, token.offset ≤ place ∧ place < token.stop) ∨
      ∃ before c behind, text = before ++ c :: behind ∧
        offset + byteLength before = place ∧ isSeparator c = true := by
  fun_induction scanFrom text offset with
  | case1 =>
      intro place reached inside
      exact absurd inside (by simpa [byteLength] using reached)
  | case2 c rest offset separator ih =>
      intro place reached inside
      rw [byteLength_cons, ← Nat.add_assoc] at inside
      have size := utf8Size_of_isSeparator separator
      by_cases here : place = offset
      · exact .inr ⟨[], c, rest, rfl, here.symm, separator⟩
      · rcases ih place (by omega) inside with inToken | ⟨before, d, behind, rfl, start, isBlank⟩
        · exact .inl inToken
        · exact .inr ⟨c :: before, d, behind, rfl, by rw [← start, byteLength_cons]; omega, isBlank⟩
  | case3 c rest offset noSeparator kind length head piece ih =>
      intro place reached inside
      have whole : piece ++ rest.drop (length - 1) = c :: rest := by
        rw [List.cons_append, List.take_append_drop]
      rw [← whole, byteLength_append, ← Nat.add_assoc] at inside
      by_cases here : place < offset + byteLength piece
      · exact .inl ⟨_, List.mem_cons_self, reached, by rwa [stop_eq]⟩
      · rcases ih place (by omega) inside with ⟨token, member, spans⟩ |
          ⟨before, d, behind, same, start, isBlank⟩
        · exact .inl ⟨token, List.mem_cons_of_mem _ member, spans⟩
        · refine .inr ⟨piece ++ before, d, behind, ?_, ?_, isBlank⟩
          · rw [← whole, same, List.append_assoc]
          · rw [byteLength_append, ← start, Nat.add_assoc]

/-- The tokens of a text tile it.  Each is a piece of the text that is not empty, they do not
overlap, and whatever byte is in none of them is a separator.  All this can be said of tokens with
offsets of 32 bits as long as the size of the text has no more. -/
theorem scan_tiles (text : String) :
    (∀ token ∈ scan text, CutOut text.toList 0 token) ∧
    (scan text).Pairwise (fun token later => token.stop ≤ later.offset) ∧
    (∀ place < text.utf8ByteSize,
      (∃ token ∈ scan text, token.offset ≤ place ∧ place < token.stop) ∨
      ∃ before c behind, text.toList = before ++ c :: behind ∧
        byteLength before = place ∧ isSeparator c = true) ∧
    (text.utf8ByteSize < 2 ^ 32 → ((scan text).map narrow).map Narrow.widen = scan text) := by
  refine ⟨scanFrom_cutOut _ _, scanFrom_disjoint _ _, fun place inside => ?_,
    fun short => map_widen_narrow fun token => offset_lt_of_mem_scan short⟩
  rw [← byteLength_toList, ← Nat.zero_add (byteLength _)] at inside
  simpa only [scan, Nat.zero_add] using scanFrom_covers _ 0 place (Nat.zero_le _) inside

/-- A name behind a letter of two bytes. -/
theorem scan_tiles_letter :
    "é ab".utf8ByteSize < 2 ^ 32 ∧
      ((scan "é ab").map narrow).map Narrow.widen =
        [⟨.identifier, "é", 0⟩, ⟨.identifier, "ab", 3⟩] := by
  have short : "é ab".utf8ByteSize < 2 ^ 32 := by decide
  refine ⟨short, ((scan_tiles "é ab").2.2.2 short).trans ?_⟩
  decide +kernel

/-- A keyword gives way to a name in front of a sign that is neither letter nor digit, if the
first byte of the sign might begin a letter. -/
theorem scan_keywordBeforeSign :
    Kind.ifKw ∈ Kind.keywords ∧
      (scan "if×").map (fun token => (token.kind, token.text)) =
        [(.identifier, Kind.ifKw.spelling), (.error, "×")] ∧
      isNamePart '×' = false := by
  decide +kernel

end

end GoMend.Token
