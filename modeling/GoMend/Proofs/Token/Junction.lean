import GoMend.Proofs.Token.Lexeme

/-!
# Where a lexeme ends

Which characters may go on with a lexeme, told by its category.  Before any other character
it is cut off the text as it stands.
-/

namespace GoMend.Token

open Pattern (covers_iff ReadsOnly cons_mem_kstar mem_language_all mem_language_any
  mem_language_char mem_language_fixed language_followedBy mem_characters)

/-! ## Characters of names and numbers -/

/-- A character that a number may consist of. -/
def isNumberPart (c : Char) : Bool :=
  isDigit c || ('a' ≤ c && c ≤ 'z') || ('A' ≤ c && c ≤ 'Z') || "_.+-".toList.contains c

/-- A digit, or a point with a digit behind it. -/
def beginsNumber : List Char → Bool
  | [] => false
  | c :: rest => isDigit c || (c == '.' && rest.head?.any isDigit)

theorem isNameStart_of_isDigit {c : Char} (digit : isDigit c = true) : isNameStart c = false := by
  simp only [isDigit, Bool.and_eq_true, decide_eq_true_eq] at digit
  have low : 48 ≤ c.toNat := digit.1
  have high : c.toNat ≤ 57 := digit.2
  have none_starts : ∀ code < 58, 48 ≤ code → isNameStart (Char.ofNat code) = false := by
    decide
  rw [← Char.ofNat_toNat c]
  exact none_starts _ (Nat.lt_succ_of_le high) low

theorem isNumberPart_of_isDigit {c : Char} (digit : isDigit c = true) :
    isNumberPart c = true := by
  simp [isNumberPart, digit]

theorem isNumberPart_of_isDigitPart {c : Char} (part : isDigitPart c = true) :
    isNumberPart c = true := by
  rcases Bool.or_eq_true_iff.1 part with digit | underscore
  · exact isNumberPart_of_isDigit digit
  · simp [isNumberPart, beq_iff_eq.1 underscore]

theorem beginsNumber_append {left right : List Char} (begins : beginsNumber left = true) :
    beginsNumber (left ++ right) = true := by
  rcases left with _ | ⟨c, _ | ⟨d, left⟩⟩ <;> simp_all [beginsNumber]

theorem nameShape_readsOnly : nameShape.ReadsOnly isNamePart := by
  refine ⟨fun c start => ?_, fun c part => part⟩
  simp only [isNameStart, isNamePart, Bool.or_eq_true] at *
  tauto

theorem digitsShape_readsOnly : digitsShape.ReadsOnly isNumberPart :=
  ⟨fun _ => isNumberPart_of_isDigit, fun _ => isNumberPart_of_isDigitPart⟩

theorem char_readsOnly {test : Char → Bool} {c : Char} (passes : test c = true) :
    (Pattern.char c).ReadsOnly test := by
  intro other same
  rwa [beq_iff_eq.1 same]

theorem oneOf_readsOnly {test : Char → Bool} {text : String}
    (passes : text.toList.all test = true) : (Pattern.oneOf text).ReadsOnly test :=
  fun c listed => List.all_eq_true.1 passes c (by simpa using listed)

theorem basedShape_readsOnly {signs : String} {digit : Char → Bool}
    (signsPass : signs.toList.all isNumberPart = true)
    (digitsPass : ∀ c, digit c = true → isNumberPart c = true) :
    (basedShape signs digit).ReadsOnly isNumberPart := by
  have digits : (Pattern.one fun c => digit c || c == '_').ReadsOnly isNumberPart := by
    intro c part
    rcases Bool.or_eq_true_iff.1 part with inBase | underscore
    · exact digitsPass c inBase
    · rw [beq_iff_eq.1 underscore]
      decide
  have zero : (Pattern.char '0').ReadsOnly isNumberPart := char_readsOnly (by decide)
  exact .all (by simp [zero, oneOf_readsOnly signsPass, digits.atLeastOnce])

theorem intShape_readsOnly : intShape.ReadsOnly isNumberPart := by
  have hex : (basedShape "xX" fun c => isDigit c || ('a' ≤ c && c ≤ 'f') ||
      ('A' ≤ c && c ≤ 'F')).ReadsOnly isNumberPart := by
    refine basedShape_readsOnly (by decide) fun c digit => ?_
    simp only [Bool.or_eq_true, Bool.and_eq_true, decide_eq_true_eq] at digit
    rcases digit with (digit | ⟨low, high⟩) | ⟨low, high⟩
    · exact isNumberPart_of_isDigit digit
    · simp [isNumberPart, low, Char.le_trans high (by decide : 'f' ≤ 'z')]
    · simp [isNumberPart, low, Char.le_trans high (by decide : 'F' ≤ 'Z')]
  have octal : (basedShape "oO" fun c => '0' ≤ c && c ≤ '7').ReadsOnly isNumberPart := by
    refine basedShape_readsOnly (by decide) fun c digit => ?_
    simp only [Bool.and_eq_true, decide_eq_true_eq] at digit
    simp [isNumberPart, isDigit, digit.1, Char.le_trans digit.2 (by decide : '7' ≤ '9')]
  have binary : (basedShape "bB" fun c => c == '0' || c == '1').ReadsOnly isNumberPart := by
    refine basedShape_readsOnly (by decide) fun c digit => ?_
    simp only [Bool.or_eq_true, beq_iff_eq] at digit
    rcases digit with rfl | rfl <;> decide
  exact .any (by simp only [List.forall_mem_cons, List.not_mem_nil, digitsShape_readsOnly, hex,
    octal, binary, false_implies, implies_true, and_self])

theorem exponentShape_readsOnly : exponentShape.ReadsOnly isNumberPart := by
  have digits : (Pattern.one isDigitPart).ReadsOnly isNumberPart :=
    fun _ => isNumberPart_of_isDigitPart
  have letter : (Pattern.oneOf "eE").ReadsOnly isNumberPart := oneOf_readsOnly (by decide)
  have sign : (Pattern.oneOf "+-").ReadsOnly isNumberPart := oneOf_readsOnly (by decide)
  exact .all (by simp [letter, sign.optional, digits.atLeastOnce])

theorem pointedShape_readsOnly : pointedShape.ReadsOnly isNumberPart := by
  have point : (Pattern.char '.').ReadsOnly isNumberPart := char_readsOnly (by decide)
  have digits : (Pattern.many (.one isDigitPart)).ReadsOnly isNumberPart :=
    fun _ => isNumberPart_of_isDigitPart
  exact .all (by simp [digitsShape_readsOnly, point, digits, exponentShape_readsOnly.optional])

theorem fractionShape_readsOnly : fractionShape.ReadsOnly isNumberPart := by
  have point : (Pattern.char '.').ReadsOnly isNumberPart := char_readsOnly (by decide)
  exact .all (by simp [digitsShape_readsOnly, point, exponentShape_readsOnly.optional])

theorem floatShape_readsOnly : floatShape.ReadsOnly isNumberPart :=
  .any (by simp [pointedShape_readsOnly, fractionShape_readsOnly,
    digitsShape_readsOnly.followedBy exponentShape_readsOnly])

theorem imaginaryShape_readsOnly : imaginaryShape.ReadsOnly isNumberPart := by
  have number : (Pattern.any [digitsShape, pointedShape, fractionShape]).ReadsOnly
      isNumberPart :=
    .any (by simp [digitsShape_readsOnly, pointedShape_readsOnly, fractionShape_readsOnly])
  exact number.followedBy (char_readsOnly (by decide))

theorem nameShape_begins {piece : List Char} (member : piece ∈ nameShape.language) :
    piece.head?.any isNameStart = true := by
  obtain ⟨_, ⟨c, start, rfl⟩, rest, -, rfl⟩ := Language.mem_mul.1 member
  simpa using start

theorem digitsShape_begins {piece : List Char} (member : piece ∈ digitsShape.language) :
    piece.head?.any isDigit = true := by
  obtain ⟨_, ⟨c, digit, rfl⟩, rest, -, rfl⟩ := Language.mem_mul.1 member
  simpa using digit

theorem beginsNumber_of_digit {piece : List Char} (digit : piece.head?.any isDigit = true) :
    beginsNumber piece = true := by
  cases piece with
  | nil => simp at digit
  | cons c rest => simp_all [beginsNumber]

theorem intShape_begins {piece : List Char} (member : piece ∈ intShape.language) :
    beginsNumber piece = true := by
  have based : ∀ signs digit, piece ∈ (basedShape signs digit).language →
      beginsNumber piece = true := by
    intro signs digit inBased
    obtain ⟨_, zero, rest, -, rfl⟩ := mem_language_all.1 inBased
    rw [mem_language_char.1 zero]
    rfl
  obtain ⟨shape, listed, inShape⟩ := mem_language_any.1 member
  simp only [List.mem_cons, List.not_mem_nil, or_false] at listed
  rcases listed with rfl | rfl | rfl | rfl
  · exact beginsNumber_of_digit (digitsShape_begins inShape)
  all_goals exact based _ _ inShape

theorem pointedShape_begins {piece : List Char} (member : piece ∈ pointedShape.language) :
    beginsNumber piece = true := by
  obtain ⟨left, digits, right, -, rfl⟩ := mem_language_all.1 member
  exact beginsNumber_append (beginsNumber_of_digit (digitsShape_begins digits))

theorem fractionShape_begins {piece : List Char} (member : piece ∈ fractionShape.language) :
    beginsNumber piece = true := by
  obtain ⟨_, point, behind, inBehind, rfl⟩ := mem_language_all.1 member
  obtain ⟨left, digits, right, -, rfl⟩ := mem_language_all.1 inBehind
  have digit := digitsShape_begins digits
  rw [mem_language_char.1 point]
  cases left <;> simp_all [beginsNumber]

theorem floatShape_begins {piece : List Char} (member : piece ∈ floatShape.language) :
    beginsNumber piece = true := by
  obtain ⟨shape, listed, inShape⟩ := mem_language_any.1 member
  simp only [List.mem_cons, List.not_mem_nil, or_false] at listed
  rcases listed with rfl | rfl | rfl
  · exact pointedShape_begins inShape
  · exact fractionShape_begins inShape
  · rw [language_followedBy, Language.mem_mul] at inShape
    obtain ⟨left, digits, right, -, rfl⟩ := inShape
    exact beginsNumber_append (beginsNumber_of_digit (digitsShape_begins digits))

theorem imaginaryShape_begins {piece : List Char} (member : piece ∈ imaginaryShape.language) :
    beginsNumber piece = true := by
  rw [imaginaryShape, language_followedBy, Language.mem_mul] at member
  obtain ⟨left, number, right, -, rfl⟩ := member
  apply beginsNumber_append
  obtain ⟨shape, listed, inShape⟩ := mem_language_any.1 number
  simp only [List.mem_cons, List.not_mem_nil, or_false] at listed
  rcases listed with rfl | rfl | rfl
  · exact beginsNumber_of_digit (digitsShape_begins inShape)
  · exact pointedShape_begins inShape
  · exact fractionShape_begins inShape

/-! ## Literals between quotes -/

theorem mem_quotedItem {quote c : Char} {rest : List Char}
    (member : c :: rest ∈ (quotedItem quote).language) :
    (c ≠ quote ∧ c ≠ '\\' ∧ rest = []) ∨ (c = '\\' ∧ ∃ d, rest = [d]) := by
  rw [quotedItem, Pattern.language_orElse, language_followedBy, Language.mem_add] at member
  rcases member with ⟨d, passes, same⟩ | escaped
  · obtain ⟨rfl, rfl⟩ := List.cons.inj same
    simp only [Bool.and_eq_true, bne_iff_ne] at passes
    exact .inl ⟨passes.1.1, passes.1.2, rfl⟩
  · obtain ⟨_, slash, _, ⟨d, -, rfl⟩, whole⟩ := Language.mem_mul.1 escaped
    rw [mem_language_char.1 slash] at whole
    obtain ⟨rfl, rfl⟩ := List.cons.inj whole
    exact .inr ⟨rfl, d, rfl⟩

/-- Behind its closing quote a quoted literal does not go on. -/
theorem quoted_not_extended {quote c : Char} (plain : quote ≠ '\\') {items longer : List Char}
    (inItems : items ∈ (Pattern.many (quotedItem quote)).language)
    (inLonger : longer ∈ (Pattern.many (quotedItem quote)).language) :
    ¬items ++ [quote, c] <+: longer ++ [quote] := by
  intro begins
  match items, longer with
  | [], [] => simpa using begins.length_le
  | [], d :: longer =>
      obtain ⟨left, right, item, -, rfl⟩ := cons_mem_kstar.1 inLonger
      obtain ⟨rfl, -⟩ := List.cons_prefix_cons.1 begins
      rcases mem_quotedItem item with ⟨other, -⟩ | ⟨slash, -⟩
      · exact other rfl
      · exact plain slash
  | d :: items, [] =>
      have short := begins.length_le
      simp at short
  | d :: items, e :: longer =>
      obtain ⟨rfl, further⟩ := List.cons_prefix_cons.1 begins
      obtain ⟨left, right, item, inRight, rfl⟩ := cons_mem_kstar.1 inItems
      obtain ⟨otherLeft, otherRight, otherItem, inOther, rfl⟩ := cons_mem_kstar.1 inLonger
      rcases mem_quotedItem item with ⟨-, noSlash, rfl⟩ | ⟨rfl, f, rfl⟩
      · rcases mem_quotedItem otherItem with ⟨-, -, rfl⟩ | ⟨slash, -⟩
        · exact quoted_not_extended plain inRight inOther further
        · exact noSlash slash
      · rcases mem_quotedItem otherItem with ⟨-, noSlash, -⟩ | ⟨-, g, rfl⟩
        · exact noSlash rfl
        · exact quoted_not_extended plain inRight inOther (List.cons_prefix_cons.1 further).2
termination_by items.length

/-- Nor does a raw string. -/
theorem raw_not_extended {c : Char} {items longer : List Char}
    (inLonger : longer ∈ (Pattern.many (.one (· != '`'))).language) :
    ¬items ++ ['`', c] <+: longer ++ ['`'] := by
  intro begins
  have inside : items ++ ['`'] <+: longer := by
    have shorter : items ++ ['`'] <+: longer ++ ['`'] :=
      (List.prefix_append (items ++ ['`']) [c]).trans (by simpa using begins)
    refine List.prefix_of_prefix_length_le shorter (List.prefix_append _ _) ?_
    have short := begins.length_le
    simp only [List.length_append, List.length_cons, List.length_nil] at short ⊢
    omega
  have quote : '`' ∈ longer := inside.subset (by simp)
  simpa using Pattern.mem_language_many_one inLonger '`' quote

/-- What may stand between two quotes. -/
def quotedBody (quote : Char) : Pattern :=
  if quote = '`' then .many (.one (· != '`')) else .many (quotedItem quote)

/-- A literal between quotes does not go on behind the closing one. -/
theorem literal_not_extended {quote c : Char} (plain : quote ≠ '\\') {items longer : List Char}
    (inItems : items ∈ (quotedBody quote).language)
    (inLonger : longer ∈ (quotedBody quote).language) :
    ¬items ++ [quote, c] <+: longer ++ [quote] := by
  unfold quotedBody at inItems inLonger
  split at inLonger
  · rename_i isRaw
    subst isRaw
    exact raw_not_extended inLonger
  · rename_i notRaw
    rw [if_neg notRaw] at inItems
    exact quoted_not_extended plain inItems inLonger

/-! ## What pieces look like -/

/-- The quotes around literals of a category. -/
def quotes : List (Kind × Char) :=
  [(.char, '\''), (.string, '"'), (.string, '`')]

/-- The categories with a fixed text. -/
def fixedKinds : List Kind :=
  Kind.keywords ++ Kind.operators ++ Kind.punctuation

/-- No other word begins with a quote. -/
theorem quotes_foreign : ∀ entry ∈ quotes, isNameStart entry.2 = false ∧
    isDigit entry.2 = false ∧ entry.2 ∉ ['\n', '/', '.', '\\'] ∧
      ∀ kind ∈ fixedKinds, kind.spelling.toList.head? ≠ some entry.2 := by
  decide

/-- What a piece of a category looks like at its ends. -/
inductive Looks : Kind → List Char → Prop
  | newline : Looks .newline ['\n']
  | lineComment {rest : List Char} (oneLine : '\n' ∉ rest) :
      Looks .lineComment ('/' :: '/' :: rest)
  | blockComment (rest : List Char) : Looks .blockComment ('/' :: '*' :: rest)
  | name {piece : List Char} (begins : piece.head?.any isNameStart = true)
      (parts : ∀ c ∈ piece, isNamePart c = true) : Looks .identifier piece
  | number {kind : Kind} {piece : List Char} (isNumber : kind ∈ [.int, .float, .imaginary])
      (begins : beginsNumber piece = true) (parts : ∀ c ∈ piece, isNumberPart c = true) :
      Looks kind piece
  | quoted {kind : Kind} {quote : Char} {items : List Char} (isQuote : (kind, quote) ∈ quotes)
      (inItems : items ∈ (quotedBody quote).language) :
      Looks kind (quote :: (items ++ [quote]))
  | fixed {kind : Kind} (listed : kind ∈ fixedKinds) : Looks kind kind.spelling.toList

/-- What stands between two given characters. -/
theorem mem_language_between {opening closing : Char} {body : Pattern} {piece : List Char}
    (member : piece ∈ (Pattern.all [.char opening, body, .char closing]).language) :
    ∃ items ∈ body.language, piece = opening :: (items ++ [closing]) := by
  obtain ⟨_, first, _, behind, rfl⟩ := mem_language_all.1 member
  obtain ⟨items, inBody, _, last, rfl⟩ := mem_language_all.1 behind
  obtain ⟨_, close, _, ended, rfl⟩ := mem_language_all.1 last
  rw [mem_language_char.1 first, mem_language_char.1 close, (Language.mem_one _).1 ended]
  exact ⟨items, inBody, rfl⟩

theorem looks_of_mem {shape : Kind × Pattern} {piece : List Char} (listed : shape ∈ shapes)
    (member : piece ∈ shape.2.language) : Looks shape.1 piece := by
  have isFixed : ∀ kinds : List Kind, kinds ⊆ fixedKinds → shape ∈ kinds.map fixedShape →
      Looks shape.1 piece := by
    intro kinds among inKinds
    obtain ⟨kind, inList, rfl⟩ := List.mem_map.1 inKinds
    rw [mem_language_fixed.1 member]
    exact .fixed (among inList)
  simp only [shapes, List.mem_append] at listed
  rcases listed with (((blank | keyword) | free) | operator) | mark
  · simp only [List.mem_cons, List.not_mem_nil, or_false] at blank
    rcases blank with rfl | rfl | rfl
    · rw [mem_language_char.1 member]
      exact .newline
    · rw [lineCommentShape, language_followedBy, Language.mem_mul] at member
      obtain ⟨_, slashes, rest, oneLine, rfl⟩ := member
      rw [mem_language_fixed.1 slashes]
      refine .lineComment fun broken => ?_
      simpa using Pattern.mem_language_many_one oneLine '\n' broken
    · change piece ∈ (Pattern.all (.fixed "/*" :: _)).language at member
      obtain ⟨_, opening, rest, -, rfl⟩ := mem_language_all.1 member
      rw [mem_language_fixed.1 opening]
      exact .blockComment rest
  · exact isFixed _ (by simp [fixedKinds]) keyword
  · simp only [List.mem_cons, List.not_mem_nil, or_false] at free
    rcases free with rfl | rfl | rfl | rfl | rfl | rfl
    · exact .name (nameShape_begins member) (nameShape_readsOnly.of_mem member)
    · exact .number (by simp) (intShape_begins member) (intShape_readsOnly.of_mem member)
    · exact .number (by simp) (floatShape_begins member) (floatShape_readsOnly.of_mem member)
    · exact .number (by simp) (imaginaryShape_begins member)
        (imaginaryShape_readsOnly.of_mem member)
    · obtain ⟨items, inItems, rfl⟩ := mem_language_between member
      exact .quoted (by decide) (Pattern.mem_many_of_atLeastOnce inItems)
    · rw [stringShape, Pattern.language_orElse, Language.mem_add] at member
      rcases member with quoted | raw
      · obtain ⟨items, inItems, rfl⟩ := mem_language_between quoted
        exact .quoted (by decide) inItems
      · obtain ⟨items, inItems, rfl⟩ := mem_language_between raw
        exact .quoted (by decide) inItems
  · exact isFixed _ (by simp [fixedKinds]) operator
  · exact isFixed _ (by simp [fixedKinds]) mark

theorem covering?_nil : covering? shapes [] = none := by
  cases covered : covering? shapes [] with
  | none => rfl
  | some kind =>
      obtain ⟨shape, listed, member, -⟩ := Fits.of_covering? covered (List.prefix_refl [])
      have noNull := nullable_of_mem_shapes shape listed
      simp [Pattern.nil_mem_language.1 member] at noNull

/-- A piece that is covered looks like its category. -/
theorem looks_of_covering? {kind : Kind} {piece : List Char}
    (covered : covering? shapes piece = some kind) : Looks kind piece := by
  obtain ⟨shape, found, rfl⟩ := Option.map_eq_some_iff.1 covered
  have covers : shape.2.covers piece = true := by simpa using List.find?_some found
  exact looks_of_mem (List.mem_of_find?_eq_some found) (covers_iff.1 covers)

namespace Looks

variable {kind : Kind} {piece : List Char}

/-- What opens like a comment is one, as no word that stands for itself begins so. -/
theorem comment_of_opens {second : Char} {rest : List Char}
    (unlisted : ∀ kind ∈ fixedKinds, ¬['/', second] <+: kind.spelling.toList)
    (looks : Looks kind ('/' :: second :: rest)) :
    kind = .lineComment ∧ second = '/' ∧ '\n' ∉ rest ∨ kind = .blockComment ∧ second = '*' := by
  generalize opened : '/' :: second :: rest = piece at looks
  cases looks with
  | lineComment oneLine =>
      cases opened
      exact .inl ⟨rfl, rfl, oneLine⟩
  | blockComment =>
      cases opened
      exact .inr ⟨rfl, rfl⟩
  | newline => cases opened
  | name begins _ =>
      simp only [← opened, List.head?_cons, Option.any_some] at begins
      exact absurd begins (by decide)
  | number _ begins _ =>
      have noDigit : isDigit '/' = false := by decide
      simp [← opened, beginsNumber, noDigit] at begins
  | quoted isQuote _ =>
      obtain ⟨rfl, -⟩ := List.cons.inj opened
      exact absurd isQuote (by cases kind <;> decide)
  | fixed listed => exact absurd (by simp [← opened]) (unlisted kind listed)

theorem blockComment_of_opens {rest : List Char} (looks : Looks kind ('/' :: '*' :: rest)) :
    kind = .blockComment := by
  obtain ⟨-, isSlash, -⟩ | ⟨isBlock, -⟩ := comment_of_opens (by decide) looks
  · exact absurd isSlash (by decide)
  · exact isBlock

theorem lineComment_of_opens {rest : List Char} (looks : Looks kind ('/' :: '/' :: rest)) :
    kind = .lineComment ∧ '\n' ∉ rest := by
  obtain ⟨isLine, -, oneLine⟩ | ⟨-, isStar⟩ := comment_of_opens (by decide) looks
  · exact ⟨isLine, oneLine⟩
  · exact absurd isStar (by decide)

/-- What begins like a name consists of letters and digits. -/
theorem nameParts (looks : Looks kind piece) (begins : piece.head?.any isNameStart = true) :
    ∀ c ∈ piece, isNamePart c = true := by
  cases looks with
  | name _ parts => exact parts
  | number _ digits =>
      cases piece with
      | nil => cases digits
      | cons c rest =>
          simp only [List.head?_cons, Option.any_some] at begins
          simp only [beginsNumber, Bool.or_eq_true, Bool.and_eq_true, beq_iff_eq] at digits
          rcases digits with digit | ⟨rfl, -⟩
          · simp [isNameStart_of_isDigit digit] at begins
          · exact absurd begins (by decide)
  | fixed listed =>
      have fixedNames : ∀ kind ∈ fixedKinds,
          kind.spelling.toList.head?.any isNameStart = true →
            kind.spelling.toList.all isNamePart = true := by
        decide
      exact List.all_eq_true.1 (fixedNames kind listed begins)
  | quoted isQuote _ => simp [(quotes_foreign _ isQuote).1] at begins
  | _ => exact absurd begins (by simp; decide)

/-- What begins like a number consists of parts of numbers. -/
theorem numberParts (looks : Looks kind piece) (begins : beginsNumber piece = true) :
    ∀ c ∈ piece, isNumberPart c = true := by
  cases looks with
  | name starts _ =>
      cases piece with
      | nil => cases begins
      | cons c rest =>
          simp only [List.head?_cons, Option.any_some] at starts
          simp only [beginsNumber, Bool.or_eq_true, Bool.and_eq_true, beq_iff_eq] at begins
          rcases begins with digit | ⟨rfl, -⟩
          · simp [isNameStart_of_isDigit digit] at starts
          · exact absurd starts (by decide)
  | number _ _ parts => exact parts
  | fixed listed =>
      have noNumber : ∀ kind ∈ fixedKinds, beginsNumber kind.spelling.toList = false := by
        decide
      simp [noNumber kind listed] at begins
  | quoted isQuote _ =>
      obtain ⟨-, noDigit, noMark, -⟩ := quotes_foreign _ isQuote
      simp_all [beginsNumber]
  | _ => exact absurd begins (by simp [beginsNumber]; decide)

/-- What begins with a quote is a literal between quotes, of the category that has the quote. -/
theorem quoted_items {other : Kind} {quote : Char} {rest : List Char}
    (isQuote : (other, quote) ∈ quotes) (looks : Looks kind (quote :: rest)) :
    kind = other ∧ ∃ items ∈ (quotedBody quote).language, rest = items ++ [quote] := by
  have unique : ∀ one ∈ quotes, ∀ two ∈ quotes, one.2 = two.2 → one.1 = two.1 := by decide
  obtain ⟨noName, noDigit, noMark, notFixed⟩ := quotes_foreign _ isQuote
  generalize whole : quote :: rest = piece at looks
  cases looks with
  | name begins _ => simp [← whole, noName] at begins
  | number _ begins _ => simp_all [← whole, beginsNumber]
  | quoted here inItems =>
      obtain ⟨rfl, rfl⟩ := List.cons.inj whole
      exact ⟨unique _ here _ isQuote rfl, _, inItems, rfl⟩
  | fixed listed => exact absurd (by rw [← whole]; rfl) (notFixed _ listed)
  | _ => simp_all

end Looks

/-! ## What goes on -/

/-- The character behind a piece in a longer one that begins with it. -/
def nextBehind? (piece longer : List Char) : Option Char :=
  if piece.isPrefixOf longer then longer[piece.length]? else none

theorem nextBehind?_of_prefix {piece longer : List Char} {c : Char}
    (begins : piece ++ [c] <+: longer) : nextBehind? piece longer = some c := by
  obtain ⟨rest, rfl⟩ := begins
  simp [nextBehind?]

/-- The characters that make a comment of a slash and a number of a point. -/
def special : Kind → List Char
  | .slash => ['/', '*']
  | .dot => "0123456789".toList
  | _ => []

/-- The characters that may stand behind a mark in a longer word. -/
def extensions (kind : Kind) : List Char :=
  fixedKinds.filterMap (fun other => nextBehind? kind.spelling.toList other.spelling.toList) ++
    special kind

/-- Whether a name or literal may go on with the character. -/
def freeGoesOn : Kind → Char → Bool
  | .identifier => isNamePart
  | .int | .float | .imaginary => isNumberPart
  | _ => fun _ => false

/-- Whether a word of the category may go on with the character.  Behind a keyword also a
character that a letter might begin like makes another word. -/
def goesOn (kind : Kind) (c : Char) : Bool :=
  if kind.isKeyword then isNamePart c || Text.beginsLikeLetter c
  else if kind ∈ Kind.operators ++ Kind.punctuation then (extensions kind).contains c
  else freeGoesOn kind c

theorem goesOn_keyword {kind : Kind} {c : Char} (keyword : kind.isKeyword = true) :
    goesOn kind c = (isNamePart c || Text.beginsLikeLetter c) :=
  if_pos keyword

theorem goesOn_mark {kind : Kind} {c : Char} (mark : kind ∈ Kind.operators ++ Kind.punctuation) :
    goesOn kind c = (extensions kind).contains c := by
  have noKeyword : ∀ kind ∈ Kind.operators ++ Kind.punctuation, ¬kind.isKeyword = true := by
    decide
  rw [goesOn, if_neg (noKeyword kind mark), if_pos mark]

theorem mem_digits {c : Char} (digit : isDigit c = true) : c ∈ "0123456789".toList := by
  simp only [isDigit, Bool.and_eq_true, decide_eq_true_eq] at digit
  have low : 48 ≤ c.toNat := digit.1
  have high : c.toNat ≤ 57 := digit.2
  have every : ∀ code < 58, 48 ≤ code → Char.ofNat code ∈ "0123456789".toList := by
    decide
  rw [← Char.ofNat_toNat c]
  exact every _ (Nat.lt_succ_of_le high) low

/-- A longer word that begins with two given characters. -/
theorem begins_two {piece rest : List Char} {a b c : Char} (filled : piece ≠ [])
    (begins : piece ++ [c] <+: a :: b :: rest) : (piece = [a] ∧ c = b) ∨ [a, b] <+: piece := by
  rcases piece with _ | ⟨d, _ | ⟨e, piece⟩⟩
  · exact absurd rfl filled
  · simp_all
  · simp_all

/-- No word is a mark with a character behind it that may not stand there. -/
theorem mark_not_extended {kind other : Kind} {c : Char} {longer : List Char}
    (mark : kind ∈ Kind.operators ++ Kind.punctuation) (stops : c ∉ extensions kind)
    (looks : Looks other longer) : ¬kind.spelling.toList ++ [c] <+: longer := by
  intro begins
  rw [extensions, List.mem_append, not_or, List.mem_filterMap] at stops
  obtain ⟨notFixed, notSpecial⟩ := stops
  have marks : ∀ kind ∈ Kind.operators ++ Kind.punctuation,
      kind.spelling.toList ≠ [] ∧ kind.spelling.toList.head?.any isNameStart = false := by
    decide
  have slashes : ∀ kind ∈ Kind.operators ++ Kind.punctuation,
      ¬['/', '/'] <+: kind.spelling.toList ∧ ¬['/', '*'] <+: kind.spelling.toList ∧
        (kind.spelling.toList = ['/'] → special kind = ['/', '*']) := by
    decide
  have dots : ∀ kind ∈ Kind.operators ++ Kind.punctuation,
      beginsNumber kind.spelling.toList = false ∧
        (kind.spelling.toList = ['.'] → special kind = "0123456789".toList) := by
    decide
  obtain ⟨filled, noName⟩ := marks kind mark
  obtain ⟨noLine, noBlock, slash⟩ := slashes kind mark
  obtain ⟨noNumber, dot⟩ := dots kind mark
  have heads : longer.head? = kind.spelling.toList.head? := by
    obtain ⟨rest, rfl⟩ := begins
    cases spelled : kind.spelling.toList with
    | nil => exact absurd spelled filled
    | cons d rest => rfl
  cases looks with
  | newline =>
      have short := begins.length_le
      rw [List.length_append, List.length_singleton, List.length_singleton] at short
      exact filled (List.length_eq_zero_iff.1 (by omega))
  | lineComment _ =>
      rcases begins_two filled begins with ⟨one, rfl⟩ | two
      · exact notSpecial (by simp [slash one])
      · exact noLine two
  | blockComment rest =>
      rcases begins_two filled begins with ⟨one, rfl⟩ | two
      · exact notSpecial (by simp [slash one])
      · exact noBlock two
  | name named _ => simp [heads, noName] at named
  | number _ digits _ =>
      obtain ⟨rest, rfl⟩ := begins
      rcases spelled : kind.spelling.toList with _ | ⟨d, _ | ⟨e, piece⟩⟩
      · exact filled spelled
      · have noDigit : isDigit d = false := by simpa [spelled, beginsNumber] using noNumber
        obtain ⟨rfl, digit⟩ : d = '.' ∧ isDigit c = true := by
          simpa [spelled, beginsNumber, noDigit] using digits
        exact notSpecial (by simpa [dot spelled] using mem_digits digit)
      · simp_all [beginsNumber]
  | quoted isQuote _ =>
      have inFixed : kind ∈ fixedKinds := by simp_all [fixedKinds]
      exact (quotes_foreign _ isQuote).2.2.2 kind inFixed heads.symm
  | fixed listed => exact notFixed ⟨_, listed, nextBehind?_of_prefix begins⟩

/-- Behind a character that does not go on with it a word does not go on. -/
theorem not_extended {kind other : Kind} {c : Char} {piece longer : List Char}
    (looks : Looks kind piece) (word : kind.isTrivia = false) (stops : goesOn kind c = false)
    (longerLooks : Looks other longer) : ¬piece ++ [c] <+: longer := by
  intro begins
  have inside : c ∈ longer := begins.subset (by simp)
  have sameHead : ∀ {test : Char → Bool}, piece.head?.any test = true →
      longer.head?.any test = true := by
    intro test passes
    obtain ⟨rest, rfl⟩ := begins
    cases piece with
    | nil => simp at passes
    | cons d piece => simpa using passes
  cases looks with
  | name named _ =>
      have part := longerLooks.nameParts (sameHead named) c inside
      have free : goesOn .identifier c = isNamePart c := rfl
      simp [free, part] at stops
  | number isNumber digits _ =>
      have begun : beginsNumber longer = true := by
        obtain ⟨rest, rfl⟩ := begins
        rw [List.append_assoc]
        exact beginsNumber_append digits
      have part := longerLooks.numberParts begun c inside
      simp only [List.mem_cons, List.not_mem_nil, or_false] at isNumber
      have free : goesOn kind c = isNumberPart c := by rcases isNumber with rfl | rfl | rfl <;> rfl
      simp [free, part] at stops
  | @quoted _ quote items isQuote inItems =>
      obtain ⟨-, -, plain, -⟩ := quotes_foreign _ isQuote
      cases longer with
      | nil => cases inside
      | cons d rest =>
          obtain ⟨rfl, further⟩ := List.cons_prefix_cons.1 begins
          obtain ⟨-, others, inOthers, rfl⟩ := longerLooks.quoted_items isQuote
          refine literal_not_extended (by simp_all) inItems inOthers (c := c) ?_
          simpa using further
  | fixed listed =>
      by_cases mark : kind ∈ Kind.operators ++ Kind.punctuation
      · rw [goesOn_mark mark] at stops
        exact mark_not_extended mark (by simpa using stops) longerLooks begins
      · have keyword : kind ∈ Kind.keywords := by simp_all [fixedKinds]
        have named : ∀ kind ∈ Kind.keywords,
            kind.spelling.toList.head?.any isNameStart = true := by
          decide
        have part := longerLooks.nameParts (sameHead (named kind keyword)) c inside
        rw [goesOn_keyword (List.contains_iff_mem.2 keyword), part] at stops
        cases stops
  | _ => cases word

/-! ## Cutting lexemes off -/

theorem exists_of_opensComment {text : List Char} (opens : opensComment text = true) :
    ∃ rest, text = '/' :: '*' :: rest := by
  unfold opensComment at opens
  split at opens
  · exact ⟨_, rfl⟩
  · cases opens

/-- A piece is a word of a category: the first shape that covers it is that of the category. -/
structure Lexeme (kind : Kind) (piece : List Char) : Prop where
  covered : covering? shapes piece = some kind
  word : kind.isTrivia = false

namespace Lexeme

variable {kind : Kind} {piece : List Char}

theorem looks (lexeme : Lexeme kind piece) : Looks kind piece :=
  looks_of_covering? lexeme.covered

theorem ne_nil (lexeme : Lexeme kind piece) : piece ≠ [] := by
  rintro rfl
  simpa [covering?_nil] using lexeme.covered

/-- No word begins a block comment. -/
theorem not_comment {rest : List Char} (lexeme : Lexeme kind ('/' :: '*' :: rest)) : False := by
  have word := lexeme.word
  rw [lexeme.looks.blockComment_of_opens] at word
  cases word

/-- A lexeme is cut off before a character that does not go on with it. -/
theorem headToken (lexeme : Lexeme kind piece) {behind : List Char}
    (stops : ∀ c ∈ behind.head?, goesOn kind c = false) :
    headToken (piece ++ behind) = (kind, piece.length) := by
  have notLonger : ∀ longer, Fits shapes (piece ++ behind) longer →
      longer.length ≤ piece.length := by
    rintro longer ⟨shape, listed, member, begins⟩
    by_contra isLonger
    cases behind with
    | nil =>
        rw [List.append_nil] at begins
        exact isLonger begins.length_le
    | cons c rest =>
        have further : piece ++ [c] <+: longer := by
          have read : piece ++ [c] <+: piece ++ c :: rest := ⟨rest, by simp⟩
          refine List.prefix_of_prefix_length_le read begins ?_
          simp; omega
        exact not_extended lexeme.looks lexeme.word (stops c rfl)
          (looks_of_mem listed member) further
  have cut := longestShape?_of_covering? lexeme.covered notLonger
  have noComment : opensComment (piece ++ behind) = false := by
    by_contra opens
    obtain ⟨rest, opened⟩ := exists_of_opensComment (by simpa using opens)
    cases behind with
    | nil =>
        rw [List.append_nil] at opened
        exact (opened ▸ lexeme).not_comment
    | cons c behind =>
        refine not_extended lexeme.looks lexeme.word (stops c rfl) (.blockComment rest) ?_
        exact ⟨behind, by simp [← opened]⟩
  have settled : settle kind behind = kind := by
    unfold settle
    split
    · rename_i demoted
      rw [Bool.and_eq_true] at demoted
      cases behind with
      | nil => simp at demoted
      | cons c rest =>
          have stop := stops c rfl
          rw [goesOn_keyword demoted.1] at stop
          simp_all
    · rfl
  cases filled : piece with
  | nil => exact absurd filled lexeme.ne_nil
  | cons c rest =>
      rw [filled] at cut noComment
      rw [Token.headToken, List.cons_append, List.head?_cons, Option.elim_some,
        longestShape?_shapesAt, ← List.cons_append, cut]
      simp only [noComment, Bool.false_and, Bool.false_eq_true, if_false, List.drop_left, settled]

end Lexeme

end GoMend.Token
