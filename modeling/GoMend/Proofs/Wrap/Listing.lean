import GoMend.Proofs.Reprint.Document
import GoMend.Proofs.Scope.Unplaced
import GoMend.Proofs.Text.Offsets
import GoMend.Proofs.Token.Identifiers
import GoMend.Proofs.Token.Quoting
import GoMend.Proofs.Wrap.Table

/-!
# The lookup table is read back

The names under a wrapper are listed in strictly increasing order, so the text of the table says
which constructors are recorded and nothing else.  It is read as the file that it was written
from, if the package and the constructors have names.
-/

namespace GoMend

open Lexed (isComment)
open Piece (chars)
open Token (Lexeme scanFrom byteLength)

namespace Table

variable {records others : List Record} {wrapper : Wrapper}

/-! ## The order of the names -/

/-- Of a sorted list every value is kept once, in order. -/
theorem pairwise_eraseReps_loop {α : Type} [LinearOrder α] {last : α} {rest done : List α}
    (sorted : (last :: rest).Pairwise (· ≤ ·)) (descending : (last :: done).Pairwise (· > ·)) :
    (List.eraseRepsBy.loop (· == ·) last rest done).Pairwise (· < ·) := by
  induction rest generalizing last done with
  | nil => exact List.pairwise_reverse.2 descending
  | cons next rest ih =>
      obtain ⟨least, behind⟩ := List.pairwise_cons.1 sorted
      rw [List.eraseRepsBy.loop]
      split
      · rename_i same
        exact ih (by rwa [eq_of_beq same]) descending
      · rename_i other
        have less : last < next :=
          lt_of_le_of_ne (least next List.mem_cons_self) (by simpa using other)
        refine ih behind (List.pairwise_cons.2 ⟨?_, descending⟩)
        rintro value (_ | ⟨_, member⟩)
        · exact less
        · exact (List.rel_of_pairwise_cons descending member).trans less

/-- The names under a wrapper are listed in strictly increasing order. -/
theorem symbols_pairwise : (symbols wrapper records).Pairwise (· < ·) := by
  have sorted : (((records.filter (·.wrapper = wrapper)).map (·.symbol)).mergeSort
      fun left right => decide (left ≤ right)).Pairwise (· ≤ ·) := by
    have pairwise := @List.pairwise_mergeSort String (fun left right => decide (left ≤ right))
      (by simpa using fun _ _ _ => le_trans) (by simpa using le_total)
      ((records.filter (·.wrapper = wrapper)).map (·.symbol))
    simpa using pairwise
  rw [symbols, List.eraseReps, List.eraseRepsBy.eq_def]
  split
  · exact .nil
  · rename_i first rest some
    rw [some] at sorted
    exact pairwise_eraseReps_loop sorted (List.pairwise_singleton _ _)

/-- The names under a wrapper depend on the set of records alone. -/
theorem symbols_congr (same : ∀ record, record ∈ others ↔ record ∈ records) :
    symbols wrapper others = symbols wrapper records := by
  refine symbols_pairwise.eq_of_mem_iff symbols_pairwise fun symbol => ?_
  simp only [mem_symbols, same]

/-- So does the whole file. -/
theorem file_congr (table : Table) (same : ∀ record, record ∈ others ↔ record ∈ records) :
    table.file others = table.file records := by
  have categories : category others = category records := by
    funext wrapper
    rw [category, category, symbols_congr same]
  rw [file, file, categories]

/-! ## The table as a value -/

/-- A name without a dot stands as it is. -/
theorem ofName_eq {name : String} (lexeme : Lexeme .identifier name.toList) :
    Expr.ofName name = .ident (.ofName name) := by
  have noDot : '.' ∉ name.toList := by
    intro member
    have looks := lexeme.looks
    generalize name.toList = piece at looks member
    cases looks with
    | name _ parts => exact absurd (parts '.' member) (by decide)
    | number isNumber _ _ => simp at isNumber
    | quoted isQuote _ => simp [Token.quotes] at isQuote
    | fixed listed => exact absurd listed (by decide)
  have nothing : name.toList.dropWhile (· != '.') = [] := by
    rw [List.dropWhile_eq_nil_iff]
    intro c member
    rw [bne_iff_ne]
    rintro rfl
    exact noDot member
  rw [Expr.ofName]
  simp only [nothing]

theorem lexeme_string : Lexeme .identifier "string".toList :=
  ⟨by decide, rfl⟩

theorem shaped_innerType : Shaped .type innerType := by
  have key : Expr.ofName "string" = .ident (.ofName "string") := ofName_eq lexeme_string
  rw [innerType, key]
  exact .anyMap (.typeName lexeme_string)

theorem shaped_outerType : Shaped .type outerType := by
  have key : Expr.ofName "string" = .ident (.ofName "string") := ofName_eq lexeme_string
  rw [outerType, key]
  exact .map (.typeName lexeme_string) shaped_innerType

/-- An element under a quoted key stands wherever its value does. -/
theorem shaped_entry {key : String} {value : Expr} (shaped : Shaped .primary value) :
    Shaped .item (entry key value) :=
  .pair (.value (.single (.operand (.literal (Token.lexeme_quote key)))))
    (.value (.single (.operand shaped)))

/-- A literal of a map type is broken across lines exactly if it has elements. -/
theorem shaped_mapLiteral {key element : Expr} {elements : List Expr}
    (isType : Shaped .type (.mapType key element)) (each : ∀ e ∈ elements, Shaped .item e) :
    Shaped .primary (mapLiteral (.mapType key element) elements) := by
  refine .composite (.bare isType rfl) rfl each ⟨?_, ?_⟩
  · simp
  · intro single
    obtain rfl : elements = [] := by simpa using single
    rfl

/-- The value of the table. -/
def value (records : List Record) : Expr :=
  mapLiteral outerType (Wrapper.all.map (category records))

/-- An element of which the value stands nowhere stands nowhere. -/
theorem unplaced_entry {key : String} {value : Expr} (nowhere : value.unplaced = value) :
    (entry key value).unplaced = entry key value := by
  rw [entry, Expr.unplaced_keyValue, nowhere]
  rfl

theorem unplaced_mapLiteral {type : Expr} {elements : List Expr} (isType : type.unplaced = type)
    (each : ∀ e ∈ elements, e.unplaced = e) :
    (mapLiteral type elements).unplaced = mapLiteral type elements := by
  rw [mapLiteral, Expr.unplaced_composite, Option.map_some, isType, Expr.unplacedAll_eq_map,
    List.map_congr_left each, List.map_id']

theorem unplaced_ofName (name : String) : (Expr.ofName name).unplaced = .ofName name := by
  unfold Expr.ofName
  extract_lets chars package
  split <;> rfl

/-- The value is built without offsets. -/
theorem unplaced_value (records : List Record) : (value records).unplaced = value records := by
  have inner : innerType.unplaced = innerType := by
    rw [innerType, Expr.unplaced_mapType, unplaced_ofName]
    rfl
  have outer : outerType.unplaced = outerType := by
    rw [outerType, Expr.unplaced_mapType, unplaced_ofName, inner]
  refine unplaced_mapLiteral outer fun part member => ?_
  obtain ⟨wrapper, -, rfl⟩ := List.mem_map.1 member
  refine unplaced_entry (unplaced_mapLiteral inner fun row inRows => ?_)
  obtain ⟨symbol, -, rfl⟩ := List.mem_map.1 inRows
  exact unplaced_entry (unplaced_ofName symbol)

theorem shaped_value (named : ∀ record ∈ records, Token.IsName record.symbol) :
    Shaped .primary (value records) := by
  refine shaped_mapLiteral shaped_outerType fun part member => ?_
  obtain ⟨wrapper, -, rfl⟩ := List.mem_map.1 member
  refine shaped_entry (shaped_mapLiteral shaped_innerType fun row inRows => ?_)
  obtain ⟨symbol, listed, rfl⟩ := List.mem_map.1 inRows
  obtain ⟨record, recorded, -, rfl⟩ := mem_symbols.1 listed
  have lexeme := (named record recorded).lexeme
  rw [ofName_eq lexeme]
  exact shaped_entry (.name lexeme)

/-! ## The table as a text -/

theorem file_eq (table : Table) :
    table.file records = Reprint.file [{ text := header, offset := none }]
      (.ofName table.package) (.ofName variableName) (value records) :=
  rfl

/-- The file is built without offsets. -/
theorem unplaced_file (table : Table) : (table.file records).unplaced = table.file records := by
  rw [file_eq]
  simp [File.unplaced, Reprint.file, Decl.unplaced, GenDecl.unplaced, Reprint.declaration,
    Spec.unplaced, ValueSpec.unplaced, Reprint.entry, Expr.unplacedAll_eq_map, unplaced_value,
    Comment.unplaced, Ident.unplaced, Ident.ofName]

theorem toList_render (table : Table) :
    ∃ depth, (table.render records).toList = (header.toList ++ ['\n']) ++
      (chars 0 (Reprint.package (.ofName table.package)) ++ '\n' :: '\n' ::
        (chars 0 (Reprint.opening (.ofName variableName) ++ (value records).pieces) ++
          '\n' :: List.replicate depth '\t')) := by
  have start : chars 0 (Piece.doc [{ text := header, offset := none }]) =
      header.toList ++ ['\n'] := by
    decide
  have gap : chars 0 [Piece.line, .line] = ['\n', '\n'] := by decide
  have finish : ∀ depth, chars depth [.line] = '\n' :: List.replicate depth '\t' := by
    intro depth
    rw [Piece.chars_line]
    simp [chars]
  refine ⟨Piece.depthBehind 0 (Reprint.opening (.ofName variableName) ++ (value records).pieces),
    ?_⟩
  have flat : Piece.depthBehind 0 (Piece.doc [{ text := header, offset := none }]) = 0 ∧
      Piece.depthBehind 0 (Reprint.package (.ofName table.package)) = 0 ∧
      Piece.depthBehind 0 [.line, .line] = 0 :=
    ⟨rfl, rfl, rfl⟩
  rw [render, File.render, Piece.toList_render, file_eq, Reprint.pieces_file, Piece.chars_append,
    flat.1, Piece.chars_append, flat.2.1, Piece.chars_append, flat.2.2,
    Piece.chars_append _ (_ ++ _), start, gap, finish]
  rfl

/-- The tokens on the line before the package clause. -/
def remarks : List Token :=
  [⟨.lineComment, header, 0⟩, ⟨.newline, "\n", byteLength header.toList⟩]

theorem scan_header (behind : List Char) :
    scanFrom ((header.toList ++ ['\n']) ++ behind) 0 =
      remarks ++ scanFrom behind (byteLength (header.toList ++ ['\n'])) := by
  have opens : header.toList = '/' :: '/' :: header.toList.drop 2 := by decide
  have oneLine : '\n' ∉ header.toList.drop 2 := by decide
  have size : byteLength (header.toList ++ ['\n']) = byteLength header.toList + 1 :=
    Token.byteLength_append ..
  have comment := Token.scanFrom_lineComment oneLine behind 0
  rw [← opens, String.ofList_toList, Nat.zero_add, Piece.scanFrom_newline] at comment
  rw [size, List.append_assoc]
  exact comment

theorem comments_remarks : remarks.filter isComment = [⟨.lineComment, header, 0⟩] :=
  rfl

/-- The comment stands before the line of the package clause. -/
theorem early_remarks (text : String) : ∀ token ∈ remarks.filter isComment,
    (LineIndex.ofText text).lineAt token.offset < (header.toList ++ ['\n']).count '\n' + 1 := by
  have first : (LineIndex.ofText text).lineAt 0 = 1 :=
    @LineIndex.lineAt_ofText text [] text.toList (List.nil_append _).symm
  have lines : (header.toList ++ ['\n']).count '\n' = 1 := by decide
  rw [comments_remarks, List.forall_mem_singleton, first, lines]
  exact Nat.lt_succ_self 1

/-- The text of the table is read as the file that it was written from. -/
theorem parse_file (table : Table) (package : Token.IsName table.package)
    (named : ∀ record ∈ records, Token.IsName record.symbol) :
    ∃ file, File.parse (table.render records) = .ok file ∧ file.unplaced = table.file records := by
  obtain ⟨depth, whole⟩ := @toList_render records table
  have variableLexeme : Lexeme .identifier (Ident.ofName variableName).name.toList :=
    ⟨by decide, rfl⟩
  have opens := scan_header (chars 0 (Reprint.package (.ofName table.package)) ++ '\n' :: '\n' ::
    (chars 0 (Reprint.opening (.ofName variableName) ++ (value records).pieces) ++
      '\n' :: List.replicate depth '\t'))
  rw [← whole] at opens
  have trivia : ∀ token ∈ remarks, token.kind.isTrivia = true := by decide
  obtain ⟨file, parsed, same⟩ := File.parse_variable whole opens trivia (early_remarks _)
    (.line depth) package.lexeme variableLexeme (.single (.operand (shaped_value named)))
  rw [comments_remarks] at same
  exact ⟨file, parsed, same.trans (unplaced_file table)⟩

/-! ## The table in a package -/

section

variable {table : Table} {again : File} (same : again.unplaced = table.file records)

include same

/-- What was read as the table resolves exactly where every recorded name is declared. -/
theorem firstUnresolved?_again (package : PackageScope) :
    again.firstUnresolved? package = none ↔
      ∀ record ∈ records, package.Provides record.symbol := by
  rw [← File.firstUnresolved?_unplaced, same, firstUnresolved?_eq_none_iff]

/-- The table declares its variable alone. -/
theorem declTypes_again : again.decls.flatMap PackageScope.declTypes = [] := by
  obtain ⟨only, decls, entry, _, -, specs, -⟩ :=
    Reprint.exists_declares_of_unplaced (same.trans (unplaced_file table).symm)
  rw [decls, List.flatMap_singleton, PackageScope.declTypes, specs]
  rfl

end

/-! ## What the table lists -/

/-- The names are those of the constructors that are recorded with the wrapper, each of them once
and in the order of their bytes. -/
structure Lists (records : List Record) (wrapper : Wrapper) (symbols : List String) : Prop where
  exactly : ∀ symbol, symbol ∈ symbols ↔
    ∃ record ∈ records, record.wrapper = wrapper ∧ record.symbol = symbol
  ascending : symbols.Pairwise fun left right => Text.bytes left < Text.bytes right

theorem lists_symbols : Lists records wrapper (symbols wrapper records) where
  exactly _ := mem_symbols
  ascending := symbols_pairwise.imp Text.bytes_lt_of_lt

/-- A name under its quoted form. -/
def row (symbol : String) : Expr :=
  .keyValue (.literal (.ofText symbol)) (.ident (.ofName symbol))

/-- Names in a table of their own, a line for each, or none at all. -/
def rows (symbols : List String) : Expr :=
  .composite (some innerType) (symbols.map row) (!symbols.isEmpty)

/-- The part for a wrapper lists the names under it. -/
theorem category_eq (named : ∀ record ∈ records, Token.IsName record.symbol) (wrapper : Wrapper) :
    category records wrapper =
      .keyValue (.literal (.ofText wrapper.name)) (rows (symbols wrapper records)) := by
  have each : (symbols wrapper records).map (fun symbol => entry symbol (.ofName symbol)) =
      (symbols wrapper records).map row := by
    refine List.map_congr_left fun symbol listed => ?_
    obtain ⟨record, recorded, -, rfl⟩ := mem_symbols.1 listed
    rw [ofName_eq (named record recorded).lexeme]
    rfl
  rw [category, each, mapLiteral, List.isEmpty_map]
  rfl

/-- The text of the table depends on the set of records alone.  If the names of the package and of
the recorded constructors are read as names, the text is read as the file that it was written
from, up to positions: its only variable holds a table for each wrapper, injectable ones first,
and each of these lists the constructors that are recorded with the wrapper, once each and in the
order of their bytes, by their names under their quoted names. -/
theorem render_readBack (table : Table) (package : Token.IsName table.package)
    (named : ∀ record ∈ records, Token.IsName record.symbol) :
    (∀ others : List Record, (∀ record, record ∈ others ↔ record ∈ records) →
      table.render others = table.render records) ∧
    ∃ file injectable notInjectable,
      File.parse (table.render records) = .ok file ∧ file.unplaced = table.file records ∧
      file.onlyValue?.map Expr.unplaced =
        some (.composite (some outerType)
          [.keyValue (.literal (.ofText "Injectable")) (rows injectable),
            .keyValue (.literal (.ofText "NotInjectable")) (rows notInjectable)] true) ∧
      Lists records .injectable injectable ∧ Lists records .notInjectable notInjectable := by
  refine ⟨fun others same => congrArg File.render (file_congr table same), ?_⟩
  obtain ⟨file, parsed, same⟩ := parse_file table package named
  refine ⟨file, _, _, parsed, same, ?_, lists_symbols, lists_symbols⟩
  have whole : file.onlyValue?.map Expr.unplaced = some (value records) := by
    have same := same.trans (unplaced_file table).symm
    rw [file_eq] at same
    obtain ⟨group, decls, declares⟩ := Reprint.exists_declares_of_unplaced same
    rw [File.onlyValue?_of_declares decls declares, unplaced_value]
  rw [whole, value, Wrapper.all, List.map_cons, List.map_singleton, category_eq named,
    category_eq named]
  rfl

/-- Three constructors, recorded out of order. -/
theorem render_readBack_aggregations :
    ∃ (table : Table) (records : List Record),
      table.package = "aggretastic" ∧
      records = [⟨.notInjectable, "NewSumAggregation"⟩, ⟨.injectable, "NewTermsAggregation"⟩,
        ⟨.notInjectable, "NewAvgAggregation"⟩] ∧
      table.render (records.reverse ++ records) = table.render records ∧
      ∃ file injectable notInjectable,
        File.parse (table.render records) = .ok file ∧ file.unplaced = table.file records ∧
          file.onlyValue?.map Expr.unplaced =
            some (.composite (some outerType)
              [.keyValue (.literal (.ofText "Injectable")) (rows injectable),
                .keyValue (.literal (.ofText "NotInjectable")) (rows notInjectable)] true) ∧
          Lists records .injectable injectable ∧ Lists records .notInjectable notInjectable := by
  let table : Table := ⟨"aggretastic", "generated-aggregations-mapping.go"⟩
  let records : List Record := [⟨.notInjectable, "NewSumAggregation"⟩,
    ⟨.injectable, "NewTermsAggregation"⟩, ⟨.notInjectable, "NewAvgAggregation"⟩]
  have package : Token.IsName table.package := by decide +kernel
  have named : ∀ record ∈ records, Token.IsName record.symbol := by decide +kernel
  obtain ⟨sameSet, readBack⟩ := render_readBack table package named
  exact ⟨table, records, rfl, rfl, sameSet _ (by simp), readBack⟩

end Table

end GoMend
