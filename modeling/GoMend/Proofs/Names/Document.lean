import GoMend.Proofs.Names.Reading
import GoMend.Proofs.Token.Words

/-!
# Names of a text

The walk over a file that was read finds the names of the text it was read from: all
identifiers and the dots of dot imports, each at its offset and in order.
-/

namespace GoMend

theorem Spec.mem_identsAll {specs : List Spec} {ident : Ident} :
    ident ∈ Spec.identsAll specs ↔ ∃ spec ∈ specs, ident ∈ spec.idents := by
  induction specs with
  | nil => simp [Spec.collectAll]
  | cons first rest ih =>
      rw [Spec.identsAll, Spec.collectAll, List.mem_append, List.exists_mem_cons_iff]
      exact or_congr_right ih

/-- An import declaration holds no names but those of its entries. -/
theorem Decl.IsImport.mem_idents {decl : Decl} {ident : Ident} (isImport : decl.IsImport)
    (member : ident ∈ decl.idents) :
    ∃ entry gen, decl = .gen gen ∧ gen.keyword = .imports ∧ .imported entry ∈ gen.specs ∧
      entry.name = some ident := by
  cases decl with
  | func decl => exact isImport.elim
  | gen gen =>
      obtain ⟨doc, keyword, grouped, specs, offset⟩ := gen
      obtain ⟨spec, inSpecs, inSpec⟩ := Spec.mem_identsAll.1 member
      have imported := isImport.2 spec inSpecs
      cases spec with
      | imported entry =>
          refine ⟨entry, _, rfl, isImport.1, inSpecs, ?_⟩
          cases named : entry.name with
          | none => simp [Spec.collect, named] at inSpec
          | some name => simpa [Spec.collect, named, eq_comm] using inSpec
      | value | type => exact imported.elim

namespace File

/-- Where the dots of dot imports stand. -/
def dotImports (file : File) : List Nat :=
  file.imports.filterMap fun entry => (entry.name.filter (·.name == ".")).bind (·.offset)

theorem mem_dotImports {file : File} {offset : Nat} :
    offset ∈ file.dotImports ↔
      ∃ entry ∈ file.imports, entry.name = some ⟨".", some offset⟩ := by
  rw [dotImports, List.mem_filterMap]
  refine exists_congr fun entry => and_congr_right fun _ => ?_
  obtain ⟨doc, name, path, comment⟩ := entry
  cases name with
  | none => simp
  | some name =>
      obtain ⟨name, start⟩ := name
      by_cases isDot : name = "." <;> simp [isDot, Option.filter]

/-- What the grammar says about a file that was read. -/
theorem parse_reads {text : String} {file : File} (parsed : File.parse text = .ok file) :
    file.idents = Lexed.idents (Lexed.ofText text).tokens ∧ file.WellRead := by
  simp only [File.parse] at parsed
  split at parsed
  · rename_i result final run
    cases parsed
    exact (Grammar.file_reads (Production.read_passesNames _) (Production.read_sorted _)
      (Lexed.ofText_wellSpelled text)).of_ok run
  · cases parsed

theorem mem_imports {file : File} {entry : ImportSpec} :
    entry ∈ file.imports ↔
      ∃ decl, .gen decl ∈ file.decls ∧ decl.keyword = .imports ∧
        .imported entry ∈ decl.specs := by
  rw [imports, List.mem_flatMap]
  constructor
  · rintro ⟨decl, member, found⟩
    cases decl with
    | func decl => cases found
    | gen decl =>
        simp only at found
        split at found
        · rename_i isImports
          obtain ⟨spec, inSpecs, same⟩ := List.mem_filterMap.1 found
          cases spec with
          | imported other =>
              cases same
              exact ⟨decl, member, isImports, inSpecs⟩
          | value | type => cases same
        · cases found
  · rintro ⟨decl, member, isImports, inSpecs⟩
    refine ⟨.gen decl, member, ?_⟩
    simp only [isImports, if_true]
    exact List.mem_filterMap.2 ⟨_, inSpecs, rfl⟩

/-- The walk finds the names of imports. -/
theorem mem_idents_of_mem_imports {file : File} {entry : ImportSpec} {ident : Ident}
    (member : entry ∈ file.imports) (named : entry.name = some ident) :
    ident ∈ file.idents := by
  obtain ⟨decl, inDecls, _, inSpecs⟩ := mem_imports.1 member
  refine List.mem_append_right _ (List.mem_flatMap.2 ⟨.gen decl, inDecls, ?_⟩)
  obtain ⟨doc, keyword, grouped, specs, offset⟩ := decl
  exact Spec.mem_identsAll.2 ⟨_, inSpecs, by simp [Spec.collect, named]⟩

/-- Every dot among the names belongs to an import. -/
theorem WellRead.mem_imports {file : File} {ident : Ident} (wellRead : file.WellRead)
    (member : ident ∈ file.idents) (isDot : ident.name = ".") :
    ∃ entry ∈ file.imports, entry.name = some ident := by
  have notPlain : ¬ident.IsPlain := by simp [Ident.IsPlain, isDot]
  obtain ⟨packagePlain, heads, others, sections, headsRead, othersRead⟩ := wellRead
  rcases List.mem_append.1 member with isPackage | inDecls
  · rw [List.mem_singleton.1 isPackage] at notPlain
    exact absurd packagePlain notPlain
  obtain ⟨decl, inDecls, inDecl⟩ := List.mem_flatMap.1 inDecls
  rcases List.mem_append.1 (sections ▸ inDecls) with isHead | isOther
  · obtain ⟨entry, gen, rfl, isImports, inSpecs, named⟩ :=
      (headsRead decl isHead).1.mem_idents inDecl
    exact ⟨entry, File.mem_imports.2 ⟨gen, inDecls, isImports, inSpecs⟩, named⟩
  · exact absurd ((othersRead decl isOther).2 ident inDecl) notPlain

/-- A word spells a name if and only if it is an identifier or the dot of an import. -/
theorem parse_mem_names {text : String} {file : File} (parsed : File.parse text = .ok file)
    {token : Token} (member : token ∈ (Lexed.ofText text).tokens) :
    token ∈ Lexed.names (Lexed.ofText text).tokens ↔
      token.kind = .identifier ∨ token.kind = .dot ∧ token.offset ∈ file.dotImports := by
  obtain ⟨same, wellRead⟩ := parse_reads parsed
  constructor
  · intro isName
    rcases Lexed.kind_of_mem_names isName with identifier | isDot
    · exact .inl identifier
    · have text : token.text = "." := (Lexed.ofText_wellSpelled text token member).2.1 isDot
      have inFile : token.toIdent ∈ file.idents := same ▸ List.mem_map_of_mem isName
      obtain ⟨entry, inImports, named⟩ := wellRead.mem_imports inFile text
      refine .inr ⟨isDot, mem_dotImports.2 ⟨entry, inImports, ?_⟩⟩
      rw [named, Token.toIdent, text]
  · rintro (identifier | ⟨isDot, inImports⟩)
    · exact Lexed.mem_names_of_identifier member identifier
    · obtain ⟨entry, inImports, named⟩ := mem_dotImports.1 inImports
      have inFile := mem_idents_of_mem_imports inImports named
      obtain ⟨other, isName, spelled⟩ := List.mem_map.1 (same ▸ inFile)
      have otherMember := (Lexed.names_sublist _).subset isName
      have sameOffset : other.offset = token.offset :=
        Option.some.inj (congrArg Ident.offset spelled)
      rwa [Lexed.eq_of_offset_eq otherMember member sameOffset] at isName

/-- The walk over a file that was read finds exactly the identifiers of its text and the
dots of its dot imports, in order. -/
theorem parse_idents {text : String} {file : File} (parsed : File.parse text = .ok file) :
    file.idents =
      ((Lexed.ofText text).tokens.filter fun token =>
        token.kind == .identifier ||
          (token.kind == .dot && file.dotImports.contains token.offset)).map Token.toIdent := by
  rw [(parse_reads parsed).1, Lexed.idents]
  congr 1
  refine Lexed.eq_of_mem_iff ((Lexed.ofText_within text).2.sublist (Lexed.names_sublist _))
    ((Lexed.ofText_within text).2.filter _) fun token => ?_
  rw [List.mem_filter]
  constructor
  · intro isName
    have member := (Lexed.names_sublist _).subset isName
    exact ⟨member, by simpa using (parse_mem_names parsed member).1 isName⟩
  · rintro ⟨member, chosen⟩
    exact (parse_mem_names parsed member).2 (by simpa using chosen)

/-- A file with a dot import and a variable. -/
theorem parse_idents_dotImport :
    ∃ file, File.parse "package p\nimport . \"fmt\"\nvar x = y" = .ok file ∧
      ((Lexed.ofText "package p\nimport . \"fmt\"\nvar x = y").tokens.filter fun token =>
        token.kind == .identifier ||
          (token.kind == .dot && file.dotImports.contains token.offset)).map Token.toIdent =
        [⟨"p", some 8⟩, ⟨".", some 17⟩, ⟨"x", some 29⟩, ⟨"y", some 33⟩] := by
  have listed : (File.parse "package p\nimport . \"fmt\"\nvar x = y").toOption.map (·.idents) =
      some [⟨"p", some 8⟩, ⟨".", some 17⟩, ⟨"x", some 29⟩, ⟨"y", some 33⟩] := by
    decide +kernel
  cases parsed : File.parse "package p\nimport . \"fmt\"\nvar x = y" with
  | error fault => simp [parsed, Except.toOption] at listed
  | ok file =>
      rw [parsed] at listed
      exact ⟨file, rfl, (parse_idents parsed).symm.trans (Option.some.inj listed)⟩

end File

end GoMend
