import GoMend.Proofs.Repair.Location
import GoMend.Proofs.Repair.ReadBack
import GoMend.Proofs.Text.Offsets
import GoMend.Proofs.Token.Identifiers
import GoMend.Proofs.Volume.Outcome
import GoMend.Repair.Verify

/-!
# What a check of a package tells

The check for undefined names writes its report down and reads it back.  Nothing is lost thereby
unless the path of a file holds a colon with a digit behind it.
-/

namespace GoMend

/-! ## Names and positions -/

namespace Token

/-- What is settled as a name consists of letters and digits. -/
theorem headToken_nameParts {c : Char} {rest : List Char} {length : Nat}
    (head : headToken (c :: rest) = (.identifier, length)) :
    ∀ d ∈ c :: rest.take (length - 1), isNamePart d = true := by
  rw [headToken, List.head?_cons, Option.elim_some, longestShape?_shapesAt] at head
  split at head
  · rename_i kind size found
    split at head
    · cases head
    · obtain ⟨settled, rfl⟩ := Prod.mk.inj head
      obtain ⟨shape, listed, fits⟩ := mem_of_longestShape? found
      obtain ⟨_, member⟩ := Pattern.longest?_mem_language fits
      have looks := looks_of_mem listed member
      have parts : ∀ d ∈ (c :: rest).take size, isNamePart d = true := by
        unfold settle at settled
        split at settled
        · rename_i demoted
          have keyword : kind.isKeyword = true := (Bool.and_eq_true_iff.1 demoted).1
          have named := mem_nameShape_of_keyword keyword (List.forall_mem_nil _)
          rw [List.append_nil, ← looks.eq_spelling keyword] at named
          exact nameShape_readsOnly.of_mem named
        · subst settled
          exact looks.nameSpelling.2
      cases size with
      | zero =>
          have notNullable := nullable_of_mem_shapes _ listed
          simp [Pattern.nil_mem_language.1 member] at notNullable
      | succ size => exact parts
  · cases head

theorem scanFrom_nameParts (text : List Char) (offset : Nat) :
    ∀ token ∈ scanFrom text offset, token.kind = .identifier →
      token.text.toList ≠ [] ∧ ∀ c ∈ token.text.toList, isNamePart c = true := by
  fun_induction scanFrom text offset with
  | case1 => simp
  | case2 c rest offset separator ih => exact ih
  | case3 c rest offset noSeparator kind length head piece ih =>
      intro token member identifier
      rcases List.mem_cons.1 member with rfl | member
      · simp only at identifier
        rw [String.toList_ofList]
        exact ⟨List.cons_ne_nil _ _, headToken_nameParts (identifier ▸ head)⟩
      · exact ih token member identifier

end Token

theorem LineIndex.position_le (text : String) (offset : Nat) :
    ((LineIndex.ofText text).position offset).line ≤ offset + 1 ∧
      ((LineIndex.ofText text).position offset).column ≤ offset + 1 := by
  constructor
  · rw [line_position_ofText]
    exact Nat.succ_le_succ (List.count_le_length.trans (List.length_take_le _ _))
  · exact Nat.succ_le_succ (Nat.sub_le _ _)

namespace Source

variable {source : Source} {sources : List Source} {diagnostic : Diagnostic} {ident : Ident}

/-- A plain name of a file that was read consists of letters and digits. -/
theorem IsRead.nameParts (isRead : source.IsRead) (member : ident ∈ source.file.idents)
    (plain : ident.IsPlain) :
    ident.name.toList ≠ [] ∧ ∀ c ∈ ident.name.toList, Token.isNamePart c = true := by
  obtain ⟨text, read, _⟩ := isRead.text
  rw [(File.parse_reads read).1] at member
  obtain ⟨token, isName, rfl⟩ := List.mem_map.1 member
  have inText := (Lexed.names_sublist _).subset isName
  rcases Lexed.kind_of_mem_names isName with identifier | isDot
  · rcases Lexed.mem_words inText with scanned | inserted
    · exact Token.scanFrom_nameParts _ _ token scanned identifier
    · rw [inserted] at identifier
      cases identifier
  · have spelled := (Lexed.ofText_wellSpelled text token inText).2.1 isDot
    simp [Ident.IsPlain, Token.toIdent, spelled] at plain

/-- What is reported about sources of moderate size can be written without loss. -/
theorem reported_readable (read : ∀ source ∈ sources, source.IsRead)
    (short : ∀ source ∈ sources, source.index.lines.size < Diagnostic.maxCoordinate)
    (reported : firstUndefined? sources = some diagnostic) :
    diagnostic.InRange ∧ Text.Trimmed Text.isBlank diagnostic.message ∧
      ∃ source ∈ sources, diagnostic.path = source.path := by
  obtain ⟨source, member, visit, met, isReport⟩ := exists_visit_of_reported reported
  have isRead := read source member
  obtain ⟨start, place, _, inside⟩ := isRead.wellPlaced.marks met
  have plain := isRead.visit_plain met
  obtain ⟨some_, parts⟩ := isRead.nameParts ((File.visits_among _ source.file).mem met) plain
  obtain ⟨ident, env, rfl, _, _, _, _, rfl⟩ := report?_eq_some isReport
  simp only [Visit.ident] at place plain some_ parts
  rw [place, Option.getD_some, plain.headName]
  refine ⟨?_, ?_, source, member, rfl⟩
  · obtain ⟨text, _, indexed⟩ := isRead.text
    obtain ⟨line, column⟩ := LineIndex.position_le text start
    have small := short source member
    rw [indexed] at inside small ⊢
    exact ⟨line.trans (by omega), column.trans (by omega)⟩
  · have message : (Diagnostic.undefined source.path (source.index.lines.position start)
        ident.name).message.toList = Diagnostic.undefinedMark.toList ++ ident.name.toList :=
      String.toList_append
    constructor <;> rw [message]
    · rintro c ⟨⟩
      decide
    · intro c isLast
      rw [List.getLast?_append_of_ne_nil _ some_] at isLast
      exact Diagnostic.isBlank_of_isNamePart (parts c (List.mem_of_mem_getLast? isLast))

end Source

/-! ## The check -/

namespace Analyzer

open Disk

variable {volume final : Volume} {files : List Path} {sources : List Source}

/-- The check is silent exactly if the files are read as sources without undefined names. -/
theorem verify_undefinedNames_eq_none {round : Nat} :
    undefinedNames.verify round files volume = .ok none final ↔
      (∃ sources, List.Forall₂ (Source.Reads volume) files sources ∧
        Source.firstUndefined? sources = none) ∧ final = volume := by
  constructor
  · intro silent
    obtain ⟨report, between, reported, told⟩ := bind_eq_ok.1 silent
    obtain ⟨sources, _, loaded, rendered⟩ := bind_eq_ok.1 reported
    obtain ⟨reads, rfl⟩ := Source.mapM_load_eq_ok.1 loaded
    obtain ⟨rfl, rfl⟩ := pure_eq_ok.1 rendered
    cases found : Source.firstUndefined? sources with
    | none =>
        rw [found] at told
        obtain ⟨-, rfl⟩ := pure_eq_ok.1 told
        exact ⟨⟨sources, reads, found⟩, rfl⟩
    | some diagnostic =>
        rw [found] at told
        obtain ⟨_, _, -, some_⟩ := bind_eq_ok.1 told
        cases (pure_eq_ok.1 some_).1
  · rintro ⟨⟨sources, reads, clean⟩, rfl⟩
    refine bind_eq_ok.2 ⟨none, final, bind_eq_ok.2 ⟨sources, final,
      Source.mapM_load_eq_ok.2 ⟨reads, rfl⟩, pure_eq_ok.2 ⟨?_, rfl⟩⟩, rfl⟩
    rw [clean]
    rfl

/-- The check of a directory is silent exactly if its sources have no undefined names. -/
theorem verifyDirectory_undefinedNames_eq_none {dir : Path}
    (read : (Source.list dir >>= fun files => files.mapM Source.load) volume =
      .ok sources volume) :
    undefinedNames.verifyDirectory dir volume = .ok none volume ↔
      Source.firstUndefined? sources = none := by
  obtain ⟨files, between, listed, loaded⟩ := bind_eq_ok.1 read
  obtain rfl := Source.list_looks dir listed
  constructor
  · intro silent
    obtain ⟨listing, _, again, silent⟩ := bind_eq_ok.1 silent
    rw [listed] at again
    cases again
    obtain ⟨⟨others, reads, clean⟩, -⟩ := verify_undefinedNames_eq_none.1 silent
    have same := Source.mapM_load_eq_ok.2 ⟨reads, rfl⟩
    rw [loaded] at same
    cases same
    exact clean
  · intro clean
    obtain ⟨reads, -⟩ := Source.mapM_load_eq_ok.1 loaded
    exact bind_eq_ok.2 ⟨files, _, listed,
      verify_undefinedNames_eq_none.2 ⟨⟨sources, reads, clean⟩, rfl⟩⟩

/-- The check tells exactly the first undefined name of the files that it opens. -/
theorem verify_undefinedNames_eq (groupless : ∀ file ∈ files, ¬file.HoldsGroup)
    (short : ∀ file ∈ files, ∀ text, volume.textAt file = .ok text →
      text.utf8ByteSize < Diagnostic.maxCoordinate) (round : Nat) :
    undefinedNames.verify round files volume =
      (do return Source.firstUndefined? (← files.mapM Source.load) : Disk _) volume := by
  have opened : undefinedNames.verify round files = files.mapM Source.load >>= fun sources =>
      ((Source.firstUndefined? sources).map Diagnostic.render).elim (return none) fun report => do
        return some (← Disk.ofExcept (Diagnostic.parse report)) := by
    rw [verify, undefinedNames, bind_assoc]
    refine bind_congr fun sources => ?_
    cases Source.firstUndefined? sources <;> rfl
  rw [opened]
  cases loaded : files.mapM Source.load volume with
  | error fault final => rw [bind_of_error loaded, bind_of_error loaded]
  | ok sources final =>
      rw [bind_of_ok loaded, bind_of_ok loaded]
      obtain ⟨reads, rfl⟩ := Source.mapM_load_eq_ok.1 loaded
      cases reported : Source.firstUndefined? sources with
      | none => rfl
      | some diagnostic =>
          have read : ∀ source ∈ sources, source.IsRead := by
            intro source member
            obtain ⟨file, _, text, _, parsed⟩ := Source.exists_path_of_mem reads member
            exact ⟨text, Source.path_of_parse parsed ▸ parsed⟩
          have small : ∀ source ∈ sources, source.index.lines.size < Diagnostic.maxCoordinate := by
            intro source member
            obtain ⟨file, isFile, text, isText, parsed⟩ := Source.exists_path_of_mem reads member
            rw [(Source.parse_eq_ok.1 parsed).2.2]
            exact short file isFile text isText
          obtain ⟨inRange, trimmed, source, member, path⟩ :=
            Source.reported_readable read small reported
          obtain ⟨file, isFile, text, _, parsed⟩ := Source.exists_path_of_mem reads member
          have plain : ¬diagnostic.path.HoldsGroup := by
            rw [path, Source.path_of_parse parsed]
            exact groupless file isFile
          have isRead := (Diagnostic.parse_render_eq_iff inRange).2 ⟨plain, trimmed⟩
          simp only [Option.map_some, Option.elim_some, isRead]
          rfl

end Analyzer

/-- A diagnostic is read back exactly if its path holds no group and its message is trimmed, what
was read is read again, and where no path holds a group the check tells the first undefined name. -/
theorem Diagnostic.readBack_exact :
    (∀ diagnostic : Diagnostic, diagnostic.InRange →
      (parse diagnostic.render = .ok diagnostic ↔
        ¬diagnostic.path.HoldsGroup ∧ Text.Trimmed Text.isBlank diagnostic.message) ∧
      ((∃ read, parse diagnostic.render = .ok read ∧ read.path.same diagnostic.path ∧
          read.position = diagnostic.position ∧ read.message = diagnostic.message) ↔
        ¬diagnostic.path.HoldsGroup ∧ Text.Trimmed Text.isBlank diagnostic.message)) ∧
    (∀ text read, parse text = .ok read → parse read.render = .ok read) ∧
    ∀ (volume : Volume) (files : List Path) (round : Nat),
      (∀ file ∈ files, ¬file.HoldsGroup) →
      (∀ file ∈ files, ∀ text, volume.textAt file = .ok text →
        text.utf8ByteSize < maxCoordinate) →
      Analyzer.undefinedNames.verify round files volume =
        (do return Source.firstUndefined? (← files.mapM Source.load) : Disk _) volume := by
  refine ⟨fun diagnostic inRange => ⟨parse_render_eq_iff inRange, ?_⟩,
    fun text read => parse_render_of_parse, fun volume files round groupless short =>
      Analyzer.verify_undefinedNames_eq groupless short round⟩
  constructor
  · rintro ⟨read, isRead, _, _, message⟩
    exact (exists_message_eq_iff inRange).1 ⟨read, isRead, message⟩
  · intro conditions
    exact ⟨diagnostic, (parse_render_eq_iff inRange).2 conditions, Path.same_refl _, rfl, rfl⟩

/-- Colons and digits of the path and of the message are told apart from the position, and a check
of one file tells the name that it does not declare. -/
theorem Diagnostic.readBack_exact_colons :
    ∃ (diagnostic read : Diagnostic) (volume : Volume),
      diagnostic.path = ⟨"a:b.go:"⟩ ∧ diagnostic.message = "at 3:4: y" ∧
        parse diagnostic.render = .ok diagnostic ∧
        parse "::c.go :01:2::5 : z " = .ok read ∧ parse read.render = .ok read ∧
        Analyzer.undefinedNames.verify 0 [⟨"/a.go"⟩] volume =
          .ok (some (.undefined ⟨"/a.go"⟩ ⟨2, 9⟩ "y")) volume := by
  obtain ⟨readBack, again, checks⟩ := readBack_exact
  let diagnostic : Diagnostic := ⟨⟨"a:b.go:"⟩, ⟨7, maxCoordinate⟩, "at 3:4: y"⟩
  have inRange : diagnostic.InRange := ⟨by decide, Nat.le_refl _⟩
  have trimmed : Text.Trimmed Text.isBlank diagnostic.message :=
    Text.trimBy_eq_self_iff.1 (by decide +kernel)
  have parsed : parse "::c.go :01:2::5 : z " = .ok ⟨⟨"::c.go "⟩, ⟨1, 2⟩, "5 : z"⟩ := by
    decide +kernel
  let volume : Volume :=
    { workDir := [], entries := [(["a.go"], .file (.text "package p\nvar x = y\n"))] }
  have isText : volume.textAt ⟨"/a.go"⟩ = .ok "package p\nvar x = y\n" := by decide +kernel
  have told : (Source.parse ⟨"/a.go"⟩ "package p\nvar x = y\n").toOption.map (fun source =>
      source.undefined? (.ofFiles [source.file])) =
        some (some (.undefined ⟨"/a.go"⟩ ⟨2, 9⟩ "y")) := by
    decide +kernel
  refine ⟨diagnostic, _, volume, rfl, rfl, (readBack diagnostic inRange).1.2
    ⟨by decide +kernel, trimmed⟩, parsed, again _ _ parsed, ?_⟩
  cases isSource : Source.parse ⟨"/a.go"⟩ "package p\nvar x = y\n" with
  | error fault => simp [isSource, Except.toOption] at told
  | ok source =>
      simp only [isSource, Except.toOption, Option.map_some, Option.some_inj] at told
      have loaded := Source.load_eq_ok.2 ⟨⟨_, isText, isSource⟩, rfl⟩
      have reported : Source.firstUndefined? [source] =
          some (.undefined ⟨"/a.go"⟩ ⟨2, 9⟩ "y") := by
        simp [Source.firstUndefined?, told]
      rw [checks volume [⟨"/a.go"⟩] 0 (by decide +kernel)
        (by simp [isText]; decide +kernel), ← reported]
      have all : [⟨"/a.go"⟩].mapM Source.load volume = .ok [source] volume := by
        rw [List.mapM_cons]
        exact Disk.bind_eq_ok.2 ⟨source, volume, loaded, rfl⟩
      exact Disk.bind_eq_ok.2 ⟨[source], volume, all, rfl⟩

end GoMend
