import GoMend.Proofs.Names.Reads

/-!
# Names in types and parameter lists
-/

namespace GoMend

open Lexed (Reads)
open ParserState (reads_skip reads_ident reads_dot)
open GoMend.Parser

namespace Grammar

variable {below : Reader} {state : ParserState}

theorem typeName_reads :
    typeName.Ensures state fun type final =>
      Reads false state.ahead type.idents final.ahead := by
  simp [typeName]
  intro first
  constructor
  · intro dot second
    exact ((reads_ident first).trans (reads_dot dot (by simp [second]))).trans
      (reads_ident second)
  · intro _
    exact reads_ident first

theorem identList_reads (keeps : below.PassesNames) :
    (identList below).Ensures state fun names final =>
      Reads false state.ahead names final.ahead := by
  simp [identList]
  intro first
  refine (keeps.reads .identTail rfl rfl).weaken fun others final passed => ?_
  exact (reads_ident first).trans passed

theorem identTail_reads (keeps : below.PassesNames) :
    (identTail below).Ensures state fun names final =>
      Reads false state.ahead names final.ahead := by
  simp [identTail]
  constructor
  · intro comma name
    refine (keeps.reads .identTail rfl rfl).weaken fun others final passed => ?_
    exact (reads_skip comma rfl).trans ((reads_ident name).trans passed)
  · intro _
    exact .refl

theorem paramType_reads (keeps : below.PassesNames) :
    (paramType below).Ensures state fun type final =>
      Reads false state.ahead type.idents final.ahead := by
  simp [paramType]
  constructor
  · intro dots
    refine (keeps.reads .type rfl rfl).weaken fun type final passed => ?_
    exact (reads_skip dots rfl).trans passed
  · intro _
    exact keeps.reads .type rfl rfl

theorem params_reads (keeps : below.PassesNames) :
    (params below).Ensures state fun entries final =>
      Reads false state.ahead (Production.entryIdents entries) final.ahead := by
  simp [params]
  constructor
  · intro _
    exact .refl
  · intro _ _
    refine (paramType_reads keeps).weaken fun first middle firstPassed => ?_
    have more : ∀ (entry : Expr × Option Expr) (now : ParserState),
        Reads false state.ahead (Production.entryIdents [entry]) now.ahead →
        (below .params).Ensures now.advance fun others final =>
          now.kind = .comma →
            Reads false state.ahead (Production.entryIdents (entry :: others)) final.ahead := by
      intro entry now passed
      refine (keeps.reads .params rfl rfl).weaken fun others final othersPassed comma => ?_
      refine (passed.trans ((reads_skip comma rfl).trans othersPassed)).relist ?_
      simp [Production.idents, Production.entryIdents]
    constructor
    · intro _
      have passed : Reads false state.ahead (Production.entryIdents [(first, none)])
          middle.ahead :=
        firstPassed.relist (by simp [Production.entryIdents, Expr.collectAll])
      exact ⟨fun comma => (more _ _ passed).weaken fun _ _ reads => reads comma,
        fun _ => passed⟩
    · intro _ _
      refine (paramType_reads keeps).weaken fun type now typePassed => ?_
      have passed : Reads false state.ahead (Production.entryIdents [(first, some type)])
          now.ahead :=
        (firstPassed.trans typePassed).relist
          (by simp [Production.entryIdents, Expr.collectAll])
      exact ⟨fun comma => (more _ _ passed).weaken fun _ _ reads => reads comma,
        fun _ => passed⟩

theorem Groups.idents {pending : List Ident} {entries : List (Expr × Option Expr)}
    {fields : List Field} (groups : Groups pending entries fields) :
    Field.identsAll fields = pending ++ Production.entryIdents entries := by
  induction groups with
  | nil => rfl
  | wait _ _ ih =>
      rw [ih]
      simp [Production.entryIdents, Expr.collect_ident, Expr.collectAll]
  | take _ _ _ _ ih =>
      simp_all [Field.collectAll, namedField, Field.collect, Production.entryIdents,
        Expr.collect_ident, Expr.collectAll]

theorem groupParams?_idents {entries : List (Expr × Option Expr)} {fields : List Field}
    (grouped : groupParams? entries = some fields) :
    Field.identsAll fields = Production.entryIdents entries := by
  unfold groupParams? at grouped
  split at grouped
  · simpa using (groups_of_groupNamed? grouped).idents
  · rename_i unnamed
    cases grouped
    induction entries with
    | nil => rfl
    | cons entry rest ih =>
        obtain ⟨first, type⟩ := entry
        cases type with
        | some type => simp at unnamed
        | none =>
            have restUnnamed : ¬(rest.any (·.2.isSome)) = true := by simpa using unnamed
            have restIdents := ih restUnnamed
            simp_all [Field.collectAll, unnamedField, Field.collect, Production.entryIdents,
              Expr.collectAll]

theorem parameters_reads (keeps : below.PassesNames) :
    (parameters below).Ensures state fun list final =>
      Reads false state.ahead list.idents final.ahead := by
  simp [parameters]
  intro opening
  refine (keeps.reads .params rfl rfl).weaken fun entries middle passed close => ?_
  have closed : Reads false state.ahead (Production.entryIdents entries)
      middle.advance.ahead :=
    ((reads_skip opening rfl).trans passed).trans
      (reads_skip close rfl) |>.relist (by simp [Production.idents])
  cases grouped : groupParams? entries with
  | none => simp
  | some fields =>
      simp
      exact closed.relist (groupParams?_idents grouped).symm

theorem results_reads (keeps : below.PassesNames) :
    (results below).Ensures state fun list final =>
      Reads false state.ahead (list.elim [] (·.idents)) final.ahead := by
  simp [results]
  refine ⟨fun _ => parameters_reads keeps, fun _ => ⟨fun _ => ?_, fun _ => .refl⟩⟩
  refine (keeps.reads .type rfl rfl).weaken fun type final passed => ?_
  exact passed.relist (by simp [Production.idents, FieldList.collect, Field.collectAll,
    unnamedField, Field.collect])

theorem signature_reads (keeps : below.PassesNames) :
    (signature below).Ensures state fun signature final =>
      Reads false state.ahead signature.idents final.ahead := by
  simp [signature]
  refine (parameters_reads keeps).weaken fun params middle paramsPassed => ?_
  refine (results_reads keeps).weaken fun results final resultsPassed => ?_
  refine (paramsPassed.trans resultsPassed).relist ?_
  cases results <;> simp [Signature.collect]

theorem arrayLength_reads (keeps : below.PassesNames) :
    (arrayLength below).Ensures state fun length final =>
      Reads false state.ahead length.idents final.ahead := by
  simp [arrayLength]
  intro opening
  have opened : Reads false state.ahead [] state.advance.ahead := reads_skip opening rfl
  refine ⟨fun close => ?_, fun _ => ⟨fun dots close => ?_, fun _ => ?_⟩⟩
  · exact opened.trans (reads_skip close rfl)
  · exact opened.trans ((reads_skip dots rfl).trans
      (reads_skip close rfl))
  · refine (keeps.reads (.binary 1) rfl rfl).weaken fun size middle passed close => ?_
    refine ((opened.trans passed).trans (reads_skip close rfl)).relist ?_
    simp [ArrayLength.collect, Production.idents]

theorem fieldTag_reads :
    fieldTag.Ensures state fun _ final => Reads false state.ahead [] final.ahead := by
  simp [fieldTag]
  exact ⟨fun found => reads_skip found rfl, fun _ => .refl⟩

theorem structFieldHead_reads (keeps : below.PassesNames) :
    (structFieldHead below).Ensures state fun head final =>
      Reads false state.ahead (head.1 ++ head.2.idents) final.ahead := by
  simp [structFieldHead]
  refine ⟨fun star => ?_, fun _ => ⟨fun _ _ => typeName_reads, fun _ => ?_⟩⟩
  · refine typeName_reads.weaken fun type final passed => ?_
    exact (reads_skip star rfl).trans passed
  · refine (identList_reads keeps).weaken fun names middle namesPassed => ?_
    refine (keeps.reads .type rfl rfl).weaken fun type final typePassed => ?_
    exact namesPassed.trans typePassed

theorem structFields_reads (keeps : below.PassesNames) :
    (structFields below).Ensures state fun fields final =>
      Reads false state.ahead (Field.identsAll fields) final.ahead := by
  simp [structFields]
  refine ⟨fun _ => .refl, fun _ _ => ?_⟩
  refine (structFieldHead_reads keeps).weaken fun head afterHead headPassed => ?_
  refine fieldTag_reads.weaken fun tag afterTag tagPassed => ?_
  refine takeTrailing_ahead.weaken fun comment afterComment same => ?_
  refine expectSemicolon_reads.weaken fun _ afterEnd endPassed => ?_
  refine (keeps.reads .structFields rfl rfl).weaken fun others final othersPassed => ?_
  rw [same] at endPassed
  refine (headPassed.trans (tagPassed.trans (endPassed.trans othersPassed))).relist ?_
  simp [Field.collectAll, Field.collect, Production.idents]

theorem interfaceMemberHead_reads (keeps : below.PassesNames) :
    (interfaceMemberHead below).Ensures state fun head final =>
      Reads false state.ahead (head.1 ++ head.2.idents) final.ahead := by
  simp [interfaceMemberHead]
  refine ⟨fun _ _ name => ?_, fun _ => keeps.reads .type rfl rfl⟩
  refine (signature_reads keeps).weaken fun signature final passed => ?_
  exact (reads_ident name).trans passed

theorem interfaceMembers_reads (keeps : below.PassesNames) :
    (interfaceMembers below).Ensures state fun fields final =>
      Reads false state.ahead (Field.identsAll fields) final.ahead := by
  simp [interfaceMembers]
  refine ⟨fun _ => .refl, fun _ _ => ?_⟩
  refine (interfaceMemberHead_reads keeps).weaken fun head afterHead headPassed => ?_
  refine takeTrailing_ahead.weaken fun comment afterComment same => ?_
  refine expectSemicolon_reads.weaken fun _ afterEnd endPassed => ?_
  refine (keeps.reads .interfaceMembers rfl rfl).weaken fun others final othersPassed => ?_
  rw [same] at endPassed
  refine (headPassed.trans (endPassed.trans othersPassed)).relist ?_
  simp [Field.collectAll, Field.collect, Production.idents]

theorem memberList_reads {members : Parser (List Field)}
    (membersRead : ∀ {state : ParserState}, members.Ensures state fun fields final =>
      Reads false state.ahead (Field.identsAll fields) final.ahead) :
    (memberList members).Ensures state fun list final =>
      Reads false state.ahead list.idents final.ahead := by
  simp [memberList]
  intro opening
  refine membersRead.weaken fun fields middle passed close => ?_
  refine ((reads_skip opening rfl).trans
    (passed.trans (reads_skip close rfl))).relist ?_
  simp [FieldList.collect]

theorem type_reads (keeps : below.PassesNames) :
    (type below).Ensures state fun type final =>
      Reads false state.ahead type.idents final.ahead := by
  unfold type
  simp only [ends_bind, ends_peek]
  split
  case h_1 => exact typeName_reads
  case h_2 star =>
    simp
    refine (keeps.reads .type rfl rfl).weaken fun element final passed => ?_
    exact (reads_skip star rfl).trans passed
  case h_3 =>
    simp
    refine (arrayLength_reads keeps).weaken fun length middle lengthPassed => ?_
    refine (keeps.reads .type rfl rfl).weaken fun element final passed => ?_
    exact lengthPassed.trans passed
  case h_4 word =>
    simp
    intro opening
    refine (keeps.reads .type rfl rfl).weaken fun key middle keyPassed close => ?_
    refine (keeps.reads .type rfl rfl).weaken fun value final valuePassed => ?_
    exact ((reads_skip word rfl).trans ((reads_skip opening rfl).trans keyPassed)).trans
      ((reads_skip close rfl).trans valuePassed)
  case h_5 word =>
    simp
    refine ⟨fun arrow => ?_, fun _ => ?_⟩
    · refine (keeps.reads .type rfl rfl).weaken fun element final passed => ?_
      exact (reads_skip word rfl).trans ((reads_skip arrow rfl).trans passed)
    · refine (keeps.reads .type rfl rfl).weaken fun element final passed => ?_
      exact (reads_skip word rfl).trans passed
  case h_6 arrow =>
    simp
    intro word
    refine (keeps.reads .type rfl rfl).weaken fun element final passed => ?_
    exact (reads_skip arrow rfl).trans ((reads_skip word rfl).trans passed)
  case h_7 word =>
    simp
    refine (signature_reads keeps).weaken fun signature final passed => ?_
    exact (reads_skip word rfl).trans passed
  case h_8 word =>
    simp
    refine (memberList_reads (keeps.reads .structFields rfl rfl)).weaken
      fun list final passed => ?_
    exact (reads_skip word rfl).trans passed
  case h_9 word =>
    simp
    refine (memberList_reads (keeps.reads .interfaceMembers rfl rfl)).weaken
      fun list final passed => ?_
    exact (reads_skip word rfl).trans passed
  case h_10 opening =>
    simp
    refine (keeps.reads .type rfl rfl).weaken fun inner final passed close => ?_
    refine ((reads_skip opening rfl).trans (passed.trans (reads_skip close rfl))).relist ?_
    exact List.append_nil inner.idents
  case h_11 => simp

end Grammar

end GoMend
