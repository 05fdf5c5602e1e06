import GoMend.Proofs.Comments.Placing

/-!
# Comments in types and expressions

Comments enter a type as the comments of fields and of closing brackets, and an expression
by the types and function bodies in it.
-/

namespace GoMend

open GoMend.Parser
open ParserState (places_advance)

namespace Grammar

variable {below : Reader} {state : ParserState}

/-! ## Names, parameters and members -/

theorem typeName_places :
    typeName.Ensures state fun type final => state.Places type.remarks final := by
  simp [typeName]

theorem identList_places (keeps : below.PlacesComments) :
    (identList below).Ensures state fun _ final => state.Places [] final := by
  simp [identList]
  intro _
  exact (keeps.places .identTail rfl).weaken fun _ _ placed =>
    by simpa [Production.remarks] using placed

theorem identTail_places (keeps : below.PlacesComments) :
    (identTail below).Ensures state fun _ final => state.Places [] final := by
  simp [identTail]
  intro _ _
  exact (keeps.places .identTail rfl).weaken fun _ _ placed =>
    by simpa [Production.remarks] using placed

theorem paramType_places (keeps : below.PlacesComments) :
    (paramType below).Ensures state fun type final => state.Places type.remarks final := by
  simp [paramType]
  constructor
  · intro _
    exact (keeps.places .type rfl).weaken fun _ _ placed => places_advance.1 placed
  · intro _
    exact keeps.places .type rfl

theorem params_places (keeps : below.PlacesComments) :
    (params below).Ensures state fun entries final =>
      state.Places (Production.entryRemarks entries) final := by
  simp [params]
  constructor
  · intro _
    exact .refl
  intro _ _
  refine (paramType_places keeps).weaken fun first middle firstPlaced => ?_
  have more : ∀ (entry : Expr × Option Expr) (now : ParserState),
      state.Places (Production.entryRemarks [entry]) now →
      (below .params).Ensures now.advance fun others final =>
        state.Places (Production.entryRemarks (entry :: others)) final := by
    intro entry now placed
    refine (keeps.places .params rfl).weaken fun others final othersPlaced => ?_
    refine (placed.trans (places_advance.1 othersPlaced)).relist ?_
    simp [Production.remarks, Production.entryRemarks]
  constructor
  · intro _
    have placed : state.Places (Production.entryRemarks [(first, none)]) middle :=
      firstPlaced.relist (by simp [Production.entryRemarks])
    exact ⟨fun _ => more _ _ placed, fun _ => placed⟩
  · intro _ _
    refine (paramType_places keeps).weaken fun type now typePlaced => ?_
    have placed : state.Places (Production.entryRemarks [(first, some type)]) now :=
      (firstPlaced.trans typePlaced).relist (by simp [Production.entryRemarks])
    exact ⟨fun _ => more _ _ placed, fun _ => placed⟩

theorem Groups.remarks {pending : List Ident} {entries : List (Expr × Option Expr)}
    {fields : List Field} (groups : Groups pending entries fields) :
    Field.typeRemarks fields = Production.entryRemarks entries := by
  induction groups with
  | nil => rfl
  | wait _ _ ih =>
      rw [ih]
      simp [Production.entryRemarks]
  | take _ _ _ _ ih =>
      rw [Field.typeRemarks_cons, ih]
      simp [namedField, Production.entryRemarks]

/-- Grouping entries into fields keeps the comments in their types. -/
theorem groupParams?_remarks {entries : List (Expr × Option Expr)} {fields : List Field}
    (grouped : groupParams? entries = some fields) :
    Field.typeRemarks fields = Production.entryRemarks entries := by
  unfold groupParams? at grouped
  split at grouped
  · exact (groups_of_groupNamed? grouped).remarks
  · rename_i unnamed
    cases grouped
    induction entries with
    | nil => rfl
    | cons entry rest ih =>
        obtain ⟨first, type⟩ := entry
        cases type with
        | some type => simp at unnamed
        | none =>
            have restRemarks := ih (by simpa using unnamed)
            rw [List.map_cons, Field.typeRemarks_cons, restRemarks]
            simp [unnamedField, Production.entryRemarks]

theorem parameters_places (keeps : below.PlacesComments) :
    (parameters below).Ensures state fun list final =>
      state.Places (Field.typeRemarks list.fields) final := by
  simp [parameters]
  intro _
  refine (keeps.places .params rfl).weaken fun entries middle placed _ => ?_
  cases grouped : groupParams? entries with
  | none => simp
  | some fields =>
      simp
      simpa [groupParams?_remarks grouped, Production.remarks] using placed

theorem results_places (keeps : below.PlacesComments) :
    (results below).Ensures state fun list final =>
      state.Places (list.elim [] (Field.typeRemarks ·.fields)) final := by
  simp [results]
  refine ⟨fun _ => parameters_places keeps, fun _ _ => ?_⟩
  refine (keeps.places .type rfl).weaken fun type final placed => ?_
  exact placed.relist (by simp [Production.remarks, unnamedField])

theorem signature_places (keeps : below.PlacesComments) :
    (signature below).Ensures state fun signature final =>
      state.Places signature.remarks final := by
  simp [signature]
  refine (parameters_places keeps).weaken fun params middle paramsPlaced => ?_
  exact (results_places keeps).weaken fun results final resultsPlaced =>
    paramsPlaced.trans resultsPlaced

theorem arrayLength_places (keeps : below.PlacesComments) :
    (arrayLength below).Ensures state fun length final =>
      state.Places (Piece.remarks length.pieces) final := by
  simp [arrayLength]
  intro _ _ _
  refine (keeps.places (.binary 1) rfl).weaken fun size middle placed _ => ?_
  simpa [Production.remarks] using placed

theorem fieldTag_places :
    fieldTag.Ensures state fun _ final => state.Places [] final := by
  simp [fieldTag]

theorem structFieldHead_places (keeps : below.PlacesComments) :
    (structFieldHead below).Ensures state fun head final =>
      state.Places head.2.remarks final := by
  simp [structFieldHead]
  refine ⟨fun _ => ?_, fun _ => ⟨fun _ _ => typeName_places, fun _ => ?_⟩⟩
  · exact typeName_places.weaken fun type final placed => by simpa using placed
  · refine (identList_places keeps).weaken fun names middle namesPlaced => ?_
    exact (keeps.places .type rfl).weaken fun type final typePlaced =>
      namesPlaced.trans typePlaced

theorem structFields_places (keeps : below.PlacesComments) :
    (structFields below).Ensures state fun fields final =>
      state.Places (Field.remarksAll fields) final := by
  simp [structFields, -ends_takeDoc]
  intro _ _
  refine takeDoc_places.weaken fun doc afterDoc docPlaced => ?_
  refine (structFieldHead_places keeps).weaken fun head afterHead headPlaced => ?_
  refine fieldTag_places.weaken fun tag afterTag tagPlaced => ?_
  refine takeTrailing_places.weaken fun comment afterComment commentPlaced => ?_
  refine expectSemicolon_places.weaken fun _ afterEnd endPlaced => ?_
  refine (keeps.places .structFields rfl).weaken fun others final othersPlaced => ?_
  have headed := (docPlaced.trans headPlaced).trans (tagPlaced.trans commentPlaced)
  refine (headed.trans (endPlaced.trans othersPlaced)).relist ?_
  simp [Production.remarks, Field.remarks]

theorem interfaceMemberHead_places (keeps : below.PlacesComments) :
    (interfaceMemberHead below).Ensures state fun head final =>
      state.Places head.2.remarks final := by
  simp [interfaceMemberHead]
  refine ⟨fun _ _ _ => ?_, fun _ => keeps.places .type rfl⟩
  exact (signature_places keeps).weaken fun signature final placed => by simpa using placed

theorem interfaceMembers_places (keeps : below.PlacesComments) :
    (interfaceMembers below).Ensures state fun fields final =>
      state.Places (Field.remarksAll fields) final := by
  simp [interfaceMembers, -ends_takeDoc]
  intro _ _
  refine takeDoc_places.weaken fun doc afterDoc docPlaced => ?_
  refine (interfaceMemberHead_places keeps).weaken fun head afterHead headPlaced => ?_
  refine takeTrailing_places.weaken fun comment afterComment commentPlaced => ?_
  refine expectSemicolon_places.weaken fun _ afterEnd endPlaced => ?_
  refine (keeps.places .interfaceMembers rfl).weaken fun others final othersPlaced => ?_
  have headed := (docPlaced.trans headPlaced).trans commentPlaced
  refine (headed.trans (endPlaced.trans othersPlaced)).relist ?_
  simp [Production.remarks, Field.remarks]

theorem memberList_places {members : Parser (List Field)}
    (membersPlaced : ∀ {state : ParserState}, members.Ensures state fun fields final =>
      state.Places (Field.remarksAll fields) final) :
    (memberList members).Ensures state fun list final =>
      state.Places (Field.remarksAll list.fields ++ list.closing) final := by
  simp [memberList, -ends_takeDoc]
  intro _
  refine membersPlaced.weaken fun fields middle placed => ?_
  refine takeDoc_places.weaken fun closing final closingPlaced _ => ?_
  exact (places_advance.1 placed).trans closingPlaced

theorem type_places (keeps : below.PlacesComments) :
    (type below).Ensures state fun type final => state.Places type.remarks final := by
  have only : ∀ {now : ParserState} {image : Expr → Expr},
      state.Places [] now → (∀ inner, (image inner).remarks = inner.remarks) →
      (below .type).Ensures now fun inner final => state.Places (image inner).remarks final := by
    intro now image before same
    refine (keeps.places .type rfl).weaken fun inner final placed => ?_
    exact (before.trans placed).relist (by simp [Production.remarks, same])
  unfold type
  simp only [ends_bind, ends_peek]
  split
  case h_1 => exact typeName_places
  case h_2 =>
    simp
    exact only (by simp) fun _ => rfl
  case h_3 =>
    simp
    refine (arrayLength_places keeps).weaken fun length middle lengthPlaced => ?_
    exact (keeps.places .type rfl).weaken fun element final placed => lengthPlaced.trans placed
  case h_4 =>
    simp
    intro _
    refine (keeps.places .type rfl).weaken fun key middle keyPlaced _ => ?_
    refine (keeps.places .type rfl).weaken fun value final valuePlaced => ?_
    exact (places_advance.1 (places_advance.1 keyPlaced)).trans (places_advance.1 valuePlaced)
  case h_5 =>
    simp
    exact ⟨fun _ => only (by simp) fun inner => Expr.remarks_chanType .send inner,
      fun _ => only (by simp) fun inner => Expr.remarks_chanType .both inner⟩
  case h_6 =>
    simp
    exact fun _ => only (by simp) fun inner => Expr.remarks_chanType .receive inner
  case h_7 =>
    simp
    exact (signature_places keeps).weaken fun signature final placed => by simpa using placed
  case h_8 =>
    simp
    exact (memberList_places (keeps.places .structFields rfl)).weaken
      fun list final placed => by simpa using placed
  case h_9 =>
    simp
    exact (memberList_places (keeps.places .interfaceMembers rfl)).weaken
      fun list final placed => by simpa using placed
  case h_10 =>
    simp
    exact (keeps.places .type rfl).weaken fun inner final placed _ =>
      by simpa [Production.remarks] using placed
  case h_11 => simp

/-! ## Expressions -/

theorem expr_places (keeps : below.PlacesComments) :
    (expr below).Ensures state fun expr final => state.Places expr.remarks final :=
  keeps.places (.binary 1) rfl

theorem exprList_places (keeps : below.PlacesComments) :
    (exprList below).Ensures state fun exprs final =>
      state.Places (Expr.remarksAll exprs) final := by
  simp [exprList]
  refine (expr_places keeps).weaken fun first middle firstPlaced => ?_
  exact (keeps.places .exprTail rfl).weaken fun others final othersPlaced =>
    firstPlaced.trans othersPlaced

theorem exprTail_places (keeps : below.PlacesComments) :
    (exprTail below).Ensures state fun exprs final =>
      state.Places (Expr.remarksAll exprs) final := by
  simp [exprTail]
  intro _
  refine (expr_places keeps).weaken fun first middle firstPlaced => ?_
  exact (keeps.places .exprTail rfl).weaken fun others final othersPlaced =>
    (places_advance.1 firstPlaced).trans othersPlaced

/-- The result of a tail places the comments of what it was handed and its own. -/
theorem binaryTail_continues (keeps : below.PlacesComments) {now : ParserState} {floor : Nat}
    {left : Expr} (leftPlaced : state.Places left.remarks now) :
    (below (.binaryTail floor left)).Ensures now fun expr final =>
      state.Places expr.remarks final := by
  refine (keeps (.binaryTail floor left) now).weaken ?_
  rintro expr final ⟨placed, same, places⟩
  exact (leftPlaced.trans places).relist same.symm

theorem binary_places (keeps : below.PlacesComments) (floor : Nat) :
    (binary below floor).Ensures state fun expr final => state.Places expr.remarks final := by
  simp [binary]
  exact (keeps.places .unary rfl).weaken fun left middle leftPlaced =>
    binaryTail_continues keeps leftPlaced

theorem binaryTail_places (keeps : below.PlacesComments) (floor : Nat) (left : Expr) :
    (binaryTail below floor left).Ensures state
      ((Production.binaryTail floor left).Places state) := by
  have unchanged : (Production.binaryTail floor left).Places state left state :=
    ⟨[], by simp [Production.remarks, Production.heldRemarks], .refl⟩
  unfold binaryTail
  simp only [ends_bind, ends_peek]
  split
  case h_1 op found =>
    simp
    refine ⟨fun _ => unchanged, fun _ => ?_⟩
    refine (keeps.places (.binary (op.precedence + 1)) rfl).weaken
      fun right middle rightPlaced => ?_
    refine (keeps (.binaryTail floor (.binary left op right)) _).weaken ?_
    rintro expr final ⟨placed, same, places⟩
    refine ⟨right.remarks ++ placed, ?_, (places_advance.1 rightPlaced).trans places⟩
    exact same.trans (by simp [Production.heldRemarks])
  case h_2 => exact unchanged

theorem functionBody_places (keeps : below.PlacesComments) :
    (functionBody below).Ensures state fun body final => state.Places body.remarks final := by
  simp [functionBody]
  exact keeps.places .block rfl

theorem compositeBody_places (keeps : below.PlacesComments) (type : Option Expr) :
    (compositeBody below type).Ensures state fun expr final =>
      ∃ placed, expr.remarks = type.elim [] Expr.remarks ++ placed ∧
        state.Places placed final := by
  simp [compositeBody]
  intro _
  refine (keeps.places .elements rfl).weaken fun elements middle placed _ => ?_
  simpa [Production.remarks] using placed

theorem element_places (keeps : below.PlacesComments) :
    (element below).Ensures state fun expr final => state.Places expr.remarks final := by
  simp [element]
  refine ⟨fun _ => ?_, fun _ => expr_places keeps⟩
  refine (compositeBody_places keeps none).weaken ?_
  rintro expr final ⟨placed, same, places⟩
  exact places.relist same.symm

theorem elements_places (keeps : below.PlacesComments) :
    (elements below).Ensures state fun exprs final =>
      state.Places (Expr.remarksAll exprs) final := by
  simp [elements]
  intro _ _
  refine (keeps.places .element rfl).weaken fun first middle firstPlaced => ?_
  have ended : ∀ (item : Expr) (now : ParserState), state.Places item.remarks now →
      (now.kind = .comma → (below .elements).Ensures now.advance fun others final =>
        state.Places (Expr.remarksAll (item :: others)) final) ∧
      (now.kind ≠ .comma → state.Places (Expr.remarksAll [item]) now) := by
    intro item now placed
    refine ⟨fun _ => ?_, fun _ => placed.relist (by simp)⟩
    refine (keeps.places .elements rfl).weaken fun others final othersPlaced => ?_
    exact placed.trans (places_advance.1 othersPlaced)
  refine ⟨fun _ => ?_, fun _ => by simpa using ended first middle firstPlaced⟩
  refine (keeps.places .element rfl).weaken fun value now valuePlaced => ?_
  have placed : state.Places (Expr.keyValue first value).remarks now :=
    (firstPlaced.trans (places_advance.1 valuePlaced)).relist (by simp [Production.remarks])
  simpa using ended (.keyValue first value) now placed

/-- What stands behind an operand places the comments of both. -/
theorem primaryTail_continues (keeps : below.PlacesComments) {now : ParserState} {operand : Expr}
    (operandPlaced : state.Places operand.remarks now) :
    (below (.primaryTail operand)).Ensures now fun expr final =>
      state.Places expr.remarks final := by
  refine (keeps (.primaryTail operand) now).weaken ?_
  rintro expr final ⟨placed, same, places⟩
  exact (operandPlaced.trans places).relist same.symm

theorem exprOrType_places (keeps : below.PlacesComments) :
    (exprOrType below).Ensures state fun expr final => state.Places expr.remarks final := by
  simp [exprOrType]
  refine ⟨fun _ => ?_, fun _ _ => expr_places keeps⟩
  exact (keeps.places .type rfl).weaken fun type middle typePlaced =>
    primaryTail_continues keeps typePlaced

theorem operand_places (keeps : below.PlacesComments) :
    (operand below).Ensures state fun expr final => state.Places expr.remarks final := by
  unfold operand
  simp only [ends_bind, ends_peek]
  split
  case h_1 => simp
  case h_2 =>
    simp
    exact (exprOrType_places keeps).weaken fun inner middle placed _ => by simpa using placed
  case h_3 =>
    simp
    refine (signature_places keeps).weaken fun signature middle placed => ?_
    refine ⟨fun _ => ?_, fun _ => places_advance.1 placed⟩
    exact (functionBody_places keeps).weaken fun body final bodyPlaced =>
      (places_advance.1 placed).trans bodyPlaced
  case h_9 => split <;> simp
  all_goals exact keeps.places .type rfl

theorem unary_places (keeps : below.PlacesComments) :
    (unary below).Ensures state fun expr final => state.Places expr.remarks final := by
  unfold unary
  simp only [ends_bind, ends_peek, ends_ite, ends_bump, ends_pure, ends_peekSecond]
  refine ⟨fun _ => ?_, fun _ => ⟨fun _ => ?_, fun _ => ?_⟩⟩
  · exact (keeps.places .unary rfl).weaken fun operand final placed => places_advance.1 placed
  · exact (keeps.places .type rfl).weaken fun type middle typePlaced =>
      primaryTail_continues keeps typePlaced
  · split
    case h_1 op found =>
      simp
      exact (keeps.places .unary rfl).weaken fun operand final placed => places_advance.1 placed
    case h_2 =>
      simp
      exact (operand_places keeps).weaken fun first middle firstPlaced =>
        primaryTail_continues keeps firstPlaced

theorem arguments_places (keeps : below.PlacesComments) :
    (arguments below).Ensures state fun result final =>
      state.Places (Expr.remarksAll result.1) final := by
  simp [arguments]
  intro _ _
  refine (exprOrType_places keeps).weaken fun first middle firstPlaced => ?_
  have more : ∀ now : ParserState, state.Places first.remarks now →
      (below .arguments).Ensures now fun others final =>
        state.Places (Expr.remarksAll (first :: others.1)) final := by
    intro now placed
    exact (keeps.places .arguments rfl).weaken fun others final othersPlaced =>
      placed.trans othersPlaced
  exact ⟨fun _ => ⟨fun _ => more _ (by simpa using firstPlaced), fun _ => firstPlaced⟩,
    fun _ => ⟨fun _ => more _ (by simpa using firstPlaced), fun _ => firstPlaced⟩⟩

theorem sliceBounds_places (keeps : below.PlacesComments) (base : Expr) (low : Option Expr) :
    (sliceBounds below base low).Ensures state fun expr final =>
      ∃ placed, expr.remarks = base.remarks ++ low.elim [] Expr.remarks ++ placed ∧
        state.Places placed final := by
  simp [sliceBounds]
  intro _
  have ended : ∀ (high : Option Expr) (now : ParserState),
      state.Places (high.elim [] Expr.remarks) now →
      (now.kind = .colon → (expr below).Ensures now.advance fun max final =>
        ∃ placed, high.elim [] Expr.remarks ++ max.remarks = placed ∧
          state.Places placed final) ∧
      (now.kind ≠ .colon → state.Places (high.elim [] Expr.remarks) now) := by
    intro high now placed
    refine ⟨fun _ => ?_, fun _ => placed⟩
    exact (expr_places keeps).weaken fun max final maxPlaced =>
      ⟨_, rfl, placed.trans (places_advance.1 maxPlaced)⟩
  refine ⟨fun _ => by simpa using ended none state.advance (by simp), fun _ _ => ?_⟩
  refine (expr_places keeps).weaken fun high middle highPlaced => ?_
  simpa using ended (some high) middle (by simpa using highPlaced)

theorem indexOrSlice_places (keeps : below.PlacesComments) (base : Expr) :
    (indexOrSlice below base).Ensures state fun expr final =>
      ∃ placed, expr.remarks = base.remarks ++ placed ∧ state.Places placed final := by
  simp [indexOrSlice]
  refine ⟨fun _ => ?_, fun _ => ?_⟩
  · refine (sliceBounds_places keeps base none).weaken ?_
    rintro expr final ⟨placed, same, places⟩
    exact ⟨placed, by simpa using same, places⟩
  · refine (expr_places keeps).weaken fun low middle lowPlaced => ?_
    refine ⟨fun _ => ?_, fun _ => lowPlaced⟩
    refine (sliceBounds_places keeps base (some low)).weaken ?_
    rintro expr final ⟨placed, same, places⟩
    exact ⟨low.remarks ++ placed, by simpa using same, lowPlaced.trans places⟩

theorem selectorOrAssertion_places (keeps : below.PlacesComments) (base : Expr) :
    (selectorOrAssertion below base).Ensures state fun expr final =>
      ∃ placed, expr.remarks = base.remarks ++ placed ∧ state.Places placed final := by
  simp [selectorOrAssertion]
  intro _ _ _ _
  exact (keeps.places .type rfl).weaken fun type middle placed _ => by
    simpa [Production.remarks] using placed

theorem primaryTail_places (keeps : below.PlacesComments) (operand : Expr) :
    (primaryTail below operand).Ensures state
      ((Production.primaryTail operand).Places state) := by
  have onward : ∀ (next : Expr) (now : ParserState),
      (∃ placed, next.remarks = operand.remarks ++ placed ∧ state.Places placed now) →
      (below (.primaryTail next)).Ensures now
        ((Production.primaryTail operand).Places state) := by
    rintro next now ⟨placed, same, places⟩
    refine (keeps (.primaryTail next) now).weaken ?_
    rintro expr final ⟨more, sameMore, morePlaces⟩
    refine ⟨placed ++ more, ?_, places.trans morePlaces⟩
    rw [← List.append_assoc]
    exact same ▸ sameMore
  have unchanged : (Production.primaryTail operand).Places state operand state :=
    ⟨[], by simp [Production.remarks, Production.heldRemarks], .refl⟩
  unfold primaryTail
  simp only [ends_bind, ends_peek]
  split
  case h_1 =>
    simp only [ends_bind]
    exact (selectorOrAssertion_places keeps operand).weaken onward
  case h_2 =>
    simp
    refine (indexOrSlice_places keeps operand).weaken ?_
    rintro next middle ⟨placed, same, places⟩ _
    exact onward next _ ⟨placed, same, by simpa using places⟩
  case h_3 =>
    simp
    refine (keeps.places .arguments rfl).weaken fun arguments middle placed _ => ?_
    exact onward _ _ ⟨Expr.remarksAll arguments.1, by simp,
      by simpa [Production.remarks] using placed⟩
  case h_4 =>
    simp
    refine ⟨fun _ _ => ?_, fun _ => unchanged⟩
    exact (compositeBody_places keeps (some operand)).weaken onward
  case h_5 => exact unchanged

end Grammar

end GoMend
