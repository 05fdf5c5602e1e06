import Mathlib.Data.List.Pairwise
import GoMend.Proofs.Repair.Replacement

/-!
# Checking the sources of a package in any order

Sources are given to the check in some order, and this order is not seen in the report: the
names that a package declares and the types of its type names are the same in every order, as
long as no type name is declared twice, and the order in which sources are checked is told by
their paths.
-/

namespace GoMend

/-! ## The order of paths -/

namespace PathComponent

/-- The name of a component, which is empty for a component that is no name. -/
def label : PathComponent → String
  | .named name => name
  | _ => ""

/-- Components are compared by their kinds and then by their names. -/
theorem compare_eq : PathComponent.compare = compareLex (compareOn rank) (compareOn label) := by
  funext left right
  cases left <;> cases right <;> rfl

instance : Std.TransCmp PathComponent.compare :=
  compare_eq ▸ inferInstanceAs (Std.TransCmp (compareLex (compareOn rank) (compareOn label)))

theorem compareAll_eq : compareAll = List.compareLex PathComponent.compare := by
  funext lefts
  induction lefts with
  | nil =>
      funext rights
      cases rights <;> rfl
  | cons left lefts ih =>
      funext rights
      cases rights with
      | nil => rfl
      | cons right rights =>
          rw [compareAll, List.compareLex_cons_cons, ih]
          cases left.compare right <;> rfl

instance : Std.TransCmp compareAll :=
  compareAll_eq ▸ inferInstanceAs (Std.TransCmp (List.compareLex PathComponent.compare))

end PathComponent

instance : Std.TransCmp Path.compare where
  eq_swap := @fun one two =>
    @Std.OrientedCmp.eq_swap _ PathComponent.compareAll _ one.components two.components
  isLE_trans := @fun one two three =>
    @Std.TransCmp.isLE_trans _ PathComponent.compareAll _ one.components two.components
      three.components

/-! ## Packages that declare the same -/

namespace PackageScope

variable {old new : PackageScope}

/-- Where no type name occurs twice, the type that it stands for does not depend on the order
of the declarations. -/
theorem declaredType?_perm (types : old.types.Perm new.types)
    (unique : (old.types.map (·.1)).Nodup) (name : String) :
    old.declaredType? name = new.declaredType? name := by
  have lookup : ∀ {left right : List (String × Expr)}, left.Perm right →
      (left.map (·.1)).Nodup → left.find? (·.1 == name) = right.find? (·.1 == name) := by
    intro left right perm unique
    induction perm with
    | nil => rfl
    | cons entry _ ih =>
        rw [List.find?_cons, List.find?_cons, ih (List.nodup_cons.1 unique).2]
    | swap one other rest =>
        have apart : other.1 ≠ one.1 := List.ne_of_not_mem_cons (List.nodup_cons.1 unique).1
        rw [List.find?_cons, List.find?_cons, List.find?_cons, List.find?_cons]
        cases isOther : other.1 == name with
        | false => rfl
        | true =>
            have notOne : (one.1 == name) = false := by
              rw [← beq_iff_eq.1 isOther]
              exact beq_false_of_ne apart.symm
            rw [notOne]
    | trans first _ ih ih' => exact (ih unique).trans (ih' ((first.map _).nodup_iff.1 unique))
  rw [declaredType?, declaredType?]
  congr 1
  apply lookup
  · exact (List.reverse_perm _).trans (types.trans (List.reverse_perm _).symm)
  · rw [List.map_reverse]
    exact List.nodup_reverse.2 unique

end PackageScope

namespace Source

variable {old new : PackageScope} {sources other : List Source}

/-- The check of a source asks a package for nothing but which names it declares and what its
type names stand for. -/
theorem undefined?_congr (names : ∀ name, old.contains name = new.contains name)
    (types : ∀ name, old.declaredType? name = new.declaredType? name) (source : Source) :
    source.undefined? old = source.undefined? new := by
  rw [undefined?_eq, undefined?_eq, File.visits_alike (PackageScope.alike_of_eq types)]
  have known : FileNames.contains ⟨old, .ofFile source.file⟩ =
      FileNames.contains ⟨new, .ofFile source.file⟩ := by
    funext name
    rw [FileNames.contains, FileNames.contains, names]
  congr 1
  funext visit
  rw [report?, report?]
  cases visit with
  | binder ident => rfl
  | use ident env => rw [Visit.unresolved?, Visit.unresolved?, known]

/-- The names that sources declare together do not depend on their order. -/
theorem contains_packageOf_perm (perm : sources.Perm other) (name : String) :
    (packageOf sources).contains name = (packageOf other).contains name := by
  rw [PackageScope.contains, PackageScope.contains, names_packageOf, names_packageOf]
  exact (perm.flatMap_right _).contains_eq

theorem types_packageOf_perm (perm : sources.Perm other) :
    (packageOf sources).types.Perm (packageOf other).types := by
  rw [types_packageOf, types_packageOf]
  exact perm.flatMap_right _

theorem notAfter_trans (one two three : Source) (first : one.notAfter two)
    (second : two.notAfter three) : one.notAfter three :=
  Std.TransCmp.isLE_trans first second

theorem notAfter_total (one other : Source) : one.notAfter other || other.notAfter one := by
  have swap : other.path.compare one.path = (one.path.compare other.path).swap :=
    Std.OrientedCmp.eq_swap
  rw [notAfter, notAfter, swap]
  cases one.path.compare other.path <;> rfl

/-- Sources under different paths are checked in one order. -/
theorem mergeSort_perm_eq (perm : sources.Perm other)
    (distinct : sources.Pairwise fun one other => one.path.compare other.path ≠ .eq) :
    sources.mergeSort notAfter = other.mergeSort notAfter := by
  have apart : ∀ one ∈ sources, ∀ two ∈ sources, one ≠ two → one.path.compare two.path ≠ .eq := by
    have : Std.Symm fun one other : Source => one.path.compare other.path ≠ .eq :=
      ⟨fun one other apart same => apart (Std.OrientedCmp.eq_symm same)⟩
    exact fun one member two member' => distinct.forall member member'
  refine @List.Perm.eq_of_pairwise _ (fun one other => one.notAfter other) _ _ ?_ ?_ ?_ ?_
  · intro one two inSources inOther before after
    have member := List.mem_mergeSort.1 inSources
    have member' := perm.mem_iff.2 (List.mem_mergeSort.1 inOther)
    by_contra different
    exact apart one member two member' different (Std.OrientedCmp.isLE_antisymm before after)
  · exact List.pairwise_mergeSort notAfter_trans notAfter_total sources
  · exact List.pairwise_mergeSort notAfter_trans notAfter_total other
  · exact (List.mergeSort_perm ..).trans (perm.trans (List.mergeSort_perm ..).symm)

/-- The check of sources under different paths, of which no two declare one type name, does
not depend on the order in which the sources are given. -/
theorem firstUndefined?_perm (perm : sources.Perm other)
    (distinct : sources.Pairwise fun one other => one.path.compare other.path ≠ .eq)
    (unique : ((packageOf sources).types.map (·.1)).Nodup) :
    firstUndefined? sources = firstUndefined? other := by
  have types := types_packageOf_perm perm
  have checks : undefined? (packageOf sources) = undefined? (packageOf other) := by
    funext source
    exact undefined?_congr (contains_packageOf_perm perm)
      (PackageScope.declaredType?_perm types unique) source
  change (sources.mergeSort notAfter).findSome? (undefined? (packageOf sources)) =
    (other.mergeSort notAfter).findSome? (undefined? (packageOf other))
  rw [mergeSort_perm_eq perm distinct, checks]

/-- A literal of a type that the other source tells to be a struct: whichever source is given
first, its key is no name, and its value is reported. -/
theorem firstUndefined?_perm_fields :
    ∃ one two : Source,
      firstUndefined? [one, two] = some (.undefined ⟨"b.go"⟩ ⟨3, 14⟩ "z") ∧
      firstUndefined? [two, one] = some (.undefined ⟨"b.go"⟩ ⟨3, 14⟩ "z") := by
  have checked : ((Source.parse ⟨"a.go"⟩ "package p\ntype U struct{ k int }").toOption.bind
      fun one =>
        (Source.parse ⟨"b.go"⟩ "package p\ntype T U\nvar x = T{k: z}").toOption.map fun two =>
          (one.path.compare two.path, (packageOf [one, two]).types.map (·.1),
            [one, two].findSome? (undefined? (packageOf [one, two])))) =
      some (.lt, ["U", "T"], some (.undefined ⟨"b.go"⟩ ⟨3, 14⟩ "z")) := by
    decide +kernel
  cases first : Source.parse ⟨"a.go"⟩ "package p\ntype U struct{ k int }" with
  | error fault => simp [first, Except.toOption] at checked
  | ok one =>
      cases second : Source.parse ⟨"b.go"⟩ "package p\ntype T U\nvar x = T{k: z}" with
      | error fault => simp [first, second, Except.toOption] at checked
      | ok two =>
          simp only [first, second, Except.toOption, Option.bind_some, Option.map_some,
            Option.some.injEq, Prod.mk.injEq] at checked
          obtain ⟨ordered, typeNames, found⟩ := checked
          have reported : firstUndefined? [one, two] =
              some (.undefined ⟨"b.go"⟩ ⟨3, 14⟩ "z") := by
            rw [firstUndefined?, List.mergeSort_of_pairwise (by simp [notAfter, ordered])]
            exact found
          have swapped : firstUndefined? [one, two] = firstUndefined? [two, one] := by
            apply firstUndefined?_perm (.swap two one [])
            · simp [ordered]
            · rw [typeNames]
              decide
          exact ⟨one, two, reported, swapped ▸ reported⟩

end Source

end GoMend
