import GoMend.Proofs.Sync.Frame
import GoMend.Proofs.Volume.Listing

/-!
# The rounds of healing

A run of healing is a sequence of rounds.  A round that is clean, or that finds no name at the
reported position, leaves the volume as it was, so with a check that looks at nothing but the
volume the rounds behind the latter all end like it.  Whether a run succeeds can therefore be read
off its rounds.
-/

namespace GoMend

open Disk Volume

namespace Analyzer

/-- The check looks at nothing but the volume: it makes the same report in every round, and it
changes nothing. -/
structure Settled (analyzer : Analyzer) : Prop where
  looks : ∀ round files, Looks (analyzer.report round files)
  rounds : ∀ round other files, analyzer.report round files = analyzer.report other files

theorem undefinedNames_settled : undefinedNames.Settled where
  looks _ files := (Looks.mapM Source.load_looks files).bind fun _ => Looks.pure _
  rounds _ _ _ := rfl

variable {analyzer : Analyzer}

theorem Settled.verify_looks (settled : analyzer.Settled) (round : Nat) (files : List Path) :
    Looks (analyzer.verify round files) := by
  refine (settled.looks round files).bind fun report => ?_
  cases report with
  | none => exact Looks.pure none
  | some report => exact (Looks.ofExcept _).bind fun _ => Looks.pure _

theorem Settled.verify_eq (settled : analyzer.Settled) (round other : Nat) (files : List Path) :
    analyzer.verify round files = analyzer.verify other files := by
  rw [verify, verify, settled.rounds round other]

end Analyzer

namespace Healed

/-- What was reported in the round, if anything. -/
def report? : Healed → Option Diagnostic
  | .clean => none
  | .repaired diagnostic | .unrepaired diagnostic => some diagnostic

/-- Whether a name was mended in the round. -/
def isRepair : Healed → Bool
  | .repaired _ => true
  | .clean | .unrepaired _ => false

end Healed

namespace Origin

/-- One round of healing: the source files directly in a directory are listed, checked and
mended. -/
def healRound (origin : Origin) (analyzer : Analyzer) (dir : Path) (number : Nat) :
    Disk Healed := do
  origin.healOnce analyzer number (← Source.list dir)

/-- A round that was taken: the volume it found, what it came to, and the volume it left. -/
structure Round where
  before : Volume
  healed : Healed
  after : Volume

/-- The rounds that are taken from a volume on, of those that are left, if none of them meets a
fault.  The rounds end with one that is clean. -/
def rounds (origin : Origin) (analyzer : Analyzer) (dir : Path) :
    Nat → Nat → Volume → Except Fault (List Round)
  | 0, _, _ => .ok []
  | left + 1, number, volume =>
      match origin.healRound analyzer dir number volume with
      | .error fault _ => .error fault
      | .ok .clean after => .ok [⟨volume, .clean, after⟩]
      | .ok healed after => do
          let later ← origin.rounds analyzer dir left (number + 1) after
          return ⟨volume, healed, after⟩ :: later

/-- A round that mends a name changes the file that was reported, and any other round changes
nothing. -/
def Round.Keeps (round : Round) : Prop :=
  match round.healed with
  | .clean | .unrepaired _ => round.after = round.before
  | .repaired diagnostic => ∀ location, location ≠ diagnostic.path.location round.before.workDir →
      round.after.at? location = round.before.at? location

variable {origin : Origin} {analyzer : Analyzer} {dir : Path} {volume final : Volume}
  {left number repairs : Nat} {last : Option Diagnostic} {taken : List Round}

/-! ## One round -/

theorem healRounds_succ :
    origin.healRounds analyzer dir (left + 1) number repairs last =
      origin.healRound analyzer dir number >>= fun healed =>
        match healed with
        | .clean => pure repairs
        | .repaired diagnostic =>
            origin.healRounds analyzer dir left (number + 1) (repairs + 1) (some diagnostic)
        | .unrepaired diagnostic =>
            origin.healRounds analyzer dir left (number + 1) repairs (some diagnostic) := by
  rw [healRound, bind_assoc]
  rfl

/-- A name is mended by writing the file that was reported, which was read before; without a name
nothing is written. -/
theorem repair_eq_ok {diagnostic : Diagnostic} {mended : Bool}
    (ends : origin.repair diagnostic volume = .ok mended final) :
    (mended = false → final = volume) ∧
      ((volume.fileAt? (diagnostic.path.location volume.workDir)).isSome = true ∧
        (final.fileAt? (diagnostic.path.location volume.workDir)).isSome = true) ∧
      ∀ location, location ≠ diagnostic.path.location volume.workDir →
        final.at? location = volume.at? location := by
  obtain ⟨source, between, loaded, ends⟩ := bind_eq_ok.1 ends
  have path := Source.path_of_load loaded
  obtain ⟨⟨text, isText, -⟩, rfl⟩ := Source.load_eq_ok.1 loaded
  have isRead : (volume.fileAt? (diagnostic.path.location volume.workDir)).isSome = true := by
    rw [textAt_eq_ok isText]
    rfl
  cases isMended : origin.mend? diagnostic.position source with
  | none =>
      simp only [isMended] at ends
      obtain ⟨-, rfl⟩ := pure_eq_ok.1 ends
      exact ⟨fun _ => rfl, ⟨isRead, isRead⟩, fun _ _ => rfl⟩
  | some changed =>
      simp only [isMended] at ends
      obtain ⟨_, written, saved, told⟩ := bind_eq_ok.1 ends
      obtain ⟨rfl, rfl⟩ := pure_eq_ok.1 told
      rw [Source.save, Source.saveTo, writeText, mend?_path isMended, path] at saved
      obtain ⟨target, located, -, free, rfl⟩ := writeFile_eq_ok (change_eq_ok.1 saved)
      obtain rfl := locateNew_eq located
      refine ⟨fun kept => absurd kept (by decide), ⟨isRead, ?_⟩, fun location other => at?_put_other other⟩
      rw [fileAt?, at?_put_self]
      · rfl
      · intro root
        rw [root, isDirectory_root] at free
        cases free

/-- The round is the same under any number. -/
theorem healRound_eq (settled : analyzer.Settled) (number other : Nat) :
    origin.healRound analyzer dir number = origin.healRound analyzer dir other := by
  simp only [healRound, healOnce, settled.verify_eq number other]

/-- A round that ends is clean, or it tries to mend the one name that is reported. -/
theorem healRound_eq_ok (settled : analyzer.Settled) {healed : Healed}
    (ends : origin.healRound analyzer dir number volume = .ok healed final) :
    healed = .clean ∧ final = volume ∨
      ∃ diagnostic mended, origin.repair diagnostic volume = .ok mended final ∧
        healed = if mended then .repaired diagnostic else .unrepaired diagnostic := by
  obtain ⟨files, _, listed, ends⟩ := bind_eq_ok.1 ends
  cases Source.list_looks dir listed
  obtain ⟨report, _, verified, ends⟩ := bind_eq_ok.1 ends
  cases settled.verify_looks _ _ verified
  cases report with
  | none =>
      obtain ⟨rfl, rfl⟩ := pure_eq_ok.1 ends
      exact .inl ⟨rfl, rfl⟩
  | some diagnostic =>
      obtain ⟨mended, between, repaired, told⟩ := bind_eq_ok.1 ends
      cases mended with
      | false | true =>
          obtain ⟨rfl, rfl⟩ := pure_eq_ok.1 told
          exact .inr ⟨diagnostic, _, repaired, rfl⟩

theorem healRound_keeps (settled : analyzer.Settled) {healed : Healed}
    (ends : origin.healRound analyzer dir number volume = .ok healed final) :
    (Round.mk volume healed final).Keeps := by
  obtain ⟨rfl, rfl⟩ | ⟨diagnostic, mended, repaired, rfl⟩ := healRound_eq_ok settled ends
  · exact rfl
  · obtain ⟨unchanged, -, elsewhere⟩ := repair_eq_ok repaired
    cases mended with
    | false => exact unchanged rfl
    | true => exact elsewhere

/-! ## All rounds -/

/-- What the rounds of a run look like when so many were left: repairs, then nothing more, a clean
round, or the same report again and again. -/
inductive Shaped : Nat → List Round → Prop
  | used : Shaped 0 []
  | clean (left : Nat) (volume : Volume) : Shaped (left + 1) [⟨volume, .clean, volume⟩]
  | stuck (left : Nat) (volume : Volume) (diagnostic : Diagnostic) :
      Shaped left (List.replicate left ⟨volume, .unrepaired diagnostic, volume⟩)
  | repaired {left : Nat} {taken : List Round} {volume after : Volume} (diagnostic : Diagnostic) :
      Shaped left taken → Shaped (left + 1) (⟨volume, .repaired diagnostic, after⟩ :: taken)

theorem rounds_succ :
    origin.rounds analyzer dir (left + 1) number volume =
      match origin.healRound analyzer dir number volume with
      | .error fault _ => .error fault
      | .ok .clean after => .ok [⟨volume, .clean, after⟩]
      | .ok healed after => do
          let later ← origin.rounds analyzer dir left (number + 1) after
          return ⟨volume, healed, after⟩ :: later := by
  rfl

theorem rounds_stuck (settled : analyzer.Settled) {diagnostic : Diagnostic}
    (stuck : origin.healRound analyzer dir number volume = .ok (.unrepaired diagnostic) volume)
    (left other : Nat) :
    origin.rounds analyzer dir left other volume =
      .ok (List.replicate left ⟨volume, .unrepaired diagnostic, volume⟩) := by
  induction left generalizing other with
  | zero => rfl
  | succ left ih =>
      rw [rounds_succ, healRound_eq settled other number, stuck]
      simp only [ih]
      rfl

/-- The rounds of a run, taken one by one. -/
theorem rounds_induction {motive : Nat → Nat → Volume → List Round → Prop}
    (used : ∀ number volume, motive 0 number volume [])
    (clean : ∀ left number volume after,
      origin.healRound analyzer dir number volume = .ok .clean after →
        motive (left + 1) number volume [⟨volume, .clean, after⟩])
    (next : ∀ left number volume healed after taken, healed ≠ .clean →
      origin.healRound analyzer dir number volume = .ok healed after →
        origin.rounds analyzer dir left (number + 1) after = .ok taken →
          motive left (number + 1) after taken →
            motive (left + 1) number volume (⟨volume, healed, after⟩ :: taken))
    (ran : origin.rounds analyzer dir left number volume = .ok taken) :
    motive left number volume taken := by
  induction left generalizing number volume taken with
  | zero =>
      cases ran
      exact used _ _
  | succ left ih =>
      rw [rounds_succ] at ran
      cases round : origin.healRound analyzer dir number volume with
      | error fault after =>
          rw [round] at ran
          cases ran
      | ok healed after =>
          rw [round] at ran
          cases healed with
          | clean =>
              cases ran
              exact clean _ _ _ _ round
          | repaired diagnostic =>
              obtain ⟨later, further, told⟩ := of_bind_eq_ok ran
              cases told
              exact next _ _ _ _ _ _ nofun round further (ih further)
          | unrepaired diagnostic =>
              obtain ⟨later, further, told⟩ := of_bind_eq_ok ran
              cases told
              exact next _ _ _ _ _ _ nofun round further (ih further)

theorem shaped_of_rounds (settled : analyzer.Settled)
    (ran : origin.rounds analyzer dir left number volume = .ok taken) : Shaped left taken := by
  refine rounds_induction (motive := fun left _ _ taken => Shaped left taken)
    (fun _ _ => .used) ?_ ?_ ran
  · intro left number volume after round
    obtain rfl : after = volume := healRound_keeps settled round
    exact .clean left _
  · intro left number volume healed after taken other round further shaped
    cases healed with
    | clean => exact absurd rfl other
    | repaired diagnostic => exact .repaired diagnostic shaped
    | unrepaired diagnostic =>
        -- the next round finds the same volume, and so do all behind it
        obtain rfl : after = volume := healRound_keeps settled round
        rw [rounds_stuck settled round] at further
        cases further
        exact .stuck (left + 1) _ diagnostic

theorem keeps_of_rounds (settled : analyzer.Settled)
    (ran : origin.rounds analyzer dir left number volume = .ok taken) :
    ∀ round ∈ taken, round.Keeps := by
  refine rounds_induction (motive := fun _ _ _ taken => ∀ round ∈ taken, round.Keeps)
    (fun _ _ => nofun) ?_ ?_ ran
  · intro left number volume after round
    exact List.forall_mem_singleton.2 (healRound_keeps settled round)
  · intro left number volume healed after taken other round further keeps
    exact List.forall_mem_cons.2 ⟨healRound_keeps settled round, keeps⟩

/-! ## What a run comes to -/

/-- The volume that rounds leave which were taken from a volume on. -/
def volumeBehind (volume : Volume) (taken : List Round) : Volume :=
  (taken.getLast?.map (·.after)).getD volume

/-- What was reported in the last of some rounds, in writing; without a report it is empty. -/
def lastReport (last : Option Diagnostic) (taken : List Round) : String :=
  (((taken.getLast?.bind (·.healed.report?)).or last).map (·.render)).getD ""

/-- The last of some rounds was clean. -/
def EndsClean (taken : List Round) : Prop :=
  taken.getLast?.map (·.healed) = some .clean

/-- So many rounds each mended a name, and the next one, which the bound still admits, was
clean. -/
structure ConvergesAfter (bound count : Nat) (taken : List Round) : Prop where
  inside : count < bound
  repairs : ∀ index < count, ∃ diagnostic,
    taken[index]?.map (·.healed) = some (.repaired diagnostic)
  clean : taken[count]?.map (·.healed) = some .clean

/-- How many of some rounds mended a name. -/
def repairCount (taken : List Round) : Nat :=
  taken.countP (·.healed.isRepair)

theorem repairCount_repaired {diagnostic : Diagnostic} :
    repairCount (⟨volume, .repaired diagnostic, final⟩ :: taken) = repairCount taken + 1 :=
  List.countP_cons_of_pos rfl

theorem repairCount_unrepaired {diagnostic : Diagnostic} :
    repairCount (⟨volume, .unrepaired diagnostic, final⟩ :: taken) = repairCount taken :=
  List.countP_cons_of_neg nofun

section

variable {round : Round}

theorem volumeBehind_cons :
    volumeBehind volume (round :: taken) = volumeBehind round.after taken := by
  rw [volumeBehind, volumeBehind, List.getLast?_cons]
  cases taken.getLast? <;> rfl

theorem endsClean_cons (other : round.healed ≠ .clean) :
    EndsClean (round :: taken) ↔ EndsClean taken := by
  rw [EndsClean, EndsClean, List.getLast?_cons]
  cases taken.getLast? <;> simp [other]

theorem lastReport_cons (other : round.healed ≠ .clean) (open_ : ¬EndsClean taken) :
    lastReport last (round :: taken) = lastReport round.healed.report? taken := by
  rw [EndsClean] at open_
  rw [lastReport, lastReport, List.getLast?_cons]
  cases isLast : taken.getLast? with
  | none => cases healed : round.healed <;> simp_all [Healed.report?]
  | some later => cases healed : later.healed <;> simp_all [Healed.report?]

end

/-- The rounds tell what the run comes to, whatever went before them. -/
theorem healRounds_eq (ran : origin.rounds analyzer dir left number volume = .ok taken)
    (repairs : Nat) (last : Option Diagnostic) :
    (EndsClean taken → origin.healRounds analyzer dir left number repairs last volume =
      .ok (repairs + repairCount taken) (volumeBehind volume taken)) ∧
    (¬EndsClean taken → origin.healRounds analyzer dir left number repairs last volume =
      .error (.notConverged (number + left) (lastReport last taken))
        (volumeBehind volume taken)) := by
  revert repairs last
  refine rounds_induction (motive := fun left number volume taken => ∀ repairs last,
    (EndsClean taken → origin.healRounds analyzer dir left number repairs last volume =
      .ok (repairs + repairCount taken) (volumeBehind volume taken)) ∧
    (¬EndsClean taken → origin.healRounds analyzer dir left number repairs last volume =
      .error (.notConverged (number + left) (lastReport last taken))
        (volumeBehind volume taken))) ?_ ?_ ?_ ran
  · intro number volume repairs last
    exact ⟨nofun, fun _ => rfl⟩
  · intro left number volume after round repairs last
    refine ⟨fun _ => ?_, fun other => absurd rfl other⟩
    rw [healRounds_succ, bind_of_ok round]
    rfl
  · intro left number volume healed after taken other round _ ih repairs last
    have rounds : number + (left + 1) = number + 1 + left := by omega
    rw [healRounds_succ, bind_of_ok round, endsClean_cons other, volumeBehind_cons, rounds]
    cases healed with
    | clean => exact absurd rfl other
    | repaired diagnostic =>
        obtain ⟨converged, exhausted⟩ := ih (repairs + 1) (some diagnostic)
        refine ⟨fun ends => ?_, fun open_ => ?_⟩
        · have counted : repairs + (repairCount taken + 1) = repairs + 1 + repairCount taken := by
            omega
          rw [repairCount_repaired, counted]
          exact converged ends
        · rw [lastReport_cons other open_]
          exact exhausted open_
    | unrepaired diagnostic =>
        obtain ⟨converged, exhausted⟩ := ih repairs (some diagnostic)
        refine ⟨fun ends => ?_, fun open_ => ?_⟩
        · rw [repairCount_unrepaired]
          exact converged ends
        · rw [lastReport_cons other open_]
          exact exhausted open_

theorem Shaped.convergesAfter_iff (shaped : Shaped left taken) (count : Nat) :
    ConvergesAfter left count taken ↔
      EndsClean taken ∧ repairCount taken = count := by
  induction shaped generalizing count with
  | used => exact ⟨fun converges => absurd converges.inside (Nat.not_lt_zero _), nofun⟩
  | clean left volume =>
      constructor
      · intro converges
        cases count with
        | zero => exact ⟨rfl, rfl⟩
        | succ count => simpa using converges.clean
      · rintro ⟨-, rfl⟩
        exact ⟨Nat.succ_pos _, nofun, rfl⟩
  | stuck left volume diagnostic =>
      constructor
      · intro converges
        have clean := converges.clean
        rw [List.getElem?_replicate_of_lt converges.inside] at clean
        cases clean
      · rintro ⟨ends, -⟩
        cases left with
        | zero => cases ends
        | succ left => simp [EndsClean, List.getLast?_replicate] at ends
  | @repaired left taken volume after diagnostic shaped ih =>
      have other : (Round.mk volume (.repaired diagnostic) after).healed ≠ .clean := nofun
      rw [endsClean_cons other, repairCount_repaired]
      cases count with
      | zero =>
          constructor
          · intro converges
            simpa using converges.clean
          · rintro ⟨-, none_⟩
            exact absurd none_ (Nat.succ_ne_zero _)
      | succ count =>
          rw [Nat.add_right_cancel_iff, ← ih]
          constructor
          · intro converges
            refine ⟨Nat.lt_of_succ_lt_succ converges.inside, fun index below => ?_,
              converges.clean⟩
            exact converges.repairs (index + 1) (Nat.succ_lt_succ below)
          · intro converges
            refine ⟨Nat.succ_lt_succ converges.inside, fun index below => ?_, converges.clean⟩
            cases index with
            | zero => exact ⟨diagnostic, rfl⟩
            | succ index => exact converges.repairs index (Nat.lt_of_succ_lt_succ below)

/-- A report that could not be mended is made in all later rounds. -/
theorem Shaped.stuck_of_le (shaped : Shaped left taken) {index later : Nat}
    {diagnostic : Diagnostic}
    (stuck : taken[index]?.map (·.healed) = some (.unrepaired diagnostic))
    (behind : index ≤ later) (inside : later < left) :
    ∃ round, taken[later]? = some round ∧ round.healed = .unrepaired diagnostic ∧
      round.after = round.before := by
  induction shaped generalizing index later with
  | used => cases inside
  | clean left volume =>
      cases index with
      | zero => cases stuck
      | succ index => cases stuck
  | stuck left volume other =>
      rw [List.getElem?_replicate_of_lt (behind.trans_lt inside)] at stuck
      cases stuck
      exact ⟨_, List.getElem?_replicate_of_lt inside, rfl, rfl⟩
  | repaired other shaped ih =>
      cases index with
      | zero => cases stuck
      | succ index =>
          cases later with
          | zero => cases behind
          | succ later =>
              exact ih stuck (Nat.le_of_succ_le_succ behind) (Nat.lt_of_succ_lt_succ inside)

/-- A run in which no round meets a fault is told by its rounds.  A round that is clean or mends
nothing leaves the volume as it is, and one that mends a name changes the file that was reported.
The run ends with a number of repairs exactly if so many rounds mended a name and the one behind
them was clean; a report that was not mended comes back in all later rounds, which change nothing;
and a run that does not end with a number of repairs has used up its rounds and tells the last
report. -/
theorem heal_outcome (settled : analyzer.Settled) {bound : Nat}
    (ran : origin.rounds analyzer dir bound 0 volume = .ok taken) :
    (∀ round ∈ taken, round.Keeps) ∧
      (∀ count, origin.heal analyzer bound dir volume = .ok count (volumeBehind volume taken) ↔
        ConvergesAfter bound count taken) ∧
      (∀ index diagnostic, taken[index]?.map (·.healed) = some (.unrepaired diagnostic) →
        ∀ later, index ≤ later → later < bound → ∃ round, taken[later]? = some round ∧
          round.healed = .unrepaired diagnostic ∧ round.after = round.before) ∧
      ((∀ count, ¬ConvergesAfter bound count taken) →
        origin.heal analyzer bound dir volume =
          .error (.notConverged bound (lastReport none taken)) (volumeBehind volume taken)) := by
  have shaped := shaped_of_rounds settled ran
  obtain ⟨converged, exhausted⟩ := healRounds_eq ran 0 none
  rw [Nat.zero_add] at converged exhausted
  refine ⟨keeps_of_rounds settled ran, fun count => ?_, fun index diagnostic stuck later =>
    shaped.stuck_of_le stuck, fun never => exhausted fun ends => ?_⟩
  · rw [shaped.convergesAfter_iff, heal]
    by_cases ends : EndsClean taken
    · rw [converged ends, EStateM.Result.ok.injEq]
      exact ⟨fun same => ⟨ends, same.1⟩, fun both => ⟨both.2, rfl⟩⟩
    · rw [exhausted ends]
      exact iff_of_false nofun fun both => ends both.1
  · exact never _ ((shaped.convergesAfter_iff _).2 ⟨ends, rfl⟩)

/-- A volume with one source file, in which one name is undefined. -/
def undefinedBar : Volume where
  workDir := []
  entries := [(["d"], .directory), (["d", "a.go"], .file (.text "package p\n\nvar x = Bar\n"))]

/-- One repair, and the next round is clean. -/
theorem heal_outcome_undefinedBar : ∃ taken,
    Origin.rounds ⟨"q", "lib/q"⟩ .undefinedNames ⟨"d"⟩ 3 0 undefinedBar = .ok taken ∧
      ConvergesAfter 3 1 taken ∧
      Origin.heal ⟨"q", "lib/q"⟩ .undefinedNames 3 ⟨"d"⟩ undefinedBar =
        .ok 1 (volumeBehind undefinedBar taken) := by
  have computed : (Origin.rounds ⟨"q", "lib/q"⟩ .undefinedNames ⟨"d"⟩ 3 0
      undefinedBar).toOption.map (·.map (·.healed)) =
        some [.repaired (.undefined ⟨"d/a.go"⟩ ⟨3, 9⟩ "Bar"), .clean] := by
    decide +kernel
  cases ran : Origin.rounds ⟨"q", "lib/q"⟩ .undefinedNames ⟨"d"⟩ 3 0 undefinedBar with
  | error fault =>
      rw [ran] at computed
      cases computed
  | ok taken =>
      rw [ran] at computed
      have healed : taken.map (·.healed) =
          [.repaired (.undefined ⟨"d/a.go"⟩ ⟨3, 9⟩ "Bar"), .clean] := Option.some.inj computed
      have at_ : ∀ index : Nat, taken[index]?.map (·.healed) =
          [.repaired (.undefined ⟨"d/a.go"⟩ ⟨3, 9⟩ "Bar"), Healed.clean][index]? := by
        intro index
        rw [← healed, List.getElem?_map]
      have converges : ConvergesAfter 3 1 taken := by
        refine ⟨by decide, fun index below => ?_, at_ 1⟩
        obtain rfl : index = 0 := Nat.lt_one_iff.1 below
        exact ⟨_, at_ 0⟩
      obtain ⟨-, ends, -, -⟩ := heal_outcome Analyzer.undefinedNames_settled ran
      exact ⟨taken, rfl, converges, (ends 1).2 converges⟩

end Origin

end GoMend
