import GoMend.Proofs.Sync.Frame
import GoMend.Proofs.Volume.Outcome
import GoMend.Proofs.Wrap.Hygiene
import GoMend.Proofs.Wrap.Idempotence

/-!
# Faults of a run

A configuration that is accepted has no fault of its own: each of its patterns was read when it was
checked, and a field is taken away only where it was found.  What may still stop a run lies with
the files it works on.
-/

namespace GoMend

open Disk Volume

/-- A fault lies with what a run works on: not with a pattern, nor with the configuration, nor with
a field that is taken away without being there. -/
structure Fault.Foreign (fault : Fault) : Prop where
  pattern : fault ≠ .invalidPattern
  configuration : ∀ reason, fault ≠ .configuration reason
  field : ∀ structName field, fault ≠ .fieldNotFound structName field

theorem Disk.Refused.foreign {fault : Fault} (refused : Refused fault) : fault.Foreign := by
  obtain ⟨_, _, _, rfl⟩ := refused
  exact ⟨by simp, by simp, by simp⟩

/-! ## Reading and checking files -/

namespace Source

theorem raises_load (path : Path) : Raises Fault.Foreign (load path) := by
  apply (Raises.ask fun _ => (Refused.fileSystem _ _ _).foreign).bind
  intro text
  apply Raises.ofExcept
  intro fault unreadable
  rw [parse] at unreadable
  split at unreadable
  · cases unreadable
  · cases unreadable
    exact ⟨by simp, by simp, by simp⟩

theorem raises_list (dir : Path) : Raises Fault.Foreign (list dir) := by
  apply ((raises_files dir).mono fun _ => Refused.foreign).bind
  intro files
  exact .pure _

theorem raises_saveTo (path : Path) (source : Source) :
    Raises Fault.Foreign (source.saveTo path) :=
  .change fun _ => (Refused.fileSystem _ _ _).foreign

end Source

theorem Analyzer.raises_verify (round : Nat) (files : List Path) :
    Raises Fault.Foreign (undefinedNames.verify round files) := by
  have reports : Raises Fault.Foreign (undefinedNames.report round files) := by
    apply (Raises.mapM fun path _ => Source.raises_load path).bind
    intro sources
    exact .pure _
  apply reports.bind
  intro report
  cases report with
  | none => exact .pure _
  | some text =>
      have readBack : Raises Fault.Foreign (Disk.ofExcept (Diagnostic.parse text)) := by
        apply Raises.ofExcept
        intro fault malformed
        rw [Diagnostic.parse] at malformed
        split at malformed
        · cases malformed
        · cases malformed
          exact ⟨by simp, by simp, by simp⟩
      exact readBack.bind fun _ => .pure _

namespace Origin

variable {origin : Origin}

theorem raises_repair (diagnostic : Diagnostic) :
    Raises Fault.Foreign (origin.repair diagnostic) := by
  apply (Source.raises_load _).bind
  intro source
  split
  · exact (Source.raises_saveTo _ _).bind fun _ => .pure _
  · exact .pure _

theorem raises_healOnce (round : Nat) (files : List Path) :
    Raises Fault.Foreign (origin.healOnce .undefinedNames round files) := by
  apply (Analyzer.raises_verify round files).bind
  intro report
  cases report with
  | none => exact .pure _
  | some diagnostic =>
      apply (raises_repair diagnostic).bind
      intro mended
      exact .ite (.pure _) (.pure _)

theorem raises_healRounds (dir : Path) (left rounds repairs : Nat) (last : Option Diagnostic) :
    Raises Fault.Foreign
      (origin.healRounds .undefinedNames dir left rounds repairs last) := by
  induction left generalizing rounds repairs last with
  | zero => exact .throw ⟨by simp, by simp, by simp⟩
  | succ left ih =>
      rw [healRounds]
      apply (Source.raises_list dir).bind
      intro files
      apply (raises_healOnce rounds files).bind
      intro healed
      cases healed with
      | clean => exact .pure _
      | repaired diagnostic => exact ih (rounds + 1) (repairs + 1) (some diagnostic)
      | unrepaired diagnostic => exact ih (rounds + 1) repairs (some diagnostic)

end Origin

/-! ## Moving files into the package -/

namespace Wrapper

variable {wrapper : Wrapper}

/-- A field is taken away only where it was found. -/
theorem enrich_isOk (wrapper : Wrapper) (spec : TypeSpec) :
    ∃ enriched, wrapper.enrich spec = .ok enriched := by
  cases wrapper with
  | notInjectable => exact ⟨_, rfl⟩
  | injectable =>
      rw [enrich]
      split
      · rename_i managed
        rw [TypeSpec.removeField, if_pos managed]
        exact ⟨_, rfl⟩
      · exact ⟨_, rfl⟩

theorem foreign_of_normalizeConstructor {decl : FuncDecl} {fault : Fault}
    (fails : wrapper.normalizeConstructor decl = .error fault) : fault.Foreign := by
  rw [normalizeConstructor, FuncDecl.demandBody] at fails
  cases hasBody : decl.body with
  | none =>
      rw [hasBody] at fails
      cases fails
      exact ⟨by simp, by simp, by simp⟩
  | some present =>
      rw [hasBody] at fails
      simp only [bind, Except.bind] at fails
      split at fails
      · cases fails
      · cases fails
        exact ⟨by simp, by simp, by simp⟩

end Wrapper

namespace Pipeline

variable {pipeline : Pipeline} {source : Source} {fault : Fault}

theorem foreign_of_wrapFunction {wrapper : Wrapper}
    (fails : (pipeline.wrapFunction wrapper source).1 = .error fault) : fault.Foreign := by
  cases wrapFunction_cases pipeline wrapper source with
  | inl unmatched =>
      rw [unmatched.2] at fails
      cases fails
  | inr matched =>
      obtain ⟨heads, decl, tails, -, outcome⟩ := matched
      cases outcome with
      | inl failed =>
          obtain ⟨known, abnormal, wraps⟩ := failed
          rw [wraps] at fails
          cases fails
          exact Wrapper.foreign_of_normalizeConstructor abnormal
      | inr normal =>
          obtain ⟨body, -, wraps⟩ := normal
          rw [wraps] at fails
          cases fails

/-- Only a constructor can keep a file from being moved: wrapping the struct does not fail. -/
theorem foreign_of_transform (fails : (pipeline.transform source).1 = .error fault) :
    fault.Foreign := by
  rw [transform] at fails
  cases found : (source.renamePackage pipeline.package).file.structure? pipeline.structures with
  | none =>
      rw [wrapStructure_of_none found] at fails
      cases fails
  | some spec =>
      rw [wrapStructure_of_some found] at fails
      exact foreign_of_wrapFunction fails

theorem raises_publish (path : Path) : Raises Fault.Foreign (pipeline.publish path) := by
  apply (Source.raises_load path).bind
  intro source
  apply (Raises.ofExcept fun fault => foreign_of_transform).bind
  intro record
  apply (Source.raises_saveTo _ _).bind
  intro _
  apply Raises.ite
  · exact .pure _
  · exact (Raises.change fun _ => (Refused.fileSystem _ _ _).foreign).bind fun _ => .pure _

theorem raises_publishAll (dir : Path) : Raises Fault.Foreign (pipeline.publishAll dir) := by
  apply (Source.raises_list dir).bind
  intro paths
  apply (Raises.mapM fun path _ => raises_publish path).bind
  intro records
  exact .pure _

end Pipeline

/-! ## Copying between the directories -/

namespace Disk

theorem raises_filesMatching (dir : Path) (pattern : Matcher) :
    Raises Refused (filesMatching dir pattern) := by
  apply (raises_files dir).bind
  intro paths
  exact .pure _

theorem raises_copyInto (dir : Path) (sources : List Path) :
    Raises Refused (copyInto dir sources) := by
  apply Raises.mapM
  intro source _
  apply (Raises.change (Refused.fileSystem _ _)).bind
  intro _
  exact .pure _

theorem raises_extract {compiler : PatternCompiler} {text : String} {pattern : Matcher}
    (isPattern : compiler.compile text = .ok pattern) (source target : Path) :
    Raises Refused (extract compiler text source target) := by
  refine Raises.ofExcept_bind isPattern ?_
  apply (raises_makeDirectories target).bind
  intro _
  apply (raises_filesMatching source pattern).bind
  intro paths
  exact raises_copyInto target paths

theorem raises_copyDependencies (names : List String) (source target : Path) :
    Raises Refused (copyDependencies names source target) := by
  apply (raises_makeDirectories target).bind
  intro _
  exact raises_copyInto target _

theorem raises_promote (build project : Path) (managed : Matcher) :
    Raises Refused (promote build project managed) := by
  apply (raises_filesMatching project managed).bind
  intro published
  apply (raises_files build).bind
  intro built
  apply (raises_makeDirectories project).bind
  intro _
  apply (raises_copyInto project built).bind
  intro _
  have removes : ∀ paths : List Path, Raises Refused (paths.forM remove) := by
    intro paths
    apply Raises.forM
    intro path _
    exact .change (Refused.fileSystem _ _)
  exact (removes _).bind fun _ => .pure _

end Disk

/-! ## Runs -/

namespace Config

variable {compiler : PatternCompiler} {config : Config}

theorem pipeline_isOk
    (patterns : ∀ text ∈ config.patternTexts, ∃ pattern, compiler.compile text = .ok pattern) :
    ∃ pipeline, config.pipeline compiler = .ok pipeline := by
  obtain ⟨structures, isStructures⟩ := patterns config.patterns.structures (by simp [patternTexts])
  obtain ⟨functions, isFunctions⟩ := patterns config.patterns.functions (by simp [patternTexts])
  rw [pipeline, Pipeline.ofTexts, isStructures, isFunctions]
  exact ⟨_, rfl⟩

theorem raises_assemble
    (patterns : ∀ text ∈ config.patternTexts, ∃ pattern, compiler.compile text = .ok pattern) :
    Raises Fault.Foreign (config.assemble compiler) := by
  have refusals : ∀ {α : Type} {action : Disk α}, Raises Refused action →
      Raises Fault.Foreign action := fun raises => raises.mono fun _ => Refused.foreign
  have prepares : Raises Refused config.prepare := by
    apply (raises_removeTree _).bind
    intro _
    exact raises_makeDirectories _
  apply (refusals prepares).bind
  intro _
  have extracts : Raises Refused (config.package.exports.forM fun text => do
      let _ ← extract compiler text config.directories.sourceDir config.directories.buildDir) := by
    apply Raises.forM
    intro text member
    obtain ⟨pattern, isPattern⟩ := patterns text (List.mem_append_left _ member)
    exact (raises_extract isPattern _ _).bind fun _ => .pure _
  apply (refusals extracts).bind
  intro _
  obtain ⟨pipeline, isPipeline⟩ := pipeline_isOk patterns
  refine Raises.ofExcept_bind isPipeline ?_
  apply (Pipeline.raises_publishAll _).bind
  intro records
  apply (refusals (raises_copyDependencies _ _ _)).bind
  intro _
  apply (Origin.raises_healRounds _ _ _ _ _).bind
  intro repairs
  have emits : Raises Refused (config.table.emit records config.directories.buildDir) :=
    (Raises.change (Refused.fileSystem _ _)).bind fun _ => .pure _
  exact (refusals emits).bind fun _ => .pure _

/-- Every pattern of a configuration that is accepted can be read, and no field is taken away where
it is not found, so a run with the configuration never stops for a pattern, for the configuration
or for a field that is not there, whatever it finds on the volume. -/
theorem run_foreign {steps : List PathComponent} (accepted : config.check compiler steps = .ok ()) :
    (∀ text ∈ config.patternTexts, ∃ pattern, compiler.compile text = .ok pattern) ∧
      (∀ (wrapper : Wrapper) spec, ∃ enriched, wrapper.enrich spec = .ok enriched) ∧
      ∀ volume fault final, config.run compiler volume = .error fault final →
        fault ≠ .invalidPattern ∧ (∀ reason, fault ≠ .configuration reason) ∧
          ∀ structName field, fault ≠ .fieldNotFound structName field := by
  have patterns := (check_eq_ok accepted).2
  have runs : Raises Fault.Foreign (config.run compiler) := by
    apply (raises_assemble patterns).bind
    intro assembled
    obtain ⟨managed, isManaged⟩ := patterns config.patterns.managed (by simp [patternTexts])
    refine Raises.ofExcept_bind isManaged ?_
    apply ((raises_promote _ _ _).mono fun _ => Refused.foreign).bind
    intro removed
    exact .pure _
  constructor
  · exact patterns
  · constructor
    · exact Wrapper.enrich_isOk
    · intro volume fault final fails
      have foreign := runs volume fault final fails
      exact ⟨foreign.pattern, foreign.configuration, foreign.field⟩

theorem run_foreign_lacking : ∃ fault final, lacking.run .standard settled = .error fault final ∧
    fault ≠ .invalidPattern ∧ ∀ reason, fault ≠ .configuration reason := by
  have accepted : lacking.check .standard (workSteps settled) = .ok () :=
    check_of_isOk (by decide +kernel)
  obtain ⟨fault, final, ran⟩ : ∃ fault final, lacking.run .standard settled = .error fault final :=
    Disk.exists_error (by decide +kernel)
  have foreign := (run_foreign accepted).2.2 settled fault final ran
  exact ⟨fault, final, ran, foreign.1, foreign.2.1⟩

end Config

end GoMend
