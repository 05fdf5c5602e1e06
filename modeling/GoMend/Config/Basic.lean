import GoMend.Text.Blank
import GoMend.Wrap.Pipeline
import GoMend.Wrap.Table

/-!
# Configurations

What a run needs to know: the directories it works on, the package it makes, the
patterns for names, the package that undefined names come from, and how many rounds
of repair there may be.  A run is refused if it is bound to fail or to destroy what it
works on: the build directory is cleared first, so neither of the other two may lie in
it.
-/

namespace GoMend

/-- The directories of a run. -/
structure Directories where
  /-- Where the files are extracted from. -/
  sourceDir : Path
  /-- Where the package is put together. -/
  buildDir : Path
  /-- Where the finished package goes. -/
  projectDir : Path
  deriving DecidableEq, Repr

/-- The generated package. -/
structure PackageSettings where
  name : String
  /-- Patterns for the names of the files to extract. -/
  exports : List String
  /-- Files of the project that the package depends on. -/
  dependencies : List String
  /-- The file of the lookup table. -/
  tableFile : String
  deriving DecidableEq, Repr

/-- Patterns for declarations and names of files. -/
structure PatternSettings where
  structures : String
  functions : String
  /-- What the names of extracted files begin with. -/
  staging : String
  /-- What the names of published files begin with instead. -/
  published : String
  /-- The published files that a run may delete. -/
  managed : String
  deriving DecidableEq, Repr

/-- The package that undefined names come from: the name that qualifies them, and the
path under which the package is imported. -/
structure Origin where
  name : String
  path : String
  deriving DecidableEq, Repr

/-- What a run needs to know. -/
structure Config where
  directories : Directories
  package : PackageSettings
  patterns : PatternSettings
  origin : Origin
  /-- How often the package is checked before repair is given up. -/
  maxRounds : Nat
  deriving DecidableEq, Repr

namespace Config

/-- The configuration that holds where nothing else is said. -/
def standard : Config where
  directories :=
    { sourceDir := ⟨"upstream"⟩, buildDir := ⟨"build-tmp"⟩, projectDir := ⟨"."⟩ }
  package :=
    { name := "aggretastic"
      exports := ["^search_aggs_(.*)\\.go$"]
      dependencies := []
      tableFile := "generated-aggregations-mapping.go" }
  patterns :=
    { structures := "(.*)Aggregation$"
      functions := "^New(.*)Aggregation$"
      staging := "search_aggs_"
      published := "aggs_"
      managed := "^aggs_(.*)\\.go$" }
  origin := { name := "elastic", path := "github.com/olivere/elastic" }
  maxRounds := 256

/-- The pipeline that moves files into the package. -/
def pipeline (compiler : PatternCompiler) (config : Config) : Except Fault Pipeline :=
  Pipeline.ofTexts compiler config.package.name config.patterns.structures
    config.patterns.functions config.patterns.staging config.patterns.published

/-- The lookup table of the package. -/
def table (config : Config) : Table where
  package := config.package.name
  fileName := config.package.tableFile

/-- The absolute steps of a directory, if it has any. -/
def resolved (workDir : List PathComponent) (dir : Path) :
    Except Fault (List PathComponent) :=
  match dir.normalized? workDir with
  | some steps => .ok steps
  | none => .error (.configuration (.unresolvable dir))

/-- Refuse a directory that is, or lies in, the build directory. -/
def checkOutside (workDir : List PathComponent) (buildDir : Path)
    (build : List PathComponent) (key : String) (dir : Path) : Except Fault Unit := do
  let steps ← resolved workDir dir
  if build.isPrefixOf steps then
    throw (.configuration (.buildContains buildDir key dir))
  else return

/-- Refuse a build directory that holds another directory of the run. -/
def checkDirectories (workDir : List PathComponent) (directories : Directories) :
    Except Fault Unit := do
  let build ← resolved workDir directories.buildDir
  checkOutside workDir directories.buildDir build "project_dir" directories.projectDir
  checkOutside workDir directories.buildDir build "upstream_dir" directories.sourceDir

/-- The patterns that a run reads. -/
def patternTexts (config : Config) : List String :=
  config.package.exports ++
    [config.patterns.structures, config.patterns.functions, config.patterns.managed]

/-- Refuse a configuration that no run can succeed with. -/
def check (compiler : PatternCompiler) (workDir : List PathComponent) (config : Config) :
    Except Fault Unit := do
  if config.package.dependencies.all fun name => (Text.trim name).isEmpty then
    throw (.configuration .noDependencies)
  if config.package.exports.isEmpty then
    throw (.configuration .noExportPatterns)
  checkDirectories workDir config.directories
  if config.maxRounds = 0 then
    throw (.configuration .noIterations)
  config.patternTexts.forM fun text => do
    let _ ← compiler.compile text

end Config

end GoMend
