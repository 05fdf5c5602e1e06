import GoMend.Config.Basic
import GoMend.Toml.Reading

/-!
# Reading configurations

A configuration is a document with five sections.  Whatever it leaves out has its
standard value, keys that mean nothing are passed over, and a value of the wrong
type makes the whole document unusable.
-/

namespace GoMend.Config

open Toml (Entries)

/-- The entries of a section.  A section is a table, or an array that lists its
values in the order of its keys.  A date or time counts as a table without any of
the keys. -/
def entriesOf? (keys : List String) : Toml → Option Entries
  | .table _ entries => some entries
  | .array _ elements => some (keys.zip elements)
  | .moment => some []
  | _ => none

/-- The entries of a section of the document; without the section there are none. -/
def entriesUnder? (document : Entries) (name : String) (keys : List String) :
    Option Entries :=
  match Toml.get? name document with
  | some value => entriesOf? keys value
  | none => some []

/-- A value of a section: the standard one unless it is given. -/
def value? {α : Type} (read? : Toml → Option α) (entries : Entries) (key : String)
    (standard : α) : Option α :=
  match Toml.get? key entries with
  | some value => read? value
  | none => some standard

/-- A text. -/
def text? : Toml → Option String
  | .string value => some value
  | _ => none

/-- A list of texts. -/
def texts? : Toml → Option (List String)
  | .array _ elements => elements.mapM text?
  | _ => none

/-- A path. -/
def path? (value : Toml) : Option Path :=
  (text? value).map Path.mk

/-- A count. -/
def count? : Toml → Option Nat
  | .integer (.ofNat value) => some value
  | _ => none

/-- The section of directories. -/
def directories? (document : Entries) : Option Directories := do
  let standard := Config.standard.directories
  let entries ←
    entriesUnder? document "paths" ["upstream_dir", "build_dir", "project_dir"]
  return {
    sourceDir := ← value? path? entries "upstream_dir" standard.sourceDir
    buildDir := ← value? path? entries "build_dir" standard.buildDir
    projectDir := ← value? path? entries "project_dir" standard.projectDir }

/-- The section of the package. -/
def package? (document : Entries) : Option PackageSettings := do
  let standard := Config.standard.package
  let entries ←
    entriesUnder? document "package"
      ["name", "export_patterns", "dependencies", "mapping_file"]
  return {
    name := ← value? text? entries "name" standard.name
    exports := ← value? texts? entries "export_patterns" standard.exports
    dependencies := ← value? texts? entries "dependencies" standard.dependencies
    tableFile := ← value? text? entries "mapping_file" standard.tableFile }

/-- The section of patterns. -/
def patterns? (document : Entries) : Option PatternSettings := do
  let standard := Config.standard.patterns
  let entries ←
    entriesUnder? document "patterns"
      ["structure", "function", "staging_prefix", "published_prefix", "managed_files"]
  return {
    structures := ← value? text? entries "structure" standard.structures
    functions := ← value? text? entries "function" standard.functions
    staging := ← value? text? entries "staging_prefix" standard.staging
    published := ← value? text? entries "published_prefix" standard.published
    managed := ← value? text? entries "managed_files" standard.managed }

/-- The section of the origin. -/
def origin? (document : Entries) : Option Origin := do
  let standard := Config.standard.origin
  let entries ← entriesUnder? document "origin" ["name", "path"]
  return {
    name := ← value? text? entries "name" standard.name
    path := ← value? text? entries "path" standard.path }

/-- The section of repair. -/
def maxRounds? (document : Entries) : Option Nat := do
  let entries ← entriesUnder? document "repair" ["max_iterations"]
  value? count? entries "max_iterations" Config.standard.maxRounds

/-- The configuration that a document holds. -/
def ofDocument? (document : Entries) : Option Config := do
  return {
    directories := ← directories? document
    package := ← package? document
    patterns := ← patterns? document
    origin := ← origin? document
    maxRounds := ← maxRounds? document }

/-- Read a configuration. -/
def parse (text : String) : Except Fault Config :=
  match (Toml.parse? text).bind ofDocument? with
  | some config => .ok config
  | none => .error (.configuration .malformed)

end GoMend.Config
