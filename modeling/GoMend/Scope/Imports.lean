import GoMend.Syntax.Tree

/-!
# Names of imports

The name under which a file refers to an imported package, and the set of such
names.
-/

namespace GoMend

namespace ImportPath

/-- A major version such as `v2`. -/
def isMajorVersion : List Char → Bool
  | 'v' :: digits => !digits.isEmpty && digits.all fun c => '0' ≤ c && c ≤ '9'
  | _ => false

/-- The parts of a text between the occurrences of a separator. -/
def splitAtChar (separator : Char) : List Char → List (List Char)
  | [] => [[]]
  | c :: rest =>
      match splitAtChar separator rest with
      | [] => [[c]]
      | head :: others =>
          if c = separator then [] :: head :: others else (c :: head) :: others

/-- The last element of a path, or the one before it if the last is a version. -/
def lastElement (path : List Char) : List Char :=
  match (splitAtChar '/' path).reverse with
  | last :: previous :: _ => if isMajorVersion last then previous else last
  | [last] => last
  | [] => []

/-- The element without a version behind its last dot. -/
def withoutVersion (element : List Char) : List Char :=
  let behind := (element.reverse.takeWhile (· != '.')).reverse
  if element.contains '.' && isMajorVersion behind then
    element.take (element.length - behind.length - 1)
  else element

/-- The element without the mark of a library for the language. -/
def withoutMark : List Char → List Char
  | 'g' :: 'o' :: '-' :: rest => rest
  | element => element

/-- The name of a package that is imported without an alias: its last element
without version and mark, where dashes and dots become underscores. -/
def packageName (path : String) : String :=
  String.ofList <|
    (withoutMark (withoutVersion (lastElement path.toList))).map fun c =>
      if c = '-' ∨ c = '.' then '_' else c

end ImportPath

/-- The names that the imports of a file declare.  With a dot import any name may
come from elsewhere. -/
structure FileScope where
  names : List String
  hasDotImport : Bool

namespace FileScope

/-- The name that an import declares; a blank or dot import declares none. -/
def declared? (spec : ImportSpec) : Option String :=
  match spec.name with
  | none => some (ImportPath.packageName spec.pathValue)
  | some given => if given.name = "." ∨ given.name = "_" then none else some given.name

/-- The scope of a file. -/
def ofFile (file : File) : FileScope where
  names := file.imports.filterMap declared?
  hasDotImport := file.imports.any fun spec =>
    match spec.name with
    | some given => given.name == "."
    | none => false

/-- Whether an import declares the name. -/
def contains (scope : FileScope) (name : String) : Bool :=
  scope.names.contains name

end FileScope

end GoMend
