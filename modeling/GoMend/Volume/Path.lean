/-!
# Paths

A path keeps the spelling it was given.  What it denotes depends on its
components only: repeated slashes, a trailing slash and dots behind the first
component do not count.  Paths are ordered by their components, and a name is
replaced or appended in the spelling.
-/

namespace GoMend

/-- A path in its spelling. -/
structure Path where
  text : String
  deriving DecidableEq, Repr

/-- A step of a path. -/
inductive PathComponent where
  | root
  | current
  | parent
  | named (name : String)
  deriving DecidableEq, Repr

namespace PathComponent

/-- The place of the component's kind in the order. -/
def rank : PathComponent → Nat
  | .root => 0
  | .current => 1
  | .parent => 2
  | .named _ => 3

/-- The order of components: by kind, and names by their code points. -/
def compare : PathComponent → PathComponent → Ordering
  | .named left, .named right => Ord.compare left right
  | left, right => Ord.compare left.rank right.rank

/-- The order of component lists, component by component. -/
def compareAll : List PathComponent → List PathComponent → Ordering
  | [], [] => .eq
  | [], _ :: _ => .lt
  | _ :: _, [] => .gt
  | left :: lefts, right :: rights =>
      match left.compare right with
      | .eq => compareAll lefts rights
      | unequal => unequal

/-- The spelling of a component. -/
def text : PathComponent → String
  | .root => "/"
  | .current => "."
  | .parent => ".."
  | .named name => name

end PathComponent

namespace Path

/-- The parts of a text between slashes. -/
def splitSlashes : List Char → List (List Char)
  | [] => [[]]
  | c :: rest =>
      match splitSlashes rest with
      | [] => [[c]]
      | head :: others =>
          if c = '/' then [] :: head :: others else (c :: head) :: others

/-- The parts of the spelling between slashes. -/
def segments (path : Path) : List String :=
  (splitSlashes path.text.toList).map String.ofList

/-- The component that a part stands for behind the first one, if any. -/
def laterComponent? (segment : String) : Option PathComponent :=
  if segment = "" ∨ segment = "." then none
  else if segment = ".." then some .parent
  else some (.named segment)

/-- The component that the first part stands for, if any. -/
def firstComponent? (segment : String) : Option PathComponent :=
  if segment = "." then some .current else laterComponent? segment

/-- The steps of the path. -/
def components (path : Path) : List PathComponent :=
  if path.text = "" then []
  else
    match path.segments with
    | [] => []
    | "" :: rest => .root :: rest.filterMap laterComponent?
    | first :: rest => (firstComponent? first).toList ++ rest.filterMap laterComponent?

/-- Whether two spellings have the same steps. -/
def same (left right : Path) : Bool :=
  left.components == right.components

/-- The order of paths. -/
def compare (left right : Path) : Ordering :=
  PathComponent.compareAll left.components right.components

/-- Whether the path begins at the root. -/
def isAbsolute (path : Path) : Bool :=
  path.text.toList.head? == some '/'

/-- The name that the path ends in; a path that ends in a dot or two has none. -/
def fileName? (path : Path) : Option String :=
  match path.components.getLast? with
  | some (.named name) => some name
  | _ => none

/-- The name that the path ends in, or the empty text. -/
def fileName (path : Path) : String :=
  path.fileName?.getD ""

/-- What stands behind the last dot of a file name.  A dot at the very front begins
no extension. -/
def extension? (path : Path) : Option String :=
  path.fileName?.bind fun name =>
    let behind := name.toList.reverse.takeWhile (· != '.')
    if name.length ≤ behind.length + 1 then none
    else some (String.ofList behind.reverse)

/-- The path with another one behind it; an absolute one stands alone. -/
def join (base : Path) (relative : String) : Path :=
  if Path.isAbsolute ⟨relative⟩ then ⟨relative⟩
  else
    match base.text.toList.getLast? with
    | none => ⟨relative⟩
    | some last =>
        if last = '/' then ⟨base.text ++ relative⟩
        else ⟨base.text ++ "/" ++ relative⟩

/-- The segments, last first, without those behind the last step. -/
def dropIdle : List String → List String
  | [] => []
  | [first] => [first]
  | segment :: rest =>
      if segment = "" ∨ segment = "." then dropIdle rest else segment :: rest

/-- The spelling without its last step and what stands behind that, or nothing if
there is no step to take away. -/
def parent? (path : Path) : Option Path :=
  match path.components.getLast? with
  | none | some .root => none
  | some _ =>
      match dropIdle path.segments.reverse with
      | [] => none
      | _ :: before =>
          match dropIdle before with
          | [] => some ⟨""⟩
          | [""] => some ⟨"/"⟩
          | remaining => some ⟨String.intercalate "/" remaining.reverse⟩

/-- The path with another name in place of the one it ends in; behind a path that
ends in no name it is appended. -/
def withFileName (path : Path) (name : String) : Path :=
  match path.fileName?, path.parent? with
  | some _, some parent => parent.join name
  | _, _ => path.join name

/-- The path and the paths above it, from the inside out. -/
def ancestors (path : Path) : List Path :=
  let rec climb : Nat → Path → List Path
    | 0, path => [path]
    | steps + 1, path =>
        match path.parent? with
        | some parent => path :: climb steps parent
        | none => [path]
  climb path.components.length path

/-- The absolute steps of a path with single dots dropped and double dots folded
against the step before them, without looking at any directory.  The working
directory is given by its steps; an empty path has no absolute form. -/
def normalized? (workDir : List PathComponent) (path : Path) :
    Option (List PathComponent) :=
  if path.text = "" then none
  else
    let absolute :=
      if path.isAbsolute then path.components else workDir ++ path.components
    some <| absolute.foldl
      (fun folded component =>
        match component with
        | .current => folded
        | .parent => if folded.length ≤ 1 then folded else folded.dropLast
        | component => folded ++ [component])
      []

end Path

end GoMend
