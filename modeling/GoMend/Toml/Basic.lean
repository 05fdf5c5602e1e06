/-!
# TOML documents

The values of the notation, and the tables that a document builds up line by line.
A table remembers how it came about, for that decides who may still extend it: a
table that a header names is closed to dotted keys, a table that dotted keys built
is closed to headers, and an inline table is closed to both.
-/

namespace GoMend

/-- How a table came about. -/
inductive TableOrigin where
  /-- Written in braces. -/
  | inline
  /-- Named by a header of its own, or the root. -/
  | header
  /-- On the way to a table that a header names. -/
  | implied
  /-- On the way of a dotted key. -/
  | dotted
  deriving DecidableEq, Repr

/-- A value.  Of floating-point numbers and of dates and times only their kind is
kept. -/
inductive Toml where
  | string (value : String)
  | integer (value : Int)
  | boolean (value : Bool)
  | float
  | moment
  /-- An array; it may be extended by headers if headers built it. -/
  | array (ofTables : Bool) (elements : List Toml)
  | table (origin : TableOrigin) (entries : List (String × Toml))

namespace Toml

/-- The entries of a table. -/
abbrev Entries := List (String × Toml)

/-- The value under a key. -/
def get? (key : String) (entries : Entries) : Option Toml :=
  (entries.find? (·.1 == key)).map (·.2)

/-- Put a value in the place of the one under the key. -/
def replace (key : String) (value : Toml) (entries : Entries) : Entries :=
  entries.map fun entry => if entry.1 == key then (key, value) else entry

/-- Change the table at the end of a path.  Tables that are missing on the way come
about as told, and an array of tables is entered at its last one.  The change is
told how the table came about. -/
def updateAt (missing : TableOrigin)
    (change : TableOrigin → Entries → Option Entries) :
    List String → TableOrigin → Entries → Option Entries
  | [], origin, entries => change origin entries
  | key :: path, _, entries =>
      match get? key entries with
      | none => do
          let inner ← updateAt missing change path missing []
          return entries ++ [(key, .table missing inner)]
      | some (.table .inline _) => none
      | some (.table origin inner) =>
          if missing = .dotted ∧ origin = .header then none
          else do
            let inner ← updateAt missing change path origin inner
            return replace key (.table origin inner) entries
      | some (.array true elements) =>
          match elements.getLast? with
          | some (.table origin inner) => do
              let inner ← updateAt missing change path origin inner
              return replace key (.array true (elements.dropLast ++ [.table origin inner]))
                entries
          | _ => none
      | some _ => none

/-- Add a value under a key that is not taken.  A dotted key must not reach into a
table that came about otherwise. -/
def addEntry (isDotted : Bool) (key : String) (value : Toml) (origin : TableOrigin)
    (entries : Entries) : Option Entries :=
  if (origin = .dotted) ≠ (isDotted = true) then none
  else if (get? key entries).isSome then none
  else some (entries ++ [(key, value)])

/-- Add a value under a dotted key to the table that a header opened. -/
def addValue (path : List String) (key : String) (value : Toml) (origin : TableOrigin)
    (entries : Entries) : Option Entries :=
  updateAt .dotted (addEntry (!path.isEmpty) key value) path origin entries

/-- Open a table by its header. -/
def openTable (key : String) (_ : TableOrigin) (entries : Entries) : Option Entries :=
  match get? key entries with
  | none => some (entries ++ [(key, .table .header [])])
  | some (.table .implied inner) => some (replace key (.table .header inner) entries)
  | some _ => none

/-- Open a further table of an array by its header. -/
def openElement (key : String) (_ : TableOrigin) (entries : Entries) : Option Entries :=
  match get? key entries with
  | none => some (entries ++ [(key, .array true [.table .header []])])
  | some (.array true elements) =>
      some (replace key (.array true (elements ++ [.table .header []])) entries)
  | some _ => none

end Toml

end GoMend
