import WildcardRules.Toml.Value

/-!
Tables while they are defined. A table remembers how it came to be, because that decides what may
still be added to it: a header completes a table once, dotted keys extend only what dotted keys
made, and a value, be it an array or an inline table, is closed.
-/

set_option autoImplicit false

namespace WildcardRules.Toml

inductive Origin where
  | implicit
  | dotted
  | explicit
deriving DecidableEq

inductive Node where
  | value (value : Value)
  | table (origin : Origin) (entries : List (Text × Node))
  | elements (tables : List (List (Text × Node)))

abbrev Entries := List (Text × Node)

structure KeyPath where
  leading : List Text
  last : Text
deriving DecidableEq

structure Assignment where
  key : KeyPath
  value : Value

namespace Entries

def find? (key : Text) : Entries → Option Node
  | [] => none
  | (k, node) :: entries => if k = key then some node else find? key entries

def put (key : Text) (node : Node) : Entries → Entries
  | [] => [(key, node)]
  | (k, old) :: entries =>
      if k = key then (k, node) :: entries else (k, old) :: put key node entries

-- Changes the table that some keys lead to. Missing tables on the way are made with the origin
-- `made`; dotted keys pass through no table that has a header.
def change (made : Origin) (f : Origin → Entries → Option Entries) :
    List Text → Origin → Entries → Option Entries
  | [], origin, entries => f origin entries
  | key :: path, _, entries =>
      match find? key entries with
      | none => do
          let inner ← change made f path made []
          return put key (.table made inner) entries
      | some (.table origin inner) => do
          guard (made ≠ .dotted ∨ origin ≠ .explicit)
          let inner ← change made f path origin inner
          return put key (.table origin inner) entries
      | some (.elements (latest :: earlier)) => do
          let latest ← change made f path .explicit latest
          return put key (.elements (latest :: earlier)) entries
      | some _ => none

def assign (entries : Entries) (assignment : Assignment) : Option Entries :=
  let path := assignment.key.leading
  let key := assignment.key.last
  change .dotted (fun origin entries => do
    guard ((origin = .dotted) = (path ≠ []))
    match find? key entries with
    | none => return put key (.value assignment.value) entries
    | some _ => none) path .explicit entries

def assignAll (entries : Entries) (assignments : List Assignment) : Option Entries :=
  assignments.foldlM assign entries

-- Adds a table with a header. The header may complete a table that other headers led through.
def addTable (entries : Entries) (name : KeyPath) (assignments : List Assignment) :
    Option Entries :=
  change .implicit (fun _ entries =>
    match find? name.last entries with
    | none => do
        let table ← assignAll [] assignments
        return put name.last (.table .explicit table) entries
    | some (.table .implicit begun) => do
        let table ← assignAll begun assignments
        return put name.last (.table .explicit table) entries
    | some _ => none) name.leading .explicit entries

def addElement (entries : Entries) (name : KeyPath) (assignments : List Assignment) :
    Option Entries :=
  change .implicit (fun _ entries => do
    let table ← assignAll [] assignments
    match find? name.last entries with
    | none => return put name.last (.elements [table]) entries
    | some (.elements tables) => return put name.last (.elements (table :: tables)) entries
    | some _ => none) name.leading .explicit entries

end Entries

mutual

def Node.toValue : Node → Value
  | .value value => value
  | .table _ entries => .table (entriesToValues entries)
  | .elements tables => .array (elementsToValues tables).reverse

def entriesToValues : List (Text × Node) → List (Text × Value)
  | [] => []
  | (key, node) :: entries => (key, node.toValue) :: entriesToValues entries

def elementsToValues : List (List (Text × Node)) → List Value
  | [] => []
  | entries :: tables => .table (entriesToValues entries) :: elementsToValues tables

end

end WildcardRules.Toml
