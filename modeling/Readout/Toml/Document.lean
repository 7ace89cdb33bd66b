import Readout.Settings.Value

/-!
# Building a TOML document

A TOML document is built statement by statement: a header opens a table or a new
element of an array of tables, and a key with a value, perhaps dotted, adds an
entry to the table that is open.  A table remembers how it came about, because
a table may be opened by a header only once, and tables made by headers and by
dotted keys do not mix.
-/

namespace Readout.Toml

open Settings (Value find? put)

/-- How a table came about. -/
inductive Origin where
  /-- Opened by its own header. -/
  | header
  /-- Named on the way to a table that was opened. -/
  | passed
  /-- Named on the way to an entry by a dotted key. -/
  | dotted
deriving DecidableEq

/-- A part of a document under construction. -/
inductive Node where
  | value (value : Value)
  | table (origin : Origin) (entries : List (String × Node))
  /-- An array of tables, of which the last one is open. -/
  | tables (elements : List (List (String × Node)))

abbrev Nodes := List (String × Node)

def changeLast (change : α → Option α) : List α → Option (List α)
  | [] => none
  | [last] => (change last).map ([·])
  | item :: items => (changeLast change items).map (item :: ·)

namespace Nodes

/-- Opens the table at the end of a path.  It must be new or have been passed
only, in which case it keeps its entries. -/
def openTable : List String → Nodes → Option Nodes
  | [], _ => none
  | [key], nodes =>
      match find? key nodes with
      | none => some (put key (.table .header []) nodes)
      | some (.table .passed entries) => some (put key (.table .header entries) nodes)
      | some _ => none
  | key :: path, nodes =>
      match find? key nodes with
      | none => (openTable path []).map fun entries => put key (.table .passed entries) nodes
      | some (.table origin entries) =>
          (openTable path entries).map fun entries => put key (.table origin entries) nodes
      | some (.tables elements) =>
          (changeLast (openTable path) elements).map fun elements =>
            put key (.tables elements) nodes
      | some (.value _) => none

/-- Opens a new last element of the array of tables at the end of a path. -/
def openElement : List String → Nodes → Option Nodes
  | [], _ => none
  | [key], nodes =>
      match find? key nodes with
      | none => some (put key (.tables [[]]) nodes)
      | some (.tables elements) => some (put key (.tables (elements ++ [[]])) nodes)
      | some _ => none
  | key :: path, nodes =>
      match find? key nodes with
      | none => (openElement path []).map fun entries => put key (.table .passed entries) nodes
      | some (.table origin entries) =>
          (openElement path entries).map fun entries => put key (.table origin entries) nodes
      | some (.tables elements) =>
          (changeLast (openElement path) elements).map fun elements =>
            put key (.tables elements) nodes
      | some (.value _) => none

/-- Adds an entry under a dotted key.  The tables on the way must not have been
opened by headers, the last of them must have been made by a dotted key, and the
entry must be new. -/
def insert (value : Value) : List String → Nodes → Option Nodes
  | [], _ => none
  | [key], nodes =>
      match find? key nodes with
      | none => some (put key (.value value) nodes)
      | some _ => none
  | key :: path, nodes =>
      match find? key nodes with
      | none => (insert value path []).map fun entries => put key (.table .dotted entries) nodes
      | some (.table origin entries) =>
          if origin = .dotted ∨ (origin = .passed ∧ path.length ≠ 1) then
            (insert value path entries).map fun entries => put key (.table origin entries) nodes
          else none
      | some (.tables elements) =>
          if path.length ≠ 1 then
            (changeLast (insert value path) elements).map fun elements =>
              put key (.tables elements) nodes
          else none
      | some (.value _) => none

/-- Adds an entry below the table at the end of a path, which is open. -/
def insertBelow (value : Value) (keys : List String) : List String → Nodes → Option Nodes
  | [], nodes => insert value keys nodes
  | key :: path, nodes =>
      match find? key nodes with
      | some (.table origin entries) =>
          (insertBelow value keys path entries).map fun entries =>
            put key (.table origin entries) nodes
      | some (.tables elements) =>
          (changeLast (insertBelow value keys path) elements).map fun elements =>
            put key (.tables elements) nodes
      | _ => none

end Nodes

mutual

def Node.toValue : Node → Value
  | .value value => value
  | .table _ entries => .table (Nodes.toTable entries)
  | .tables elements => .list (Nodes.toValues elements)

def Nodes.toTable : List (String × Node) → Settings.Table
  | [] => []
  | (key, node) :: nodes => (key, node.toValue) :: Nodes.toTable nodes

def Nodes.toValues : List (List (String × Node)) → List Value
  | [] => []
  | nodes :: elements => .table (Nodes.toTable nodes) :: Nodes.toValues elements

end

inductive Statement where
  | tableHeader (path : List String)
  | elementHeader (path : List String)
  | entry (keys : List String) (value : Value)

structure Document where
  nodes : Nodes
  current : List String

namespace Document

def empty : Document :=
  { nodes := [], current := [] }

def add (document : Document) : Statement → Option Document
  | .tableHeader path =>
      (Nodes.openTable path document.nodes).map fun nodes => { nodes, current := path }
  | .elementHeader path =>
      (Nodes.openElement path document.nodes).map fun nodes => { nodes, current := path }
  | .entry keys value =>
      (Nodes.insertBelow value keys document.current document.nodes).map fun nodes =>
        { document with nodes }

def ofStatements (statements : List Statement) : Option Settings.Table :=
  (statements.foldlM add empty).map fun document => Nodes.toTable document.nodes

def inlineTable (entries : List (List String × Value)) : Option Value :=
  (entries.foldlM (fun nodes (keys, value) => Nodes.insert value keys nodes) []).map
    fun nodes => .table (Nodes.toTable nodes)

end Document

end Readout.Toml
