/-
**The tables of a TOML document.**

A document is a tree of tables. A table remembers how it came about, since a table may be defined
once: by a header, by a dotted key, in line, or so far only as the parent of another header.

* `Table.addHeader?`, `Table.addElement?` — a table under its header, and a further element of an
  array of tables.
* `Table.addValue?` — a value under a dotted key.
* `Node.toSetting` — the settings that a document holds.
-/

import RecordSchema.Config.Setting

namespace RecordSchema.Toml

/-- How a table came about. -/
inductive Origin where
  | header
  /-- It is only named in the header of a table within it. -/
  | parent
  | dotted
  | inline
  deriving DecidableEq, Repr, Inhabited

/-- A value of a document. -/
inductive Node where
  | text (content : String)
  | integer (value : Int)
  | float
  | boolean (value : Bool)
  | dateTime
  | array (elements : List Node)
  | table (origin : Origin) (members : List (String × Node))
  /-- An array of tables; headers extend the last one. -/
  | tables (earlier : List (List (String × Node))) (last : List (String × Node))
  deriving Repr, Inhabited

/-- The members of a table. -/
abbrev Table := List (String × Node)

namespace Table

/-- The table with a node under a key, in the place of an older one. -/
def set (key : String) (node : Node) : Table → Table
  | [] => [(key, node)]
  | (name, old) :: rest =>
    if name = key then (name, node) :: rest else (name, old) :: set key node rest

/-- Edits the table that a path leads to. Missing tables on the way are made with the origin
`fresh`, tables of an origin that `enter` refuses are closed, and of an array of tables the last one
is meant. -/
def editAt (fresh : Origin) (enter : Origin → Bool) (edit : Origin → Table → Option Table) :
    List String → Origin → Table → Option Table
  | [], origin, table => edit origin table
  | key :: rest, _, table =>
    match Entries.find? key table with
    | none =>
      (editAt fresh enter edit rest fresh []).map fun made => set key (.table fresh made) table
    | some (.table origin inner) =>
      if enter origin then
        (editAt fresh enter edit rest origin inner).map fun changed =>
          set key (.table origin changed) table
      else none
    | some (.tables earlier last) =>
      (editAt fresh enter edit rest .header last).map fun changed =>
        set key (.tables earlier changed) table
    | some _ => none

/-- Whether a header may name a table within one of this origin. -/
def openToHeaders : Origin → Bool
  | .inline => false
  | _ => true

/-- Whether a dotted key may go through a table of this origin. -/
def openToKeys : Origin → Bool
  | .parent => true
  | .dotted => true
  | _ => false

/-- Defines a table by its header. A table that is so far only a parent becomes defined. -/
def define? (key : String) (table : Table) : Option Table :=
  match Entries.find? key table with
  | none => some (set key (.table .header []) table)
  | some (.table .parent members) => some (set key (.table .header members) table)
  | some _ => none

/-- Adds an element to an array of tables. -/
def extend? (key : String) (table : Table) : Option Table :=
  match Entries.find? key table with
  | none => some (set key (.tables [] []) table)
  | some (.tables earlier last) => some (set key (.tables (earlier ++ [last]) []) table)
  | some _ => none

/-- Changes the table around the last part of a header's path. -/
def atHeader? (change : String → Table → Option Table) (path : List String) (root : Table) :
    Option Table :=
  match path.getLast? with
  | none => none
  | some key =>
    editAt .parent openToHeaders (fun _ table => change key table) path.dropLast .header root

/-- Defines the table of a header. -/
def addHeader? (path : List String) (root : Table) : Option Table :=
  atHeader? define? path root

/-- Adds the element of an array of tables that a header starts. -/
def addElement? (path : List String) (root : Table) : Option Table :=
  atHeader? extend? path root

/-- Adds a value under a dotted key. The table of the last part must be the starting table or one
that dotted keys made, and must not have the key yet. -/
def addValue? (path : List String) (value : Node) (table : Table) : Option Table :=
  match path.getLast? with
  | none => none
  | some key =>
    let place (origin : Origin) (members : Table) : Option Table :=
      if path.length = 1 ∨ origin = .dotted then
        match Entries.find? key members with
        | none => some (set key value members)
        | some _ => none
      else none
    editAt .dotted openToKeys place path.dropLast .header table

/-- Adds a value under a dotted key to the table of a header. -/
def addValueAt? (header path : List String) (value : Node) (root : Table) : Option Table :=
  editAt .parent openToHeaders (fun _ table => addValue? path value table) header .header root

end Table

namespace Node

mutual

/-- The settings of a node. A negative integer, a float and a boolean are no settings; a point in
time is a table without declared members. -/
def toSetting : Node → Setting
  | .text content => .text content
  | .integer value => if 0 ≤ value then .count value.toNat else .other
  | .float => .other
  | .boolean _ => .other
  | .dateTime => .table []
  | .array elements => .list (elementSettings elements)
  | .table _ members => .table (memberSettings members)
  | .tables earlier last => .list (tableSettings earlier ++ [.table (memberSettings last)])

def elementSettings : List Node → List Setting
  | [] => []
  | element :: rest => toSetting element :: elementSettings rest

def memberSettings : List (String × Node) → List (String × Setting)
  | [] => []
  | (key, node) :: rest => (key, toSetting node) :: memberSettings rest

def tableSettings : List (List (String × Node)) → List Setting
  | [] => []
  | members :: rest => .table (memberSettings members) :: tableSettings rest

end

end Node

end RecordSchema.Toml
