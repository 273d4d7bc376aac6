import ScopeTracker.Toml.Value

/-!
# Building TOML tables

While a document is read, a table remembers how it came about, since that decides what may still
be added to it: a table with a header of its own is not defined again and not added to by dotted
keys; one that only stands on the way to another may still get its header; one that dotted keys
made takes more dotted keys, but no header.
-/

namespace ScopeTracker

namespace Toml

/-- How a table came about. -/
inductive Origin where
  /-- By a header, or as an element of an array of tables. -/
  | header
  /-- On the way to the table of a header. -/
  | path
  /-- On the way of a dotted key. -/
  | dotted
deriving DecidableEq, Repr

/-- What a key of an unfinished table stands for. -/
inductive Item where
  | value (value : Toml)
  | table (origin : Origin) (entries : List (String × Item))
  /-- An array of tables, the latest one first. -/
  | tables (elements : List (List (String × Item)))

/-- The entries of an unfinished table. -/
abbrev Entries := List (String × Item)

/-- Puts an item in the place of the one that a key stands for, or behind the others. -/
def Entries.put (key : String) (item : Item) : Entries → Entries
  | [] => [(key, item)]
  | (other, old) :: rest =>
    if other = key then (key, item) :: rest else (other, old) :: Entries.put key item rest

/-- A change of a table, given how it came about. -/
abbrev TableChange := Origin → Entries → Option (Origin × Entries)

/-- Changes the table that a path leads to. Tables that are missing are made, with the origin
given; an array of tables leads into its latest one. Dotted keys do not lead into a table with a
header. -/
def descend (made : Origin) (change : TableChange) : List String → TableChange
  | [], origin, entries => change origin entries
  | key :: path, origin, entries =>
    match entries.lookup key with
    | none => do
      let (inner, added) ← descend made change path made []
      return (origin, entries.put key (.table inner added))
    | some (.value _) => none
    | some (.tables []) => none
    | some (.tables (latest :: others)) => do
      let (_, changed) ← descend made change path .header latest
      return (origin, entries.put key (.tables (changed :: others)))
    | some (.table inner old) =>
      if made = .dotted && inner = .header then none
      else do
        let (inner, changed) ← descend made change path inner old
        return (origin, entries.put key (.table inner changed))

/-- Adds a value under a dotted key. Its table must be made by dotted keys if the key has a dot. -/
def addValue (path : List String) (value : Toml) : TableChange :=
  let key := path.getLast?.getD ""
  let outer := path.dropLast
  descend .dotted (fun origin entries =>
    if (origin == .dotted) == outer.isEmpty then none
    else if (entries.lookup key).isSome then none
    else some (origin, entries.put key (.value value))) outer

/-- Makes the table of a header, or gives a table on the way to another its header. -/
def addHeader (path : List String) : TableChange :=
  let key := path.getLast?.getD ""
  descend .path (fun origin entries =>
    match entries.lookup key with
    | none => some (origin, entries.put key (.table .header []))
    | some (.table .path old) => some (origin, entries.put key (.table .header old))
    | some _ => none) path.dropLast

/-- Makes a new element of an array of tables. -/
def addElement (path : List String) : TableChange :=
  let key := path.getLast?.getD ""
  descend .path (fun origin entries =>
    match entries.lookup key with
    | none => some (origin, entries.put key (.tables [[]]))
    | some (.tables elements) => some (origin, entries.put key (.tables ([] :: elements)))
    | some _ => none) path.dropLast

mutual

/-- The value that an item has come to. -/
def Item.toToml : Item → Toml
  | .value v => v
  | .table _ entries => .table (finishEntries entries)
  | .tables elements => .array (finishTables elements).reverse

/-- The finished entries of a table. -/
def finishEntries : List (String × Item) → List (String × Toml)
  | [] => []
  | (key, item) :: rest => (key, item.toToml) :: finishEntries rest

/-- The finished elements of an array of tables. -/
def finishTables : List (List (String × Item)) → List Toml
  | [] => []
  | entries :: rest => .table (finishEntries entries) :: finishTables rest

end

end Toml

end ScopeTracker
