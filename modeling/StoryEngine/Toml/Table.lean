/-!
# Tables of a document

What a TOML document defines, and in what order its parts may be defined.

* `Item` — an integer, any other value, a table, or a series of tables of which only the last one
  can still grow.
* `Table.within` — a change to the table at the end of a path, making the tables on the way.
* `Table.define` — a key and its value; a key is defined once.
* `Table.openTable`, `Table.openSeries` — the headers of a table and of the next table of a series.

A table comes to be in three ways, and may grow later only in some.  A *header* defines it fully, so
no second header and no dotted key may add to it.  The path of a header makes it in passing: a later
header may still define it.  A *dotted key* makes it in passing: only further dotted keys beside the
first one may add to it.  A table written between braces is a value and is closed.
-/

namespace StoryEngine.Toml

/-- How a table came to be. -/
inductive Origin where
  /-- by a header of its own, or as the document -/
  | header
  /-- on the path of a header -/
  | path
  /-- on the path of a dotted key -/
  | dotted
  deriving DecidableEq, Repr

/-- An item of a table.  `closed` is a table between braces. -/
inductive Item where
  | integer (i : Int)
  | other
  | closed
  | table (origin : Origin) (entries : List (String × Item))
  | series (last : List (String × Item))

/-- A table: how it came to be, and its entries. -/
structure Table where
  origin : Origin
  entries : List (String × Item)

namespace Table

/-- A table without entries. -/
def empty (origin : Origin) : Table :=
  ⟨origin, []⟩

/-- The item of a key. -/
def find? (t : Table) (key : String) : Option Item :=
  t.entries.lookup key

/-- A table with an item put under a key, in place of the one there. -/
def put (t : Table) (key : String) (item : Item) : Table :=
  { t with entries := (key, item) :: t.entries.filter (·.1 != key) }

/-- **A change to the table at the end of a path.**  Tables that are missing on the way are made,
with the given origin; a dotted path may not lead through a table that a header defined. -/
def within (origin : Origin) : List String → (Table → Option Table) → Table → Option Table
  | [], change, t => change t
  | key :: path, change, t =>
    match t.find? key with
    | none => do
      let inner ← within origin path change (empty origin)
      return t.put key (.table inner.origin inner.entries)
    | some (.table made entries) =>
      if origin = .dotted ∧ made = .header then none
      else do
        let inner ← within origin path change ⟨made, entries⟩
        return t.put key (.table inner.origin inner.entries)
    | some (.series last) => do
      let inner ← within origin path change ⟨.header, last⟩
      return t.put key (.series inner.entries)
    | some _ => none

/-- **Defining a dotted key.**  The table that the path leads to must have been made by dotted keys,
and the table itself, if there is no path, must not. -/
def define (path : List String) (key : String) (item : Item) : Table → Option Table :=
  within .dotted path fun t =>
    if (t.origin == .dotted) == path.isEmpty || (t.find? key).isSome then none
    else some (t.put key item)

/-- **The header of a table.**  It may define a table that a path made in passing. -/
def openTable (path : List String) (key : String) : Table → Option Table :=
  within .path path fun t =>
    match t.find? key with
    | none => some (t.put key (.table .header []))
    | some (.table .path entries) => some (t.put key (.table .header entries))
    | some _ => none

/-- **The header of the next table of a series.** -/
def openSeries (path : List String) (key : String) : Table → Option Table :=
  within .path path fun t =>
    match t.find? key with
    | none | some (.series _) => some (t.put key (.series []))
    | some _ => none

end Table

end StoryEngine.Toml
