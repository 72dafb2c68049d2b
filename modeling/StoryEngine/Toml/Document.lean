import StoryEngine.Toml.Scalar

/-!
# Documents

Reading a whole TOML document: lines with a key and its value, headers, comments.

* `value` — a scalar, an array or a table between braces; collections nest less than eighty deep.
* `Document` — what has been defined so far, and under which header.
* `read?` — the table that a text defines, if the text is a document.
-/

namespace StoryEngine.Toml

open Reader (exactly attempt one)

/-- **A value.**  `depth` bounds how deep collections may nest and `fuel` how many parts are read;
the length of the text is always enough of it. -/
def value : (fuel depth : Nat) → Reader Item
  | 0, _ => failure
  | fuel + 1, depth => do
    match (← get).head?, depth with
    | some '[', depth + 1 => do
      exactly "["
      elements fuel depth
      return .other
    | some '\x7b', depth + 1 => do
      exactly "\x7b"
      spaces
      if (← (exactly "\x7d").attempt).isSome then return .closed
      members fuel depth (.empty .header)
      return .closed
    | some '[', 0 => failure
    | some '\x7b', 0 => failure
    | _, _ => scalar
where
  /-- The elements of an array and its closing bracket; the last one may be followed by a comma. -/
  elements : (fuel depth : Nat) → Reader Unit
    | 0, _ => failure
    | fuel + 1, depth => do
      trivia (← get).length
      if (← (exactly "]").attempt).isSome then return ()
      let _ ← value fuel depth
      trivia (← get).length
      if (← (exactly ",").attempt).isSome then elements fuel depth
      else exactly "]"
  /-- The members of a table between braces and its closing brace, all on one line. -/
  members : (fuel depth : Nat) → Table → Reader Unit
    | 0, _, _ => failure
    | fuel + 1, depth, table => do
      spaces
      let (keys, last) ← path
      spaces
      exactly "="
      spaces
      let item ← value fuel depth
      spaces
      let table ← StateT.lift (table.define keys last item)
      if (← (exactly ",").attempt).isSome then members fuel depth table
      else exactly "\x7d"

/-- What a document defines so far, and the path of the header its next keys stand under. -/
structure Document where
  root : Table
  header : List String

/-- A document without anything in it. -/
def Document.empty : Document :=
  ⟨.empty .header, []⟩

/-- The header of a table or of the next table of a series. -/
def headerLine (doc : Document) : Reader Document := do
  exactly "["
  let series := (← (exactly "[").attempt).isSome
  spaces
  let (keys, last) ← path
  spaces
  exactly (if series then "]]" else "]")
  let define := if series then Table.openSeries keys last else Table.openTable keys last
  return ⟨← StateT.lift (define doc.root), keys ++ [last]⟩

/-- A key and its value. -/
def keyLine (doc : Document) : Reader Document := do
  let (keys, last) ← path
  spaces
  exactly "="
  spaces
  let item ← value (4 * (← get).length + 8) 79
  let root ← StateT.lift (doc.root.within .path doc.header (Table.define keys last item))
  return { doc with root }

/-- **The lines of a document.** -/
def lines : (fuel : Nat) → Document → Reader Document
  | 0, _ => failure
  | fuel + 1, doc => do
    spaces
    let doc ← match (← get).head? with
      | some '[' => headerLine doc
      | some '#' | some '\n' | some '\r' | none => pure doc
      | some _ => keyLine doc
    spaces
    comment
    if (← get).isEmpty then return doc
    newline
    lines fuel doc

/-- **The table that a text defines**, if the text is a document.  A byte order mark in front of it
is passed over. -/
def read? (source : String) : Option Table :=
  let cs := source.toList
  let cs := if cs.head? = some (Char.ofNat 0xFEFF) then cs.drop 1 else cs
  ((lines (cs.length + 1) .empty).run cs).map fun (doc, _) => doc.root

end StoryEngine.Toml
