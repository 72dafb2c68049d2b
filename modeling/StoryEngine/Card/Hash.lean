/-!
# Hashes of cards

A card's hash is its identity: it stays the same for the card's whole life, and a card that
replaces another in a deck is found by having the same one.

* `Uuid` — a hash given by the author, a number of a hundred and twenty-eight bits.
* `Uuid.read?` — its four spellings: thirty-two hexadecimal digits in a row, or in groups joined by
  hyphens, the groups also in braces or after `urn:uuid:`.
* `Uuid.text` — its one written form, in groups and lower case.
* `CardHash` — a given hash, or a fresh one that equals no other.
-/

namespace StoryEngine

/-- A number of a hundred and twenty-eight bits. -/
structure Uuid where
  value : Nat
  deriving DecidableEq, Repr

namespace Uuid

/-- The value of a hexadecimal digit of either case. -/
def hexValue? (c : Char) : Option Nat :=
  if '0' ≤ c ∧ c ≤ '9' then some (c.toNat - '0'.toNat)
  else if 'a' ≤ c ∧ c ≤ 'f' then some (c.toNat - 'a'.toNat + 10)
  else if 'A' ≤ c ∧ c ≤ 'F' then some (c.toNat - 'A'.toNat + 10)
  else none

/-- The number that thirty-two hexadecimal digits spell. -/
def ofDigits? (cs : List Char) : Option Uuid :=
  if cs.length = 32 then
    (cs.mapM hexValue?).map fun ds => ⟨ds.foldl (fun n d => 16 * n + d) 0⟩
  else none

/-- The lengths of the groups. -/
def groups : List Nat := [8, 4, 4, 4, 12]

/-- Characters cut into groups joined by hyphens. -/
def join : List Nat → List Char → List Char
  | [], _ => []
  | [n], cs => cs.take n
  | n :: ns, cs => cs.take n ++ '-' :: join ns (cs.drop n)

/-- The characters of groups of the given lengths joined by hyphens. -/
def split? : List Nat → List Char → Option (List Char)
  | [], cs => if cs.isEmpty then some [] else none
  | [n], cs => if cs.length = n then some cs else none
  | n :: ns, cs =>
    match cs.drop n with
    | '-' :: rest => (split? ns rest).map (cs.take n ++ ·)
    | _ => none

/-- What is inside braces or after `urn:uuid:`, or the whole text. -/
def unwrapped (cs : List Char) : List Char :=
  if cs.length = 38 ∧ cs.head? = some '\x7b' ∧ cs.getLast? = some '\x7d' then (cs.drop 1).dropLast
  else if cs.length = 45 ∧ cs.take 9 = "urn:uuid:".toList then cs.drop 9
  else cs

/-- **The hash that a text spells**, if it is one of the four spellings. -/
def read? (text : String) : Option Uuid :=
  let cs := text.toList
  if cs.length = 32 then ofDigits? cs
  else (split? groups (unwrapped cs)).bind ofDigits?

/-- Thirty-two hexadecimal digits. -/
def digits (u : Uuid) : List Char :=
  let ds := Nat.toDigits 16 u.value
  List.replicate (32 - ds.length) '0' ++ ds

/-- **The written form**: lower-case digits in groups. -/
def text (u : Uuid) : String :=
  String.ofList (join groups u.digits)

end Uuid

/-- The identity of a card.  A fresh hash is told from all others by its serial number; `label` is
what stands for it where it is shown. -/
inductive CardHash where
  | given (u : Uuid)
  | fresh (serial : Nat) (label : String)
  deriving DecidableEq, Repr

namespace CardHash

instance : Inhabited CardHash := ⟨.given ⟨0⟩⟩

/-- A hash as it is shown. -/
def text : CardHash → String
  | .given u => u.text
  | .fresh _ label => "random:" ++ label

end CardHash

end StoryEngine
