import StoryEngine.Decimal.Reader
import StoryEngine.Toml.Table

/-!
# Scalars of a document

Readers for the parts of a TOML document that hold no other parts: white space, comments, keys,
texts, numbers, dates and times.  A reader takes what it needs from the front of the characters that
are left, or fails.

* `Reader` — a reader; `Reader.attempt` gives the characters back if it fails.
* `key` — a bare or quoted key; `path` — keys joined by dots.
* `text` — the four kinds of text.
* `scalar` — numbers, dates, times and truth values, of which only integers matter by value.
-/

namespace StoryEngine.Toml

/-- **A reader** takes characters from the front, or fails. -/
abbrev Reader := StateT (List Char) Option

namespace Reader

/-- One character that passes a test. -/
def one (test : Char → Bool) : Reader Char := do
  match ← get with
  | c :: rest => if test c then set rest; return c else failure
  | [] => failure

/-- As many characters as pass a test. -/
def many (test : Char → Bool) : Reader (List Char) := do
  let cs ← get
  set (cs.dropWhile test)
  return cs.takeWhile test

/-- At least one character that passes a test. -/
def some (test : Char → Bool) : Reader (List Char) := do
  let cs ← many test
  if cs.isEmpty then failure else return cs

/-- A fixed run of characters. -/
def exactly (s : String) : Reader Unit := do
  let cs ← get
  if s.toList.isPrefixOf cs then set (cs.drop s.length) else failure

/-- A reader that may fail, and then takes nothing. -/
def attempt {α : Type} (r : Reader α) : Reader (Option α) := do
  match r.run (← get) with
  | .some (a, rest) => set rest; return Option.some a
  | none => return none

/-- The first of two readers, or the second if it fails. -/
def either {α : Type} (r s : Reader α) : Reader α := do
  match ← r.attempt with
  | .some a => return a
  | none => s

end Reader

open Reader (one many exactly attempt either)
open Decimal (isDigit natOfDigits)

/-! ## White space and comments -/

/-- Blanks within a line. -/
def isSpace (c : Char) : Bool :=
  c = ' ' || c = '\t'

/-- Characters of a comment and of quoted text: no control characters but the tab. -/
def isPlain (c : Char) : Bool :=
  c = '\t' || (' ' ≤ c && c != '\x7f')

/-- Blanks within a line. -/
def spaces : Reader Unit := do
  let _ ← many isSpace

/-- The end of a line: a line feed, perhaps after a carriage return. -/
def newline : Reader Unit :=
  either (exactly "\n") (exactly "\r\n")

/-- A comment up to the end of its line, if there is one. -/
def comment : Reader Unit := do
  if (← (exactly "#").attempt).isSome then
    let _ ← many isPlain

/-- Blanks, line ends and comments, as many as `fuel` allows. -/
def trivia : (fuel : Nat) → Reader Unit
  | 0 => return ()
  | fuel + 1 => do
    spaces
    comment
    if (← newline.attempt).isSome then trivia fuel

/-! ## Texts -/

/-- The hexadecimal digits of a number, of either case. -/
def isHexDigit (c : Char) : Bool :=
  isDigit c || ('a' ≤ c && c ≤ 'f') || ('A' ≤ c && c ≤ 'F')

/-- The value of a hexadecimal digit. -/
def hexDigit (c : Char) : Nat :=
  if isDigit c then c.toNat - '0'.toNat
  else if 'a' ≤ c then c.toNat - 'a'.toNat + 10
  else c.toNat - 'A'.toNat + 10

/-- A character by exactly `count` hexadecimal digits of its code point. -/
def codePoint (count : Nat) : Reader Char := do
  let cs := (← get).take count
  set ((← get).drop count)
  let n := cs.foldl (fun n c => 16 * n + hexDigit c) 0
  if cs.length = count ∧ cs.all isHexDigit ∧ n.isValidChar then return Char.ofNat n else failure

/-- What stands for a character after a backslash. -/
def escaped : Reader Char := do
  match ← one fun _ => true with
  | 'b' => return '\x08'
  | 't' => return '\t'
  | 'n' => return '\n'
  | 'f' => return '\x0c'
  | 'r' => return '\r'
  | '"' => return '"'
  | '\\' => return '\\'
  | 'u' => codePoint 4
  | 'U' => codePoint 8
  | _ => failure

/-- The characters between one pair of quotes; a backslash escapes if `escapes`. -/
def line (quote : Char) (escapes : Bool) : (fuel : Nat) → Reader (List Char)
  | 0 => failure
  | fuel + 1 => do
    let c ← one isPlain
    if c = quote then return []
    else if c = '\\' ∧ escapes then return (← escaped) :: (← line quote escapes fuel)
    else return c :: (← line quote escapes fuel)

/-- A backslash at the end of a line swallows all blanks and line ends up to the next character. -/
def lineJoin : Reader Unit := do
  spaces
  newline
  let rec swallow : Nat → Reader Unit
    | 0 => return ()
    | fuel + 1 => do
      spaces
      if (← newline.attempt).isSome then swallow fuel
  swallow (← get).length

/-- The characters between two triples of quotes.  Up to two quotes may stand right before the
closing triple. -/
def block (quote : Char) (escapes : Bool) : (fuel : Nat) → Reader (List Char)
  | 0 => failure
  | fuel + 1 => do
    let quotes := (← get).takeWhile (· = quote)
    if 3 ≤ quotes.length then
      if 5 < quotes.length then failure
      set ((← get).drop quotes.length)
      return quotes.drop 3
    else if (← newline.attempt).isSome then return '\n' :: (← block quote escapes fuel)
    else
      let c ← one isPlain
      if c = '\\' ∧ escapes then
        if (← lineJoin.attempt).isSome then block quote escapes fuel
        else return (← escaped) :: (← block quote escapes fuel)
      else return c :: (← block quote escapes fuel)

/-- A text on one line. -/
def lineText : Reader String := do
  let fuel := (← get).length
  match ← one fun _ => true with
  | '"' => return String.ofList (← line '"' true fuel)
  | '\'' => return String.ofList (← line '\'' false fuel)
  | _ => failure

/-- A text over several lines; a line end right after the opening quotes does not count. -/
def blockText (quotes : String) (quote : Char) (escapes : Bool) : Reader String := do
  exactly quotes
  let _ ← newline.attempt
  return String.ofList (← block quote escapes (← get).length)

/-- Any text. -/
def text : Reader String := do
  let cs := (← get).take 3
  if cs = ['"', '"', '"'] then blockText "\"\"\"" '"' true
  else if cs = ['\'', '\'', '\''] then blockText "'''" '\'' false
  else lineText

/-! ## Keys -/

/-- The characters of a bare key. -/
def isBare (c : Char) : Bool :=
  c.isAlphanum || c = '_' || c = '-'

/-- A key, bare or quoted. -/
def key : Reader String :=
  either lineText (do return String.ofList (← Reader.some isBare))

/-- **Keys joined by dots**, with blanks around the dots; fewer than eighty of them. -/
def path : Reader (List String × String) := do
  let rec more (first : String) : Nat → Reader (List String × String)
    | 0 => failure
    | fuel + 1 => do
      let dotted := do spaces; exactly "."; spaces; key
      match ← attempt dotted with
      | Option.some next => do
        let (rest, last) ← more next fuel
        return (first :: rest, last)
      | none => return ([], first)
  more (← key) 79

/-! ## Numbers -/

/-- Digits, with single underscores between them. -/
def digitGroups (test : Char → Bool) : Reader (List Char) := do
  let cs ← Reader.some fun c => test c || c = '_'
  let rec apart : List Char → Bool
    | '_' :: '_' :: _ => false
    | ['_'] => false
    | _ :: rest => apart rest
    | [] => true
  if cs.head? = Option.some '_' ∨ ¬apart cs then failure
  return cs.filter (· != '_')

/-- An optional sign; whether it is a minus. -/
def sign : Reader Bool := do
  if (← (exactly "-").attempt).isSome then return true
  let _ ← (exactly "+").attempt
  return false

/-- The integers that a document may hold: those of sixty-four bits with a sign. -/
def inRange (i : Int) : Bool :=
  -9223372036854775808 ≤ i && i ≤ 9223372036854775807

/-- Decimal digits without a superfluous zero in front. -/
def decimalDigits : Reader (List Char) := do
  let ds ← digitGroups isDigit
  if 1 < ds.length ∧ ds.head? = Option.some '0' then failure
  return ds

/-- A decimal integer. -/
def decimal : Reader Int := do
  let negative ← sign
  let n := natOfDigits (← decimalDigits)
  return if negative then -n else n

/-- An integer in another base: its mark, then its digits. -/
def based (mark : String) (base : Nat) (test : Char → Bool) : Reader Int := do
  exactly mark
  return ((← digitGroups test).foldl (fun n c => base * n + hexDigit c) 0 : Nat)

/-- **An integer** within sixty-four bits. -/
def integer : Reader Item := do
  let i ← match (← get).take 2 with
    | ['0', 'x'] => based "0x" 16 isHexDigit
    | ['0', 'o'] => based "0o" 8 fun c => '0' ≤ c && c ≤ '7'
    | ['0', 'b'] => based "0b" 2 fun c => c = '0' || c = '1'
    | _ => decimal
  if inRange i then return .integer i else failure

/-- The power of ten of a float. -/
def power : Reader Unit := do
  let _ ← one fun c => c = 'e' || c = 'E'
  let _ ← sign
  let _ ← digitGroups isDigit

/-- A float: a fraction, a power of ten, or both after the digits; or a word for what is no finite
number.  A positive one must not be too large to be finite. -/
def float : Reader Item := do
  let start ← get
  let negative ← sign
  if (← attempt (exactly "inf")).isSome then return .other
  if (← attempt (exactly "nan")).isSome then return .other
  let _ ← decimalDigits
  let fraction ← attempt do exactly "."; digitGroups isDigit
  if fraction.isSome then let _ ← attempt power else power
  let spelled := (start.take (start.length - (← get).length)).filter (· != '_')
  match Decimal.read? (String.ofList spelled) with
  | Option.some x => if x.isInf ∧ ¬negative then failure else return .other
  | none => failure

/-! ## Dates and times -/

/-- Exactly `count` digits, as a number between two bounds. -/
def field (count low high : Nat) : Reader Nat := do
  let ds := (← get).take count
  set ((← get).drop count)
  let n := natOfDigits ds
  if ds.length = count ∧ ds.all isDigit ∧ low ≤ n ∧ n ≤ high then return n else failure

/-- The number of days of a month. -/
def daysIn (year month : Nat) : Nat :=
  if month = 2 then
    if year % 4 = 0 ∧ (year % 100 ≠ 0 ∨ year % 400 = 0) then 29 else 28
  else if month ∈ [4, 6, 9, 11] then 30
  else 31

/-- A date that exists. -/
def date : Reader Unit := do
  let year ← field 4 0 9999
  exactly "-"
  let month ← field 2 1 12
  exactly "-"
  let _ ← field 2 1 (daysIn year month)

/-- A time of day, with an optional fraction of the second; a minute may have a leap second. -/
def time : Reader Unit := do
  let _ ← field 2 0 23
  exactly ":"
  let _ ← field 2 0 59
  exactly ":"
  let _ ← field 2 0 60
  if (← attempt (exactly ".")).isSome then
    let _ ← Reader.some isDigit

/-- The difference from universal time. -/
def offset : Reader Unit :=
  either (do let _ ← one fun c => c = 'Z' || c = 'z') do
    let _ ← one fun c => c = '+' || c = '-'
    let _ ← field 2 0 23
    exactly ":"
    let _ ← field 2 0 59

/-- A date, perhaps with a time after it, and then perhaps with its difference from universal
time. -/
def dated : Reader Item := do
  date
  let joined := do
    let _ ← one fun c => c = 'T' || c = 't' || c = ' '
    time
  if (← attempt joined).isSome then
    let _ ← attempt offset
  return .other

/-! ## All scalars -/

/-- Whether the characters begin like a date: four digits and a hyphen. -/
def beginsDate (cs : List Char) : Bool :=
  (cs.take 4).all isDigit && (cs.drop 4).head? = Option.some '-'

/-- Whether the characters begin like a time: two digits and a colon. -/
def beginsTime (cs : List Char) : Bool :=
  (cs.take 2).all isDigit && (cs.drop 2).head? = Option.some ':'

/-- **A scalar.**  Its first characters tell what it has to be. -/
def scalar : Reader Item := do
  let cs ← get
  match cs.head? with
  | Option.some '"' | Option.some '\'' => let _ ← text; return .other
  | Option.some 't' => exactly "true"; return .other
  | Option.some 'f' => exactly "false"; return .other
  | _ =>
    if beginsDate cs then dated
    else if beginsTime cs then do time; return .other
    else either float integer

end StoryEngine.Toml
