import StoryEngine.Condition.Error
import StoryEngine.Condition.Token
import StoryEngine.Decimal.Reader
import StoryEngine.Text.Blank
import StoryEngine.Text.Bytes
import StoryEngine.Text.Letter
import StoryEngine.Text.Numeral

/-!
# From text to tokens

Tokens are read from left to right, each as long as it can be, with white space before, between
and after them.

* `isNameChar` — what names and words consist of.
* `lexeme` — the token at the start of a text, with the number of characters that spell it, or
  where its spelling goes wrong.
* `Token.scan` — all tokens of a text with their places, or the first error.

A spelling goes wrong at the first character with which no token can go on: a lone `&` is faulted
at the character after it, a `$` without a name likewise, a `-` or `.` at the first missing digit.
If the text ends there, the error is that it ends.  A word that is none of the six keywords is
faulted as a whole, at its start.
-/

namespace StoryEngine

open Decimal (isDigit ofDigits)
open Text (isBlank isLetter isNumeral width)

/-- Names are made of letters and numerals of any script and the underscore. -/
def isNameChar (c : Char) : Bool :=
  isLetter c || isNumeral c || c == '_'

/-- Why no token can be read at the start of a text. -/
inductive Misspelling where
  /-- a whole word without a meaning -/
  | word (text : List Char)
  /-- no token goes on after this many characters -/
  | stuck (length : Nat)
  deriving DecidableEq, Repr

/-! ## Numbers

Digits with an optional point and more digits, or a point and digits.  A point that no digit
follows does not belong to the number before it.
-/

/-- The digits before and after the point of a number without its sign, or after how many
characters it goes wrong. -/
def unsignedNumber (cs : List Char) : Except Misspelling (List Char × List Char) :=
  let whole := cs.takeWhile isDigit
  match cs.dropWhile isDigit with
  | '.' :: more =>
    let fraction := more.takeWhile isDigit
    if fraction.isEmpty then
      if whole.isEmpty then .error (.stuck 1) else .ok (whole, [])
    else .ok (whole, fraction)
  | _ => if whole.isEmpty then .error (.stuck 0) else .ok (whole, [])

/-- How many characters spell a number of these digits. -/
def unsignedLength (whole fraction : List Char) : Nat :=
  whole.length + if fraction.isEmpty then 0 else 1 + fraction.length

/-- The number at the start of a text, with an optional minus sign. -/
def number (cs : List Char) : Except Misspelling (Token × Nat) :=
  match cs with
  | '-' :: rest =>
    match unsignedNumber rest with
    | .ok (whole, fraction) =>
      .ok (.number (-(ofDigits whole fraction).toFloat), 1 + unsignedLength whole fraction)
    | .error (.stuck n) => .error (.stuck (1 + n))
    | .error fault => .error fault
  | _ =>
    match unsignedNumber cs with
    | .ok (whole, fraction) =>
      .ok (.number (ofDigits whole fraction).toFloat, unsignedLength whole fraction)
    | .error fault => .error fault

/-! ## Texts -/

/-- **What stands before the closing quote**, with the number of characters up to and including
it; nothing if the quote is missing.  A backslash makes any character after it stand for itself. -/
def quotedBody (quote : Char) : List Char → Option (List Char × Nat)
  | [] => none
  | ['\\'] => none
  | '\\' :: c :: rest => (quotedBody quote rest).map fun (s, n) => (c :: s, n + 2)
  | c :: rest =>
    if c = quote then some ([], 1)
    else (quotedBody quote rest).map fun (s, n) => (c :: s, n + 1)

/-! ## Words -/

/-- The meaning of the six keywords. -/
def keyword? (word : List Char) : Option Token :=
  match String.ofList word with
  | "true" => some (.truth true)
  | "false" => some (.truth false)
  | "null" => some .null
  | "and" => some .and
  | "or" => some .or
  | "not" => some .not
  | _ => none

/-! ## All tokens -/

/-- **The token at the start of a text**, with the number of characters that spell it. -/
def lexeme : List Char → Except Misspelling (Token × Nat)
  | [] => .error (.stuck 0)
  | '(' :: _ => .ok (.openParen, 1)
  | ')' :: _ => .ok (.closeParen, 1)
  | '&' :: '&' :: _ => .ok (.and, 2)
  | '&' :: _ => .error (.stuck 1)
  | '|' :: '|' :: _ => .ok (.or, 2)
  | '|' :: _ => .error (.stuck 1)
  | '=' :: '=' :: _ => .ok (.compare .eq, 2)
  | '=' :: _ => .error (.stuck 1)
  | '!' :: '=' :: _ => .ok (.compare .ne, 2)
  | '!' :: _ => .ok (.not, 1)
  | '<' :: '=' :: _ => .ok (.compare .le, 2)
  | '<' :: _ => .ok (.compare .lt, 1)
  | '>' :: '=' :: _ => .ok (.compare .ge, 2)
  | '>' :: _ => .ok (.compare .gt, 1)
  | '$' :: rest =>
    let name := rest.takeWhile isNameChar
    if name.isEmpty then .error (.stuck 1)
    else .ok (.quality (String.ofList name), 1 + name.length)
  | c :: rest =>
    if c = '"' ∨ c = '\'' then
      match quotedBody c rest with
      | some (s, n) => .ok (.text (String.ofList s), 1 + n)
      | none => .error (.stuck (1 + rest.length))
    else if isDigit c ∨ c = '-' ∨ c = '.' then number (c :: rest)
    else if isLetter c then
      let word := c :: rest.takeWhile isNameChar
      match keyword? word with
      | some token => .ok (token, word.length)
      | none => .error (.word word)
    else .error (.stuck 0)

/-- What a misspelling at a place of a text is called: the character at which no token goes on, or
the end of the text. -/
def Misspelling.toError (position : Nat) (cs : List Char) : Misspelling → ConditionError
  | .word text => .invalidToken (String.ofList text) position
  | .stuck n =>
    match cs.drop n with
    | c :: _ => .unexpectedCharacter c (position + width (cs.take n))
    | [] => .unexpectedEnd

/-- **The tokens of a text from a byte position on.**  `pending` characters still belong to the
token read last and are passed over. -/
def Token.scan : (pending position : Nat) → List Char → Except ConditionError (List Placed)
  | _, _, [] => .ok []
  | pending + 1, position, c :: cs => Token.scan pending (position + c.utf8Size) cs
  | 0, position, c :: cs =>
    if isBlank c then Token.scan 0 (position + c.utf8Size) cs
    else
      match lexeme (c :: cs) with
      | .error fault => .error (fault.toError position (c :: cs))
      | .ok (token, length) =>
        match Token.scan (length - 1) (position + c.utf8Size) cs with
        | .ok more => .ok (⟨token, position, position + width ((c :: cs).take length)⟩ :: more)
        | .error fault => .error fault

/-- The tokens of a text, with their places. -/
def Token.ofText (source : String) : Except ConditionError (List Placed) :=
  Token.scan 0 0 source.toList

end StoryEngine
