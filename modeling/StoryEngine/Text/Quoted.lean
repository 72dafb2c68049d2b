import StoryEngine.Text.Visible

/-!
# Quoted text

How a text or a single character is shown inside a message or a description: between quotes, with
everything that could be misread escaped.

* `Quoted.escape` — one character, given the quote that surrounds it.
* `Quoted.text` — a text between double quotes; a single quote inside stands for itself.
* `Quoted.character` — a character between single quotes; a double quote stands for itself.

The null character, tab, carriage return, line feed and backslash have two-character escapes.  Any
other character without a shape of its own is written by its code point in lower-case hexadecimal,
between braces.
-/

namespace StoryEngine.Text.Quoted

/-- A character by its code point: a backslash, a `u`, and the hexadecimal digits in braces. -/
def byCodePoint (c : Char) : List Char :=
  ['\\', 'u', '\x7b'] ++ Nat.toDigits 16 c.toNat ++ ['\x7d']

/-- **One character as it stands between two `quote`s.**  The surrounding quote and the backslash
are escaped by a backslash, so the closing quote cannot be mistaken. -/
def escape (quote c : Char) : List Char :=
  if c = '\x00' then ['\\', '0']
  else if c = '\t' then ['\\', 't']
  else if c = '\r' then ['\\', 'r']
  else if c = '\n' then ['\\', 'n']
  else if c = '\\' ∨ c = quote then ['\\', c]
  else if isVisible c then [c]
  else byCodePoint c

/-- A text between double quotes. -/
def text (s : String) : String :=
  String.ofList ('"' :: s.toList.flatMap (escape '"') ++ ['"'])

/-- A character between single quotes. -/
def character (c : Char) : String :=
  String.ofList ('\'' :: escape '\'' c ++ ['\''])

/-- Each kind of quote is escaped only where it surrounds. -/
example : text "a\"b'c\n" = "\"a\\\"b'c\\n\"" := by decide +kernel

end StoryEngine.Text.Quoted
