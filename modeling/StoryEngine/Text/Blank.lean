import StoryEngine.Text.Ranges

/-!
# White space

The twenty-five code points of the Unicode property `White_Space`.  They separate the tokens of a
condition and have no other meaning there.
-/

namespace StoryEngine.Text

/-- The code points of the property `White_Space`. -/
def blankRanges : List (Nat × Nat) := [
  (0x9, 0xD), (0x20, 0x20), (0x85, 0x85), (0xA0, 0xA0), (0x1680, 0x1680), (0x2000, 0x200A),
  (0x2028, 0x2029), (0x202F, 0x202F), (0x205F, 0x205F), (0x3000, 0x3000)]

/-- Whether a character is white space. -/
def isBlank (c : Char) : Bool :=
  Ranges.covers blankRanges c.toNat

theorem blankRanges_ascending : Ranges.ascending blankRanges = true := by decide +kernel

/-- The white space of ASCII is white space. -/
theorem isBlank_of_isWhitespace {c : Char} (h : c.isWhitespace = true) : isBlank c = true := by
  simp only [Char.isWhitespace, Bool.or_eq_true, decide_eq_true_eq] at h
  rcases h with ((rfl | rfl) | rfl) | rfl <;> decide +kernel

end StoryEngine.Text
