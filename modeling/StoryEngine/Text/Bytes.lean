/-!
# Places in a text

Places in a text are counted in bytes of its UTF-8 form, so that a message can point into the text
as it is stored.  `width` is the number of bytes that a run of characters takes.
-/

namespace StoryEngine.Text

/-- **The bytes a run of characters takes** in UTF-8. -/
def width : List Char → Nat
  | [] => 0
  | c :: cs => c.utf8Size + width cs

/-- Widths add up. -/
theorem width_append (as bs : List Char) : width (as ++ bs) = width as + width bs := by
  induction as with
  | nil => simp [width]
  | cons a as ih => simp [width, ih, Nat.add_assoc]

/-- A run with a character in it has a width. -/
theorem width_pos {c : Char} {cs : List Char} : 0 < width (c :: cs) := by
  have := c.utf8Size_pos
  simp only [width]
  omega

end StoryEngine.Text
