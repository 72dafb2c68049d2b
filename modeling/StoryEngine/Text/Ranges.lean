/-!
# Classes of characters as ascending ranges

A class of characters is given by the ranges of code points it covers, lowest first, the two ends
of a range belonging to it.  Membership walks the ranges and stops at the first one that begins
beyond the code point asked for.

* `Ranges.covers` — membership by that walk.
* `Ranges.covers_eq_any` — the walk finds every range, as long as the ranges ascend.
* `Ranges.not_covers_of_apart` — a code point of one class is not of another whose ranges lie
  apart from its own.
* `Ranges.apart_of_separate` — that they do is found by one walk over both classes.
-/

namespace StoryEngine.Text

namespace Ranges

/-- **Whether one of the ascending ranges holds the code point.**  A range that begins beyond it
ends the search, since all later ranges begin further still. -/
def covers : List (Nat × Nat) → Nat → Bool
  | [], _ => false
  | (low, high) :: rest, n =>
    if n < low then false else if n ≤ high then true else covers rest n

/-- Whether ranges are in order: no range is empty, and each ends before the next begins. -/
def ascending : List (Nat × Nat) → Bool
  | [] => true
  | (low, high) :: rest =>
    decide (low ≤ high) && (rest.head?.all fun next => high < next.1) && ascending rest

/-- The ranges after the first are in order too. -/
theorem ascending_tail {range : Nat × Nat} {rest : List (Nat × Nat)}
    (h : ascending (range :: rest) = true) : ascending rest = true := by
  simp only [ascending, Bool.and_eq_true] at h
  exact h.2

/-- No range is empty. -/
theorem low_le_high {range : Nat × Nat} {rest : List (Nat × Nat)}
    (h : ascending (range :: rest) = true) : range.1 ≤ range.2 := by
  simp only [ascending, Bool.and_eq_true, decide_eq_true_eq] at h
  exact h.1.1

/-- In ascending ranges, all after the first begin beyond its end. -/
theorem begins_after {low high : Nat} {rest : List (Nat × Nat)}
    (h : ascending ((low, high) :: rest) = true) : ∀ range ∈ rest, high < range.1 := by
  induction rest generalizing low high with
  | nil => simp
  | cons next rest ih =>
    obtain ⟨start, last⟩ := next
    simp only [ascending, List.head?_cons, Option.all_some, Bool.and_eq_true,
      decide_eq_true_eq] at h ih
    intro range mem
    rcases List.mem_cons.1 mem with rfl | mem
    · exact h.1.2
    · have := @ih start last ⟨⟨h.2.1.1, h.2.1.2⟩, h.2.2⟩ range mem
      omega

/-- **The walk finds every range**, as long as the ranges ascend. -/
theorem covers_eq_any {ranges : List (Nat × Nat)} (h : ascending ranges = true) (n : Nat) :
    covers ranges n = ranges.any fun range => range.1 ≤ n && n ≤ range.2 := by
  induction ranges with
  | nil => rfl
  | cons range rest ih =>
    obtain ⟨low, high⟩ := range
    have later := begins_after h
    have tail := ascending_tail h
    have end_after : low ≤ high := low_le_high h
    simp only [covers, List.any_cons]
    split
    · next before =>
      have none_later : (rest.any fun range => range.1 ≤ n && n ≤ range.2) = false := by
        rw [List.any_eq_false]
        intro range mem
        have := later range mem
        simp only [Bool.and_eq_true, decide_eq_true_eq, not_and]
        omega
      simp [none_later]
      omega
    · next reached =>
      split
      · next inside =>
        have : low ≤ n := by omega
        simp [this, inside]
      · next beyond => simp [beyond, ih tail]

/-- A code point of one of the ranges is found. -/
theorem covers_of_mem {ranges : List (Nat × Nat)} (h : ascending ranges = true)
    {low high n : Nat} (mem : (low, high) ∈ ranges) (reached : low ≤ n) (inside : n ≤ high) :
    covers ranges n = true := by
  rw [covers_eq_any h, List.any_eq_true]
  exact ⟨(low, high), mem, by simp [reached, inside]⟩

/-- Whether no two ranges, one of each class, meet. -/
def apart (ranges others : List (Nat × Nat)) : Bool :=
  ranges.all fun range => others.all fun other => range.2 < other.1 || other.2 < range.1

/-- **Classes whose ranges lie apart share no code point.** -/
theorem not_covers_of_apart {ranges others : List (Nat × Nat)} (h : ascending ranges = true)
    (h' : ascending others = true) (disjoint : apart ranges others = true) {n : Nat}
    (covered : covers ranges n = true) : covers others n = false := by
  rw [covers_eq_any h, List.any_eq_true] at covered
  rw [covers_eq_any h', List.any_eq_false]
  obtain ⟨range, mem, inside⟩ := covered
  intro other mem'
  have := List.all_eq_true.1 (List.all_eq_true.1 disjoint range mem) other mem'
  simp only [Bool.or_eq_true, Bool.and_eq_true, decide_eq_true_eq] at this inside ⊢
  omega

/-! ### One walk over two classes -/

/-- The same for ascending ranges, by one walk over both: those of the second class that end before
a range of the first begins are passed over for good. -/
def separate : List (Nat × Nat) → List (Nat × Nat) → Bool
  | [], _ => true
  | (low, high) :: rest, others =>
    let beyond := others.dropWhile fun other => other.2 < low
    (beyond.head?.all fun next => high < next.1) && separate rest beyond

theorem ascending_dropWhile {ranges : List (Nat × Nat)} (h : ascending ranges = true)
    (p : Nat × Nat → Bool) : ascending (ranges.dropWhile p) = true := by
  induction ranges with
  | nil => rfl
  | cons range rest ih =>
    rw [List.dropWhile_cons]
    split
    · exact ih (ascending_tail h)
    · exact h

/-- What is not passed over begins beyond the end, if the first of it does. -/
theorem begins_beyond {high : Nat} {ranges : List (Nat × Nat)} (h : ascending ranges = true)
    (clear : (ranges.head?.all fun next => high < next.1) = true) :
    ∀ range ∈ ranges, high < range.1 := by
  cases ranges with
  | nil => simp
  | cons next rest =>
    have first : high < next.1 := of_decide_eq_true clear
    intro range mem
    rcases List.mem_cons.1 mem with rfl | mem
    · exact first
    · have := begins_after h range mem
      have := low_le_high h
      omega

/-- **One walk over both is enough**, as long as the ranges ascend. -/
theorem apart_of_separate {ranges others : List (Nat × Nat)} (h : ascending ranges = true)
    (h' : ascending others = true) (walked : separate ranges others = true) :
    apart ranges others = true := by
  have meet : ∀ range ∈ ranges, ∀ other ∈ others, range.2 < other.1 ∨ other.2 < range.1 := by
    induction ranges generalizing others with
    | nil => simp
    | cons range rest ih =>
      obtain ⟨low, high⟩ := range
      simp only [separate, Bool.and_eq_true] at walked
      have ascends := ascending_dropWhile h' fun other => decide (other.2 < low)
      have beyond := begins_beyond ascends walked.1
      have later := ih (ascending_tail h) ascends walked.2
      intro range mem other mem'
      rw [← List.takeWhile_append_dropWhile
        (p := fun other => decide (other.2 < low)) (l := others),
        List.mem_append] at mem'
      rcases mem' with passed | kept
      · have := List.all_eq_true.1 List.all_takeWhile other passed
        have : other.2 < low := of_decide_eq_true this
        rcases List.mem_cons.1 mem with rfl | mem
        · exact .inr this
        · have := begins_after h range mem
          have := low_le_high h
          right
          simp only at this
          omega
      · rcases List.mem_cons.1 mem with rfl | mem
        · exact .inl (beyond other kept)
        · exact later range mem other kept
  simpa [apart] using meet

end Ranges

end StoryEngine.Text
