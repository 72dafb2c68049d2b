/-!
# Tables

A world keeps its objects in tables and refers to them by their place.  Reading a place that was
never written gives the default object, so reading is total and writing is never refused.

* `Table.get`, `Table.set`, `Table.modify` — one place of a table.
* `Table.add` — a new place at the end.
* `Table.get_set` — what is read after a write, in one equation without side conditions.
-/

namespace StoryEngine

/-- Objects by their place. -/
structure Table (α : Type) where
  cells : List α

namespace Table

variable {α : Type}

/-- The number of places. -/
def size (t : Table α) : Nat :=
  t.cells.length

/-- A new object at the place after the last one. -/
def add (t : Table α) (a : α) : Table α :=
  ⟨t.cells ++ [a]⟩

theorem size_add (t : Table α) (a : α) : (t.add a).size = t.size + 1 := by
  simp [size, add]

/-- All objects with their places. -/
def places (t : Table α) : List (α × Nat) :=
  t.cells.zipIdx

instance : Inhabited (Table α) := ⟨⟨[]⟩⟩

variable [Inhabited α]

/-- The object at a place. -/
def get (t : Table α) (i : Nat) : α :=
  t.cells.getD i default

/-- The objects with one place written, and default objects up to it if there were fewer. -/
def write : List α → Nat → α → List α
  | [], 0, a => [a]
  | [], i + 1, a => default :: write [] i a
  | _ :: rest, 0, a => a :: rest
  | x :: rest, i + 1, a => x :: write rest i a

/-- A table with one place written. -/
def set (t : Table α) (i : Nat) (a : α) : Table α :=
  ⟨write t.cells i a⟩

/-- A table with the object at one place changed. -/
def modify (t : Table α) (i : Nat) (f : α → α) : Table α :=
  t.set i (f (t.get i))

/-- A place that was never written has the default object. -/
theorem get_of_size_le {t : Table α} {i : Nat} (h : t.size ≤ i) : t.get i = default := by
  rw [get, List.getD_eq_getElem?_getD, List.getElem?_eq_none h]
  rfl

theorem getD_write (cells : List α) (i j : Nat) (a : α) :
    (write cells i a).getD j default = if i = j then a else cells.getD j default := by
  induction i generalizing cells j with
  | zero => cases cells <;> cases j <;> simp [write]
  | succ i ih =>
    cases cells with
    | nil =>
      cases j with
      | zero => simp [write]
      | succ j => simpa [write] using ih [] j
    | cons x rest =>
      cases j with
      | zero => simp [write]
      | succ j => simpa [write] using ih rest j

/-- **What is read after a write**: the new object at its place, and elsewhere what was there. -/
theorem get_set (t : Table α) (i j : Nat) (a : α) :
    (t.set i a).get j = if i = j then a else t.get j :=
  getD_write t.cells i j a

/-- What is read after a change. -/
theorem get_modify (t : Table α) (i j : Nat) (f : α → α) :
    (t.modify i f).get j = if i = j then f (t.get j) else t.get j := by
  unfold modify
  rw [get_set]
  split <;> simp_all

theorem write_write (cells : List α) (i : Nat) (a b : α) :
    write (write cells i a) i b = write cells i b := by
  induction i generalizing cells with
  | zero => cases cells <;> rfl
  | succ i ih =>
    cases cells with
    | nil => exact congrArg (default :: ·) (ih [])
    | cons x rest => exact congrArg (x :: ·) (ih rest)

/-- Two changes of one place are one change. -/
theorem modify_modify (t : Table α) (i : Nat) (f g : α → α) :
    (t.modify i f).modify i g = t.modify i fun a => g (f a) := by
  rw [modify, get_modify, if_pos rfl]
  exact congrArg Table.mk (write_write _ _ _ _)

theorem length_le_write (cells : List α) (i : Nat) (a : α) :
    cells.length ≤ (write cells i a).length := by
  induction i generalizing cells with
  | zero => cases cells <;> simp [write]
  | succ i ih =>
    cases cells with
    | nil => simp
    | cons x rest => simpa [write] using ih rest

/-- A change takes no place away. -/
theorem size_le_modify (t : Table α) (i : Nat) (f : α → α) : t.size ≤ (t.modify i f).size :=
  length_le_write t.cells i _

theorem length_write (cells : List α) {i : Nat} (a : α) (bound : i < cells.length) :
    (write cells i a).length = cells.length := by
  induction i generalizing cells with
  | zero => cases cells <;> simp_all [write]
  | succ i ih =>
    cases cells with
    | nil => simp at bound
    | cons x rest => simpa [write] using ih rest (by simpa using bound)

/-- A change of a place that there is adds no place. -/
theorem size_modify (t : Table α) {i : Nat} (f : α → α) (bound : i < t.size) :
    (t.modify i f).size = t.size :=
  length_write t.cells _ bound

/-- What is read after a new object was added. -/
theorem get_add (t : Table α) (j : Nat) (a : α) :
    (t.add a).get j = if j = t.size then a else t.get j := by
  simp only [get, add, size, List.getD_eq_getElem?_getD, List.getElem?_append]
  split
  · next h => rw [if_neg (by omega)]
  · next h =>
    split
    · next e => simp [e]
    · next e =>
      have h1 : t.cells.length ≤ j := by omega
      have h2 : j - t.cells.length ≠ 0 := by omega
      rw [List.getElem?_eq_none (by simp; omega), List.getElem?_eq_none h1]

end Table

end StoryEngine
