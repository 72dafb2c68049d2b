import Mathlib.Data.List.Basic
import StoryEngine.Proofs.Fresh
import StoryEngine.World.Change

/-!
# What a condition depends on

The value of a condition comes from what it looks up on the way, and it looks up what its earlier
lookups make it look up.  So whoever answers those lookups alike gets the same value in the same
way, whatever else is different.

* `Condition.evaluateLogged` — evaluation that keeps a log of its lookups, and
  `Condition.evaluateLogged_run` — its value is `evaluate`, and its log is `lookups`.
* `Condition.evaluate_congr` — **only what is looked up matters**.
* `Condition.lookups_sublist` — what is looked up occurs, in the order in which it is looked up.
* `Firsts` — the members of a list, each at the place where it comes first, and
  `Condition.firsts_names` — so the names of a condition list its occurrences.
* `World.checkAgainst_alter` — **a key that an expression does not name** makes no difference to it.
* `Condition.evaluate_depends` — all of it together.

The two halves meet in `Condition.lookups_subset_names`.  Evaluation walks over the tree and leaves
some of it out; `names` walks over all of it and leaves out what it has seen already.
-/

namespace StoryEngine

namespace Condition

variable {look other : Lookup} {c : Condition} {name key : String}

/-! ## Keeping a log -/

/-- **Evaluation that keeps a log** of the qualities that it looks up, the latest last.  The right
operand of a connective is evaluated only if the left one has not decided. -/
def evaluateLogged (look : Lookup) : Condition → StateM (List String) Value
  | .literal v => return v
  | .quality name => do
    modify (· ++ [name])
    return (look name).getD .null
  | .not c => return .bool (!(← c.evaluateLogged look).isTruthy)
  | .and a b => do
    if (← a.evaluateLogged look).isTruthy then
      return .bool (← b.evaluateLogged look).isTruthy
    else
      return .bool false
  | .or a b => do
    if (← a.evaluateLogged look).isTruthy then
      return .bool true
    else
      return .bool (← b.evaluateLogged look).isTruthy
  | .compare op a b => return .bool (op.holds (← a.evaluateLogged look) (← b.evaluateLogged look))

/-- **The log of an evaluation are its lookups**, and the log makes no difference to the value. -/
theorem evaluateLogged_run (look : Lookup) (c : Condition) (log : List String) :
    ((c.evaluateLogged look).run log).run = (c.evaluate look, log ++ c.lookups look) := by
  induction c generalizing log with
  | literal v => simp [evaluateLogged, evaluate, lookups]
  | quality name => simp [evaluateLogged, evaluate, lookups]
  | not c ih => simp [evaluateLogged, evaluate, lookups, ih]
  | and a b iha ihb =>
      rcases truth : (a.evaluate look).isTruthy with _ | _
      · simp [evaluateLogged, evaluate, lookups, holds, iha, truth]
      · simp [evaluateLogged, evaluate, lookups, holds, iha, ihb, truth]
  | or a b iha ihb =>
      rcases truth : (a.evaluate look).isTruthy with _ | _
      · simp [evaluateLogged, evaluate, lookups, holds, iha, ihb, truth]
      · simp [evaluateLogged, evaluate, lookups, holds, iha, truth]
  | compare op a b iha ihb => simp [evaluateLogged, evaluate, lookups, iha, ihb]

/-! ## Only what is looked up matters -/

/-- **Answers that agree on some names**, where no answer is as good as nothing. -/
def Agree (look other : Lookup) (names : List String) : Prop :=
  ∀ name ∈ names, (other name).getD .null = (look name).getD .null

lemma Agree.left {names more : List String} (agree : Agree look other (names ++ more)) :
    Agree look other names :=
  fun name mem => agree name (List.mem_append_left more mem)

lemma Agree.right {names more : List String} (agree : Agree look other (names ++ more)) :
    Agree look other more :=
  fun name mem => agree name (List.mem_append_right names mem)

/-- **A condition depends only on what it looks up**: where another lookup gives the same answers,
the value is the same, and the same is looked up in the same order. -/
theorem evaluate_congr (agree : Agree look other (c.lookups look)) :
    c.evaluate other = c.evaluate look ∧ c.lookups other = c.lookups look := by
  induction c with
  | literal v => exact ⟨rfl, rfl⟩
  | quality name => exact ⟨agree name (List.mem_singleton_self name), rfl⟩
  | not c ih =>
      obtain ⟨value, same⟩ := ih agree
      exact ⟨by rw [evaluate, evaluate, value], same⟩
  -- the left operand is looked up in any case, so what it decides is the same on both sides
  | and a b iha ihb =>
      obtain ⟨value, same⟩ := iha agree.left
      have truth : a.holds other = a.holds look := congrArg Value.isTruthy value
      rw [lookups, lookups, evaluate, evaluate, value, same, truth]
      rw [lookups] at agree
      rcases decided : a.holds look with _ | _
      · have no : (a.evaluate look).isTruthy = false := decided
        simp [no]
      · obtain ⟨value, same⟩ := ihb (by simpa [decided] using agree.right)
        simp [value, same]
  | or a b iha ihb =>
      obtain ⟨value, same⟩ := iha agree.left
      have truth : a.holds other = a.holds look := congrArg Value.isTruthy value
      rw [lookups, lookups, evaluate, evaluate, value, same, truth]
      rw [lookups] at agree
      rcases decided : a.holds look with _ | _
      · obtain ⟨value, same⟩ := ihb (by simpa [decided] using agree.right)
        simp [value, same]
      · have yes : (a.evaluate look).isTruthy = true := decided
        simp [yes]
  | compare op a b iha ihb =>
      obtain ⟨valueA, sameA⟩ := iha agree.left
      obtain ⟨valueB, sameB⟩ := ihb agree.right
      exact ⟨by rw [evaluate, evaluate, valueA, valueB], by rw [lookups, lookups, sameA, sameB]⟩

/-- **What is looked up occurs in the condition**, in the order in which it is looked up. -/
theorem lookups_sublist (look : Lookup) (c : Condition) :
    (c.lookups look).Sublist c.occurrences := by
  induction c with
  | literal v => exact .refl _
  | quality name => exact .refl _
  | not c ih => exact ih
  | and a b iha ihb =>
      refine iha.append ?_
      split
      · exact ihb
      · exact List.nil_sublist _
  | or a b iha ihb =>
      refine iha.append ?_
      split
      · exact List.nil_sublist _
      · exact ihb
  | compare op a b iha ihb => exact iha.append ihb

end Condition

/-! ## Names -/

/-- **The members of a list, each once, in order of first occurrence.** -/
structure Firsts (names occurred : List String) : Prop where
  mem_iff : ∀ name, name ∈ names ↔ name ∈ occurred
  inOrder : names.Pairwise fun a b => occurred.idxOf a < occurred.idxOf b

namespace Firsts

variable {names occurred : List String}

lemma nil : Firsts [] [] :=
  ⟨fun _ => Iff.rfl, .nil⟩

/-- Each member is there once. -/
lemma nodup (firsts : Firsts names occurred) : names.Nodup :=
  firsts.inOrder.imp fun before same => absurd (same ▸ before) (Nat.lt_irrefl _)

/-- **One more occurrence**: what has occurred already keeps its place, and what has not comes
last. -/
lemma addNew (firsts : Firsts names occurred) (name : String) :
    Firsts (Condition.addNew names name) (occurred ++ [name]) := by
  have kept : names.Pairwise fun a b =>
      (occurred ++ [name]).idxOf a < (occurred ++ [name]).idxOf b := by
    refine firsts.inOrder.imp_of_mem fun {a b} memA memB before => ?_
    rwa [List.idxOf_append_of_mem ((firsts.mem_iff a).1 memA),
      List.idxOf_append_of_mem ((firsts.mem_iff b).1 memB)]
  rw [Condition.addNew]
  split
  · next seen =>
      have old : name ∈ occurred := (firsts.mem_iff name).1 (List.contains_iff_mem.1 seen)
      refine ⟨fun other => ?_, kept⟩
      rw [firsts.mem_iff, List.mem_append, List.mem_singleton]
      exact ⟨.inl, fun mem => mem.elim id fun same => same ▸ old⟩
  · next unseen =>
      have new : name ∉ occurred := fun mem =>
        unseen (List.contains_iff_mem.2 ((firsts.mem_iff name).2 mem))
      refine ⟨fun other => by rw [List.mem_append, List.mem_append, firsts.mem_iff], ?_⟩
      refine List.pairwise_append.2 ⟨kept, List.pairwise_singleton _ _, fun a memA b isNew => ?_⟩
      have old : a ∈ occurred := (firsts.mem_iff a).1 memA
      rw [List.mem_singleton.1 isNew, List.idxOf_append_of_mem old, List.idxOf_append_of_notMem new]
      exact Nat.lt_of_lt_of_le (List.idxOf_lt_length_of_mem old) (Nat.le_add_right _ _)

/-- **A condition more**: its occurrences come after those found so far. -/
lemma collect (firsts : Firsts names occurred) (c : Condition) :
    Firsts (c.collect names) (occurred ++ c.occurrences) := by
  induction c generalizing names occurred with
  | literal v => rwa [Condition.occurrences, List.append_nil]
  | quality name => exact firsts.addNew name
  | not c ih => exact ih firsts
  | and a b iha ihb =>
      rw [Condition.occurrences, ← List.append_assoc]
      exact ihb (iha firsts)
  | or a b iha ihb =>
      rw [Condition.occurrences, ← List.append_assoc]
      exact ihb (iha firsts)
  | compare op a b iha ihb =>
      rw [Condition.occurrences, ← List.append_assoc]
      exact ihb (iha firsts)

end Firsts

namespace Condition

variable {look other : Lookup} {c : Condition} {name key : String}

/-- **The names of a condition** are what occurs in it, each once, in order of first occurrence. -/
theorem firsts_names (c : Condition) : Firsts c.names c.occurrences := by
  simpa [names] using Firsts.nil.collect c

/-- What is looked up has a name. -/
lemma lookups_subset_names (look : Lookup) (c : Condition) : c.lookups look ⊆ c.names :=
  fun name mem => (c.firsts_names.mem_iff name).2 ((c.lookups_sublist look).subset mem)

/-- Where the answers for all names are the same, so is the value. -/
lemma evaluate_of_names (agree : Agree look other c.names) : c.evaluate other = c.evaluate look :=
  (evaluate_congr fun name mem => agree name (c.lookups_subset_names look mem)).1

end Condition

/-! ## States -/

/-- **The qualities that an expression names**: none if its text is no condition. -/
def Expression.names (e : Expression) : List String :=
  match e.compiled with
  | .ok c => c.names
  | .error _ => []

/-- Where the answers for all names are the same, an expression is met alike. -/
lemma Expression.evaluate_of_names {e : Expression} {look other : Condition.Lookup}
    (agree : Condition.Agree look other e.names) : e.evaluate other = e.evaluate look := by
  unfold evaluate
  rcases compiled : e.compiled with fault | c
  · rfl
  · rw [names, compiled] at agree
    exact congrArg (fun v : Value => Except.ok v.isTruthy) (Condition.evaluate_of_names agree)

/-- **A state in which one key has been set or deleted**, by its contents after that. -/
inductive Store.Edit (st : Store) (key : String) (contents : Contents) : Prop
  | write {v : Value} (written : st.write? key v = some contents)
  | erase {v : Value} (erased : st.erase? key = some (v, contents))

namespace Store

variable {st : Store} {key name : String} {contents : Contents}

/-- A key that is set or deleted makes no difference to other keys. -/
lemma Edit.lookup_eq (edit : st.Edit key contents) (ne : name ≠ key) :
    contents.lookup name = st.contents.lookup name := by
  cases edit with
  | @write v written =>
      have put : st.contents.put key v = contents := by
        unfold write? at written
        split at written
        · split at written
          · cases written
          · exact Option.some.inj written
        · exact Option.some.inj written
      rw [← put, Contents.lookup_put, if_neg ne]
  | erase erased =>
      obtain ⟨old, -, same⟩ := Option.map_eq_some_iff.1 erased
      rw [← (Prod.mk.inj same).2, Contents.lookup_without, if_neg ne]

end Store

namespace World

/-- **A key that an expression does not name** makes no difference to a check of the expression,
whether it is set or deleted. -/
lemma checkAgainst_alter {e : Expression} {s : StateId} {key : String} {contents : Contents}
    {w : World} (foreign : key ∉ e.names) (edit : (w.store s).Edit key contents) :
    ((w.alter s contents).checkAgainst e s).2 = (w.checkAgainst e s).2 := by
  have agree : Condition.Agree (w.store s).get? ((w.alter s contents).store s).get? e.names := by
    intro name mem
    have ne : name ≠ key := fun same => foreign (same ▸ mem)
    have altered : ((w.alter s contents).store s).get? name = contents.lookup name := by
      have store : (w.alter s contents).store s = (w.store s).commit contents :=
        (store_onStore w s s _).trans (if_pos rfl)
      rw [store]
      rfl
    rw [altered, edit.lookup_eq ne]
    rfl
  rw [checkAgainst_value, checkAgainst_value, Expression.check, Expression.check,
    Expression.evaluate_of_names agree]

end World

namespace Condition

/-- **What a condition depends on.**  To evaluate it looks up some qualities one after the other, as
a log kept on the way shows.  With any answers that agree on those, no answer being as good as
nothing, the value is the same and the same is looked up in the same order.  The lookups are among
the occurrences of qualities from left to right, in their order, and among the names of the
condition; and the names list all that occurs, each once, in order of first occurrence.  So to set
or to delete any other key of a state makes no difference to a check against the state. -/
theorem evaluate_depends (c : Condition) (look : Lookup) :
    (∀ log, ((c.evaluateLogged look).run log).run = (c.evaluate look, log ++ c.lookups look)) ∧
    (∀ other : Lookup,
      (∀ name ∈ c.lookups look, (other name).getD .null = (look name).getD .null) →
        c.evaluate other = c.evaluate look ∧ c.lookups other = c.lookups look) ∧
    (c.lookups look).Sublist c.occurrences ∧
    (∀ name ∈ c.lookups look, name ∈ c.names) ∧
    (c.names.Nodup ∧ (∀ name, name ∈ c.names ↔ name ∈ c.occurrences) ∧
      c.names.Pairwise fun a b => c.occurrences.idxOf a < c.occurrences.idxOf b) ∧
    ∀ (e : Expression) (w : World) (s : StateId) (key : String) (contents : Contents),
      e.compiled = .ok c → key ∉ c.names → (w.store s).Edit key contents →
        ((w.alter s contents).checkAgainst e s).2 = (w.checkAgainst e s).2 := by
  refine ⟨c.evaluateLogged_run look, fun other agree => evaluate_congr agree,
    c.lookups_sublist look, fun name mem => c.lookups_subset_names look mem,
    ⟨c.firsts_names.nodup, c.firsts_names.mem_iff, c.firsts_names.inOrder⟩, ?_⟩
  intro e w s key contents compiled foreign edit
  refine World.checkAgainst_alter ?_ edit
  rwa [Expression.names, compiled]

/-- A quality is looked up a second time after another one that has no value; whether that one has
none or is nothing makes no difference, and a quality without a place in the text makes none either,
when it is set and when it is deleted again. -/
theorem evaluate_depends_twice :
    let c : Condition := .and (.quality "a") (.or (.quality "b") (.quality "a"))
    let look : Lookup := fun name => [("a", .bool true)].lookup name
    let other : Lookup := fun name =>
      [("a", .bool true), ("b", .null), ("z", .bool true)].lookup name
    let w := World.empty.alter ⟨0⟩ [("a", .bool true)]
    c.lookups look = ["a", "b", "a"] ∧ c.names = ["a", "b"] ∧
    (c.evaluate other = c.evaluate look ∧ c.lookups other = c.lookups look) ∧
    (∀ v : Value, ((w.alter ⟨0⟩ [("a", .bool true), ("z", v)]).checkAgainst
      (.new "$a && ($b || $a)") ⟨0⟩).2 = (w.checkAgainst (.new "$a && ($b || $a)") ⟨0⟩).2) ∧
    ((w.alter ⟨0⟩ []).checkAgainst (.new "$b") ⟨0⟩).2 = (w.checkAgainst (.new "$b") ⟨0⟩).2 := by
  intro c look other w
  have spells : (Expression.new "$a && ($b || $a)").compiled = .ok c := by rfl
  have single : (Expression.new "$b").compiled = .ok (.quality "b") := by rfl
  obtain ⟨-, alike, -, -, -, check⟩ := evaluate_depends c look
  refine ⟨by rfl, by rfl, alike other ?_, fun v => ?_, ?_⟩
  · have looked : c.lookups look = ["a", "b", "a"] := by rfl
    rw [looked]
    rintro name (_ | ⟨_, _ | ⟨_, _ | ⟨_, none⟩⟩⟩)
    · rfl
    · rfl
    · rfl
    · cases none
  · exact check _ w ⟨0⟩ "z" _ spells (by decide) (.write (v := v) (by rfl))
  · exact (evaluate_depends (.quality "b") look).2.2.2.2.2 _ w ⟨0⟩ "a" _ single (by decide)
      (.erase (v := .bool true) (by rfl))

end Condition

end StoryEngine
