import StoryEngine.Proofs.Binding
import StoryEngine.Proofs.EachOnce
import StoryEngine.Proofs.Freshness
import StoryEngine.Proofs.Wrapping

/-!
# Quality sets as conjunctions

A quality set is met if all its conditions are.  So is the one condition that says them all: the
conditions in parentheses, joined by `and`.  It does not matter whether the set is checked against a
state or is bound there and read.

* `World.expressions` — what the members of a quality set say.
* `World.Fresh.setResult_bindSet` — a set that has just been bound reads as its members hold.
* `World.MadeOf` — **a set that was made of some conditions**, one by one.
* `World.MadeOf.insert`, `World.madeOf_newSet` — the next condition, and so all of them.
* **`World.conjunction_of_passes`** — a quality set is the conjunction of its conditions.
-/

namespace StoryEngine.World

variable {w : World} {q : SetId} {s : StateId} {cond : String} {conds : List String}

/-! ## What a set comes to -/

/-- The expressions of a quality set, in order. -/
def expressions (w : World) (q : SetId) : List Expression :=
  (w.members q).map fun e => (w.expr e).expression

/-- **Whether a set holds** is said by its expressions. -/
lemma setHolds_eq_all (w : World) (q : SetId) (s : StateId) :
    w.setHolds q s = (w.expressions q).all (·.check (w.store s).get?) := by
  rw [setHolds, expressions, List.all_map]
  rfl

lemma BindingsOnly.setHolds_eq {v : World} (only : w.BindingsOnly v) (q : SetId) (s : StateId) :
    v.setHolds q s = w.setHolds q s := by
  refine setHolds_congr (only.members_eq q) fun e _ => ?_
  rw [exprHolds, exprHolds, only.expr e, only.store s]
  rfl

/-- **A set that is bound with its members**, and has no result yet, comes to whether they all
hold. -/
lemma Fresh.setResult_of_dirty (fresh : w.Fresh) (bound : w.boundTo (.set q) = some s)
    (members : ∀ e ∈ w.members q, w.boundTo (.expr e) = some s) (alive : w.stateAlive s)
    (dirty : ∀ revision, (w.set q).cache.get? revision = none) :
    (w.setResult q).2 = .ok (w.setHolds q s) := by
  have state : w.setState q = .ok s := boundState_ok.2 ⟨bound, alive⟩
  rw [fresh.setResult_eq, state]
  dsimp only [Except.bind]
  rw [dirty]
  exact allHold_of_bound members alive

/-- A set that has just been attached has no result. -/
lemma cache_attachSet (q : SetId) (s : StateId) (w : World) (revision : Nat) :
    ((w.attachSet q s).set q).cache.get? revision = none := by
  rw [attachSet_eq, set_onSet, if_pos rfl]
  rfl

/-- **A set that has just been bound** reads as its members hold. -/
lemma Fresh.setResult_bindSet (fresh : w.Fresh) (usable : (w.set q).disposed = false)
    (alive : w.stateAlive s) :
    (w.bindSet q s).2 = .ok () ∧ ((w.bindSet q s).1.setResult q).2 = .ok (w.setHolds q s) := by
  have only := bindingsOnly_attachSet q s w
  have attached : w.bindSet q s = (w.attachSet q s, .ok ()) := by
    rw [bindSet, usable]
    rfl
  have onward := onward_attachSet q s w
  have members (e : ExprId) (mem : e ∈ (w.attachSet q s).members q) :
      (w.attachSet q s).boundTo (.expr e) = some s :=
    boundTo_member_attachSet (only.members_eq q ▸ mem) s
  rw [attached, ← only.setHolds_eq]
  exact ⟨rfl, (onward.fresh fresh).setResult_of_dirty (boundTo_set_attachSet q s w) members
    ((onward.stateAlive_eq s).trans alive) (cache_attachSet q s w)⟩

/-! ## A condition more -/

/-- **A set that lacks a condition gets it** as an expression that is bound where the set is. -/
lemma expr_insertQuality_new (lacks : w.hasQuality q cond = false) :
    ((w.insertQuality q cond).1.expr ⟨w.exprs.size⟩).expression = .new cond ∧
      (w.insertQuality q cond).1.boundTo (.expr ⟨w.exprs.size⟩) = (w.setState q).toOption := by
  have bound := (newExpr_expr cond (w.setState q).toOption w).1
  have new := (bindingsOnly_newExpr cond (w.setState q).toOption w).expr ⟨w.exprs.size⟩
  have listening : (w.insertQuality q cond).1.expr ⟨w.exprs.size⟩ =
      let n := (w.newExpr cond (w.setState q).toOption).1.expr ⟨w.exprs.size⟩
      { n with listeners := n.listeners.subscribe (.owner q) } := by
    rw [insertQuality_of_lacks lacks]
    exact (expr_onExpr _ _ _ _).trans (if_pos rfl)
  rw [boundTo, listening]
  refine ⟨?_, bound⟩
  dsimp only
  rw [new, expr, Table.get_add, if_pos rfl]
  rfl

/-! ## Sets that are made of conditions -/

/-- **A set that was made of some conditions** and has not been read: what it says, and that its
members are bound where it is. -/
structure MadeOf (w : World) (q : SetId) (state : Option StateId) (conds : List String) :
    Prop where
  expressions : w.expressions q = conds.map Expression.new
  exist : ∀ e ∈ w.members q, e.place < w.exprs.size
  bound : w.boundTo (.set q) = state
  members : ∀ e ∈ w.members q, w.boundTo (.expr e) = (w.setState q).toOption
  dirty : ∀ revision, (w.set q).cache.get? revision = none
  usable : (w.set q).disposed = false

/-- Nothing yet. -/
lemma MadeOf.start {state : Option StateId} (empty : w.members q = [])
    (bound : w.boundTo (.set q) = state) (dirty : ∀ revision, (w.set q).cache.get? revision = none)
    (usable : (w.set q).disposed = false) : w.MadeOf q state [] where
  expressions := by rw [World.expressions, empty]; rfl
  exist := by rw [empty]; exact nofun
  bound := bound
  members := by rw [empty]; exact nofun
  dirty := dirty
  usable := usable

/-- **The next condition**, if it is another one. -/
lemma MadeOf.insert {state : Option StateId} (made : w.MadeOf q state conds) (new : cond ∉ conds) :
    (w.insertQuality q cond).1.MadeOf q state (conds ++ [cond]) := by
  have sources : w.conditions q = conds := by
    have same := congrArg (List.map Expression.source) made.expressions
    rw [World.expressions, List.map_map, List.map_map] at same
    exact same.trans (List.map_id' _)
  have lacks : w.hasQuality q cond = false := by
    rw [← Bool.not_eq_true, hasQuality_iff, sources]
    exact new
  have set := set_insertQuality q q cond w
  have members := (members_insertQuality lacks q).trans (if_pos rfl)
  have onward := onward_insertQuality q cond w
  have state : (w.insertQuality q cond).1.setState q = w.setState q := by
    rw [setState, setState, set]
    exact onward.boundState_eq _ _
  obtain ⟨expression, bound⟩ := expr_insertQuality_new lacks
  have old (e : ExprId) (mem : e ∈ w.members q) :=
    expr_insertQuality (made.exist e mem) q cond
  refine ⟨?_, fun e mem => ?_, ?_, fun e mem => ?_, ?_, ?_⟩
  · rw [World.expressions, members, List.map_append, List.map_append, ← made.expressions,
      List.map_singleton, List.map_singleton, expression]
    refine congrArg (· ++ _) (List.map_congr_left fun e mem => ?_)
    rw [old e mem]
  · rw [members, List.mem_append, List.mem_singleton] at mem
    rcases mem with mem | rfl
    · exact Nat.lt_trans (made.exist e mem) (insertQuality_new lacks).1
    · exact (insertQuality_new lacks).1
  · rw [boundTo, set]
    exact made.bound
  · rw [state]
    rw [members, List.mem_append, List.mem_singleton] at mem
    rcases mem with mem | rfl
    · rw [boundTo, old e mem]
      exact made.members e mem
    · exact bound
  · rw [set]
    exact made.dirty
  · rw [set]
    exact made.usable

/-- One condition after the other. -/
lemma MadeOf.insertAll {state : Option StateId} {done : List String}
    (made : w.MadeOf q state done) (distinct : (done ++ conds).Nodup) :
    (conds.foldl (fun w cond => (w.insertQuality q cond).1) w).MadeOf q state (done ++ conds) := by
  induction conds generalizing w done with
  | nil => rwa [List.append_nil]
  | cons cond rest ih =>
      rw [List.append_cons] at distinct ⊢
      refine ih (made.insert fun mem => ?_) distinct
      have apart := (List.nodup_append.1 (List.nodup_append.1 distinct).1).2.2
      exact apart cond mem cond (List.mem_singleton_self cond) rfl

/-- **A new set is made of the conditions it is given**, if they are distinct. -/
lemma madeOf_newSet (distinct : conds.Nodup) (state : Option StateId) (w : World) :
    (w.newSet conds state).1.MadeOf ⟨w.sets.size⟩ state conds := by
  have new : ({ w with sets := w.sets.add .new } : World).set ⟨w.sets.size⟩ = .new := by
    rw [set, Table.get_add, if_pos rfl]
  have empty : ({ w with sets := w.sets.add .new } : World).members ⟨w.sets.size⟩ = [] := by
    rw [members, new]
    rfl
  suffices bare : _ from MadeOf.insertAll (bare : World.MadeOf _ _ state []) distinct
  cases state with
  | none =>
      refine .start empty ?_ ?_ ?_
      · rw [boundTo, new]
        rfl
      · rw [new]
        exact fun _ => rfl
      · rw [new]
        rfl
  | some s =>
      have only := bindingsOnly_attachSet ⟨w.sets.size⟩ s { w with sets := w.sets.add .new }
      refine .start ((only.members_eq _).trans empty) (boundTo_set_attachSet _ s _)
        (cache_attachSet _ s _) ?_
      rw [only.set, new]
      rfl

/-- **A set that was made where a state is** comes to whether its members hold there. -/
lemma MadeOf.setResult (made : w.MadeOf q (some s) conds) (fresh : w.Fresh)
    (alive : w.stateAlive s) : (w.setResult q).2 = .ok (w.setHolds q s) := by
  have state : w.setState q = .ok s := boundState_ok.2 ⟨made.bound, alive⟩
  refine fresh.setResult_of_dirty made.bound (fun e mem => ?_) alive made.dirty
  rw [made.members e mem, state]
  rfl

/-! ## A set and its conditions in one -/

/-- **To check a condition that says all that a set says** is to check the set. -/
lemma setHolds_eq_joined (same : w.expressions q = conds.map Expression.new) (nonempty : conds ≠ [])
    (spelled : ∀ cond ∈ conds, Spelled cond) (within : WithinLimit (joined conds)) (s : StateId) :
    w.setHolds q s = (Expression.new (joined conds)).check (w.store s).get? := by
  rw [setHolds_eq_all, same, List.all_map, check_joined nonempty spelled within]
  rfl

/-- **A quality set is the conjunction of its conditions.**  Take distinct conditions and put them
into one, each in parentheses and joined by `and`.  If they are not nested too deeply, that is a
condition, and in every world that a run passes through it says what a set of them says.

* A state meets a new set of the conditions exactly if it meets the one condition; and that is what
  the set comes to if it is made at the state, or bound there once it is made.
* So does any set with these conditions that is bound to the state, whatever has happened since it
  was made, if nodes that have an owner are left to their owner.
* Of any two conditions the one condition is the conjunction. -/
theorem conjunction_of_passes {look : Supervisor} (watches : look.Watches) {depth : Nat}
    {steps : List Step} (passes : Passes look depth steps w) (nonempty : conds ≠ [])
    (distinct : conds.Nodup) (parse : ∀ cond ∈ conds, ∃ c, Condition.parse cond = .ok c)
    (within : WithinLimit (joined conds)) :
    let met (s : StateId) := (w.checkAgainst (.new (joined conds)) s).2
    (∃ c, Condition.parse (joined conds) = .ok c) ∧
    (∀ (state : Option StateId) (s : StateId),
      let v := (w.newSet conds state).1
      let q := (w.newSet conds state).2
      (v.setCheck q s).2 = met s ∧
      (w.stateAlive s → (state = some s → (v.setResult q).2 = .ok (met s)) ∧
        (v.bindSet q s).2 = .ok () ∧ ((v.bindSet q s).1.setResult q).2 = .ok (met s))) ∧
    (look.Obeys Rule.owned.allows → ∀ q s, w.Alive (.set q) → w.boundTo (.set q) = some s →
      w.stateAlive s → w.expressions q = conds.map Expression.new →
        (w.setResult q).2 = .ok (met s)) ∧
    ∀ a b left right, Condition.parse a = .ok left → Condition.parse b = .ok right →
      WithinLimit ("(" ++ a ++ ") && (" ++ b ++ ")") →
        Condition.parse ("(" ++ a ++ ") && (" ++ b ++ ")") = .ok (.and left right) := by
  intro met
  have spelled (cond : String) (mem : cond ∈ conds) : Spelled cond := by
    obtain ⟨c, parses⟩ := parse cond mem
    exact spelled_of_parse parses
  have fresh := Fresh.invariant.of_passes watches passes
  have holds {v : World} {q : SetId} (made : v.expressions q = conds.map Expression.new)
      (s : StateId) (same : (v.store s).get? = (w.store s).get?) : v.setHolds q s = met s := by
    rw [setHolds_eq_joined made nonempty spelled within, same]
    exact (checkAgainst_value _ s w).symm
  refine ⟨?_, fun state s => ?_, fun obeys q s alive bound stateAlive same => ?_,
    fun a b left right => parse_and⟩
  · obtain ⟨first, rest, rfl⟩ := List.exists_cons_of_ne_nil nonempty
    exact ⟨_, parse_joined spelled within⟩
  · intro v q
    have made : v.MadeOf q state conds := madeOf_newSet distinct state w
    have onward : w.Onward v := onward_newSet conds state w
    have value : v.setHolds q s = met s := by
      refine holds made.expressions s ?_
      rw [onward.states s]
      rfl
    refine ⟨(setCheck_value q s v).trans value, fun alive => ?_⟩
    have alive : v.stateAlive s := (onward.stateAlive_eq s).trans alive
    rw [← value]
    refine ⟨?_, (onward.fresh fresh).setResult_bindSet made.usable alive⟩
    rintro rfl
    exact made.setResult (onward.fresh fresh) alive
  · obtain ⟨-, coherent⟩ := Preserved.coherent.of_passes ⟨.empty, .empty⟩ obeys passes
    rw [coherent.setResult_value alive id bound stateAlive, holds same s rfl]

/-- A text with a parenthesis in quotes, and a word without them. -/
def whoAndNotShut : List String :=
  ["$who == 'a) && (b'", "not $shut"]

/-- A set with two conditions at a state that meets them only later, and a state that does not. -/
def metLater : List Act :=
  [.state (.create "state"), .set (.create "set" whoAndNotShut (some "state")),
    .node (.result "set"), .state (.set "state" "who" (.scalar (.text "a) && (b"))),
    .state (.create "other")]

/-- The set that there is, another one like it and the condition in one are met by the first state,
and the second one does not meet them. -/
theorem conjunction_of_passes_metLater :
    let w := runUnder .careful fire (metLater.map .act) .empty
    let v := (w.newSet whoAndNotShut none).1
    let met (s : StateId) := (w.checkAgainst (.new (joined whoAndNotShut)) s).2
    met ⟨0⟩ = true ∧ met ⟨1⟩ = false ∧ (w.setResult ⟨0⟩).2 = .ok true ∧
      ((v.bindSet ⟨1⟩ ⟨0⟩).1.setResult ⟨1⟩).2 = .ok true ∧ (v.setCheck ⟨1⟩ ⟨1⟩).2 = false := by
  intro w v met
  have watches : Supervisor.careful.Watches :=
    fun step w w' passed => (Supervisor.careful_obeys step w w' passed).1
  have passes : Passes .careful 0 (metLater.map .act) w := .inr rfl
  have parses : ∀ cond ∈ whoAndNotShut, ∃ c, Condition.parse cond = .ok c := by
    intro cond mem
    simp only [whoAndNotShut, List.mem_cons, List.not_mem_nil, or_false] at mem
    rcases mem with rfl | rfl
    · exact ⟨_, rfl⟩
    · exact ⟨_, rfl⟩
  have within : WithinLimit (joined whoAndNotShut) := by decide +kernel
  obtain ⟨-, built, always, -⟩ := conjunction_of_passes watches passes
    (by decide) (by decide) parses within
  have first : met ⟨0⟩ = true := by decide +kernel
  have second : met ⟨1⟩ = false := by decide +kernel
  have alive : w.stateAlive ⟨0⟩ := by decide +kernel
  have setAlive : w.setAlive ⟨0⟩ := by decide +kernel
  have bound : w.boundTo (.set ⟨0⟩) = some ⟨0⟩ := by decide +kernel
  obtain ⟨-, bindable⟩ := (built none ⟨0⟩).2 alive
  refine ⟨first, second, ?_, bindable.2.trans (congrArg _ first), (built none ⟨1⟩).1.trans second⟩
  exact (always Supervisor.careful_obeys ⟨0⟩ ⟨0⟩ (setAlive_iff.1 setAlive) bound alive rfl).trans
    (congrArg _ first)

end StoryEngine.World
