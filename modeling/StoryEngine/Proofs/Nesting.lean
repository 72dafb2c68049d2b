import Mathlib.Order.Bounds.Basic
import StoryEngine.Condition.Parse
import StoryEngine.Proofs.Grammar

/-!
# How deep conditions are nested

The limit on nesting is put to a list of tokens, by one count of parentheses and operators.  What it
is there for is a bound on how deep a program goes that calls itself: a reader at a parenthesis, and
whoever goes through a condition at its operands.

* `leftOpen`, `Phase.parens` — how many parentheses are open after some tokens, and in a phase.
* `Phase.parens_read`, `Phase.deepestParens_read` — what one token does to them, and to the count.
* **`Sentence.isGreatest_leftOpen`** — the count is the greatest number that are open at once.
* `Spells.operators_eq`, `Condition.height_le` — operators are those of the tokens, and bound the
  height.
* `Condition.evaluateWithin`, `Condition.collectWithin` — evaluation and the search for qualities,
  given how deep they may go.
* `parse_eq_ok_iff` — what a text has to be to be a condition.
* **`nesting_bounds`** — the limit bounds all of these.
-/

namespace StoryEngine

/-! ## Parentheses that are open -/

/-- Whether a token opens a parenthesis. -/
def Token.opens : Token → Bool
  | .openParen => true
  | _ => false

/-- Whether a token closes a parenthesis. -/
def Token.closes : Token → Bool
  | .closeParen => true
  | _ => false

/-- **How many parentheses are open after some tokens.** -/
def leftOpen (tokens : List Token) : Nat :=
  tokens.countP Token.opens - tokens.countP Token.closes

/-- What is open in a phase. -/
def Phase.frames : Phase → List Frame
  | .operand frames => frames
  | .operator frames _ => frames

/-- Whether something open is a parenthesis. -/
def Frame.isParen : Frame → Bool
  | .paren => true
  | _ => false

/-- **How many parentheses are open in a phase.**  This is how deep a parser is in itself that calls
itself at a parenthesis and comes back when it is closed. -/
def Phase.parens (phase : Phase) : Nat :=
  phase.frames.countP Frame.isParen

/-- To finish what binds tightly leaves parentheses open. -/
lemma countP_isParen_close (k : Nat) (frames : List Frame) (c : Condition) :
    (close k frames c).1.countP Frame.isParen = frames.countP Frame.isParen := by
  induction frames generalizing c with
  | nil => rfl
  | cons frame frames ih =>
    cases frame with
    | negation => exact ih (.not c)
    | right op left =>
      rcases Nat.lt_or_ge op.strength k with stays | finished
      · rw [close_right_of_lt stays]
      · rw [close_right_of_le finished]
        exact ih (op.join left c)
    | paren => rfl

/-- **What one token does to the parentheses that are open.** -/
lemma Phase.parens_read {phase next : Phase} {token : Token}
    (reads : phase.read token = some next) :
    next.parens + (if token.closes then 1 else 0) =
      phase.parens + if token.opens then 1 else 0 := by
  cases phase with
  | operand frames =>
    rcases Phase.read_operand_cases reads with ⟨rfl, rfl⟩ | ⟨rfl, rfl⟩ | ⟨c, isAtom, rfl⟩
    · exact List.countP_cons_of_pos (p := Frame.isParen) (a := .paren) rfl
    · rfl
    · cases token <;> first | rfl | cases isAtom
  | operator frames last =>
    rcases Phase.read_operator_cases reads with ⟨rfl, outer, c, closed, rfl⟩ | ⟨op, isOperator, rfl⟩
    · have same := countP_isParen_close 1 frames last
      rw [closed, List.countP_cons_of_pos rfl] at same
      exact same
    · have same := countP_isParen_close op.strength frames last
      cases token <;> first | exact same | cases isOperator

/-- **What some tokens do to the parentheses that are open.** -/
lemma Phase.parens_readAll {phase last : Phase} {tokens : List Token}
    (reads : phase.readAll tokens = some last) :
    last.parens + tokens.countP Token.closes = phase.parens + tokens.countP Token.opens := by
  induction tokens generalizing phase with
  | nil =>
    obtain rfl := Option.some.inj reads
    rfl
  | cons token rest ih =>
    obtain ⟨next, first, reads⟩ := Option.bind_eq_some_iff.1 reads
    have one := Phase.parens_read first
    have others := ih reads
    rw [List.countP_cons, List.countP_cons]
    omega

/-- Tokens that can be read from the start on close no more parentheses than they open. -/
lemma parens_of_readAll {tokens : List Token} {last : Phase}
    (reads : (Phase.operand []).readAll tokens = some last) :
    tokens.countP Token.closes ≤ tokens.countP Token.opens ∧ last.parens = leftOpen tokens := by
  have balance := Phase.parens_readAll reads
  have start : (Phase.operand []).parens = 0 := rfl
  rw [leftOpen]
  omega

/-! ## The most that are open at once -/

/-- The count does not go below what it starts with. -/
lemma le_deepestParens (opened deepest : Nat) (tokens : List Token) :
    deepest ≤ deepestParens opened deepest tokens := by
  induction tokens generalizing opened deepest with
  | nil => exact Nat.le_refl _
  | cons token rest ih =>
    cases token with
    | openParen => exact (Nat.le_max_left _ _).trans (ih _ _)
    | _ => exact ih _ _

/-- **The count goes along with reading.** -/
lemma Phase.deepestParens_read {phase next : Phase} {token : Token}
    (reads : phase.read token = some next) {deepest : Nat} (le : phase.parens ≤ deepest)
    (rest : List Token) : deepestParens phase.parens deepest (token :: rest) =
      deepestParens next.parens (max deepest next.parens) rest := by
  have balance := Phase.parens_read reads
  cases token with
  | openParen =>
    have same : next.parens = phase.parens + 1 := balance
    rw [same, deepestParens]
  | closeParen =>
    have same : next.parens + 1 = phase.parens := balance
    rw [deepestParens, ← same, Nat.add_sub_cancel, Nat.max_eq_left (by omega)]
  | _ =>
    have same : next.parens = phase.parens := balance
    rw [same, Nat.max_eq_left le]
    rfl

/-- **Nowhere are more parentheses open than the count says**, as far as tokens can be read. -/
lemma Phase.parens_le_deepestParens {phase mid : Phase} {before tokens : List Token}
    (starts : before <+: tokens) (reads : phase.readAll before = some mid) {deepest : Nat}
    (le : phase.parens ≤ deepest) : mid.parens ≤ deepestParens phase.parens deepest tokens := by
  induction before generalizing phase tokens deepest with
  | nil =>
    obtain rfl := Option.some.inj reads
    exact le.trans (le_deepestParens _ _ _)
  | cons token before ih =>
    obtain ⟨rest, rfl⟩ := starts
    obtain ⟨next, first, reads⟩ := Option.bind_eq_some_iff.1 reads
    rw [List.cons_append, Phase.deepestParens_read first le]
    exact ih (List.prefix_append _ _) reads (Nat.le_max_right _ _)

/-- **Somewhere as many parentheses are open as the count says**, if all tokens can be read: at some
place, unless as many were open before. -/
lemma Phase.exists_parens_eq {phase last : Phase} {tokens : List Token}
    (reads : phase.readAll tokens = some last) {deepest : Nat} (le : phase.parens ≤ deepest) :
    deepestParens phase.parens deepest tokens = deepest ∨ ∃ before mid, before <+: tokens ∧
      phase.readAll before = some mid ∧ mid.parens = deepestParens phase.parens deepest tokens := by
  induction tokens generalizing phase deepest with
  | nil => exact .inl rfl
  | cons token rest ih =>
    obtain ⟨next, first, reads⟩ := Option.bind_eq_some_iff.1 reads
    have step (before : List Token) : phase.readAll (token :: before) = next.readAll before := by
      rw [Phase.readAll_cons, first, Option.bind_some]
    rw [Phase.deepestParens_read first le]
    rcases ih reads (Nat.le_max_right deepest next.parens) with
      same | ⟨before, mid, inside, there, same⟩
    · rcases Nat.le_total next.parens deepest with few | many
      · exact .inl (same.trans (Nat.max_eq_left few))
      · refine .inr ⟨[token], next, (List.prefix_cons_inj token).2 List.nil_prefix, step [], ?_⟩
        rw [same, Nat.max_eq_right many]
    · exact .inr ⟨token :: before, mid, (List.prefix_cons_inj token).2 inside,
        (step before).trans there, same⟩

/-- **Nowhere are more parentheses open than may be**, in any text that is read at all. -/
lemma parens_le_maxNesting {tokens before : List Token} {mid : Phase}
    (shallow : nesting tokens ≤ maxNesting) (starts : before <+: tokens)
    (reads : (Phase.operand []).readAll before = some mid) : mid.parens ≤ maxNesting :=
  (Phase.parens_le_deepestParens starts reads (Nat.le_refl _)).trans
    ((Nat.le_add_right _ _).trans shallow)

/-- Tokens that start a sentence can be read. -/
lemma Sentence.readAll_prefix {tokens before : List Token} {c : Condition}
    (sentence : Sentence tokens c) (starts : before <+: tokens) :
    ∃ mid, (Phase.operand []).readAll before = some mid := by
  obtain ⟨rest, rfl⟩ := starts
  obtain ⟨last, reads, -⟩ := (sentence_iff_readAll _ c).1 sentence
  rw [Phase.readAll_append] at reads
  obtain ⟨mid, there, -⟩ := Option.bind_eq_some_iff.1 reads
  exact ⟨mid, there⟩

/-- **The greatest number of parentheses open at once in a sentence** is what is counted. -/
lemma Sentence.isGreatest_leftOpen {tokens : List Token} {c : Condition}
    (sentence : Sentence tokens c) :
    IsGreatest {n | ∃ before, before <+: tokens ∧ leftOpen before = n}
      (deepestParens 0 0 tokens) := by
  have none : (Phase.operand []).parens = 0 := rfl
  constructor
  · obtain ⟨last, reads⟩ := sentence.readAll_prefix (List.prefix_refl _)
    rcases Phase.exists_parens_eq reads (Nat.le_refl _) with
      same | ⟨before, mid, starts, there, same⟩
    · exact ⟨[], List.nil_prefix, same.symm⟩
    · exact ⟨before, starts, (parens_of_readAll there).2.symm.trans same⟩
  · rintro _ ⟨before, starts, rfl⟩
    obtain ⟨mid, reads⟩ := sentence.readAll_prefix starts
    rw [← (parens_of_readAll reads).2]
    exact Phase.parens_le_deepestParens starts reads (Nat.le_refl _)

/-! ## Operators -/

lemma Operator.operators_join (op : Operator) (a b : Condition) :
    (op.join a b).operators = a.operators + b.operators + 1 := by
  cases op <;> rfl

/-- A token that is a condition by itself is no operator. -/
lemma Token.isOperator_of_atom {token : Token} {c : Condition} (isAtom : token.atom? = some c) :
    c.operators = 0 ∧ token.isOperator = false := by
  cases token <;> cases isAtom <;> exact ⟨rfl, rfl⟩

/-- An operator between operands is an operator. -/
lemma Token.isOperator_of_operator {token : Token} {op : Operator}
    (isOperator : token.operator? = some op) : token.isOperator = true := by
  cases token <;> first | rfl | cases isOperator

/-- **A condition has as many operators as the tokens that spell it.** -/
lemma Spells.operators_eq {strength : Nat} {tokens : List Token} {c : Condition}
    (spells : Spells strength tokens c) : c.operators = tokens.countP Token.isOperator := by
  induction spells with
  | atom isAtom =>
    obtain ⟨none, noOperator⟩ := Token.isOperator_of_atom isAtom
    rw [none, List.countP_singleton, if_neg (by simp [noOperator])]
  | @paren _ tokens _ _ ih =>
    rw [List.cons_append, List.countP_cons_of_neg (by decide), List.countP_append, ih]
    rfl
  | @not _ tokens _ _ ih =>
    rw [List.countP_cons_of_pos rfl, ← ih]
    rfl
  | operator _ isOperator _ _ leftIh rightIh =>
    rw [Operator.operators_join, List.countP_append,
      List.countP_cons_of_pos (Token.isOperator_of_operator isOperator), leftIh, rightIh,
      Nat.add_assoc]

namespace Condition

/-! ## How deep evaluation goes -/

/-- **A condition is no higher than it has operators**, and one more. -/
lemma height_le (c : Condition) : c.height ≤ c.operators + 1 := by
  induction c with
  | literal | quality => exact Nat.le_refl 1
  | not c ih => exact Nat.succ_le_succ ih
  | and a b leftIh rightIh | or a b leftIh rightIh | compare op a b leftIh rightIh =>
    rw [height, operators]
    omega

/-- **Evaluation that calls itself at most so deep**, and otherwise comes to nothing.  It leaves the
right operand alone once the left one has decided. -/
def evaluateWithin (look : Lookup) : (depth : Nat) → Condition → Option Value
  | 0, _ => none
  | _ + 1, .literal v => some v
  | _ + 1, .quality name => some ((look name).getD .null)
  | depth + 1, .not c => do
    let v ← evaluateWithin look depth c
    return .bool !v.isTruthy
  | depth + 1, .and a b => do
    let v ← evaluateWithin look depth a
    if v.isTruthy then return .bool (← evaluateWithin look depth b).isTruthy
    else return .bool false
  | depth + 1, .or a b => do
    let v ← evaluateWithin look depth a
    if v.isTruthy then return .bool true
    else return .bool (← evaluateWithin look depth b).isTruthy
  | depth + 1, .compare op a b => do
    let v ← evaluateWithin look depth a
    return .bool (op.holds v (← evaluateWithin look depth b))

/-- **Collecting qualities by calls at most so deep**, and otherwise nothing. -/
def collectWithin : (depth : Nat) → List String → Condition → Option (List String)
  | 0, _, _ => none
  | _ + 1, names, .literal _ => some names
  | _ + 1, names, .quality name => some (addNew names name)
  | depth + 1, names, .not c => collectWithin depth names c
  | depth + 1, names, .and a b => do collectWithin depth (← collectWithin depth names a) b
  | depth + 1, names, .or a b => do collectWithin depth (← collectWithin depth names a) b
  | depth + 1, names, .compare _ a b => do collectWithin depth (← collectWithin depth names a) b

/-- A depth that suffices for something suffices for one call at least. -/
lemma exists_succ_of_height_le {c : Condition} {depth : Nat} (enough : c.height ≤ depth) :
    ∃ less, depth = less + 1 := by
  have positive : 0 < c.height := by cases c <;> exact Nat.succ_pos _
  exact Nat.exists_eq_add_one.2 (positive.trans_le enough)

/-- **Evaluation goes no deeper than the condition is high.** -/
lemma evaluateWithin_of_height_le (look : Lookup) {depth : Nat} {c : Condition}
    (enough : c.height ≤ depth) : c.evaluateWithin look depth = some (c.evaluate look) := by
  induction c generalizing depth with
  | literal | quality =>
    obtain ⟨depth, rfl⟩ := exists_succ_of_height_le enough
    rfl
  | not c ih =>
    obtain ⟨depth, rfl⟩ := exists_succ_of_height_le enough
    rw [evaluateWithin, ih (Nat.le_of_succ_le_succ enough)]
    rfl
  | and a b leftIh rightIh =>
    obtain ⟨depth, rfl⟩ := exists_succ_of_height_le enough
    obtain ⟨left, right⟩ := Nat.max_le.1 (Nat.le_of_succ_le_succ enough)
    rw [evaluateWithin, leftIh left, rightIh right, evaluate]
    cases decided : (a.evaluate look).isTruthy <;> simp [decided]
  | or a b leftIh rightIh =>
    obtain ⟨depth, rfl⟩ := exists_succ_of_height_le enough
    obtain ⟨left, right⟩ := Nat.max_le.1 (Nat.le_of_succ_le_succ enough)
    rw [evaluateWithin, leftIh left, rightIh right, evaluate]
    cases decided : (a.evaluate look).isTruthy <;> simp [decided]
  | compare op a b leftIh rightIh =>
    obtain ⟨depth, rfl⟩ := exists_succ_of_height_le enough
    obtain ⟨left, right⟩ := Nat.max_le.1 (Nat.le_of_succ_le_succ enough)
    rw [evaluateWithin, leftIh left, rightIh right]
    rfl

/-- **To collect qualities goes no deeper than the condition is high.** -/
lemma collectWithin_of_height_le {depth : Nat} {c : Condition} (enough : c.height ≤ depth)
    (names : List String) : c.collectWithin depth names = some (c.collect names) := by
  induction c generalizing depth names with
  | literal | quality =>
    obtain ⟨depth, rfl⟩ := exists_succ_of_height_le enough
    rfl
  | not c ih =>
    obtain ⟨depth, rfl⟩ := exists_succ_of_height_le enough
    exact ih (Nat.le_of_succ_le_succ enough) names
  | and a b leftIh rightIh | or a b leftIh rightIh | compare op a b leftIh rightIh =>
    obtain ⟨depth, rfl⟩ := exists_succ_of_height_le enough
    obtain ⟨left, right⟩ := Nat.max_le.1 (Nat.le_of_succ_le_succ enough)
    rw [collectWithin, leftIh left]
    exact rightIh right _

end Condition

/-! ## Texts -/

/-- **What a text has to be to be a condition**: it is cut into tokens, they are not nested too
deeply, and they are a sentence that spells the condition. -/
lemma parse_eq_ok_iff {source : String} {c : Condition} :
    Condition.parse source = .ok c ↔ ∃ tokens, Token.ofText source = .ok tokens ∧
      nesting (tokens.map Placed.token) ≤ maxNesting ∧ Sentence (tokens.map Placed.token) c := by
  rw [Condition.parse]
  rcases Token.ofText source with fault | tokens
  · simp
  · rcases Nat.lt_or_ge maxNesting (nesting (tokens.map Placed.token)) with deep | shallow
    · simp [ofTokens_eq_tooDeep deep, deep]
    · simp [ofTokens_eq_ok_iff shallow, shallow]

/-- **The limit on nesting bounds every condition that can be read.**  Its operators are as many as
those among its tokens.  Together with the greatest number of parentheses open at once they keep
within the limit, and the condition is no higher than they are many, and one more.  So evaluation
and the search for qualities go no deeper than the limit says, and one more.

Nor does reading go deeper into parentheses than the limit says, at any place of any text that is
not refused for its nesting. -/
theorem nesting_bounds (source : String) :
    (∀ c, Condition.parse source = .ok c → ∃ tokens, Token.ofText source = .ok tokens ∧
      IsGreatest {n | ∃ before, before <+: tokens.map Placed.token ∧ leftOpen before = n}
        (deepestParens 0 0 (tokens.map Placed.token)) ∧
      c.operators = (tokens.map Placed.token).countP Token.isOperator ∧
      c.operators + deepestParens 0 0 (tokens.map Placed.token) ≤ maxNesting ∧
      c.height ≤ c.operators + 1 ∧
      (∀ look, c.evaluateWithin look (maxNesting + 1) = some (c.evaluate look)) ∧
      c.collectWithin (maxNesting + 1) [] = some c.names ∧
      ∀ before, before <+: tokens.map Placed.token →
        ∃ mid, (Phase.operand []).readAll before = some mid ∧ mid.parens = leftOpen before) ∧
    ∀ tokens, Token.ofText source = .ok tokens →
      Condition.parse source ≠ .error (.tooDeep maxNesting) →
      ∀ before mid, before <+: tokens.map Placed.token →
        (Phase.operand []).readAll before = some mid → mid.parens ≤ maxNesting := by
  refine ⟨fun c parses => ?_, fun tokens spelled accepted before mid starts reads => ?_⟩
  · obtain ⟨tokens, spelled, shallow, sentence⟩ := parse_eq_ok_iff.1 parses
    have operators := Spells.operators_eq sentence
    have within : c.operators + deepestParens 0 0 (tokens.map Placed.token) ≤ maxNesting := by
      rw [operators, Nat.add_comm]
      exact shallow
    have high : c.height ≤ maxNesting + 1 :=
      c.height_le.trans (Nat.succ_le_succ ((Nat.le_add_right _ _).trans within))
    refine ⟨tokens, spelled, sentence.isGreatest_leftOpen, operators, within, c.height_le,
      fun look => c.evaluateWithin_of_height_le look high, c.collectWithin_of_height_le high [],
      fun before starts => ?_⟩
    obtain ⟨mid, reads⟩ := sentence.readAll_prefix starts
    exact ⟨mid, reads, (parens_of_readAll reads).2⟩
  · refine parens_le_maxNesting (Nat.not_lt.1 fun deep => accepted ?_) starts reads
    rw [Condition.parse, spelled]
    exact ofTokens_eq_tooDeep deep

/-- Three operators in two parentheses: a condition four nodes high. -/
theorem nesting_bounds_not_compare_or :
    let c : Condition :=
      .not (.compare .eq (.or (.quality "a") (.quality "b")) (.literal (.bool true)))
    Condition.parse "not (($a || $b) == true)" = .ok c ∧ c.operators = 3 ∧ c.height = 4 ∧
      ∃ tokens, Token.ofText "not (($a || $b) == true)" = .ok tokens ∧
        IsGreatest {n | ∃ before, before <+: tokens.map Placed.token ∧ leftOpen before = n} 2 ∧
        (tokens.map Placed.token).countP Token.isOperator = 3 := by
  intro c
  have parses : Condition.parse "not (($a || $b) == true)" = .ok c := rfl
  obtain ⟨tokens, spelled, greatest, operators, -⟩ := (nesting_bounds _).1 c parses
  have deepest : (Token.ofText "not (($a || $b) == true)").map
      (fun tokens => deepestParens 0 0 (tokens.map Placed.token)) = .ok 2 := rfl
  rw [spelled] at deepest
  have two : deepestParens 0 0 (tokens.map Placed.token) = 2 := Except.ok.inj deepest
  exact ⟨parses, rfl, rfl, tokens, spelled, two ▸ greatest, operators.symm⟩

end StoryEngine
