import Mathlib.Tactic.Common
import StoryEngine.Condition.Grammar

/-!
# Reading follows the grammar

The stack of open frames that `Phase.read` keeps, read as a derivation that is not finished yet.

* `demand` — how tightly the next operand has to bind to be taken into what is open.
* `Opened` — the tokens that led to a stack of frames; every left operand on it has its derivation.
* `Phase.Follows` — the tokens that led to a phase.
* `Phase.Follows.read` — **soundness, one token**: whatever a token is read as, the tokens so far
  lead to the phase reached.
* `Spells.readAll` — **completeness**: tokens that spell a condition are read to their end, and
  what is left open finishes as if the condition had been one token.
* `sentence_iff_readAll` — both together: sentences are what is read and leaves nothing open.
* `ofTokens_grammar` — reading accepts the sentences of the grammar, each as its only tree, and
  refuses whatever is nested too deeply.

Both directions turn on `close`.  It finishes exactly the frames that the operator to come may not
leave open (`Opened.close`), and nothing at all where the frames demand no more than that operator
gives (`close_eq_of_demand_le`): the first makes chains associate to the left, the second keeps a
tighter operator on the right of a looser one.
-/

namespace StoryEngine

/-! ## Strengths -/

lemma Operator.one_le_strength (op : Operator) : 1 ≤ op.strength := by
  cases op <;> simp [Operator.strength]

lemma Operator.strength_le_three (op : Operator) : op.strength ≤ 3 := by
  cases op <;> simp [Operator.strength]

/-- What binds tightly enough for one place does so for a place that asks for less. -/
lemma Spells.mono {strength weaker : Nat} {tokens : List Token} {c : Condition}
    (spells : Spells strength tokens c) (le : weaker ≤ strength) : Spells weaker tokens c := by
  cases spells with
  | atom isAtom => exact .atom isAtom
  | paren inner => exact .paren inner
  | not operand => exact .not operand
  | operator bound isOperator left right =>
    exact .operator (Nat.le_trans le bound) isOperator left right

/-! ## What is open -/

/-- **How tightly an operand has to bind** to be taken in as it is: a `not` wants a unary
condition, an operator something tighter than itself, a parenthesis takes everything. -/
def demand : List Frame → Nat
  | .negation :: _ => 4
  | .right op _ :: _ => op.strength + 1
  | _ => 1

lemma demand_le_four (frames : List Frame) : demand frames ≤ 4 := by
  unfold demand
  split
  · exact Nat.le_refl 4
  · exact Nat.succ_le_succ (Operator.strength_le_three _)
  · omega

/-- **The tokens that led to a stack of frames.**  An operator stands on frames that demand no more
than it gives, with a left operand that may have its own strength. -/
inductive Opened : List Frame → List Token → Prop where
  | nil : Opened [] []
  | paren {frames : List Frame} {tokens : List Token} :
      Opened frames tokens → Opened (.paren :: frames) (tokens ++ [.openParen])
  | negation {frames : List Frame} {tokens : List Token} :
      Opened frames tokens → Opened (.negation :: frames) (tokens ++ [.not])
  | right {frames : List Frame} {tokens lefts : List Token} {token : Token} {op : Operator}
      {left : Condition} :
      Opened frames tokens → demand frames ≤ op.strength → token.operator? = some op →
      Spells op.strength lefts left →
      Opened (.right op left :: frames) (tokens ++ (lefts ++ [token]))

/-- No operator binds as loosely as `0`, so that finishing everything is finishing from `or` on. -/
lemma close_zero (frames : List Frame) (c : Condition) : close 0 frames c = close 1 frames c := by
  induction frames generalizing c with
  | nil => rfl
  | cons frame frames ih =>
    cases frame with
    | negation => exact ih (.not c)
    | right op left =>
      rw [close_right_of_le (Nat.zero_le _), close_right_of_le op.one_le_strength]
      exact ih (op.join left c)
    | paren => rfl

/-- What stays open demands no more than the operator to come gives. -/
lemma demand_close_le {k : Nat} (loosest : 1 ≤ k) (frames : List Frame) (c : Condition) :
    demand (close k frames c).1 ≤ k := by
  induction frames generalizing c with
  | nil => exact loosest
  | cons frame frames ih =>
    cases frame with
    | negation => exact ih (.not c)
    | right op left =>
      rcases Nat.lt_or_ge op.strength k with stays | finished
      · rw [close_right_of_lt stays]
        exact stays
      · rw [close_right_of_le finished]
        exact ih (op.join left c)
    | paren => exact loosest

/-- Frames that demand no more than the operator to come gives are left as they are. -/
lemma close_eq_of_demand_le {frames : List Frame} {k : Nat} (le : demand frames ≤ k)
    (infixed : k ≤ 3) (c : Condition) : close k frames c = (frames, c) := by
  match frames with
  | [] => rfl
  | .paren :: _ => rfl
  | .negation :: _ =>
    have : 4 ≤ k := le
    omega
  | .right _ left :: frames => exact close_right_of_lt le left frames c

/-- **Finishing is deriving.**  The frames that `close` finishes and the condition it is given
spell one condition, which binds as tightly as was asked. -/
lemma Opened.close {frames : List Frame} {before : List Token} (opened : Opened frames before)
    (k : Nat) {strength : Nat} {tokens : List Token} {c : Condition}
    (spells : Spells strength tokens c) (enough : demand frames ≤ strength)
    (tight : k ≤ strength) :
    ∃ before' tokens', before ++ tokens = before' ++ tokens' ∧
      Opened (close k frames c).1 before' ∧ Spells k tokens' (close k frames c).2 := by
  induction opened generalizing strength tokens c with
  | nil => exact ⟨[], tokens, rfl, .nil, spells.mono tight⟩
  | paren outer => exact ⟨_, tokens, rfl, .paren outer, spells.mono tight⟩
  | @negation frames before outer ih =>
    have unary : Spells (max 4 k) (.not :: tokens) (.not c) := .not (spells.mono enough)
    have wanted : demand frames ≤ max 4 k :=
      Nat.le_trans (demand_le_four frames) (Nat.le_max_left 4 k)
    simpa [close_negation] using ih unary wanted (Nat.le_max_right 4 k)
  | @right frames before lefts token op left outer fits isOperator leftSpells ih =>
    rcases Nat.lt_or_ge op.strength k with stays | finished
    · refine ⟨before ++ (lefts ++ [token]), tokens, rfl, ?_⟩
      rw [close_right_of_lt stays]
      exact ⟨.right outer fits isOperator leftSpells, spells.mono tight⟩
    · have joined : Spells op.strength (lefts ++ token :: tokens) (op.join left c) :=
        .operator (Nat.le_refl _) isOperator leftSpells (spells.mono enough)
      simpa [close_right_of_le finished] using ih joined fits finished

/-! ## Phases -/

/-- **The tokens that led to a phase.**  After an operand, the last tokens spell it, and it is
unary: no operator has been read after it. -/
inductive Phase.Follows : Phase → List Token → Prop where
  | operand {frames : List Frame} {tokens : List Token} :
      Opened frames tokens → Follows (.operand frames) tokens
  | operator {frames : List Frame} {before tokens : List Token} {last : Condition} :
      Opened frames before → Spells 4 tokens last →
      Follows (.operator frames last) (before ++ tokens)

namespace Phase

lemma read_atom {token : Token} {c : Condition} (isAtom : token.atom? = some c)
    (frames : List Frame) : (Phase.operand frames).read token = some (.operator frames c) := by
  cases token <;> first
    | exact congrArg (Option.map (Phase.operator frames)) isAtom
    | cases isAtom

lemma read_operator {token : Token} {op : Operator} (isOperator : token.operator? = some op)
    (frames : List Frame) (last : Condition) :
    (Phase.operator frames last).read token =
      some (.operand (.right op (close op.strength frames last).2 ::
        (close op.strength frames last).1)) := by
  cases token <;> first
    | cases isOperator; rfl
    | cases isOperator

/-- What can be read where an operand is due. -/
lemma read_operand_cases {frames : List Frame} {token : Token} {next : Phase}
    (reads : (Phase.operand frames).read token = some next) :
    (token = .openParen ∧ next = .operand (.paren :: frames)) ∨
    (token = .not ∧ next = .operand (.negation :: frames)) ∨
    ∃ c, token.atom? = some c ∧ next = .operator frames c := by
  cases token with
  | openParen => exact .inl ⟨rfl, (Option.some.inj reads).symm⟩
  | not => exact .inr (.inl ⟨rfl, (Option.some.inj reads).symm⟩)
  | quality | number | text | truth | null =>
    exact .inr (.inr ⟨_, rfl, (Option.some.inj reads).symm⟩)
  | _ => cases reads

/-- What can be read where an operator is due. -/
lemma read_operator_cases {frames : List Frame} {last : Condition} {token : Token} {next : Phase}
    (reads : (Phase.operator frames last).read token = some next) :
    (token = .closeParen ∧ ∃ outer c,
      close 1 frames last = (.paren :: outer, c) ∧ next = .operator outer c) ∨
    ∃ op, token.operator? = some op ∧
      next = .operand (.right op (close op.strength frames last).2 ::
        (close op.strength frames last).1) := by
  cases token with
  | closeParen =>
    refine .inl ⟨rfl, ?_⟩
    simp only [Phase.read, close_zero] at reads
    split at reads
    next outer c closed => exact ⟨outer, c, closed, (Option.some.inj reads).symm⟩
    next => cases reads
  | and | or | compare op => exact .inr ⟨_, rfl, (Option.some.inj reads).symm⟩
  | _ => cases reads

/-- Closing what led to a place where an operator is due. -/
lemma Follows.close {frames : List Frame} {last : Condition} {tokens : List Token}
    (follows : (Phase.operator frames last).Follows tokens) {k : Nat} (infixed : k ≤ 3) :
    ∃ before operand, tokens = before ++ operand ∧
      Opened (close k frames last).1 before ∧ Spells k operand (close k frames last).2 := by
  cases follows with
  | operator opened spells =>
    exact opened.close k spells (demand_le_four frames) (Nat.le_succ_of_le infixed)

/-- **What one token does to what led here.** -/
lemma Follows.read {phase next : Phase} {tokens : List Token} {token : Token}
    (follows : phase.Follows tokens) (reads : phase.read token = some next) :
    next.Follows (tokens ++ [token]) := by
  cases phase with
  | operand frames =>
    cases follows with
    | operand opened =>
      rcases read_operand_cases reads with ⟨rfl, rfl⟩ | ⟨rfl, rfl⟩ | ⟨c, isAtom, rfl⟩
      · exact .operand (.paren opened)
      · exact .operand (.negation opened)
      · exact .operator opened (.atom isAtom)
  | operator frames last =>
    rcases read_operator_cases reads with ⟨rfl, outer, c, closed, rfl⟩ | ⟨op, isOperator, rfl⟩
    · obtain ⟨before, inner, rfl, opened, spells⟩ := follows.close (by decide : 1 ≤ 3)
      rw [closed] at opened spells
      -- the parenthesis that stopped `close` is the one that the token closes
      cases opened with
      | paren outerOpened =>
        have grouped : Spells 4 (.openParen :: inner ++ [.closeParen]) c := .paren spells
        simpa using Follows.operator outerOpened grouped
    · obtain ⟨before, lefts, rfl, opened, spells⟩ := follows.close op.strength_le_three
      have fits : demand (StoryEngine.close op.strength frames last).1 ≤ op.strength :=
        demand_close_le op.one_le_strength frames last
      simpa using Follows.operand (.right opened fits isOperator spells)

/-- **Where everything open can be finished, the tokens that led there are a sentence.** -/
lemma Follows.finish {phase : Phase} {tokens : List Token} {c : Condition}
    (follows : phase.Follows tokens) (finishes : phase.finish? = some c) : Sentence tokens c := by
  cases phase with
  | operand frames => cases finishes
  | operator frames last =>
    obtain ⟨before, operand, rfl, opened, spells⟩ := follows.close (by decide : 1 ≤ 3)
    simp only [Phase.finish?, close_zero] at finishes
    split at finishes
    next closed =>
      obtain rfl := Option.some.inj finishes
      rename_i c
      rw [closed] at opened spells
      cases opened
      exact spells
    next => cases finishes

/-! ## Many tokens -/

/-- Reading tokens one after the other. -/
def readAll (phase : Phase) (tokens : List Token) : Option Phase :=
  tokens.foldlM Phase.read phase

@[simp] lemma readAll_nil (phase : Phase) : phase.readAll [] = some phase := rfl

lemma readAll_cons (phase : Phase) (token : Token) (rest : List Token) :
    phase.readAll (token :: rest) = (phase.read token).bind (readAll · rest) := rfl

lemma readAll_append (phase : Phase) (tokens more : List Token) :
    phase.readAll (tokens ++ more) = (phase.readAll tokens).bind (readAll · more) :=
  List.foldlM_append

/-- **Soundness**: the tokens read lead to the phase reached. -/
lemma Follows.readAll {phase last : Phase} {tokens more : List Token}
    (follows : phase.Follows tokens) (reads : phase.readAll more = some last) :
    last.Follows (tokens ++ more) := by
  induction more generalizing phase tokens with
  | nil =>
    obtain rfl := Option.some.inj reads
    simpa using follows
  | cons token rest ih =>
    obtain ⟨next, read, reads⟩ := Option.bind_eq_some_iff.mp reads
    simpa using ih (follows.read read) reads

/-- A run gives a condition where all tokens can be read and what is open then be finished. -/
lemma run_eq_ok_iff (phase : Phase) (tokens : List Placed) (c : Condition) :
    phase.run tokens = .ok c ↔
      ∃ last, phase.readAll (tokens.map Placed.token) = some last ∧ last.finish? = some c := by
  induction tokens generalizing phase with
  | nil => cases finishes : phase.finish? <;> simp [Phase.run, finishes]
  | cons placed rest ih =>
    cases reads : phase.read placed.token <;> simp [Phase.run, readAll_cons, reads, ih]

end Phase

/-- **Completeness.**  Where no more is demanded than they give, tokens that spell a condition are
read to their end, and what is then open finishes as if the condition had been read at once. -/
lemma Spells.readAll {strength : Nat} {tokens : List Token} {c : Condition}
    (spells : Spells strength tokens c) {frames : List Frame} (enough : demand frames ≤ strength) :
    ∃ inner last, (Phase.operand frames).readAll tokens = some (.operator inner last) ∧
      ∀ k, k ≤ strength → k ≤ 4 → close k inner last = close k frames c := by
  induction spells generalizing frames with
  | @atom strength token c isAtom =>
    exact ⟨frames, c, by simp [Phase.readAll_cons, Phase.read_atom isAtom], fun _ _ _ => rfl⟩
  | @paren strength tokens c _ ih =>
    have enough : demand (.paren :: frames) ≤ 1 := Nat.le_refl 1
    obtain ⟨inner, last, reads, closes⟩ := ih enough
    have closed : close 0 inner last = (.paren :: frames, c) := closes 0 (by omega) (by omega)
    refine ⟨frames, c, ?_, fun _ _ _ => rfl⟩
    simp [Phase.readAll_cons, Phase.readAll_append, Phase.read, reads, closed]
  | @not strength tokens c _ ih =>
    have enough : demand (.negation :: frames) ≤ 4 := Nat.le_refl 4
    obtain ⟨inner, last, reads, closes⟩ := ih enough
    refine ⟨inner, last, by simpa [Phase.readAll_cons, Phase.read] using reads, ?_⟩
    intro k _ unary
    exact closes k unary unary
  | @operator strength token op lefts rights left right bound isOperator _ _ leftReads rightReads =>
    have fits : demand frames ≤ op.strength := Nat.le_trans enough bound
    obtain ⟨inner, last, reads, closes⟩ := leftReads fits
    have closed : close op.strength inner last = (frames, left) :=
      (closes _ (Nat.le_refl _) (Nat.le_succ_of_le op.strength_le_three)).trans
        (close_eq_of_demand_le fits op.strength_le_three left)
    have enough : demand (.right op left :: frames) ≤ op.strength + 1 := Nat.le_refl _
    obtain ⟨inner', last', reads', closes'⟩ := rightReads enough
    refine ⟨inner', last', ?_, ?_⟩
    · simp [Phase.readAll_append, Phase.readAll_cons, reads, Phase.read_operator isOperator,
        closed, reads']
    · intro k weaker unary
      have finished : k ≤ op.strength := Nat.le_trans weaker bound
      rw [closes' k (Nat.le_succ_of_le finished) unary, close_right_of_le finished]

/-! ## Conditions -/

/-- **A sentence is what is read to its end and leaves nothing open.** -/
lemma sentence_iff_readAll (tokens : List Token) (c : Condition) :
    Sentence tokens c ↔
      ∃ last, (Phase.operand []).readAll tokens = some last ∧ last.finish? = some c := by
  constructor
  · intro sentence
    have enough : demand [] ≤ 1 := Nat.le_refl 1
    obtain ⟨inner, last, reads, closes⟩ := sentence.readAll enough
    have closed : close 0 inner last = ([], c) := closes 0 (by omega) (by omega)
    exact ⟨_, reads, by simp [Phase.finish?, closed]⟩
  · rintro ⟨last, reads, finishes⟩
    have start : (Phase.operand []).Follows [] := .operand .nil
    exact (start.readAll reads).finish finishes

/-- From the first token on, what is read is what the grammar derives. -/
lemma run_eq_ok_iff_sentence (tokens : List Placed) (c : Condition) :
    (Phase.operand []).run tokens = .ok c ↔ Sentence (tokens.map Placed.token) c := by
  rw [Phase.run_eq_ok_iff, sentence_iff_readAll]

/-- **A sentence has one tree.** -/
lemma Sentence.unique {tokens : List Token} {c c' : Condition} (sentence : Sentence tokens c)
    (sentence' : Sentence tokens c') : c = c' := by
  obtain ⟨last, reads, finishes⟩ := (sentence_iff_readAll tokens c).mp sentence
  obtain ⟨last', reads', finishes'⟩ := (sentence_iff_readAll tokens c').mp sentence'
  obtain rfl := Option.some.inj (reads.symm.trans reads')
  exact Option.some.inj (finishes.symm.trans finishes')

lemma Sentence.ne_nil {tokens : List Token} {c : Condition} (sentence : Sentence tokens c) :
    tokens ≠ [] := by
  cases sentence <;> simp

/-- Tokens that are not nested too deeply are read from left to right. -/
lemma ofTokens_eq_ok_iff {tokens : List Placed}
    (shallow : nesting (tokens.map Placed.token) ≤ maxNesting) (c : Condition) :
    Condition.ofTokens tokens = .ok c ↔ Sentence (tokens.map Placed.token) c := by
  cases tokens with
  | nil =>
    have none : ¬ Sentence [] c := fun sentence => sentence.ne_nil rfl
    simp [Condition.ofTokens, none]
  | cons first rest =>
    rw [← run_eq_ok_iff_sentence]
    simp only [Condition.ofTokens, List.isEmpty_cons, Bool.false_eq_true, if_false,
      if_neg (Nat.not_lt.mpr shallow)]

/-- Tokens that are nested too deeply are refused before anything is read. -/
lemma ofTokens_eq_tooDeep {tokens : List Placed}
    (deep : maxNesting < nesting (tokens.map Placed.token)) :
    Condition.ofTokens tokens = .error (.tooDeep maxNesting) := by
  cases tokens with
  | nil => cases deep
  | cons first rest =>
    simp only [Condition.ofTokens, List.isEmpty_cons, Bool.false_eq_true, if_false, if_pos deep]

/-- **Reading accepts exactly the grammar.**  Tokens that are not nested too deeply are read as a
condition just if they derive it, and they derive no other; tokens that are nested too deeply are
refused, whether they derive a condition or not. -/
theorem ofTokens_grammar (tokens : List Placed) :
    (nesting (tokens.map Placed.token) ≤ maxNesting →
      (∀ c, Condition.ofTokens tokens = .ok c ↔ Sentence (tokens.map Placed.token) c) ∧
      ∀ c c', Sentence (tokens.map Placed.token) c → Sentence (tokens.map Placed.token) c' →
        c = c') ∧
    (maxNesting < nesting (tokens.map Placed.token) →
      Condition.ofTokens tokens = .error (.tooDeep maxNesting)) :=
  ⟨fun shallow => ⟨ofTokens_eq_ok_iff shallow, fun _ _ => Sentence.unique⟩,
    ofTokens_eq_tooDeep⟩

/-- `not $a == 1 || $b` reads as a comparison of a negation in a disjunction, and sixty-five `not`s
are too many. -/
theorem ofTokens_grammar_not_compare_or :
    Sentence [.not, .quality "a", .compare .eq, .number 1, .or, .quality "b"]
      (.or (.compare .eq (.not (.quality "a")) (.literal (.number 1))) (.quality "b")) ∧
    Condition.ofTokens (List.replicate 65 ⟨.not, 0, 1⟩) = .error (.tooDeep maxNesting) := by
  constructor
  · let tokens : List Token := [.not, .quality "a", .compare .eq, .number 1, .or, .quality "b"]
    have shallow : nesting ((tokens.map (Placed.mk · 0 1)).map Placed.token) ≤ maxNesting := by
      decide
    exact (((ofTokens_grammar (tokens.map (Placed.mk · 0 1))).1 shallow).1 _).mp rfl
  · exact (ofTokens_grammar _).2 (by decide)

end StoryEngine
