import StoryEngine.Expression
import StoryEngine.Proofs.Nesting
import StoryEngine.Proofs.Spelling

/-!
# Texts in parentheses

A text that is put in parentheses is read as it is by itself.  No token goes on with a closing
parenthesis: a name or a number ends before it, a text in quotes has ended already, and no symbol
begins with another one and goes on with it.  So texts can be joined without being read.

* `lexeme_append` — **one token** ends before a closing parenthesis, if not earlier.
* `Cut` — the tokens that a text is cut into, wherever it stands; `cut_of_scan` and `Cut.scan` say
  that these are the tokens found.
* `Cut.append_paren` — **all tokens**: a text before a closing parenthesis is cut as it is by
  itself.
* `joined` — conditions joined by `and`, each in parentheses.
* `WithinLimit` — a text that is not nested too deeply.
* `parse_joined`, `parse_and` — **what joined conditions spell**: their conjunction, from the left.
* `check_joined` — joined conditions are met if all of them are.
-/

namespace StoryEngine

open Decimal (isDigit ofDigits)
open Text (isBlank isLetter)

/-! ## One token before a parenthesis -/

/-- A run of characters ends at a character that does not belong, if not before. -/
lemma takeWhile_append_stop {p : Char → Bool} {c : Char} (no : p c = false) (cs rest : List Char) :
    (cs ++ c :: rest).takeWhile p = cs.takeWhile p ∧
      (cs ++ c :: rest).dropWhile p = cs.dropWhile p ++ c :: rest := by
  induction cs with
  | nil => simp [no]
  | cons first cs ih => by_cases belongs : p first <;> simp [belongs, ih]

/-- A number without its sign ends before a parenthesis, and so does an error in it. -/
lemma unsignedNumber_append (cs rest : List Char) :
    unsignedNumber (cs ++ ')' :: rest) = unsignedNumber cs := by
  obtain ⟨whole, dropped⟩ := takeWhile_append_stop (p := isDigit) (c := ')') (by decide) cs rest
  rw [unsignedNumber, unsignedNumber, whole, dropped]
  rcases cs.dropWhile isDigit with _ | ⟨c, more⟩
  · simp
  · by_cases point : c = '.'
    · subst point
      obtain ⟨fraction, -⟩ := takeWhile_append_stop (p := isDigit) (c := ')') (by decide) more rest
      simp only [List.cons_append, fraction]
    · simp [point]

/-- So does a number with a sign. -/
lemma number_append (cs rest : List Char) : number (cs ++ ')' :: rest) = number cs := by
  have unsigned := unsignedNumber_append cs rest
  rcases cs with _ | ⟨c, cs⟩
  · rw [List.nil_append] at unsigned ⊢
    simp [number, unsigned]
  · by_cases minus : c = '-'
    · subst minus
      rw [List.cons_append, number, number, unsignedNumber_append]
    · rw [List.cons_append] at unsigned ⊢
      simp [number, minus, unsigned]

/-- How many characters a number without its sign has: some, and no more than there are. -/
lemma unsignedNumber_length {cs whole fraction : List Char}
    (reads : unsignedNumber cs = .ok (whole, fraction)) :
    0 < unsignedLength whole fraction ∧ unsignedLength whole fraction ≤ cs.length := by
  have length := congrArg List.length (List.takeWhile_append_dropWhile (p := isDigit) (l := cs))
  rw [List.length_append] at length
  simp only [unsignedNumber] at reads
  split at reads
  · next more point =>
      have shorter := List.takeWhile_sublist isDigit (l := more) |>.length_le
      rw [point, List.length_cons] at length
      split at reads
      · split at reads
        · cases reads
        · next some =>
            obtain ⟨rfl, rfl⟩ := Prod.mk.inj (Except.ok.inj reads)
            have := List.length_pos_iff.2 (mt List.isEmpty_iff.2 some)
            simp only [unsignedLength, List.isEmpty_nil, if_true]
            omega
      · next some =>
          obtain ⟨rfl, rfl⟩ := Prod.mk.inj (Except.ok.inj reads)
          simp only [unsignedLength, if_neg some]
          omega
  · split at reads
    · cases reads
    · next some =>
        obtain ⟨rfl, rfl⟩ := Prod.mk.inj (Except.ok.inj reads)
        have := List.length_pos_iff.2 (mt List.isEmpty_iff.2 some)
        simp only [unsignedLength, List.isEmpty_nil, if_true]
        omega

/-- So has a number with a sign. -/
lemma number_length {cs : List Char} {token : Token} {n : Nat}
    (reads : number cs = .ok (token, n)) : 0 < n ∧ n ≤ cs.length := by
  unfold number at reads
  split at reads
  · split at reads
    · next whole fraction unsigned =>
        obtain ⟨-, rfl⟩ := Prod.mk.inj (Except.ok.inj reads)
        have := unsignedNumber_length unsigned
        rw [List.length_cons]
        omega
    · cases reads
    · cases reads
  · split at reads
    · next whole fraction unsigned =>
        obtain ⟨-, rfl⟩ := Prod.mk.inj (Except.ok.inj reads)
        exact unsignedNumber_length unsigned
    · cases reads

/-- **A text in quotes has ended**, whatever follows. -/
lemma quotedBody_append {quote : Char} {cs s : List Char} {n : Nat}
    (reads : quotedBody quote cs = some (s, n)) (rest : List Char) :
    quotedBody quote (cs ++ rest) = some (s, n) ∧ n ≤ cs.length := by
  fun_induction quotedBody quote cs generalizing s n with
  | case1 => cases reads
  | case2 => cases reads
  | case3 c cs ih =>
      obtain ⟨⟨inner, m⟩, found, same⟩ := Option.map_eq_some_iff.1 reads
      cases same
      obtain ⟨again, fits⟩ := ih found
      simp [quotedBody, again, fits]
  | case4 cs last escapes =>
      cases reads
      have plain : quote ≠ '\\' := by
        rintro rfl
        cases cs with
        | nil => exact last rfl rfl
        | cons c cs => exact escapes c cs rfl rfl
      simp [quotedBody, plain]
  | case5 c cs last escapes other ih =>
      obtain ⟨⟨inner, m⟩, found, same⟩ := Option.map_eq_some_iff.1 reads
      cases same
      obtain ⟨again, fits⟩ := ih found
      have plain : c ≠ '\\' := by
        rintro rfl
        cases cs with
        | nil => exact last rfl rfl
        | cons c cs => exact escapes c cs rfl rfl
      simp [quotedBody, plain, other, again, fits]

/-- **A symbol or a quality ends before a parenthesis.** -/
lemma lexeme_append_of_mem_symbols {c : Char} (symbol : c ∈ symbols) {cs : List Char}
    {token : Token} {n : Nat} (reads : lexeme (c :: cs) = .ok (token, n)) (rest : List Char) :
    lexeme (c :: cs ++ ')' :: rest) = .ok (token, n) ∧ 0 < n ∧ n ≤ (c :: cs).length := by
  have noEquals {cs : List Char} (no : ∀ more, cs = '=' :: more → False) :
      ∀ more, cs ++ ')' :: rest ≠ '=' :: more := by
    rcases cs with _ | ⟨c, cs⟩
    · simp
    · simpa using no
  have name := (takeWhile_append_stop (p := isNameChar) (c := ')') (by decide) cs rest).1
  have shorter := (List.takeWhile_sublist isNameChar (l := cs)).length_le
  generalize whole : c :: cs = text at reads ⊢
  revert reads
  fun_cases lexeme text <;> intro reads
  case case11 no =>
    cases reads
    exact ⟨(lexeme_symbol (noEquals no)).1, by simp⟩
  case case13 no =>
    cases reads
    exact ⟨(lexeme_symbol (noEquals no)).2.1, by simp⟩
  case case15 no =>
    cases reads
    exact ⟨(lexeme_symbol (noEquals no)).2.2, by simp⟩
  case case17 some =>
    cases reads
    obtain ⟨-, rfl⟩ := List.cons.inj whole
    rw [List.cons_append, lexeme, name, if_neg some]
    refine ⟨rfl, Nat.add_pos_left Nat.one_pos _, ?_⟩
    rw [List.length_cons, Nat.add_comm]
    exact Nat.succ_le_succ shorter
  case case18 | case20 | case21 =>
    obtain ⟨rfl, rfl⟩ := List.cons.inj whole
    simp only [symbols, List.mem_cons, List.not_mem_nil, or_false] at symbol
    rcases symbol with rfl | rfl | rfl | rfl | rfl | rfl | rfl | rfl | rfl <;> contradiction
  all_goals cases reads
  all_goals simp [lexeme]

/-- **A text, a number or a word ends before a parenthesis.** -/
lemma lexeme_append_of_notMem_symbols {c : Char} (noSymbol : c ∉ symbols) {cs : List Char}
    {token : Token} {n : Nat} (reads : lexeme (c :: cs) = .ok (token, n)) (rest : List Char) :
    lexeme (c :: cs ++ ')' :: rest) = .ok (token, n) ∧ 0 < n ∧ n ≤ (c :: cs).length := by
  rw [lexeme_of_not_mem_symbols noSymbol] at reads
  rw [List.cons_append, lexeme_of_not_mem_symbols noSymbol]
  split at reads
  · next quotes =>
      rw [if_pos quotes]
      split at reads
      · next s m found =>
          obtain ⟨again, fits⟩ := quotedBody_append found (')' :: rest)
          cases reads
          rw [again, List.length_cons]
          exact ⟨rfl, by omega, by omega⟩
      · cases reads
  · next noQuotes =>
      rw [if_neg noQuotes]
      split at reads
      · next digits =>
          rw [if_pos digits, ← List.cons_append, number_append]
          exact ⟨reads, number_length reads⟩
      · next noDigits =>
          rw [if_neg noDigits]
          split at reads
          · next letter =>
              have word : (cs ++ ')' :: rest).takeWhile isNameChar = cs.takeWhile isNameChar :=
                (takeWhile_append_stop (by decide) cs rest).1
              have shorter := (List.takeWhile_sublist isNameChar (l := cs)).length_le
              rw [if_pos letter, word]
              split at reads
              · next meaning =>
                  cases reads
                  exact ⟨rfl, Nat.succ_pos _, Nat.succ_le_succ shorter⟩
              · cases reads
          · cases reads

/-- **A token ends before a parenthesis**, if not earlier. -/
lemma lexeme_append {cs : List Char} {token : Token} {n : Nat}
    (reads : lexeme cs = .ok (token, n)) (rest : List Char) :
    lexeme (cs ++ ')' :: rest) = .ok (token, n) ∧ 0 < n ∧ n ≤ cs.length := by
  cases cs with
  | nil => cases reads
  | cons c cs =>
      by_cases symbol : c ∈ symbols
      · exact lexeme_append_of_mem_symbols symbol reads rest
      · exact lexeme_append_of_notMem_symbols symbol reads rest

/-! ## All tokens -/

/-- **The tokens that a text is cut into**, when `pending` characters of it still belong to the
token before. -/
inductive Cut : (pending : Nat) → List Char → List Token → Prop
  | nil : Cut 0 [] []
  | pending {pending : Nat} {c : Char} {cs : List Char} {tokens : List Token}
      (rest : Cut pending cs tokens) : Cut (pending + 1) (c :: cs) tokens
  | blank {c : Char} {cs : List Char} {tokens : List Token} (blank : isBlank c)
      (rest : Cut 0 cs tokens) : Cut 0 (c :: cs) tokens
  | token {c : Char} {cs : List Char} {token : Token} {n : Nat} {tokens : List Token}
      (notBlank : isBlank c = false) (reads : lexeme (c :: cs) = .ok (token, n + 1))
      (rest : Cut n cs tokens) : Cut 0 (c :: cs) (token :: tokens)

/-- A text whose tokens are found is cut into them. -/
lemma cut_of_scan {pending position : Nat} {cs : List Char} {tokens : List Placed}
    (scans : Token.scan pending position cs = .ok tokens) (fits : pending ≤ cs.length) :
    Cut pending cs (tokens.map Placed.token) := by
  induction cs generalizing pending position tokens with
  | nil =>
      obtain rfl := Nat.le_zero.1 fits
      obtain rfl := Except.ok.inj scans
      exact .nil
  | cons c cs ih =>
      cases pending with
      | succ pending => exact .pending (ih scans (Nat.le_of_succ_le_succ fits))
      | zero =>
          rw [Token.scan] at scans
          split at scans
          · next blank => exact .blank blank (ih scans (Nat.zero_le _))
          · next notBlank =>
              split at scans
              · cases scans
              · next token length reads =>
                  obtain ⟨-, positive, inside⟩ := lexeme_append reads []
                  obtain ⟨n, rfl⟩ := Nat.exists_eq_add_one.2 positive
                  split at scans
                  · next more found =>
                      obtain rfl := Except.ok.inj scans
                      exact .token (Bool.eq_false_iff.2 notBlank) reads
                        (ih found (Nat.le_of_succ_le_succ inside))
                  · cases scans

/-- The tokens that a text is cut into are found, wherever it stands. -/
lemma Cut.scan {pending : Nat} {cs : List Char} {tokens : List Token} (cut : Cut pending cs tokens)
    (position : Nat) :
    ∃ placed, Token.scan pending position cs = .ok placed ∧ placed.map Placed.token = tokens := by
  induction cut generalizing position with
  | nil => exact ⟨[], rfl, rfl⟩
  | pending _ ih => exact ih _
  | @blank c cs tokens blank _ ih =>
      rw [Token.scan, if_pos blank]
      exact ih _
  | @token c cs token n tokens notBlank reads _ ih =>
      obtain ⟨placed, found, rfl⟩ := ih (position + c.utf8Size)
      rw [Token.scan, if_neg (Bool.eq_false_iff.1 notBlank), reads]
      dsimp only
      rw [Nat.add_sub_cancel, found]
      exact ⟨_, rfl, rfl⟩

/-- **A text before a parenthesis is cut as it is by itself.** -/
lemma Cut.append_paren {pending : Nat} {cs rest : List Char} {tokens more : List Token}
    (cut : Cut pending cs tokens) (after : Cut 0 (')' :: rest) more) :
    Cut pending (cs ++ ')' :: rest) (tokens ++ more) := by
  induction cut with
  | nil => exact after
  | pending _ ih => exact .pending ih
  | blank blank _ ih => exact .blank blank ih
  | token notBlank reads _ ih => exact .token notBlank (lexeme_append reads rest).1 ih

/-! ## Texts in parentheses -/

/-- The characters of a text in parentheses, and what follows. -/
def wrap (cs rest : List Char) : List Char :=
  '(' :: (cs ++ ')' :: rest)

/-- The tokens of a text in parentheses, and what follows. -/
def wrapTokens (tokens more : List Token) : List Token :=
  .openParen :: (tokens ++ .closeParen :: more)

lemma Cut.wrap {cs rest : List Char} {tokens more : List Token} (cut : Cut 0 cs tokens)
    (after : Cut 0 rest more) : Cut 0 (wrap cs rest) (wrapTokens tokens more) :=
  .token (by decide) rfl (cut.append_paren (.token (by decide) rfl after))

lemma Cut.and {rest : List Char} {more : List Token} (after : Cut 0 rest more) :
    Cut 0 (" && ".toList ++ rest) (.and :: more) :=
  .blank (by decide) (.token (by decide) rfl (.pending (.blank (by decide) after)))

/-! ## Conditions joined by `and` -/

/-- **Conditions joined by `and`**, each in parentheses. -/
def joined (conds : List String) : String :=
  " && ".intercalate (conds.map fun cond => "(" ++ cond ++ ")")

/-- The tokens of a text that can be cut into tokens. -/
def tokensOf (cond : String) : List Token :=
  match Token.ofText cond with
  | .ok tokens => tokens.map Placed.token
  | .error _ => []

/-- The condition that a text spells, if it spells one. -/
def treeOf (cond : String) : Condition :=
  match Condition.parse cond with
  | .ok c => c
  | .error _ => default

/-- What a text comes to that spells a condition. -/
structure Spelled (cond : String) : Prop where
  parses : Condition.parse cond = .ok (treeOf cond)
  cut : Cut 0 cond.toList (tokensOf cond)
  sentence : Sentence (tokensOf cond) (treeOf cond)

lemma spelled_of_parse {cond : String} {c : Condition} (parses : Condition.parse cond = .ok c) :
    Spelled cond := by
  have tree : treeOf cond = c := by rw [treeOf, parses]
  obtain ⟨tokens, found, -, sentence⟩ := parse_eq_ok_iff.1 parses
  have same : tokensOf cond = tokens.map Placed.token := by rw [tokensOf, found]
  refine ⟨by rw [parses, tree], ?_, by rwa [same, tree]⟩
  rw [same]
  exact cut_of_scan found (Nat.zero_le _)

/-- The characters of further conditions. -/
def further (conds : List String) : List Char :=
  conds.foldr (fun cond more => " && ".toList ++ wrap cond.toList more) []

/-- The tokens of further conditions. -/
def furtherTokens (conds : List String) : List Token :=
  conds.foldr (fun cond more => .and :: wrapTokens (tokensOf cond) more) []

lemma toList_joined (first : String) (rest : List String) :
    (joined (first :: rest)).toList = wrap first.toList (further rest) := by
  induction rest generalizing first with
  | nil => simp [joined, wrap, further]
  | cons second rest ih =>
      have head : joined (first :: second :: rest) =
          "(" ++ first ++ ")" ++ " && " ++ joined (second :: rest) :=
        String.intercalate_cons_cons
      rw [head]
      simp [ih, wrap, further]

lemma cut_further {conds : List String} (spelled : ∀ cond ∈ conds, Spelled cond) :
    Cut 0 (further conds) (furtherTokens conds) := by
  induction conds with
  | nil => exact .nil
  | cons cond rest ih =>
      have later := ih fun other mem => spelled other (.tail _ mem)
      exact .and (.wrap (spelled cond (.head _)).cut later)

/-- **Conditions in parentheses are taken in from the left.** -/
lemma spells_further {conds : List String} (spelled : ∀ cond ∈ conds, Spelled cond)
    {lefts : List Token} {left : Condition} (spells : Spells 2 lefts left) :
    Spells 2 (lefts ++ furtherTokens conds) ((conds.map treeOf).foldl .and left) := by
  induction conds generalizing lefts left with
  | nil => rwa [furtherTokens, List.foldr_nil, List.append_nil]
  | cons cond rest ih =>
      have right : Spells 3 (.openParen :: tokensOf cond ++ [.closeParen]) (treeOf cond) :=
        .paren (spelled cond (.head _)).sentence
      have isAnd : Token.and.operator? = some .and := rfl
      have both := Spells.operator (Nat.le_refl Operator.and.strength) isAnd spells right
      have all := ih (fun other mem => spelled other (.tail _ mem)) both
      have tokens : lefts ++ .and :: (.openParen :: tokensOf cond ++ [.closeParen]) ++
          furtherTokens rest = lefts ++ furtherTokens (cond :: rest) := by
        simp [furtherTokens, wrapTokens]
      rwa [tokens] at all

/-- **A text within the limit on nesting**, as far as it can be cut into tokens. -/
def WithinLimit (source : String) : Prop :=
  ∀ tokens, Token.ofText source = .ok tokens → nesting (tokens.map Placed.token) ≤ maxNesting

instance (source : String) : Decidable (WithinLimit source) :=
  match found : Token.ofText source with
  | .ok tokens =>
      decidable_of_iff (nesting (tokens.map Placed.token) ≤ maxNesting)
        ⟨fun fits _ same => Except.ok.inj (found.symm.trans same) ▸ fits,
          fun within => within tokens found⟩
  | .error _ => .isTrue fun _ same => nomatch found.symm.trans same

/-- **Conditions joined by `and` spell their conjunction**, within the limit. -/
lemma parse_joined {first : String} {rest : List String}
    (spelled : ∀ cond ∈ first :: rest, Spelled cond)
    (within : WithinLimit (joined (first :: rest))) :
    Condition.parse (joined (first :: rest)) =
      .ok ((rest.map treeOf).foldl .and (treeOf first)) := by
  have others (cond : String) (mem : cond ∈ rest) := spelled cond (.tail _ mem)
  have cut : Cut 0 (joined (first :: rest)).toList
      (wrapTokens (tokensOf first) (furtherTokens rest)) := by
    rw [toList_joined]
    exact .wrap (spelled first (.head _)).cut (cut_further others)
  obtain ⟨tokens, found, same⟩ := cut.scan 0
  refine parse_eq_ok_iff.2 ⟨tokens, found, within tokens found, ?_⟩
  have start : Spells 2 (.openParen :: tokensOf first ++ [.closeParen]) (treeOf first) :=
    .paren (spelled first (.head _)).sentence
  have all : Sentence _ _ := (spells_further others start).mono (Nat.le_succ 1)
  rw [same]
  simpa [wrapTokens] using all

/-- **Two texts that spell conditions**, each in parentheses, spell their conjunction. -/
lemma parse_and {a b : String} {left right : Condition} (parsesLeft : Condition.parse a = .ok left)
    (parsesRight : Condition.parse b = .ok right)
    (within : WithinLimit ("(" ++ a ++ ") && (" ++ b ++ ")")) :
    Condition.parse ("(" ++ a ++ ") && (" ++ b ++ ")") = .ok (.and left right) := by
  have same : "(" ++ a ++ ") && (" ++ b ++ ")" = joined [a, b] := by
    have pair : joined [a, b] = "(" ++ a ++ ")" ++ " && " ++ ("(" ++ b ++ ")") :=
      String.intercalate_cons_cons
    rw [pair, show ") && (" = ")" ++ " && " ++ "(" from rfl]
    simp only [String.append_assoc]
  have tree {cond : String} {c : Condition} (parses : Condition.parse cond = .ok c) :
      treeOf cond = c := by rw [treeOf, parses]
  rw [same] at within ⊢
  rw [parse_joined _ within, List.map_singleton, List.foldl_cons, tree parsesLeft, tree parsesRight]
  · rfl
  · intro cond mem
    simp only [List.mem_cons, List.not_mem_nil, or_false] at mem
    rcases mem with rfl | rfl
    · exact spelled_of_parse parsesLeft
    · exact spelled_of_parse parsesRight

/-! ## Whether they hold -/

lemma holds_foldl_and (look : Condition.Lookup) (left : Condition) (cs : List Condition) :
    (cs.foldl .and left).holds look = (left.holds look && cs.all (·.holds look)) := by
  induction cs generalizing left with
  | nil => simp
  | cons c cs ih =>
      rw [List.foldl_cons, ih, List.all_cons, ← Bool.and_assoc]
      rfl

/-- A text that spells a condition is met if the condition holds. -/
lemma check_of_parse {cond : String} {c : Condition} (parses : Condition.parse cond = .ok c)
    (look : Condition.Lookup) : (Expression.new cond).check look = c.holds look := by
  rw [Expression.check, Expression.evaluate, Expression.new, parses]

/-- **Conditions joined by `and` are met if all of them are.** -/
lemma check_joined {conds : List String} (some : conds ≠ [])
    (spelled : ∀ cond ∈ conds, Spelled cond) (within : WithinLimit (joined conds))
    (look : Condition.Lookup) :
    (Expression.new (joined conds)).check look =
      conds.all fun cond => (Expression.new cond).check look := by
  obtain ⟨first, rest, rfl⟩ := List.exists_cons_of_ne_nil some
  rw [check_of_parse (parse_joined spelled within), holds_foldl_and, List.all_cons, List.all_map,
    check_of_parse (spelled first (.head _)).parses]
  congr 1
  rw [Bool.eq_iff_iff, List.all_eq_true, List.all_eq_true]
  refine forall₂_congr fun cond mem => ?_
  rw [check_of_parse (spelled cond (.tail _ mem)).parses]
  rfl

end StoryEngine
