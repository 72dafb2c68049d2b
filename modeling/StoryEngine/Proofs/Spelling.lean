import StoryEngine.Condition.Parse
import StoryEngine.Condition.Spelling
import StoryEngine.Proofs.Grammar
import StoryEngine.Proofs.NearestFloat

/-!
# Reading undoes spelling

`SpelledOut` says which texts spell which tokens; here `Token.ofText` finds the tokens again.

* White space is no part of any name or number, so what follows a spelling ends it
  (`takeWhile_of_beginsBlank`).
* `Token.SpelledAs.lexeme` — **one token**: a spelling in front of white space, or at the end of
  the text, is read as its token and to its last character.
* `scan_spelling`, `scan_blanks` — one step of the scan, over a spelling and over white space.
* `SpelledOut.ofText` — **all tokens**, each with the bytes of its spelling.
* `natOfDigits_eq`, `value_ofDigits` — digits are read as the number that they are positions of.
* `Token.SpelledAs.read?`, `Numeral.existsUnique` — a spelling of a number spells one float, the
  nearest one, and is read as it.
* `reading_undoes_spelling` — all of it together: what a text spells is read from it, the condition
  does not depend on spelling and layout, and only white space is empty.

A spelling can begin another one (`!` and `!=`, `<` and `<=`, digits and digits with a point, a word
and a longer word).  `BeginsBlank` on what follows is what decides between the two.
-/

namespace StoryEngine

open Decimal (Digits Nearest isDigit natOfDigits ofDigits)
open Text (isBlank isLetter isNumeral width width_append)

/-! ## White space and other characters -/

/-- White space is no part of a name. -/
lemma not_isNameChar_of_isBlank {c : Char} (blank : isBlank c) : isNameChar c = false := by
  have letter : isLetter c = false :=
    Text.Ranges.not_covers_of_apart Text.blankRanges_ascending Text.letterRanges_ascending
      (Text.Ranges.apart_of_separate Text.blankRanges_ascending Text.letterRanges_ascending
        (by decide +kernel)) blank
  have numeral : isNumeral c = false :=
    Text.Ranges.not_covers_of_apart Text.blankRanges_ascending Text.numeralRanges_ascending
      (Text.Ranges.apart_of_separate Text.blankRanges_ascending Text.numeralRanges_ascending
        (by decide +kernel)) blank
  have underscore : c ≠ '_' := by
    rintro rfl
    exact absurd blank (by decide)
  simp [isNameChar, letter, numeral, underscore]

lemma isNumeral_of_isDigit {c : Char} (digit : isDigit c) : isNumeral c := by
  simp only [isDigit, Bool.and_eq_true, decide_eq_true_eq] at digit
  exact Text.isNumeral_of_ascii digit.1 digit.2

/-- White space is no digit. -/
lemma not_isDigit_of_isBlank {c : Char} (blank : isBlank c) : isDigit c = false := by
  have outside := not_isNameChar_of_isBlank blank
  simp only [isNameChar, Bool.or_eq_false_iff] at outside
  by_contra digit
  have numeral := isNumeral_of_isDigit (Bool.of_not_eq_false digit)
  exact absurd (outside.1.2.symm.trans numeral) (by decide)

/-- A digit is no white space. -/
lemma not_isBlank_of_isDigit {c : Char} (digit : isDigit c) : isBlank c = false := by
  by_contra blank
  have := not_isDigit_of_isBlank (Bool.of_not_eq_false blank)
  exact absurd (this.symm.trans digit) (by decide)

/-- A digit differs from whatever is no digit. -/
lemma ne_of_isDigit {c other : Char} (digit : isDigit c) (no : isDigit other = false) :
    c ≠ other := by
  rintro rfl
  exact absurd (no.symm.trans digit) (by decide)

/-- What begins with white space begins with no other character. -/
lemma BeginsBlank.ne_cons {cs : List Char} (blank : BeginsBlank cs) {c : Char}
    (no : isBlank c = false) (more : List Char) : cs ≠ c :: more := by
  rintro rfl
  exact absurd (no.symm.trans blank) (by decide)

/-- A run of characters ends where one does not belong. -/
lemma takeWhile_append_cons {p : Char → Bool} {run : List Char} (all : ∀ c ∈ run, p c) {c : Char}
    (no : p c = false) (more : List Char) :
    (run ++ c :: more).takeWhile p = run ∧ (run ++ c :: more).dropWhile p = c :: more := by
  rw [List.takeWhile_append_of_pos all, List.dropWhile_append_of_pos all]
  simp [no]

/-- **What ends a run of characters**: all of the run belong, and what follows begins with white
space, which does not. -/
lemma takeWhile_of_beginsBlank {p : Char → Bool} (no : ∀ c, isBlank c → p c = false)
    {run rest : List Char} (all : ∀ c ∈ run, p c) (blank : BeginsBlank rest) :
    (run ++ rest).takeWhile p = run ∧ (run ++ rest).dropWhile p = rest := by
  cases rest with
  | nil =>
    rw [List.takeWhile_append_of_pos all, List.dropWhile_append_of_pos all]
    simp
  | cons c rest => exact takeWhile_append_cons all (no c blank) rest

/-! ## Numbers -/

/-- Digits are read from the first to the last. -/
lemma natOfDigits_eq (ds : List Char) : natOfDigits ds = naturalOf ds := by
  rw [naturalOf, Nat.ofDigits_eq_foldr, natOfDigits, ← List.foldl_reverse, List.map_reverse,
    List.reverse_reverse, List.foldl_map]
  simp only [Nat.cast_id, Nat.add_comm]

/-- The number of a decimal spelled by digits before and after the point. -/
lemma value_ofDigits (whole fraction : List Char) :
    (ofDigits whole fraction).value = naturalOf (whole ++ fraction) / 10 ^ fraction.length := by
  rw [Digits.value, ofDigits, natOfDigits_eq, zpow_neg, zpow_natCast, div_eq_mul_inv]

/-- **A number without its sign is read as it is spelled**, to its last character. -/
lemma Numeral.unsignedNumber {cs : List Char} {q : ℚ} (numeral : Numeral cs q)
    {rest : List Char} (blank : BeginsBlank rest) :
    ∃ whole fraction, (ofDigits whole fraction).value = q ∧
      unsignedNumber (cs ++ rest) = .ok (whole, fraction) ∧
      unsignedLength whole fraction = cs.length := by
  cases numeral with
  | whole nonempty digits =>
    obtain ⟨taken, dropped⟩ :=
      takeWhile_of_beginsBlank (fun _ => not_isDigit_of_isBlank) digits blank
    refine ⟨cs, [], by simp [value_ofDigits], ?_, by simp [unsignedLength]⟩
    have noPoint : ∀ more, rest ≠ '.' :: more := blank.ne_cons (by decide)
    simp [StoryEngine.unsignedNumber, taken, dropped, nonempty]
  | @pointed ds fs nonempty digits fractions =>
    obtain ⟨whole, dropped⟩ :=
      takeWhile_append_cons digits (by decide : isDigit '.' = false) (fs ++ rest)
    obtain ⟨fraction, -⟩ :=
      takeWhile_of_beginsBlank (fun _ => not_isDigit_of_isBlank) fractions blank
    refine ⟨ds, fs, value_ofDigits ds fs, ?_, ?_⟩
    · simp [StoryEngine.unsignedNumber, whole, dropped, fraction, nonempty]
    · simp [unsignedLength, nonempty]
      omega

/-- A number without its sign begins with a digit or a point. -/
lemma Numeral.begins {cs : List Char} {q : ℚ} (numeral : Numeral cs q) :
    ∃ c tail, cs = c :: tail ∧ (isDigit c ∨ c = '.') := by
  cases numeral with
  | whole nonempty digits =>
    obtain ⟨c, tail, rfl⟩ := List.exists_cons_of_ne_nil nonempty
    exact ⟨c, tail, rfl, .inl (digits c (.head tail))⟩
  | @pointed ds fs _ digits _ =>
    cases ds with
    | nil => exact ⟨'.', fs, rfl, .inr rfl⟩
    | cons c tail => exact ⟨c, tail ++ '.' :: fs, rfl, .inl (digits c (.head tail))⟩

/-- The characters that begin a symbol or a quality. -/
def symbols : List Char := ['(', ')', '&', '|', '=', '!', '<', '>', '$']

/-- **Any other character says by its class what it begins**: a text, a number or a word. -/
lemma lexeme_of_not_mem_symbols {c : Char} (no : c ∉ symbols) (rest : List Char) :
    lexeme (c :: rest) =
      if c = '"' ∨ c = '\'' then
        match quotedBody c rest with
        | some (s, n) => .ok (.text (String.ofList s), 1 + n)
        | none => .error (.stuck (1 + rest.length))
      else if isDigit c ∨ c = '-' ∨ c = '.' then number (c :: rest)
      else if isLetter c then
        match keyword? (c :: rest.takeWhile isNameChar) with
        | some token => .ok (token, (c :: rest.takeWhile isNameChar).length)
        | none => .error (.word (c :: rest.takeWhile isNameChar))
      else .error (.stuck 0) := by
  simp only [symbols, List.mem_cons, List.not_mem_nil, or_false, not_or] at no
  obtain ⟨_, _, _, _, _, _, _, _, _⟩ := no
  rw [lexeme] <;> first | rfl | (intros; contradiction)

/-- **A number is read as it is spelled**: it is the nearest float. -/
lemma Numeral.lexeme {cs : List Char} {q : ℚ} (numeral : Numeral cs q) {x : Float}
    (nearest : Nearest false q x) {rest : List Char} (blank : BeginsBlank rest) :
    lexeme (cs ++ rest) = .ok (.number x, cs.length) := by
  obtain ⟨whole, fraction, rfl, reads, length⟩ := numeral.unsignedNumber blank
  obtain rfl := nearest.unique (ofDigits whole fraction).nearest_toFloat
  obtain ⟨c, tail, rfl, digit | rfl⟩ := numeral.begins
  · have noDigits : ∀ other ∈ symbols ++ ['"', '\'', '-'], isDigit other = false := by
      simp [symbols, isDigit]
    have ne (other : Char) (mem : other ∈ symbols ++ ['"', '\'', '-']) : c ≠ other :=
      ne_of_isDigit digit (noDigits other mem)
    rw [List.cons_append] at reads ⊢
    rw [lexeme_of_not_mem_symbols fun mem => ne c (List.mem_append_left _ mem) rfl]
    simp [number, digit, ne, reads, length]
  · rw [List.cons_append] at reads ⊢
    rw [lexeme_of_not_mem_symbols (by decide)]
    simp [number, reads, length]

/-- So is a number with a minus sign. -/
lemma Numeral.lexeme_negative {cs : List Char} {q : ℚ} (numeral : Numeral cs q) {x : Float}
    (nearest : Nearest true q x) {rest : List Char} (blank : BeginsBlank rest) :
    StoryEngine.lexeme ('-' :: cs ++ rest) = .ok (.number x, ('-' :: cs).length) := by
  obtain ⟨whole, fraction, rfl, reads, length⟩ := numeral.unsignedNumber blank
  obtain rfl := nearest.unique (ofDigits whole fraction).nearest_toFloat.neg
  rw [List.cons_append, lexeme_of_not_mem_symbols (by decide)]
  simp [number, reads, length, Nat.add_comm]

/-! ## Texts -/

/-- **A text is read up to the quote that closes it**, every escape undone. -/
lemma Escaped.quotedBody {quote : Char} (ends : quote ≠ '\\') {body s : List Char}
    (escaped : Escaped quote body s) (rest : List Char) :
    quotedBody quote (body ++ quote :: rest) = some (s, body.length + 1) := by
  induction escaped with
  | nil => simp [StoryEngine.quotedBody, ends]
  | @plain c body s other unescaped _ ih => simp [StoryEngine.quotedBody, other, unescaped, ih]
  | @backslash c body s _ ih => simp [StoryEngine.quotedBody, ih]

/-- A text in quotes is read as it is spelled. -/
lemma Escaped.lexeme {quote : Char} (quotes : quote = '"' ∨ quote = '\'') {body s : List Char}
    (escaped : Escaped quote body s) (rest : List Char) :
    lexeme (quote :: body ++ [quote] ++ rest) =
      .ok (.text (String.ofList s), (quote :: body ++ [quote]).length) := by
  have reads := escaped.quotedBody (by rcases quotes with rfl | rfl <;> decide) rest
  have noSymbol : quote ∉ symbols := by rcases quotes with rfl | rfl <;> decide
  rw [List.cons_append, List.cons_append, lexeme_of_not_mem_symbols noSymbol, if_pos quotes]
  simp [reads, Nat.add_comm, Nat.add_left_comm]

/-! ## Names and words -/

/-- What begins with a dollar sign is a quality, if a name follows. -/
lemma lexeme_dollar (rest : List Char) :
    lexeme ('$' :: rest) =
      if (rest.takeWhile isNameChar).isEmpty then .error (.stuck 1)
      else .ok (.quality (String.ofList (rest.takeWhile isNameChar)),
        1 + (rest.takeWhile isNameChar).length) :=
  rfl

lemma lexeme_quality {name : List Char} (nonempty : name ≠ []) (all : ∀ c ∈ name, isNameChar c)
    {rest : List Char} (blank : BeginsBlank rest) :
    lexeme ('$' :: name ++ rest) =
      .ok (.quality (String.ofList name), ('$' :: name).length) := by
  have taken := (takeWhile_of_beginsBlank (fun _ => not_isNameChar_of_isBlank) all blank).1
  rw [List.cons_append, lexeme_dollar, taken]
  simp [nonempty, Nat.add_comm]

/-- A keyword is read as it is spelled. -/
lemma lexeme_word {c : Char} {cs : List Char} {token : Token}
    (lower : ∀ d ∈ c :: cs, 'a' ≤ d ∧ d ≤ 'z') (means : keyword? (c :: cs) = some token)
    {rest : List Char} (blank : BeginsBlank rest) :
    lexeme (c :: cs ++ rest) = .ok (token, (c :: cs).length) := by
  have letters : ∀ d ∈ c :: cs, isLetter d := fun d mem =>
    Text.isLetter_of_ascii (.inr (lower d mem))
  obtain ⟨letter, others⟩ := List.forall_mem_cons.mp letters
  have all : ∀ d ∈ cs, isNameChar d := fun d mem => by simp [isNameChar, others d mem]
  replace lower := lower c (.head cs)
  have outside : ∀ other ∈ symbols ++ ['"', '\'', '-', '.'], ¬ ('a' ≤ other ∧ other ≤ 'z') := by
    simp [symbols]
  have ne (other : Char) (mem : other ∈ symbols ++ ['"', '\'', '-', '.']) : c ≠ other := by
    rintro rfl
    exact outside c mem lower
  have noDigit : isDigit c = false := by
    have : ¬ c ≤ '9' := fun le => absurd (Char.le_trans lower.1 le) (by decide)
    simp [isDigit, this]
  have taken := (takeWhile_of_beginsBlank (fun _ => not_isNameChar_of_isBlank) all blank).1
  rw [List.cons_append, lexeme_of_not_mem_symbols fun mem => ne c (List.mem_append_left _ mem) rfl]
  simp [ne, noDigit, letter, taken, means]

/-! ## One token -/

/-- A symbol that is the beginning of another one is read as itself before anything else. -/
lemma lexeme_symbol {rest : List Char} (noEquals : ∀ more, rest ≠ '=' :: more) :
    lexeme ('!' :: rest) = .ok (.not, 1) ∧
    lexeme ('<' :: rest) = .ok (.compare .lt, 1) ∧
    lexeme ('>' :: rest) = .ok (.compare .gt, 1) := by
  refine ⟨?_, ?_, ?_⟩ <;> (unfold lexeme; simp_all)

/-- **A spelling is read as its token**, to its last character, where it ends the text or white
space follows. -/
theorem Token.SpelledAs.lexeme {token : Token} {cs : List Char} (spelled : token.SpelledAs cs)
    {rest : List Char} (blank : BeginsBlank rest) :
    StoryEngine.lexeme (cs ++ rest) = .ok (token, cs.length) := by
  have noEquals : ∀ more, rest ≠ '=' :: more := blank.ne_cons (by decide)
  obtain ⟨notSymbol, ltSymbol, gtSymbol⟩ := lexeme_symbol noEquals
  cases spelled with
  | openParen | closeParen | andSymbol | orSymbol => rfl
  | notSymbol => exact notSymbol
  | compare op =>
    cases op with
    | lt => exact ltSymbol
    | gt => exact gtSymbol
    | eq | ne | le | ge => rfl
  | quality nonempty all => exact lexeme_quality nonempty all blank
  | number numeral nearest => exact numeral.lexeme nearest blank
  | negative numeral nearest => exact numeral.lexeme_negative nearest blank
  | text quotes escaped => exact escaped.lexeme quotes rest
  | andWord | orWord | notWord | true | false | null =>
    exact lexeme_word (by simp) rfl blank

/-- A spelling begins with something other than white space. -/
lemma Token.SpelledAs.begins {token : Token} {cs : List Char} (spelled : token.SpelledAs cs) :
    ∃ c tail, cs = c :: tail ∧ isBlank c = Bool.false := by
  cases spelled with
  | number numeral =>
    obtain ⟨c, tail, rfl, digit | rfl⟩ := numeral.begins
    · exact ⟨c, tail, rfl, not_isBlank_of_isDigit digit⟩
    · exact ⟨'.', tail, rfl, by decide⟩
  | text quotes => exact ⟨_, _, rfl, by rcases quotes with rfl | rfl <;> decide⟩
  | compare op => cases op <;> exact ⟨_, _, rfl, by decide⟩
  | _ => exact ⟨_, _, rfl, by decide⟩

/-! ## The float of a spelling -/

/-- The decimal of a number without its sign is the number it spells. -/
lemma Numeral.unsigned? {cs : List Char} {q : ℚ} (numeral : Numeral cs q) :
    ∃ d : Digits, d.value = q ∧ Decimal.unsigned? cs = some d := by
  have ends : BeginsBlank [] := trivial
  cases numeral with
  | whole nonempty digits =>
    obtain ⟨taken, dropped⟩ :=
      takeWhile_of_beginsBlank (fun _ => not_isDigit_of_isBlank) digits ends
    rw [List.append_nil] at taken dropped
    refine ⟨ofDigits cs [], by simp [value_ofDigits], ?_⟩
    simp [Decimal.unsigned?, taken, dropped, nonempty]
  | @pointed ds fs nonempty digits fractions =>
    obtain ⟨whole, point⟩ := takeWhile_append_cons digits (by decide : isDigit '.' = false) fs
    obtain ⟨taken, dropped⟩ :=
      takeWhile_of_beginsBlank (fun _ => not_isDigit_of_isBlank) fractions ends
    rw [List.append_nil] at taken dropped
    refine ⟨ofDigits ds fs, value_ofDigits ds fs, ?_⟩
    simp [Decimal.unsigned?, whole, point, taken, dropped, nonempty]

/-- A number does not begin with a letter, whatever the case of letters. -/
lemma Numeral.ne_word {cs : List Char} {q : ℚ} (numeral : Numeral cs q) {first : Char}
    (more : List Char) (noPoint : first ≠ '.') (noDigit : isDigit first = false) :
    String.ofList (cs.map Char.toLower) ≠ String.ofList (first :: more) := by
  obtain ⟨c, tail, rfl, begins⟩ := numeral.begins
  intro same
  have lowered : c.toLower = first := (List.cons.inj (String.ofList_injective same)).1
  have unchanged : c.toLower = c := by
    rcases begins with digit | rfl
    · simp only [isDigit, Bool.and_eq_true, decide_eq_true_eq] at digit
      have small : ¬ c.val ≥ 'A'.val := fun le => absurd (Char.le_trans le digit.2) (by decide)
      exact dif_neg fun upper => small upper.1
    · decide
  rw [unchanged] at lowered
  subst lowered
  rcases begins with digit | point
  · exact absurd (noDigit.symm.trans digit) (by decide)
  · exact noPoint point

/-- It is none of the words for what is no finite number. -/
lemma Numeral.ne_words {cs : List Char} {q : ℚ} (numeral : Numeral cs q) :
    String.ofList (cs.map Char.toLower) ≠ "nan" ∧
    String.ofList (cs.map Char.toLower) ≠ "inf" ∧
    String.ofList (cs.map Char.toLower) ≠ "infinity" :=
  ⟨numeral.ne_word ['a', 'n'] (by decide) (by decide),
    numeral.ne_word ['n', 'f'] (by decide) (by decide),
    numeral.ne_word "nfinity".toList (by decide) (by decide)⟩

/-- **The float of a number token is the one that its spelling is read as.** -/
lemma Token.SpelledAs.read? {x : Float} {cs : List Char} (spelled : (Token.number x).SpelledAs cs) :
    Decimal.read? (String.ofList cs) = some x := by
  -- what is no word is left to `unsigned?`
  cases spelled with
  | number numeral nearest =>
    obtain ⟨nan, inf, infinity⟩ := numeral.ne_words
    obtain ⟨d, rfl, reads⟩ := numeral.unsigned?
    obtain rfl := nearest.unique d.nearest_toFloat
    obtain ⟨c, tail, rfl, begins⟩ := numeral.begins
    have unsigned : c ≠ '-' ∧ c ≠ '+' := by
      rcases begins with digit | rfl
      · exact ⟨ne_of_isDigit digit (by decide), ne_of_isDigit digit (by decide)⟩
      · decide
    unfold Decimal.read?
    simp only [String.toList_ofList, List.head?_cons, Option.some.injEq, unsigned, or_self,
      if_false]
    rw [reads]
    rfl
  | negative numeral nearest =>
    obtain ⟨nan, inf, infinity⟩ := numeral.ne_words
    obtain ⟨d, rfl, reads⟩ := numeral.unsigned?
    obtain rfl := nearest.unique d.nearest_toFloat.neg
    unfold Decimal.read?
    simp only [String.toList_ofList, List.head?_cons, true_or, if_true, List.drop_succ_cons,
      List.drop_zero]
    rw [reads]
    rfl

/-- **A spelling of a number spells one float**, and one with a minus sign before it. -/
lemma Numeral.existsUnique {cs : List Char} {q : ℚ} (numeral : Numeral cs q) :
    (∃! x, (Token.number x).SpelledAs cs) ∧ ∃! x, (Token.number x).SpelledAs ('-' :: cs) := by
  have unique {x y : Float} {cs : List Char} (spelled : (Token.number x).SpelledAs cs)
      (spelled' : (Token.number y).SpelledAs cs) : y = x :=
    Option.some.inj (spelled'.read?.symm.trans spelled.read?)
  obtain ⟨d, rfl, -⟩ := numeral.unsigned?
  have spelled : (Token.number d.toFloat).SpelledAs cs := .number numeral d.nearest_toFloat
  have negative : (Token.number (-d.toFloat)).SpelledAs ('-' :: cs) :=
    .negative numeral d.nearest_toFloat.neg
  exact ⟨⟨_, spelled, fun _ => unique spelled⟩, ⟨_, negative, fun _ => unique negative⟩⟩

/-! ## All tokens -/

/-- The characters of the token read last are passed over. -/
lemma scan_pending (position : Nat) (passed rest : List Char) :
    Token.scan passed.length position (passed ++ rest) =
      Token.scan 0 (position + width passed) rest := by
  induction passed generalizing position with
  | nil => rfl
  | cons c passed ih =>
    rw [List.length_cons, List.cons_append, Token.scan, ih, width, Nat.add_assoc]

/-- White space is passed over. -/
lemma scan_blanks {before : List Char} (blank : ∀ c ∈ before, isBlank c) (position : Nat)
    (rest : List Char) :
    Token.scan 0 position (before ++ rest) = Token.scan 0 (position + width before) rest := by
  induction before generalizing position with
  | nil => rfl
  | cons c before ih =>
    obtain ⟨first, others⟩ := List.forall_mem_cons.mp blank
    rw [List.cons_append, Token.scan, if_pos first, ih others, width, Nat.add_assoc]

/-- **A spelling gives its token**, with the bytes it takes. -/
lemma scan_spelling {token : Token} {cs rest : List Char} (spelled : token.SpelledAs cs)
    (blank : BeginsBlank rest) {position : Nat} {more : List Placed}
    (scanned : Token.scan 0 (position + width cs) rest = .ok more) :
    Token.scan 0 position (cs ++ rest) =
      .ok (⟨token, position, position + width cs⟩ :: more) := by
  have reads := spelled.lexeme blank
  obtain ⟨c, tail, rfl, visible⟩ := spelled.begins
  have passed : Token.scan tail.length (position + c.utf8Size) (tail ++ rest) = .ok more := by
    rw [scan_pending, Nat.add_assoc]
    exact scanned
  rw [List.cons_append] at reads ⊢
  rw [Token.scan]
  simp [visible, reads, passed]

/-- White space has no tokens. -/
lemma scan_of_blank {cs : List Char} (blank : ∀ c ∈ cs, isBlank c) (position : Nat) :
    Token.scan 0 position cs = .ok [] := by
  simpa [Token.scan] using scan_blanks blank position []

/-- **Scanning undoes spelling**, from any byte on. -/
lemma SpelledOut.scan {position : Nat} {placed : List Placed} {cs : List Char}
    (spelled : SpelledOut position placed cs) : Token.scan 0 position cs = .ok placed := by
  induction spelled with
  | blank blank => exact scan_of_blank blank _
  | @token position start stop token before spelling rest more blank starts spelled stops
    ends _ ih =>
    subst starts stops
    rw [List.append_assoc, scan_blanks blank]
    exact scan_spelling spelled ends ih

theorem SpelledOut.ofText {placed : List Placed} {cs : List Char}
    (spelled : SpelledOut 0 placed cs) : Token.ofText (String.ofList cs) = .ok placed := by
  simpa [Token.ofText] using spelled.scan

/-! ## Empty texts -/

/-- A misspelling does not make a text empty. -/
lemma Misspelling.toError_ne_empty (fault : Misspelling) (position : Nat) (cs : List Char) :
    fault.toError position cs ≠ .empty := by
  cases fault with
  | word text => simp [Misspelling.toError]
  | stuck n => cases found : cs.drop n <;> simp [Misspelling.toError, found]

/-- Scanning fails at a place where no token can be read, or further on. -/
lemma scan_cons_eq_error {pending position : Nat} {c : Char} {cs : List Char}
    {fault : ConditionError} (fails : Token.scan pending position (c :: cs) = .error fault) :
    (∃ misspelling, lexeme (c :: cs) = .error misspelling ∧
      fault = misspelling.toError position (c :: cs)) ∨
    ∃ pending, Token.scan pending (position + c.utf8Size) cs = .error fault := by
  cases pending with
  | succ pending => exact .inr ⟨pending, fails⟩
  | zero =>
    unfold Token.scan at fails
    split at fails
    · exact .inr ⟨0, fails⟩
    · split at fails
      next misspelling reads => exact .inl ⟨misspelling, reads, (Except.error.inj fails).symm⟩
      next token length _ =>
        split at fails
        next => cases fails
        next other scans => exact .inr ⟨length - 1, scans.trans fails⟩

lemma scan_ne_empty (pending position : Nat) (cs : List Char) :
    Token.scan pending position cs ≠ .error .empty := by
  induction cs generalizing pending position with
  | nil => simp [Token.scan]
  | cons c cs ih =>
    intro empty
    rcases scan_cons_eq_error empty with ⟨misspelling, -, fault⟩ | ⟨pending, empty⟩
    · exact misspelling.toError_ne_empty _ _ fault.symm
    · exact ih pending _ empty

/-- Only white space has no tokens. -/
lemma scan_eq_nil {cs : List Char} {position : Nat} (scanned : Token.scan 0 position cs = .ok []) :
    ∀ c ∈ cs, isBlank c := by
  induction cs generalizing position with
  | nil => simp
  | cons c cs ih =>
    unfold Token.scan at scanned
    split at scanned
    next blank => exact List.forall_mem_cons.mpr ⟨blank, ih scanned⟩
    next visible =>
      split at scanned
      · cases scanned
      · split at scanned <;> cases scanned

/-- Reading tokens fails at a token or at their end. -/
lemma Phase.run_ne_empty (phase : Phase) (tokens : List Placed) :
    phase.run tokens ≠ .error .empty := by
  induction tokens generalizing phase with
  | nil => cases finishes : phase.finish? <;> simp [Phase.run, finishes]
  | cons placed rest ih => cases reads : phase.read placed.token <;> simp [Phase.run, reads, ih]

/-- Tokens are no condition for being empty only if there are none. -/
lemma ofTokens_eq_empty {tokens : List Placed}
    (empty : Condition.ofTokens tokens = .error .empty) : tokens = [] := by
  unfold Condition.ofTokens at empty
  split at empty
  next none => exact List.isEmpty_iff.mp none
  next =>
    split at empty
    next => cases empty
    next => exact absurd empty (Phase.run_ne_empty _ _)

/-- **A text is empty exactly if it is white space.** -/
theorem Condition.parse_eq_empty_iff (source : String) :
    Condition.parse source = .error .empty ↔ ∀ c ∈ source.toList, isBlank c := by
  unfold Condition.parse Token.ofText
  constructor
  · intro empty
    cases scanned : Token.scan 0 0 source.toList with
    | error fault =>
      rw [scanned] at empty
      exact absurd (scanned.trans (congrArg _ (Except.error.inj empty))) (scan_ne_empty _ _ _)
    | ok tokens =>
      rw [scanned] at empty
      obtain rfl := ofTokens_eq_empty empty
      exact scan_eq_nil scanned
  · intro blank
    rw [scan_of_blank blank]
    rfl

/-! ## Conditions -/

/-- Where the tokens stand does not matter to the condition they spell. -/
lemma ofTokens_toOption_congr {tokens tokens' : List Placed}
    (same : tokens.map Placed.token = tokens'.map Placed.token) :
    (Condition.ofTokens tokens).toOption = (Condition.ofTokens tokens').toOption := by
  by_cases deep : maxNesting < nesting (tokens.map Placed.token)
  · rw [ofTokens_eq_tooDeep deep, ofTokens_eq_tooDeep (same ▸ deep)]
  · have accepts (c : Condition) :
        Condition.ofTokens tokens = .ok c ↔ Condition.ofTokens tokens' = .ok c := by
      rw [ofTokens_eq_ok_iff (Nat.not_lt.mp deep), same,
        ofTokens_eq_ok_iff (same ▸ Nat.not_lt.mp deep)]
    have is_some (read : Except ConditionError Condition) (c : Condition) :
        read.toOption = some c ↔ read = .ok c := by
      cases read <;> simp [Except.toOption]
    exact Option.ext fun c => by rw [is_some, accepts, ← is_some]

/-- **Reading undoes spelling.**  A text that spells tokens, in whatever spellings and with whatever
white space between them and around, is read as these tokens, each with the bytes of its spelling.
A number spelled with or without a minus sign is one float, the nearest one, and is read as it on
its own too.  Texts that spell the same tokens are the same condition, if they are one.  A text is
empty exactly if it is white space. -/
theorem reading_undoes_spelling :
    (∀ placed cs, SpelledOut 0 placed cs → Token.ofText (String.ofList cs) = .ok placed) ∧
    (∀ cs q, Numeral cs q →
      (∃! x, (Token.number x).SpelledAs cs) ∧ ∃! x, (Token.number x).SpelledAs ('-' :: cs)) ∧
    (∀ x cs, (Token.number x).SpelledAs cs → Decimal.read? (String.ofList cs) = some x) ∧
    (∀ placed placed' cs cs', SpelledOut 0 placed cs → SpelledOut 0 placed' cs' →
      placed.map Placed.token = placed'.map Placed.token →
      (Condition.parse (String.ofList cs)).toOption =
        (Condition.parse (String.ofList cs')).toOption) ∧
    ∀ source, Condition.parse source = .error .empty ↔ ∀ c ∈ source.toList, isBlank c := by
  refine ⟨fun _ _ => SpelledOut.ofText, fun _ _ => Numeral.existsUnique,
    fun _ _ => Token.SpelledAs.read?, ?_, Condition.parse_eq_empty_iff⟩
  intro placed placed' cs cs' spelled spelled' same
  unfold Condition.parse
  rw [spelled.ofText, spelled'.ofText]
  exact ofTokens_toOption_congr same

/-- `not $é >= -.5` is four tokens, the `é` taking two bytes and the number being the float `-0.5`,
and the same condition with the other spelling of `not` and other white space. -/
theorem reading_undoes_spelling_minus_half :
    Token.ofText "not $é >= -.5" = .ok [⟨.not, 0, 3⟩, ⟨.quality "é", 4, 7⟩,
      ⟨.compare .ge, 8, 10⟩, ⟨.number (-0.5), 11, 14⟩] ∧
    Decimal.read? "-.5" = some (-0.5) ∧
    (Condition.parse "not $é >= -.5").toOption = (Condition.parse " !\t$é >= -.5 ").toOption ∧
    Condition.parse "\t " = .error .empty := by
  have numeral : Numeral ['.', '5'] (naturalOf ['5'] / 10 ^ 1) :=
    @Numeral.pointed [] ['5'] (by decide) nofun (List.all_eq_true.1 (by decide))
  have nearest : Nearest false (naturalOf ['5'] / 10 ^ 1) 0.5 := by
    have five : (Digits.mk 5 (-1)).toFloat = 0.5 := by decide +kernel
    rw [← five]
    exact Digits.nearest_toFloat ⟨5, -1⟩
  have half : (Token.number (-0.5)).SpelledAs ['-', '.', '5'] := .negative numeral nearest.neg
  have quality : (Token.quality "é").SpelledAs ['$', 'é'] :=
    .quality (by decide) (List.all_eq_true.1 (by decide +kernel))
  have space : ∀ c ∈ [' '], isBlank c := List.all_eq_true.1 (by decide)
  have tab : ∀ c ∈ ['\t'], isBlank c := List.all_eq_true.1 (by decide)
  -- from the last token to the first
  have number : SpelledOut 10 [⟨.number (-0.5), 11, 14⟩]
      ([' '] ++ ['-', '.', '5'] ++ []) :=
    .token space rfl half rfl trivial (.blank nofun)
  have compared : SpelledOut 7 (⟨.compare .ge, 8, 10⟩ :: _) ([' '] ++ ['>', '='] ++ _) :=
    .token space rfl (.compare .ge) rfl (by decide) number
  have named : SpelledOut 3 (⟨.quality "é", 4, 7⟩ :: _) ([' '] ++ ['$', 'é'] ++ _) :=
    .token space rfl quality rfl (by decide) compared
  have word : SpelledOut 0 (⟨.not, 0, 3⟩ :: _) ([] ++ ['n', 'o', 't'] ++ _) :=
    .token nofun rfl .notWord rfl (by decide) named
  have number' : SpelledOut 9 [⟨.number (-0.5), 10, 13⟩]
      ([' '] ++ ['-', '.', '5'] ++ [' ']) :=
    .token space rfl half rfl (by decide) (.blank space)
  have compared' : SpelledOut 6 (⟨.compare .ge, 7, 9⟩ :: _) ([' '] ++ ['>', '='] ++ _) :=
    .token space rfl (.compare .ge) rfl (by decide) number'
  have named' : SpelledOut 2 (⟨.quality "é", 3, 6⟩ :: _) (['\t'] ++ ['$', 'é'] ++ _) :=
    .token tab rfl quality rfl (by decide) compared'
  have symbol : SpelledOut 0 (⟨.not, 1, 2⟩ :: _) ([' '] ++ ['!'] ++ _) :=
    .token space rfl .notSymbol rfl (by decide) named'
  obtain ⟨tokens, -, floats, conditions, empty⟩ := reading_undoes_spelling
  exact ⟨tokens _ _ word, floats _ _ half, conditions _ _ _ _ word symbol rfl,
    (empty "\t ").mpr (List.all_eq_true.1 (by decide))⟩

end StoryEngine
