import StoryEngine.Proofs.Spelling

/-!
# What the fault of a text points at

Of a text that is no condition the message names one place.  It is the first one that cannot be
helped by what follows it.

* `Phase.exists_finish` — **nothing is ever lost**: from every phase some tokens finish what is
  open.
* `viable_iff` — tokens are read to their end exactly if they can go on to a sentence.
* `run_eq_unexpectedToken`, `run_eq_unexpectedEnd_iff` — where reading fails.
* `StandsAt` — what stands at a byte of a text; `scan_eq_error` and `mem_scan` say it of faults and
  of tokens.
* `Condition.parse_faults` — all of it together, for every text.

With `viable_iff` the two errors of reading are told apart by the grammar alone: the token that is
faulted is the first one after which the tokens are not viable any more, and the end is faulted
where they are viable to the last and no sentence yet.
-/

namespace StoryEngine

open Text (isLetter width width_append)

/-! ## Going on -/

lemma length_close_le (strength : Nat) (frames : List Frame) (c : Condition) :
    (close strength frames c).1.length ≤ frames.length := by
  induction frames generalizing c with
  | nil => exact Nat.le_refl 0
  | cons frame frames ih =>
    cases frame with
    | negation => exact Nat.le_succ_of_le (ih (.not c))
    | right op left =>
      rcases Nat.lt_or_ge op.strength strength with stays | finished
      · have same := close_right_of_lt stays left frames c
        exact Nat.le_of_eq (congrArg (fun closed => closed.1.length) same)
      · rw [close_right_of_le finished]
        exact Nat.le_succ_of_le (ih (op.join left c))
    | paren => exact Nat.le_refl _

/-- Everything open is finished up to a parenthesis. -/
lemma close_one_cases (frames : List Frame) (c : Condition) :
    (∃ inner, close 1 frames c = ([], inner)) ∨
    ∃ outer inner, close 1 frames c = (.paren :: outer, inner) := by
  have loose := demand_close_le (Nat.le_refl 1) frames c
  generalize close 1 frames c = closed at loose
  match closed, loose with
  | ([], inner), _ => exact .inl ⟨inner, rfl⟩
  | (.paren :: outer, inner), _ => exact .inr ⟨outer, inner, rfl⟩
  | (.negation :: _, _), loose => exact absurd loose (by decide : ¬ 4 ≤ 1)
  | (.right op _ :: _, _), loose =>
    exact absurd (Nat.le_of_succ_le_succ loose) (Nat.not_le.mpr op.one_le_strength)

namespace Phase

/-- After an operand the open parentheses have to be closed, and nothing else. -/
lemma exists_finish_operator (frames : List Frame) (last : Condition) :
    ∃ more c, ((Phase.operator frames last).readAll more).bind finish? = some c := by
  rcases close_one_cases frames last with ⟨inner, closed⟩ | ⟨outer, inner, closed⟩
  · exact ⟨[], inner, by simp [finish?, close_zero, closed]⟩
  · have shorter : outer.length < frames.length := by
      have le := length_close_le 1 frames last
      rwa [closed] at le
    obtain ⟨more, c, finishes⟩ := exists_finish_operator outer inner
    refine ⟨.closeParen :: more, c, ?_⟩
    simpa [readAll_cons, Phase.read, close_zero, closed] using finishes
termination_by frames.length

/-- **From every phase some tokens finish what is open.**  Where an operand is due, any will do. -/
lemma exists_finish (phase : Phase) :
    ∃ more c, (phase.readAll more).bind finish? = some c := by
  cases phase with
  | operator frames last => exact exists_finish_operator frames last
  | operand frames =>
    obtain ⟨more, c, finishes⟩ := exists_finish_operator frames (.literal .null)
    refine ⟨.null :: more, c, ?_⟩
    rwa [readAll_cons, read_atom rfl]

end Phase

/-- **Tokens are read to their end exactly if they can go on to a sentence.** -/
theorem viable_iff (tokens : List Token) :
    Viable tokens ↔ ((Phase.operand []).readAll tokens).isSome := by
  constructor
  · rintro ⟨more, c, sentence⟩
    obtain ⟨last, reads, -⟩ := (sentence_iff_readAll _ c).mp sentence
    rw [Phase.readAll_append] at reads
    obtain ⟨phase, reads, -⟩ := Option.bind_eq_some_iff.mp reads
    exact Option.isSome_of_eq_some reads
  · intro reads
    obtain ⟨phase, reads⟩ := Option.isSome_iff_exists.mp reads
    obtain ⟨more, c, finishes⟩ := phase.exists_finish
    refine ⟨more, c, (sentence_iff_readAll _ c).mpr ?_⟩
    rw [Phase.readAll_append, reads]
    exact Option.bind_eq_some_iff.mp finishes

/-! ## Where reading fails -/

namespace Phase

/-- **A token is faulted if everything before it can be read and it cannot.** -/
lemma run_eq_unexpectedToken {phase : Phase} {tokens : List Placed} {found : String}
    {position : Nat} (fails : phase.run tokens = .error (.unexpectedToken found position)) :
    ∃ before placed after last, tokens = before ++ placed :: after ∧
      placed.start = position ∧ placed.token.display = found ∧
      phase.readAll (before.map Placed.token) = some last ∧ last.read placed.token = none := by
  induction tokens generalizing phase with
  | nil => cases finishes : phase.finish? <;> simp [Phase.run, finishes] at fails
  | cons first rest ih =>
    cases reads : phase.read first.token with
    | none =>
      simp only [Phase.run, reads, Except.error.injEq,
        ConditionError.unexpectedToken.injEq] at fails
      exact ⟨[], first, rest, phase, rfl, fails.2, fails.1, rfl, reads⟩
    | some next =>
      simp only [Phase.run, reads] at fails
      obtain ⟨before, placed, after, last, rfl, start, display, readsAll, stuck⟩ := ih fails
      exact ⟨first :: before, placed, after, last, rfl, start, display,
        by simpa [readAll_cons, reads] using readsAll, stuck⟩

/-- **The end is faulted if all tokens can be read and leave something open.** -/
lemma run_eq_unexpectedEnd_iff (phase : Phase) (tokens : List Placed) :
    phase.run tokens = .error .unexpectedEnd ↔
      ∃ last, phase.readAll (tokens.map Placed.token) = some last ∧ last.finish? = none := by
  induction tokens generalizing phase with
  | nil => cases finishes : phase.finish? <;> simp [Phase.run, finishes]
  | cons placed rest ih =>
    cases reads : phase.read placed.token <;> simp [Phase.run, readAll_cons, reads, ih]

end Phase

/-- A fault of tokens is that there are none, that they are nested too deeply, or one of reading
them. -/
lemma ofTokens_eq_error_cases {tokens : List Placed} {fault : ConditionError}
    (fails : Condition.ofTokens tokens = .error fault) :
    fault = .empty ∨ fault = .tooDeep maxNesting ∨
      (Phase.operand []).run tokens = .error fault := by
  unfold Condition.ofTokens at fails
  split at fails
  next => exact .inl (Except.error.inj fails).symm
  next =>
    split at fails
    next => exact .inr (.inl (Except.error.inj fails).symm)
    next => exact .inr (.inr fails)

/-- **The token that is faulted is the first after which the tokens are not viable any more.** -/
lemma ofTokens_eq_unexpectedToken {tokens : List Placed} {found : String} {position : Nat}
    (fails : Condition.ofTokens tokens = .error (.unexpectedToken found position)) :
    ∃ before placed after, tokens = before ++ placed :: after ∧
      placed.start = position ∧ placed.token.display = found ∧
      Viable (before.map Placed.token) ∧
      ¬ Viable (before.map Placed.token ++ [placed.token]) := by
  rcases ofTokens_eq_error_cases fails with other | other | fails
  · cases other
  · cases other
  · obtain ⟨before, placed, after, last, split, start, display, reads, stuck⟩ :=
      Phase.run_eq_unexpectedToken fails
    refine ⟨before, placed, after, split, start, display, ?_, ?_⟩
    · exact (viable_iff _).mpr (Option.isSome_of_eq_some reads)
    · rw [viable_iff, Phase.readAll_append, reads]
      simp [Phase.readAll_cons, stuck]

/-- **The end is faulted where the tokens are viable to the last and no sentence.** -/
lemma ofTokens_eq_unexpectedEnd_iff {tokens : List Placed} (nonempty : tokens ≠ [])
    (shallow : nesting (tokens.map Placed.token) ≤ maxNesting) :
    Condition.ofTokens tokens = .error .unexpectedEnd ↔
      Viable (tokens.map Placed.token) ∧ ¬ ∃ c, Sentence (tokens.map Placed.token) c := by
  have runs : Condition.ofTokens tokens = (Phase.operand []).run tokens := by
    simp only [Condition.ofTokens, List.isEmpty_iff, nonempty, if_false,
      if_neg (Nat.not_lt.mpr shallow)]
  rw [runs, Phase.run_eq_unexpectedEnd_iff, viable_iff]
  simp only [sentence_iff_readAll]
  cases (Phase.operand []).readAll (tokens.map Placed.token) with
  | none => simp
  | some last => simp [Option.eq_none_iff_forall_ne_some]

/-- What is viable and no sentence is a proper beginning of one. -/
lemma viable_and_no_sentence_iff (tokens : List Token) :
    (Viable tokens ∧ ¬ ∃ c, Sentence tokens c) ↔
      (∃ more c, more ≠ [] ∧ Sentence (tokens ++ more) c) ∧ ¬ ∃ c, Sentence tokens c := by
  refine and_congr_left fun none => ⟨?_, ?_⟩
  · rintro ⟨more, c, sentence⟩
    refine ⟨more, c, ?_, sentence⟩
    rintro rfl
    exact none ⟨c, by simpa using sentence⟩
  · rintro ⟨more, c, -, sentence⟩
    exact ⟨more, c, sentence⟩

/-! ## Places in a text -/

/-- **What stands at a byte of a text**: before it is a whole number of characters, which take that
many bytes in UTF-8. -/
def StandsAt (source : String) (position : Nat) (rest : List Char) : Prop :=
  ∃ before : String, source = before ++ String.ofList rest ∧ before.utf8ByteSize = position

/-- The bytes of characters are those of the string of them. -/
lemma utf8ByteSize_ofList (cs : List Char) : (String.ofList cs).utf8ByteSize = width cs := by
  induction cs with
  | nil => rfl
  | cons c cs ih =>
    rw [String.ofList_cons, String.utf8ByteSize_append, String.utf8ByteSize_singleton, ih, width]

/-- What stands in the characters of a text stands in the text. -/
lemma StandsAt.of_toList {source : String} {before rest : List Char}
    (split : source.toList = before ++ rest) : StandsAt source (width before) rest := by
  refine ⟨String.ofList before, ?_, utf8ByteSize_ofList before⟩
  rw [← String.ofList_append, ← split, String.ofList_toList]

/-! ## Where scanning fails -/

/-- **A fault is that of the token that was to be read there.** -/
lemma scan_eq_error {pending start : Nat} {cs : List Char} {fault : ConditionError}
    (fails : Token.scan pending start cs = .error fault) :
    ∃ before rest misspelling, cs = before ++ rest ∧ lexeme rest = .error misspelling ∧
      fault = misspelling.toError (start + width before) rest := by
  induction cs generalizing pending start with
  | nil => cases pending <;> simp [Token.scan] at fails
  | cons c cs ih =>
    rcases scan_cons_eq_error fails with ⟨misspelling, reads, rfl⟩ | ⟨pending, fails⟩
    · exact ⟨[], c :: cs, misspelling, rfl, reads, rfl⟩
    · obtain ⟨before, rest, misspelling, rfl, reads, rfl⟩ := ih fails
      exact ⟨c :: before, rest, misspelling, rfl, reads, by rw [width, Nat.add_assoc]⟩

/-- Scanning passes a character over, or reads a token that starts with it. -/
lemma scan_cons_eq_ok {pending start : Nat} {c : Char} {cs : List Char} {tokens : List Placed}
    (scans : Token.scan pending start (c :: cs) = .ok tokens) :
    ∃ pending more, Token.scan pending (start + c.utf8Size) cs = .ok more ∧
      (tokens = more ∨ ∃ placed length, tokens = placed :: more ∧ placed.start = start ∧
        lexeme (c :: cs) = .ok (placed.token, length)) := by
  cases pending with
  | succ pending => exact ⟨pending, tokens, scans, .inl rfl⟩
  | zero =>
    unfold Token.scan at scans
    split at scans
    · exact ⟨0, tokens, scans, .inl rfl⟩
    · split at scans
      next => cases scans
      next token length reads =>
        split at scans
        next more scansMore =>
          obtain rfl := Except.ok.inj scans
          exact ⟨length - 1, more, scansMore, .inr ⟨_, length, rfl, rfl, reads⟩⟩
        next => cases scans

/-- **A token stands at its place.** -/
lemma mem_scan {pending start : Nat} {cs : List Char} {tokens : List Placed}
    (scans : Token.scan pending start cs = .ok tokens) {placed : Placed} (mem : placed ∈ tokens) :
    ∃ before rest length, cs = before ++ rest ∧ placed.start = start + width before ∧
      lexeme rest = .ok (placed.token, length) := by
  induction cs generalizing pending start tokens with
  | nil => cases pending <;> (obtain rfl := Except.ok.inj scans; cases mem)
  | cons c cs ih =>
    obtain ⟨pending, more, scansMore, read⟩ := scan_cons_eq_ok scans
    have later (mem : placed ∈ more) : ∃ before rest length, c :: cs = before ++ rest ∧
        placed.start = start + width before ∧ lexeme rest = .ok (placed.token, length) := by
      obtain ⟨before, rest, length, rfl, place, reads⟩ := ih scansMore mem
      exact ⟨c :: before, rest, length, rfl, by rw [place, width, Nat.add_assoc], reads⟩
    rcases read with rfl | ⟨first, length, rfl, place, reads⟩
    · exact later mem
    · rcases List.mem_cons.mp mem with rfl | mem
      · exact ⟨[], c :: cs, length, rfl, place, reads⟩
      · exact later mem

/-! ## Misspellings -/

lemma unsignedNumber_eq_error {cs : List Char} {fault : Misspelling}
    (fails : unsignedNumber cs = .error fault) : ∃ n, fault = .stuck n := by
  simp only [unsignedNumber] at fails
  split at fails <;> (repeat split at fails) <;> cases fails
  · exact ⟨1, rfl⟩
  · exact ⟨0, rfl⟩

/-- A number goes wrong at a character, never as a whole. -/
lemma number_eq_error {cs : List Char} {fault : Misspelling} (fails : number cs = .error fault) :
    ∃ n, fault = .stuck n := by
  unfold number at fails
  split at fails <;> split at fails
  next => cases fails
  next => exact ⟨_, (Except.error.inj fails).symm⟩
  next reads => exact Except.error.inj fails ▸ unsignedNumber_eq_error reads
  next => cases fails
  next reads => exact Except.error.inj fails ▸ unsignedNumber_eq_error reads

/-- What begins like a symbol or a quality is no word. -/
lemma lexeme_ne_word {c : Char} (symbol : c ∈ symbols) (rest word : List Char) :
    lexeme (c :: rest) ≠ .error (.word word) := by
  intro fails
  generalize whole : c :: rest = cs at fails
  unfold lexeme at fails
  split at fails <;> try cases fails
  · dsimp only at fails
    split at fails <;> cases fails
  · obtain ⟨rfl, rfl⟩ := List.cons.inj whole
    simp only [symbols, List.mem_cons, List.not_mem_nil, or_false] at symbol
    rcases symbol with rfl | rfl | rfl | rfl | rfl | rfl | rfl | rfl | rfl <;> simp_all

/-- **A word that is faulted** begins with a letter, goes on as long as it can and has no
meaning. -/
lemma lexeme_eq_word {cs word : List Char} (fails : lexeme cs = .error (.word word)) :
    ∃ c rest, cs = c :: rest ∧ isLetter c ∧ word = c :: rest.takeWhile isNameChar ∧
      keyword? word = none := by
  cases cs with
  | nil => cases fails
  | cons c rest =>
    by_cases symbol : c ∈ symbols
    · exact absurd fails (lexeme_ne_word symbol rest word)
    rw [lexeme_of_not_mem_symbols symbol] at fails
    split at fails
    next => split at fails <;> cases fails
    next =>
      split at fails
      next =>
        obtain ⟨n, stuck⟩ := number_eq_error fails
        cases stuck
      next =>
        split at fails
        next letter =>
          split at fails
          next => cases fails
          next meaningless =>
            obtain rfl := Misspelling.word.inj (Except.error.inj fails)
            exact ⟨c, rest, rfl, letter, rfl, meaningless⟩
        next => cases fails

/-- The words that mean something. -/
def keywords : List String := ["true", "false", "null", "and", "or", "not"]

lemma not_mem_keywords {word : List Char} (meaningless : keyword? word = none) :
    String.ofList word ∉ keywords := by
  unfold keyword? at meaningless
  split at meaningless <;> simp_all [keywords]

/-- **A word without a meaning at a byte of a text**, from its first letter on as long as it can
be. -/
structure StrayWord (source : String) (position : Nat) (text : String) : Prop where
  whole : ∃ after, StandsAt source position (text.toList ++ after) ∧
    ∀ c ∈ after.head?, isNameChar c = false
  letter : ∃ c more, text.toList = c :: more ∧ isLetter c
  name : ∀ c ∈ text.toList, isNameChar c
  meaningless : text ∉ keywords

/-- What is left after the longest run does not go on with it. -/
lemma head_dropWhile (p : Char → Bool) (cs : List Char) :
    ∀ c ∈ (cs.dropWhile p).head?, p c = false := by
  intro c first
  have := List.head?_dropWhile_not p cs
  rw [Option.mem_def.mp first] at this
  simpa using this

lemma strayWord_of_lexeme {source : String} {before rest word : List Char}
    (split : source.toList = before ++ rest) (fails : lexeme rest = .error (.word word)) :
    StrayWord source (width before) (String.ofList word) := by
  obtain ⟨c, tail, rfl, letter, rfl, meaningless⟩ := lexeme_eq_word fails
  refine ⟨⟨tail.dropWhile isNameChar, ?_, head_dropWhile isNameChar tail⟩,
    ⟨c, _, String.toList_ofList, letter⟩, ?_, not_mem_keywords meaningless⟩
  · simpa [List.takeWhile_append_dropWhile] using StandsAt.of_toList split
  · rw [String.toList_ofList]
    refine List.forall_mem_cons.mpr ⟨?_, List.all_eq_true.mp List.all_takeWhile⟩
    simp [isNameChar, letter]

/-! ## The faults of a text -/

/-- **A fault of scanning** is a word without a meaning, a character of the text or its end. -/
lemma ofText_eq_error {source : String} {fault : ConditionError}
    (fails : Token.ofText source = .error fault) :
    (∃ text position, fault = .invalidToken text position ∧ StrayWord source position text) ∨
    (∃ c position after, fault = .unexpectedCharacter c position ∧
      StandsAt source position (c :: after)) ∨ fault = .unexpectedEnd := by
  obtain ⟨before, rest, misspelling, split, reads, rfl⟩ := scan_eq_error fails
  rw [Nat.zero_add]
  cases misspelling with
  | word text => exact .inl ⟨_, _, rfl, strayWord_of_lexeme split reads⟩
  | stuck n =>
    refine .inr ?_
    unfold Misspelling.toError
    dsimp only
    split
    next c after drops =>
      have further : source.toList = before ++ rest.take n ++ c :: after := by
        rw [split, ← drops, List.append_assoc, List.take_append_drop]
      refine .inl ⟨c, _, after, rfl, ?_⟩
      rw [← width_append]
      exact StandsAt.of_toList further
    next => exact .inr rfl

lemma Phase.run_eq_error {phase : Phase} {tokens : List Placed} {fault : ConditionError}
    (fails : phase.run tokens = .error fault) :
    fault = .unexpectedEnd ∨ ∃ found position, fault = .unexpectedToken found position := by
  induction tokens generalizing phase with
  | nil =>
    unfold Phase.run at fails
    split at fails
    next => cases fails
    next => exact .inl (Except.error.inj fails).symm
  | cons placed rest ih =>
    unfold Phase.run at fails
    split at fails
    next => exact ih fails
    next => exact .inr ⟨_, _, (Except.error.inj fails).symm⟩

/-- **A fault of tokens** is none of scanning but the end. -/
lemma ofTokens_eq_error {tokens : List Placed} {fault : ConditionError}
    (fails : Condition.ofTokens tokens = .error fault) :
    fault = .empty ∨ fault = .tooDeep maxNesting ∨ fault = .unexpectedEnd ∨
      ∃ found position, fault = .unexpectedToken found position :=
  (ofTokens_eq_error_cases fails).imp_right fun deeper => deeper.imp_right Phase.run_eq_error

/-- A fault of a text is one of scanning it or one of reading its tokens. -/
lemma Condition.parse_eq_error {source : String} {fault : ConditionError}
    (fails : Condition.parse source = .error fault) :
    Token.ofText source = .error fault ∨
    ∃ tokens, Token.ofText source = .ok tokens ∧ Condition.ofTokens tokens = .error fault := by
  unfold Condition.parse at fails
  split at fails
  next scans =>
    obtain rfl := Except.error.inj fails
    exact .inl scans
  next tokens scans => exact .inr ⟨tokens, scans, fails⟩

/-- A token of a text stands at its place. -/
lemma standsAt_of_mem {source : String} {tokens : List Placed}
    (scans : Token.ofText source = .ok tokens) {placed : Placed} (mem : placed ∈ tokens) :
    ∃ rest length, StandsAt source placed.start rest ∧
      lexeme rest = .ok (placed.token, length) := by
  obtain ⟨before, rest, length, split, start, reads⟩ := mem_scan scans mem
  rw [start, Nat.zero_add]
  exact ⟨rest, length, .of_toList split, reads⟩

namespace Condition

variable {source : String}

/-- **A token is faulted** at the byte where it is spelled.  What comes before it can go on to a
condition, and with it nothing can. -/
lemma parse_eq_unexpectedToken {found : String} {position : Nat}
    (fails : parse source = .error (.unexpectedToken found position)) :
    ∃ before placed after, Token.ofText source = .ok (before ++ placed :: after) ∧
      placed.start = position ∧ placed.token.display = found ∧
      (∃ rest length, StandsAt source position rest ∧ lexeme rest = .ok (placed.token, length)) ∧
      Viable (before.map Placed.token) ∧
      ¬ Viable (before.map Placed.token ++ [placed.token]) := by
  rcases parse_eq_error fails with fails | ⟨tokens, scans, fails⟩
  · rcases ofText_eq_error fails with ⟨_, _, other, _⟩ | ⟨_, _, _, other, _⟩ | other <;> cases other
  · obtain ⟨before, placed, after, rfl, rfl, display, viable, stuck⟩ :=
      ofTokens_eq_unexpectedToken fails
    exact ⟨before, placed, after, scans, rfl, display,
      standsAt_of_mem scans (List.mem_append_right before (.head after)), viable, stuck⟩

/-- **The end is faulted** where the tokens go on to a condition and are none. -/
lemma parse_eq_unexpectedEnd_iff {tokens : List Placed} (scans : Token.ofText source = .ok tokens)
    (nonempty : tokens ≠ []) (shallow : nesting (tokens.map Placed.token) ≤ maxNesting) :
    parse source = .error .unexpectedEnd ↔
      (∃ more c, more ≠ [] ∧ Sentence (tokens.map Placed.token ++ more) c) ∧
        ¬ ∃ c, Sentence (tokens.map Placed.token) c := by
  rw [← viable_and_no_sentence_iff, ← ofTokens_eq_unexpectedEnd_iff nonempty shallow, parse, scans]

/-- **A fault of scanning** stands where it says. -/
lemma parse_eq_scanning {fault : ConditionError} (fails : parse source = .error fault) :
    (∀ c position, fault = .unexpectedCharacter c position →
      ∃ after, StandsAt source position (c :: after)) ∧
    ∀ text position, fault = .invalidToken text position → StrayWord source position text := by
  rcases parse_eq_error fails with fails | ⟨tokens, -, fails⟩
  · rcases ofText_eq_error fails with ⟨text, at_, rfl, stray⟩ | ⟨c, at_, after, rfl, stands⟩ | rfl
    · exact ⟨nofun, by rintro _ _ ⟨⟩; exact stray⟩
    · exact ⟨by rintro _ _ ⟨⟩; exact ⟨after, stands⟩, nofun⟩
    · exact ⟨nofun, nofun⟩
  · rcases ofTokens_eq_error fails with rfl | rfl | rfl | ⟨_, _, rfl⟩ <;> exact ⟨nofun, nofun⟩

/-- **What the fault of a text points at.**

* A token is faulted only in a text that is cut into tokens, at the byte where that token is
  spelled; the tokens before it can go on to a sentence of the grammar, and with it they cannot.
* The end of tokens that are not nested too deeply is faulted exactly if they are a proper beginning
  of a sentence and no sentence.
* A character is faulted only at a byte of the text where that character stands.
* A word is faulted only at a byte of the text where it stands, from its first letter on as long as
  it can be, and only if it is no keyword. -/
theorem parse_faults (source : String) :
    (∀ found position, parse source = .error (.unexpectedToken found position) →
      ∃ before placed after, Token.ofText source = .ok (before ++ placed :: after) ∧
        placed.start = position ∧ placed.token.display = found ∧
        (∃ rest length, StandsAt source position rest ∧
          lexeme rest = .ok (placed.token, length)) ∧
        Viable (before.map Placed.token) ∧
        ¬ Viable (before.map Placed.token ++ [placed.token])) ∧
    (∀ tokens, Token.ofText source = .ok tokens → tokens ≠ [] →
      nesting (tokens.map Placed.token) ≤ maxNesting →
      (parse source = .error .unexpectedEnd ↔
        (∃ more c, more ≠ [] ∧ Sentence (tokens.map Placed.token ++ more) c) ∧
          ¬ ∃ c, Sentence (tokens.map Placed.token) c)) ∧
    (∀ c position, parse source = .error (.unexpectedCharacter c position) →
      ∃ after, StandsAt source position (c :: after)) ∧
    ∀ text position, parse source = .error (.invalidToken text position) →
      StrayWord source position text :=
  ⟨fun _ _ => parse_eq_unexpectedToken, fun _ => parse_eq_unexpectedEnd_iff,
    fun _ _ fails => (parse_eq_scanning fails).1 _ _ rfl,
    fun _ _ fails => (parse_eq_scanning fails).2 _ _ rfl⟩

/-- In each of these texts a character of two bytes comes before the fault. -/
theorem parse_faults_after_two_bytes :
    (∃ before placed after, Token.ofText "$é == ) 1" = .ok (before ++ placed :: after) ∧
      placed.start = 7 ∧ Viable (before.map Placed.token) ∧
      ¬ Viable (before.map Placed.token ++ [placed.token])) ∧
    (∃ more c, more ≠ [] ∧ Sentence ([.quality "é", .and] ++ more) c) ∧
    (∃ after, StandsAt "$é # 1" 4 ('#' :: after)) ∧
    StrayWord "$é gold_2 1" 4 "gold_2" := by
  have token : parse "$é == ) 1" = .error (.unexpectedToken "')'" 7) := by rfl
  have ends : parse "$é &&" = .error .unexpectedEnd := by rfl
  have character : parse "$é # 1" = .error (.unexpectedCharacter '#' 4) := by rfl
  have word : parse "$é gold_2 1" = .error (.invalidToken "gold_2" 4) := by rfl
  have scans : Token.ofText "$é &&" = .ok [⟨.quality "é", 0, 3⟩, ⟨.and, 4, 6⟩] := by rfl
  obtain ⟨before, placed, after, split, start, -, -, viable, stuck⟩ :=
    (parse_faults "$é == ) 1").1 _ _ token
  exact ⟨⟨before, placed, after, split, start, viable, stuck⟩,
    (((parse_faults "$é &&").2.1 _ scans (by decide) (by decide)).mp ends).1,
    (parse_faults "$é # 1").2.2.1 _ _ character,
    (parse_faults "$é gold_2 1").2.2.2 _ _ word⟩

end Condition

end StoryEngine
