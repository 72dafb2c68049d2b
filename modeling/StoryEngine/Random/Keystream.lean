/-!
# A stream of random words

The source of randomness is the keystream of the ChaCha cipher with eight rounds: a block of
sixteen 32-bit words is mixed from four constants, a key of eight words, the number of the block in
two words, and two zero words.

* `quarterRound`, `doubleRound` — the mixing.
* `block` — one block of the stream.
* `word32`, `word64` — the words of the stream by their place, the low half of a 64-bit word first.
-/

namespace StoryEngine.Random

/-- A key of eight words. -/
abbrev Key := Vector UInt32 8

/-- The sixteen words that are mixed. -/
abbrev Words := Vector UInt32 16

/-- A word turned to the left. -/
def rotate (x : UInt32) (n : UInt32) : UInt32 :=
  (x <<< n) ||| (x >>> (32 - n))

/-- **The mixing of four words**: add, exclusive or, turn, four times over. -/
def quarterRound (s : Words) (a b c d : Fin 16) : Words :=
  let s := s.set a (s[a] + s[b])
  let s := s.set d (rotate (s[d] ^^^ s[a]) 16)
  let s := s.set c (s[c] + s[d])
  let s := s.set b (rotate (s[b] ^^^ s[c]) 12)
  let s := s.set a (s[a] + s[b])
  let s := s.set d (rotate (s[d] ^^^ s[a]) 8)
  let s := s.set c (s[c] + s[d])
  s.set b (rotate (s[b] ^^^ s[c]) 7)

/-- The words as a square: a round down its columns, then one along its diagonals. -/
def doubleRound (s : Words) : Words :=
  let s := quarterRound s 0 4 8 12
  let s := quarterRound s 1 5 9 13
  let s := quarterRound s 2 6 10 14
  let s := quarterRound s 3 7 11 15
  let s := quarterRound s 0 5 10 15
  let s := quarterRound s 1 6 11 12
  let s := quarterRound s 2 7 8 13
  quarterRound s 3 4 9 14

/-- The words that a block is mixed from. -/
def initial (key : Key) (number : UInt64) : Words :=
  #v[0x61707865, 0x3320646E, 0x79622D32, 0x6B206574,
    key[0], key[1], key[2], key[3], key[4], key[5], key[6], key[7],
    number.toUInt32, (number >>> 32).toUInt32, 0, 0]

/-- **One block of the stream**: eight rounds, and the initial words added to the outcome. -/
def block (key : Key) (number : UInt64) : Words :=
  let start := initial key number
  let mixed := doubleRound (doubleRound (doubleRound (doubleRound start)))
  mixed.zipWith (· + ·) start

/-- A word of the stream by its place. -/
def word32 (key : Key) (place : Nat) : UInt32 :=
  (block key (UInt64.ofNat (place / 16))).get ⟨place % 16, Nat.mod_lt _ (by decide)⟩

/-- A double word of the stream by its place among the double words. -/
def word64 (key : Key) (place : Nat) : UInt64 :=
  (word32 key (2 * place)).toUInt64 ||| ((word32 key (2 * place + 1)).toUInt64 <<< 32)

end StoryEngine.Random
