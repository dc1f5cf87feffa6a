/-!
# BLAKE3

The keyed digest of a message that fits one block of 64 bytes.  The state is
four rows of four words; a round mixes the columns and, after turning the rows
against each other, the diagonals.
-/

namespace NodeLink.Digest.Blake3

structure Row where
  a : UInt32
  b : UInt32
  c : UInt32
  d : UInt32

namespace Row

def zipWith (f : UInt32 → UInt32 → UInt32) (x y : Row) : Row :=
  ⟨f x.a y.a, f x.b y.b, f x.c y.c, f x.d y.d⟩

def add : Row → Row → Row := zipWith (· + ·)

def xor : Row → Row → Row := zipWith (· ^^^ ·)

def rotateWord (count : UInt32) (word : UInt32) : UInt32 :=
  (word >>> count) ||| (word <<< (32 - count))

def rotate (count : UInt32) (x : Row) : Row :=
  ⟨rotateWord count x.a, rotateWord count x.b, rotateWord count x.c, rotateWord count x.d⟩

def turn (x : Row) : Row := ⟨x.b, x.c, x.d, x.a⟩

def words (x : Row) : List UInt32 := [x.a, x.b, x.c, x.d]

end Row

structure State where
  first : Row
  second : Row
  third : Row
  fourth : Row

def State.stir (state : State) (message : Row) (far near : UInt32) : State :=
  let first := (state.first.add state.second).add message
  let fourth := (state.fourth.xor first).rotate far
  let third := state.third.add fourth
  ⟨first, (state.second.xor third).rotate near, third, fourth⟩

def State.mix (state : State) (even odd : Row) : State :=
  (state.stir even 16 12).stir odd 8 7

def State.toDiagonals (state : State) : State :=
  ⟨state.first, state.second.turn, state.third.turn.turn, state.fourth.turn.turn.turn⟩

def State.toColumns (state : State) : State :=
  ⟨state.first, state.second.turn.turn.turn, state.third.turn.turn, state.fourth.turn⟩

/-- Sixteen words as four rows of the words that are used together. -/
structure Block where
  words : List UInt32

def Block.word (block : Block) (i : Nat) : UInt32 := block.words.getD i 0

def Block.row (block : Block) (i : Nat) : Row :=
  ⟨block.word i, block.word (i + 2), block.word (i + 4), block.word (i + 6)⟩

def permutation : List Nat := [2, 6, 3, 10, 7, 0, 4, 13, 1, 11, 12, 5, 9, 14, 15, 8]

def Block.permuted (block : Block) : Block := ⟨permutation.map block.word⟩

def State.round (state : State) (block : Block) : State :=
  ((state.mix (block.row 0) (block.row 1)).toDiagonals.mix (block.row 8) (block.row 9)).toColumns

def State.rounds : Nat → State → Block → State
  | 0, state, _ => state
  | count + 1, state, block => (state.round block).rounds count block.permuted

def State.digest (state : State) (block : Block) : List UInt32 :=
  let last := state.rounds 7 block
  (last.first.xor last.third).words ++ (last.second.xor last.fourth).words

def wordOf (bytes : List UInt8) : UInt32 :=
  bytes.foldr (fun b word => word <<< 8 ||| b.toUInt32) 0

def bytesOf (word : UInt32) : List UInt8 :=
  [word.toUInt8, (word >>> 8).toUInt8, (word >>> 16).toUInt8, (word >>> 24).toUInt8]

def wordsOf : Nat → List UInt8 → List UInt32
  | 0, _ => []
  | count + 1, bytes => wordOf (bytes.take 4) :: wordsOf count (bytes.drop 4)

def initial : Row := ⟨0x6A09E667, 0xBB67AE85, 0x3C6EF372, 0xA54FF53A⟩

def flags : UInt32 := 1 ||| 2 ||| 8 ||| 16

def rowOf (words : List UInt32) : Row :=
  ⟨words.getD 0 0, words.getD 1 0, words.getD 2 0, words.getD 3 0⟩

/-- The digest of a message of at most 64 bytes under a key of 32 bytes. -/
def keyed (key message : List UInt8) : List UInt8 :=
  let keyWords := wordsOf 8 key
  let start : State :=
    ⟨rowOf keyWords, rowOf (keyWords.drop 4), initial, ⟨0, 0, UInt32.ofNat message.length, flags⟩⟩
  (start.digest ⟨wordsOf 16 message⟩).flatMap bytesOf

end NodeLink.Digest.Blake3
