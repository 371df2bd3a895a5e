/-!
# A stream of random words

ChaCha with twelve rounds turns a key of eight words and the number of a block
into sixteen words.  The key is spread from a seed of 64 bits by a permuted
congruential generator.
-/

namespace SurfaceKinetics.ChaCha

def rotateLeft (word : UInt32) (count : UInt32) : UInt32 :=
  (word <<< count) ||| (word >>> (32 - count))

def rotateRight (word : UInt32) (count : UInt32) : UInt32 :=
  (word >>> count) ||| (word <<< ((32 - count) % 32))

/-- Sixteen words in four rows. -/
abbrev Block := Vector UInt32 16

/-- Mixes four words of a block. -/
def quarterRound (block : Block) (a b c d : Fin 16) : Block :=
  let block := block.set a (block[a] + block[b])
  let block := block.set d (rotateLeft (block[d] ^^^ block[a]) 16)
  let block := block.set c (block[c] + block[d])
  let block := block.set b (rotateLeft (block[b] ^^^ block[c]) 12)
  let block := block.set a (block[a] + block[b])
  let block := block.set d (rotateLeft (block[d] ^^^ block[a]) 8)
  let block := block.set c (block[c] + block[d])
  block.set b (rotateLeft (block[b] ^^^ block[c]) 7)

/-- Mixes the columns and then the diagonals of a block. -/
def doubleRound (block : Block) : Block :=
  let block := quarterRound block 0 4 8 12
  let block := quarterRound block 1 5 9 13
  let block := quarterRound block 2 6 10 14
  let block := quarterRound block 3 7 11 15
  let block := quarterRound block 0 5 10 15
  let block := quarterRound block 1 6 11 12
  let block := quarterRound block 2 7 8 13
  quarterRound block 3 4 9 14

/-- Double rounds one after the other. -/
def doubleRounds : Nat → Block → Block
  | 0, block => block
  | count + 1, block => doubleRounds count (doubleRound block)

/-- Constant words, the key, the number of the block, and two zero words. -/
def startBlock (key : Vector UInt32 8) (number : UInt64) : Block :=
  #v[0x61707865, 0x3320646e, 0x79622d32, 0x6b206574,
    key[0], key[1], key[2], key[3],
    key[4], key[5], key[6], key[7],
    number.toUInt32, (number >>> 32).toUInt32, 0, 0]

/-- The words of a block of the stream. -/
def block (key : Vector UInt32 8) (number : UInt64) : Block :=
  let start := startBlock key number
  (doubleRounds 6 start).zipWith (· + ·) start

/-- Two words as one of 64 bits, the low one first. -/
def wide (low high : UInt32) : UInt64 := low.toUInt64 ||| (high.toUInt64 <<< 32)

/-- The words of a block as words of 64 bits. -/
def wideWords (words : Block) : List UInt64 :=
  [wide words[0] words[1], wide words[2] words[3],
    wide words[4] words[5], wide words[6] words[7],
    wide words[8] words[9], wide words[10] words[11],
    wide words[12] words[13], wide words[14] words[15]]

/-! ## The key of a seed -/

/-- The next state of the generator that spreads a seed. -/
def nextSeedState (state : UInt64) : UInt64 :=
  state * 6364136223846793005 + 11634580027462260723

/-- The word that a state of that generator yields. -/
def seedWord (state : UInt64) : UInt32 :=
  rotateRight
    (((state >>> 18) ^^^ state) >>> 27).toUInt32
    (state >>> 59).toUInt32

/-- The key of a seed. -/
def key (seed : UInt64) : Vector UInt32 8 :=
  let first := nextSeedState seed
  let second := nextSeedState first
  let third := nextSeedState second
  let fourth := nextSeedState third
  let fifth := nextSeedState fourth
  let sixth := nextSeedState fifth
  let seventh := nextSeedState sixth
  let eighth := nextSeedState seventh
  #v[seedWord first, seedWord second, seedWord third, seedWord fourth,
    seedWord fifth, seedWord sixth, seedWord seventh, seedWord eighth]

end SurfaceKinetics.ChaCha
