import ServiceHost.Tls.Bytes

/-!
# The digest of 512 bits

Bytes are padded to blocks of 128 bytes, and each block is mixed into a state of eight words in
eighty rounds. The constants are the first 64 bits of the fractions of roots: of the square
roots of the first eight primes for the state, of the cube roots of the first eighty for the
rounds.

* `Sha512.digest` is the digest of bytes.
-/

namespace ServiceHost.Sha512

/-! ### Constants -/

/-- Whether a number is a prime. -/
def isPrime (n : Nat) : Bool := 2 ≤ n && (List.range n).all fun d => d < 2 || n % d != 0

/-- The first eighty primes. -/
def primes : List Nat := (List.range 410).filter isPrime

/-- The greatest number below `bound + 2 * 2 ^ bit` that `fits`, given that `bound` does and
that every number below one that fits does. -/
def greatest (fits : Nat → Bool) : Nat → Nat → Nat
  | 0, bound => if fits (bound + 1) then bound + 1 else bound
  | bit + 1, bound =>
    let next := bound + (1 <<< (bit + 1))
    greatest fits bit (if fits next then next else bound)

/-- The first 64 bits of the fraction of the square root. -/
def squareRootFraction (n : Nat) : UInt64 :=
  (greatest (fun r => r * r ≤ n <<< 128) 68 0).toUInt64

/-- The first 64 bits of the fraction of the cube root. -/
def cubeRootFraction (n : Nat) : UInt64 :=
  (greatest (fun r => r * r * r ≤ n <<< 192) 68 0).toUInt64

/-- The state before the first block. -/
def initial : List UInt64 := (primes.take 8).map squareRootFraction

/-- The constants of the rounds. -/
def constants : List UInt64 := primes.map cubeRootFraction

/-! ### Rounds -/

/-- The bits of a word, turned to the right. -/
def turned (w : UInt64) (n : UInt64) : UInt64 := (w >>> n) ||| (w <<< (64 - n))

/-- The word that follows in a schedule, whose words stand in reverse. -/
def nextWord (words : List UInt64) : UInt64 :=
  let mixed (w a b s : UInt64) := turned w a ^^^ turned w b ^^^ (w >>> s)
  let word (i : Nat) := words.getD i 0
  mixed (word 1) 19 61 6 + word 6 + mixed (word 14) 1 8 7 + word 15

/-- The words of a block, made eighty. -/
def schedule (block : List UInt64) : List UInt64 :=
  ((List.range 64).foldl (fun words _ => nextWord words :: words) block.reverse).reverse

/-- A round, with its constant and its word. -/
def round (state : List UInt64) (key : UInt64 × UInt64) : List UInt64 :=
  match state with
  | [a, b, c, d, e, f, g, h] =>
    let sumE := turned e 14 ^^^ turned e 18 ^^^ turned e 41
    let choice := (e &&& f) ^^^ (~~~e &&& g)
    let t := h + sumE + choice + key.1 + key.2
    let sumA := turned a 28 ^^^ turned a 34 ^^^ turned a 39
    let majority := (a &&& b) ^^^ (a &&& c) ^^^ (b &&& c)
    [t + sumA + majority, a, b, c, d + t, e, f, g]
  | state => state

/-- Mixes a block into a state. -/
def mix (state block : List UInt64) : List UInt64 :=
  let mixed := (constants.zip (schedule block)).foldl round state
  List.zipWith (· + ·) state mixed

/-! ### Blocks -/

/-- The bytes after a message of a length that fill its last block. -/
def padding (length : Nat) : List UInt8 :=
  let zeros := (239 - length % 128) % 128
  0x80 :: List.replicate zeros 0 ++ Bytes.ofNat 16 (8 * length)

/-- Cuts a list into pieces of a size. -/
def pieces {α : Type} (size : Nat) : Nat → List α → List (List α)
  | 0, _ => []
  | _, [] => []
  | fuel + 1, l => l.take size :: pieces size fuel (l.drop size)

/-- The words of bytes. -/
def wordsOf (bytes : List UInt8) : List UInt64 :=
  (pieces 8 bytes.length bytes).map fun w => (Bytes.toNat w).toUInt64

/-- The digest of bytes. -/
def digest (message : List UInt8) : List UInt8 :=
  let bytes := message ++ padding message.length
  let blocks := (pieces 128 bytes.length bytes).map wordsOf
  (blocks.foldl mix initial).flatMap fun w => Bytes.ofNat 8 w.toNat

end ServiceHost.Sha512
