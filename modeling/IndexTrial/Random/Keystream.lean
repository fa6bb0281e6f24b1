import IndexTrial.Power

/-!
The ChaCha keystream with twelve rounds, a 64-bit block counter from zero and stream number zero,
as a sequence of 32-bit words; and the key that a 64-bit seed stands for.
-/

namespace IndexTrial

namespace Keystream

abbrev Block := Vector UInt32 16

def rotateLeft (x : UInt32) (n : UInt32) : UInt32 := x <<< n ||| x >>> (32 - n)

def quarterRound (s : Block) (a b c d : Fin 16) : Block :=
  let s := s.set a (s[a] + s[b])
  let s := s.set d (rotateLeft (s[d] ^^^ s[a]) 16)
  let s := s.set c (s[c] + s[d])
  let s := s.set b (rotateLeft (s[b] ^^^ s[c]) 12)
  let s := s.set a (s[a] + s[b])
  let s := s.set d (rotateLeft (s[d] ^^^ s[a]) 8)
  let s := s.set c (s[c] + s[d])
  s.set b (rotateLeft (s[b] ^^^ s[c]) 7)

/-- The four columns, then the four diagonals. -/
def doubleRound (s : Block) : Block :=
  let s := quarterRound s 0 4 8 12
  let s := quarterRound s 1 5 9 13
  let s := quarterRound s 2 6 10 14
  let s := quarterRound s 3 7 11 15
  let s := quarterRound s 0 5 10 15
  let s := quarterRound s 1 6 11 12
  let s := quarterRound s 2 7 8 13
  quarterRound s 3 4 9 14

abbrev Key := Vector UInt32 8

/-- Constants, key, counter and stream number. -/
def initialBlock (k : Key) (counter : UInt64) : Block :=
  #v[0x61707865,0x3320646e,0x79622d32,0x6b206574,
    k[0],k[1],k[2],k[3],k[4],k[5],k[6],k[7],
    counter.toUInt32,(counter >>> 32).toUInt32,0,0]

def block (k : Key) (counter : UInt64) : Block :=
  let start := initialBlock k counter
  let mixed := (List.range 6).foldl (fun s _ => doubleRound s) start
  Vector.zipWith (· + ·) mixed start

def word (k : Key) (i : Nat) : UInt32 :=
  (block k (UInt64.ofNat (i / 16))).get ⟨i % 16,Nat.mod_lt i (by decide)⟩

def word64 (k : Key) (i : Nat) : UInt64 :=
  (word k (2 * i)).toUInt64 ||| (word k (2 * i + 1)).toUInt64 <<< 32

def seedStep (s : UInt64) : UInt64 := s * 6364136223846793005 + 11634580027462260723

/-- A word out of a 64-bit state: its high bits, shifted together and turned by the highest. -/
def seedWord (s : UInt64) : UInt32 :=
  let x := (((s >>> 18) ^^^ s) >>> 27).toUInt32
  let r := (s >>> 59).toUInt32
  if r = 0 then x else x >>> r ||| x <<< (32 - r)

def seedStates (s : UInt64) : Nat → List UInt64
  | 0 => []
  | n + 1 => seedStep s :: seedStates (seedStep s) n

theorem length_seedStates (s : UInt64) (n : Nat) : (seedStates s n).length = n := by
  induction n generalizing s with
  | zero => rfl
  | succ n ih => simp [seedStates,ih]

/-- Eight words from eight successive states. -/
def keyOfSeed (seed : Nat) : Key :=
  ⟨((seedStates (UInt64.ofNat seed) 8).map seedWord).toArray,by simp [length_seedStates]⟩

end Keystream

/-- The first of the words from position `i` on whose product with `n` has a low half of at most
`zone` gives the high half; a word is refused with a probability below one half. -/
def drawFrom (k : Keystream.Key) (n zone i : Nat) : Nat → Nat
  | 0 => 0
  | fuel + 1 =>
    let product := (Keystream.word64 k i).toNat * n
    if product % 2 ^ 64 ≤ zone then product / 2 ^ 64 else drawFrom k n zone (i + 1) fuel

/-- An unbiased number in `1 … n` for `1 ≤ n < 2 ^ 64`. -/
def drawUpTo (seed n : Nat) : Nat :=
  1 + drawFrom (Keystream.keyOfSeed seed) n (n * 2 ^ (63 - n.log2) - 1) 0 256

theorem drawFrom_lt {k : Keystream.Key} {n zone i : Nat} (h : 0 < n) (fuel : Nat) :
    drawFrom k n zone i fuel < n := by
  induction fuel generalizing i with
  | zero => exact h
  | succ fuel ih =>
    unfold drawFrom
    dsimp only
    split
    · have hw := (Keystream.word64 k i).toNat_lt
      rw [Nat.div_lt_iff_lt_mul (by decide),Nat.mul_comm n]
      exact Nat.mul_lt_mul_of_pos_right hw h
    · exact ih

theorem drawUpTo_mem {seed n : Nat} (h : 0 < n) : 1 ≤ drawUpTo seed n ∧ drawUpTo seed n ≤ n := by
  have := @drawFrom_lt (Keystream.keyOfSeed seed) n (n * 2 ^ (63 - n.log2) - 1) 0 h 256
  unfold drawUpTo
  omega

end IndexTrial
