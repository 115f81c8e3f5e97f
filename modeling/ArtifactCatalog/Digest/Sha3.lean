/-
The SHA3-256 digest: thirty-two bytes of a state of twenty-five lanes, which
absorbs blocks of 136 bytes with twenty-four rounds of mixing after each.
-/

import ArtifactCatalog.Digest.Words

namespace ArtifactCatalog.Digest.Sha3

/-- The lanes; the lane at column x and row y stands at x + 5 y. -/
abbrev State := Vector UInt64 25

def rate : Nat := 136

def laneAt (s : State) (x y : Nat) : UInt64 := s.get ⟨x % 5 + 5 * (y % 5), by omega⟩

def ofLanes (lane : Nat → Nat → UInt64) : State :=
  Vector.ofFn fun i => lane (i.val % 5) (i.val / 5)

def turns : State :=
  #v[0, 1, 62, 28, 27, 36, 44, 6, 55, 20, 3, 10, 43, 25, 39, 41, 45, 15, 21, 8, 18, 2, 61, 56, 14]

def roundConstants : List UInt64 :=
  [0x0000000000000001, 0x0000000000008082, 0x800000000000808a, 0x8000000080008000,
    0x000000000000808b, 0x0000000080000001, 0x8000000080008081, 0x8000000000008009,
    0x000000000000008a, 0x0000000000000088, 0x0000000080008009, 0x000000008000000a,
    0x000000008000808b, 0x800000000000008b, 0x8000000000008089, 0x8000000000008003,
    0x8000000000008002, 0x8000000000000080, 0x000000000000800a, 0x800000008000000a,
    0x8000000080008081, 0x8000000000008080, 0x0000000080000001, 0x8000000080008008]

def rotate (lane count : UInt64) : UInt64 :=
  if count = 0 then lane else (lane <<< count) ||| (lane >>> (64 - count))

def parities (s : State) : Vector UInt64 5 :=
  Vector.ofFn fun x =>
    laneAt s x.val 0 ^^^ laneAt s x.val 1 ^^^ laneAt s x.val 2 ^^^ laneAt s x.val 3 ^^^
      laneAt s x.val 4

def spread (s : State) : State :=
  let sums := parities s
  let sumAt (x : Nat) : UInt64 := sums.get ⟨x % 5, Nat.mod_lt _ (by decide)⟩
  ofLanes fun x y => laneAt s x y ^^^ sumAt (x + 4) ^^^ rotate (sumAt (x + 1)) 1

def move (s : State) : State :=
  ofLanes fun x y => rotate (laneAt s (x + 3 * y) x) (laneAt turns (x + 3 * y) x)

def combine (s : State) : State :=
  ofLanes fun x y => laneAt s x y ^^^ (~~~laneAt s (x + 1) y &&& laneAt s (x + 2) y)

def runRound (s : State) (constant : UInt64) : State :=
  let t := combine (move (spread s))
  t.set 0 (t[0] ^^^ constant)

def permute (s : State) : State := roundConstants.foldl runRound s

def lanes (block : List UInt8) : Array UInt64 :=
  ((pieces 8 block).map fun piece => UInt64.ofNat (Number.ofBytes piece)).toArray

def absorb (s : State) (block : List UInt8) : State :=
  let input := lanes block
  permute (Vector.ofFn fun i => s[i] ^^^ input.getD i.val 0)

/-- A message with the bits that end it, so that blocks are full. The first
byte of the end is 6, the last has its highest bit set; they may be the same. -/
def padded (message : List UInt8) : List UInt8 :=
  let missing := rate - message.length % rate
  if missing = 1 then message ++ [0x86]
  else message ++ 0x06 :: List.replicate (missing - 2) 0 ++ [0x80]

def digest (message : List UInt8) : Vector UInt8 32 :=
  let s := (pieces rate (padded message)).foldl absorb (Vector.replicate 25 0)
  Vector.ofFn fun i => (laneAt s (i.val / 8) 0 >>> UInt64.ofNat (8 * (i.val % 8))).toUInt8

end ArtifactCatalog.Digest.Sha3
