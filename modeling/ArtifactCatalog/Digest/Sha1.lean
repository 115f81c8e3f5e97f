/-
The SHA-1 digest: twenty bytes from blocks of sixty-four, with eighty steps for
each block.
-/

import ArtifactCatalog.Digest.Words

namespace ArtifactCatalog.Digest.Sha1

structure State where
  a : UInt32
  b : UInt32
  c : UInt32
  d : UInt32
  e : UInt32

def start : State :=
  { a := 0x67452301, b := 0xefcdab89, c := 0x98badcfe, d := 0x10325476, e := 0xc3d2e1f0 }

def schedule (block : Array UInt32) : Array UInt32 :=
  (List.range 64).foldl
    (fun words i =>
      let word := words.getD (i + 13) 0 ^^^ words.getD (i + 8) 0 ^^^ words.getD (i + 2) 0 ^^^
        words.getD i 0
      words.push (rotateLeft word 1))
    block

def combine (step : Nat) (b c d : UInt32) : UInt32 :=
  if step < 20 then ((b &&& c) ||| (~~~b &&& d)) + 0x5a827999
  else if step < 40 then (b ^^^ c ^^^ d) + 0x6ed9eba1
  else if step < 60 then ((b &&& c) ||| (b &&& d) ||| (c &&& d)) + 0x8f1bbcdc
  else (b ^^^ c ^^^ d) + 0xca62c1d6

def runStep (words : Array UInt32) (s : State) (step : Nat) : State :=
  { a := rotateLeft s.a 5 + combine step s.b s.c s.d + s.e + words.getD step 0
    b := s.a
    c := rotateLeft s.b 30
    d := s.c
    e := s.d }

def absorb (s : State) (block : List UInt8) : State :=
  let t := (List.range 80).foldl (runStep (schedule (bigWords block))) s
  { a := s.a + t.a, b := s.b + t.b, c := s.c + t.c, d := s.d + t.d, e := s.e + t.e }

def digest (message : List UInt8) : Vector UInt8 20 :=
  let s := (pieces 64 (paddedMessage (bigEndianBytes 8) message)).foldl absorb start
  bytesOfBigWords #v[s.a, s.b, s.c, s.d, s.e]

end ArtifactCatalog.Digest.Sha1
