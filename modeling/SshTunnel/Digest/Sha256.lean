import SshTunnel.Digest.Padding

/-!
SHA-256: the message is padded to whole blocks of 64 bytes, and each block is mixed into eight words.
-/

namespace SshTunnel.Digest.Sha256

def constants : Array UInt32 := #[
  0x428a2f98, 0x71374491, 0xb5c0fbcf, 0xe9b5dba5, 0x3956c25b, 0x59f111f1, 0x923f82a4, 0xab1c5ed5,
  0xd807aa98, 0x12835b01, 0x243185be, 0x550c7dc3, 0x72be5d74, 0x80deb1fe, 0x9bdc06a7, 0xc19bf174,
  0xe49b69c1, 0xefbe4786, 0x0fc19dc6, 0x240ca1cc, 0x2de92c6f, 0x4a7484aa, 0x5cb0a9dc, 0x76f988da,
  0x983e5152, 0xa831c66d, 0xb00327c8, 0xbf597fc7, 0xc6e00bf3, 0xd5a79147, 0x06ca6351, 0x14292967,
  0x27b70a85, 0x2e1b2138, 0x4d2c6dfc, 0x53380d13, 0x650a7354, 0x766a0abb, 0x81c2c92e, 0x92722c85,
  0xa2bfe8a1, 0xa81a664b, 0xc24b8b70, 0xc76c51a3, 0xd192e819, 0xd6990624, 0xf40e3585, 0x106aa070,
  0x19a4c116, 0x1e376c08, 0x2748774c, 0x34b0bcb5, 0x391c0cb3, 0x4ed8aa4a, 0x5b9cca4f, 0x682e6ff3,
  0x748f82ee, 0x78a5636f, 0x84c87814, 0x8cc70208, 0x90befffa, 0xa4506ceb, 0xbef9a3f7, 0xc67178f2]

/-- The eight words that the digest is made of. -/
structure Words where
  a : UInt32
  b : UInt32
  c : UInt32
  d : UInt32
  e : UInt32
  f : UInt32
  g : UInt32
  h : UInt32

def start : Words where
  a := 0x6a09e667
  b := 0xbb67ae85
  c := 0x3c6ef372
  d := 0xa54ff53a
  e := 0x510e527f
  f := 0x9b05688c
  g := 0x1f83d9ab
  h := 0x5be0cd19

def rotr (x : UInt32) (n : UInt32) : UInt32 := (x >>> n) ||| (x <<< (32 - n))

def round (w : Words) (k m : UInt32) : Words :=
  let s₁ := rotr w.e 6 ^^^ rotr w.e 11 ^^^ rotr w.e 25
  let ch := (w.e &&& w.f) ^^^ (~~~w.e &&& w.g)
  let t₁ := w.h + s₁ + ch + k + m
  let s₀ := rotr w.a 2 ^^^ rotr w.a 13 ^^^ rotr w.a 22
  let maj := (w.a &&& w.b) ^^^ (w.a &&& w.c) ^^^ (w.b &&& w.c)
  ⟨t₁ + (s₀ + maj), w.a, w.b, w.c, w.d + t₁, w.e, w.f, w.g⟩

/-- The word that follows the last sixteen of a schedule. -/
def nextWord (ws : Array UInt32) : UInt32 :=
  let at' (back : Nat) : UInt32 := ws.getD (ws.size - back) 0
  let x := at' 15
  let y := at' 2
  at' 16 + (rotr x 7 ^^^ rotr x 18 ^^^ (x >>> 3)) + at' 7 + (rotr y 17 ^^^ rotr y 19 ^^^ (y >>> 10))

/-- Sixteen words of a block, and forty-eight more made from them. -/
def schedule (block : Bytes) : Array UInt32 :=
  (List.range 48).foldl (fun ws _ => ws.push (nextWord ws)) (words block).toArray

def mix (w : Words) (block : Bytes) : Words :=
  let v := (constants.zip (schedule block)).foldl (fun v km => round v km.1 km.2) w
  ⟨w.a + v.a, w.b + v.b, w.c + v.c, w.d + v.d, w.e + v.e, w.f + v.f, w.g + v.g, w.h + v.h⟩

end Sha256

/-- The 32 bytes of the digest. -/
def sha256 (m : Bytes) : Bytes :=
  let w := (paddedBlocks m).foldl Sha256.mix Sha256.start
  [w.a, w.b, w.c, w.d, w.e, w.f, w.g, w.h].flatMap fun x => Bytes.ofNat 4 x.toNat

end SshTunnel.Digest
