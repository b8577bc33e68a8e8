import SshTunnel.Digest.Padding

/-!
SHA-1, which older key files are authenticated with: each block of the padded message is mixed into five
words.
-/

namespace SshTunnel.Digest.Sha1

/-- The five words that the digest is made of. -/
structure Words where
  a : UInt32
  b : UInt32
  c : UInt32
  d : UInt32
  e : UInt32

def start : Words where
  a := 0x67452301
  b := 0xefcdab89
  c := 0x98badcfe
  d := 0x10325476
  e := 0xc3d2e1f0

def rotl (x : UInt32) (n : UInt32) : UInt32 := (x <<< n) ||| (x >>> (32 - n))

/-- The function and the constant of round `i`. -/
def choice (i : Nat) (w : Words) : UInt32 :=
  if i < 20 then ((w.b &&& w.c) ||| (~~~w.b &&& w.d)) + 0x5a827999
  else if i < 40 then (w.b ^^^ w.c ^^^ w.d) + 0x6ed9eba1
  else if i < 60 then ((w.b &&& w.c) ||| (w.b &&& w.d) ||| (w.c &&& w.d)) + 0x8f1bbcdc
  else (w.b ^^^ w.c ^^^ w.d) + 0xca62c1d6

def round (w : Words) (i : Nat) (m : UInt32) : Words :=
  ⟨rotl w.a 5 + choice i w + w.e + m, w.a, rotl w.b 30, w.c, w.d⟩

/-- The word that follows the last sixteen of a schedule. -/
def nextWord (ws : Array UInt32) : UInt32 :=
  let back (n : Nat) : UInt32 := ws.getD (ws.size - n) 0
  rotl (back 3 ^^^ back 8 ^^^ back 14 ^^^ back 16) 1

/-- Sixteen words of a block, and sixty-four more made from them. -/
def schedule (block : Bytes) : Array UInt32 :=
  (List.range 64).foldl (fun ws _ => ws.push (nextWord ws)) (words block).toArray

def mix (w : Words) (block : Bytes) : Words :=
  let v := (schedule block).toList.zipIdx.foldl (fun v mi => round v mi.2 mi.1) w
  ⟨w.a + v.a, w.b + v.b, w.c + v.c, w.d + v.d, w.e + v.e⟩

end Sha1

/-- The 20 bytes of the digest. -/
def sha1 (m : Bytes) : Bytes :=
  let w := (paddedBlocks m).foldl Sha1.mix Sha1.start
  [w.a, w.b, w.c, w.d, w.e].flatMap fun x => Bytes.ofNat 4 x.toNat

end SshTunnel.Digest
