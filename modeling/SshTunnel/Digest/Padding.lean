import SshTunnel.Bytes.Basic

/-!
Messages cut into blocks of 64 bytes, as SHA-1 and SHA-256 take them.
-/

namespace SshTunnel.Digest

/-- The message, a one bit, zeros, and the length in bits. -/
def padded (m : Bytes) : Bytes :=
  m ++ 0x80 :: List.replicate ((119 - m.length % 64) % 64) 0 ++ Bytes.ofNat 8 (8 * m.length)

/-- The first `n` blocks of a padded message. -/
def blocks : Nat → Bytes → List Bytes
  | 0, _ => []
  | n + 1, m => m.take 64 :: blocks n (m.drop 64)

def paddedBlocks (m : Bytes) : List Bytes :=
  let p := padded m
  blocks (p.length / 64) p

/-- The sixteen words of a block. -/
def words (block : Bytes) : List UInt32 :=
  (List.range 16).map fun i => UInt32.ofNat (Bytes.toNat ((block.drop (4 * i)).take 4))

end SshTunnel.Digest
