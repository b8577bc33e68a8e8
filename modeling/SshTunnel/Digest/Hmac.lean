import SshTunnel.Bytes.Basic

/-!
HMAC: a digest made to depend on a key as well as on the message.
-/

namespace SshTunnel.Digest

/-- The key in a block of 64 bytes: filled with zeros, or its digest if it is longer. -/
def keyBlock (hash : Bytes → Bytes) (key : Bytes) : Bytes :=
  let k := if 64 < key.length then hash key else key
  k ++ List.replicate (64 - k.length) 0

/-- The code of a message, for a digest over blocks of 64 bytes. -/
def hmac (hash : Bytes → Bytes) (key message : Bytes) : Bytes :=
  let k := keyBlock hash key
  hash (k.map (· ^^^ 0x5c) ++ hash (k.map (· ^^^ 0x36) ++ message))

end SshTunnel.Digest
