import SshTunnel.Failure
import SshTunnel.Key.Public

/-!
What the key that a gateway presents is checked against, and which kinds of key it is asked for.
-/

namespace SshTunnel

inductive Pins
  /-- One of these keys. -/
  | oneOf (keys : List PublicKey)
  | any
deriving DecidableEq, Repr

namespace Pins

/-- The kinds of host key that a client asks for unless told otherwise, the best first. -/
def preferred : List String := [
  "ssh-ed25519", "ecdsa-sha2-nistp256", "ecdsa-sha2-nistp384", "ecdsa-sha2-nistp521", "rsa-sha2-512",
  "rsa-sha2-256", "ssh-rsa"]

/-- The names under which an RSA key can sign. -/
def rsaNames : List String := ["rsa-sha2-512", "rsa-sha2-256", "ssh-rsa"]

/-- Whether a key can answer to the name of a kind of key. -/
def answersTo (k : PublicKey) (name : String) : Bool :=
  match k with
  | .rsa .. => rsaNames.contains name
  | k => k.algorithm = name

/-- The kinds of key to ask for, or nothing for the usual ones: those that some pinned key answers to. -/
def algorithms? : Pins → Option (List String)
  | any => none
  | oneOf ks => match preferred.filter fun n => ks.any fun k => answersTo k n with
    | [] => none
    | ns => some ns

def mismatch (host : String) (port : UInt16) (ks : List PublicKey) (k : PublicKey) : Failure :=
  .hostKeyUnresolved ("host key for " ++ host ++ ":" ++ toString port.toNat ++
    " does not match any trusted key. Expected one of: [" ++
    ", ".intercalate (ks.map PublicKey.fingerprint) ++ "], Actual: " ++ k.fingerprint)

/-- Checks the key that a gateway presents. -/
def check (p : Pins) (host : String) (port : UInt16) (k : PublicKey) : Except Failure Unit :=
  match p with
  | any => .ok ()
  | oneOf ks => if ks.any fun t => t.encode = k.encode then .ok () else .error (mismatch host port ks k)

end Pins

end SshTunnel
