import SshTunnel.Trust.Consent
import SshTunnel.Trust.KeyFile
import SshTunnel.Trust.Store

/-!
Which keys a gateway may present.  They come from the trust store; or else from the operator's key file,
if there is one; or else from the gateway itself, if the user trusts what it presents.  A key learned in
one of the last two ways is added to the store.  Everything done on the way is in the trace.
-/

namespace SshTunnel

inductive KeySource
  | store
  | keyFile
  | gateway
deriving DecidableEq, Repr

/-- Keys to pin a session to; it may present any one of them. -/
structure Resolved where
  keys : List PublicKey
  source : KeySource
deriving DecidableEq, Repr

namespace Resolution

/-- The operator's key file: its path and what reading it gives. -/
structure Operator where
  path : String
  file : Except SystemError Bytes

/-- What lies outside: the operator's file, the key that the gateway presents when it is asked for one,
and the answer to a question, if the one who is asked gives one. -/
structure World where
  operator : Option Operator
  fetch : String → UInt16 → Except Failure PublicKey
  answer : Question → Option Bool

/-- Something that others can see. -/
inductive Event
  | readKeyFile
  | fetched (host : String) (port : UInt16)
  | asked (q : Question)
  /-- A line was appended to the file of the store. -/
  | saved (e : TrustStore.Entry)
deriving DecidableEq, Repr

/-- What a resolution comes to, what it leaves in the store, and what it did. -/
structure Outcome where
  result : Except Failure Resolved
  store : TrustStore
  trace : List Event

/-- The store after an attempt to save a key, which may fail without harm. -/
def persist (s : TrustStore) (host : String) (port : UInt16) (k : PublicKey) : TrustStore × List Event :=
  match s.add host port k with
  | .error _ => (s, [])
  | .ok s' => (s', if s' = s then [] else [.saved (TrustStore.entryOf host port k)])

def question (host : String) (port : UInt16) (k : PublicKey) : Question :=
  ⟨host, port, k.algorithm, k.fingerprint⟩

def untrusted (host : String) (port : UInt16) (k : PublicKey) : Failure :=
  .hostKeyUnresolved ("host key for " ++ host ++ ":" ++ toString port.toNat ++ " (" ++ k.fingerprint ++
    ") was not trusted")

/-- The failure of a question that nobody answered. -/
def unanswered : Failure := .hostKeyUnresolved "trust prompt failed"

/-- From the operator's file. -/
def fromFile (o : Operator) (s : TrustStore) (host : String) (port : UInt16) : Outcome :=
  match KeyFile.read o.file with
  | .error e => ⟨.error (.hostKeyUnresolved (e.text o.path)), s, [.readKeyFile]⟩
  | .ok k =>
    let (s', saved) := persist s host port k
    ⟨.ok ⟨[k], .keyFile⟩, s', .readKeyFile :: saved⟩

/-- From the gateway, with the user's consent. -/
def fromGateway (w : World) (s : TrustStore) (host : String) (port : UInt16) : Outcome :=
  match w.fetch host port with
  | .error e => ⟨.error e, s, [.fetched host port]⟩
  | .ok k =>
    let q := question host port k
    let before : List Event := [.fetched host port, .asked q]
    match w.answer q with
    | none => ⟨.error unanswered, s, before⟩
    | some false => ⟨.error (untrusted host port k), s, before⟩
    | some true =>
      let (s', saved) := persist s host port k
      ⟨.ok ⟨[k], .gateway⟩, s', before ++ saved⟩

def resolve (w : World) (s : TrustStore) (host : String) (port : UInt16) : Outcome :=
  match s.trustedKeys host port with
  | [] => match w.operator with
    | some o => fromFile o s host port
    | none => fromGateway w s host port
  | ks => ⟨.ok ⟨ks, .store⟩, s, []⟩

end Resolution

end SshTunnel
