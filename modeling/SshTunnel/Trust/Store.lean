import SshTunnel.Failure
import SshTunnel.Key.Public
import SshTunnel.Place
import SshTunnel.Text.Blank
import SshTunnel.Text.Lower

/-!
The trust store: which keys are trusted for which host.  Its file has one line for each entry,
`names keytype key`, names being separated by commas; it is only ever appended to.  The store in memory
is read from the file when it is opened and grows with it.
-/

namespace SshTunnel

namespace TrustStore

/-- A trusted key under one name, as it is written. -/
structure Entry where
  name : String
  keyType : String
  key : String
deriving DecidableEq, Repr

/-! ### Reading the file -/

/-- The entries of a line: one for each name that is not hashed.  Lines with less than three words, and
comments, have none. -/
def lineEntries (line : List Char) : List Entry :=
  match Text.trim line with
  | '#' :: _ => []
  | t => match Text.words t with
    | names :: keyType :: key :: _ =>
      ((Text.pieces (· = ',') names).filter fun n => n.head? ≠ some '|').map fun n =>
        ⟨Text.lower (String.ofList n), String.ofList keyType, String.ofList key⟩
    | _ => []

/-- The lines before the first one that is not UTF-8. -/
def readableLines : List Bytes → List String
  | [] => []
  | b :: bs => match Text.decode? b with
    | some s => s :: readableLines bs
    | none => []

def lines (content : Bytes) : List String := readableLines (Text.pieces (· = 10) content)

/-- The entries of a file, in order. -/
def entriesOf (content : Bytes) : List Entry := (lines content).flatMap fun l => lineEntries l.toList

/-- What a file that may not be readable holds. -/
def entriesAt : Place → List Entry
  | .file c => entriesOf c
  | .absent | .unusable _ => []

end TrustStore

/-- The entries in memory, and what is at the store's path by now. -/
structure TrustStore where
  entries : List TrustStore.Entry
  place : Place
deriving DecidableEq, Repr

namespace TrustStore

/-- Reads the store; a file that cannot be read counts as empty. -/
def ofPlace (p : Place) : TrustStore := ⟨entriesAt p, p⟩

/-! ### Looking up -/

/-- The name that a host is stored under: with its port unless that is 22. -/
def nameOf (host : String) (port : UInt16) : String :=
  let h := Text.lower host
  if port = 22 then h else "[" ++ h ++ "]:" ++ toString port.toNat

/-- The entries under one name. -/
def named (s : TrustStore) (name : String) : List Entry := s.entries.filter fun e => e.name = name

/-- The entries for a host and port; those of the bare host if there are none. -/
def entriesFor (s : TrustStore) (host : String) (port : UInt16) : List Entry :=
  match s.named (nameOf host port) with
  | [] => s.named (Text.lower host)
  | es => es

/-- Every key that is trusted for a host and port, in the order of the file. -/
def trustedKeys (s : TrustStore) (host : String) (port : UInt16) : List PublicKey :=
  (s.entriesFor host port).filterMap fun e => PublicKey.ofBase64? e.key

/-- What the store says about a key that a host presents. -/
inductive Verdict
  | verified
  | unknown (fingerprint : String)
  /-- Another key of the same type is stored first. -/
  | changed (expected actual : String)
deriving DecidableEq, Repr

/-- The fingerprint of a stored key, which need not be a key at all. -/
def storedFingerprint (key : String) : String :=
  match Base64.decode? key.toList with
  | some b => fingerprint b
  | none => "unknown"

/-- The first entry of the key's type decides. -/
def verdict (s : TrustStore) (host : String) (port : UInt16) (k : PublicKey) : Verdict :=
  match (s.entriesFor host port).find? fun e => e.keyType = k.algorithm with
  | some e => if e.key = k.base64 then .verified else .changed (storedFingerprint e.key) k.fingerprint
  | none => .unknown k.fingerprint

/-! ### Adding -/

/-- The line of an entry, without its end. -/
def Entry.line (e : Entry) : String := e.name ++ " " ++ e.keyType ++ " " ++ e.key

def entryOf (host : String) (port : UInt16) (k : PublicKey) : Entry := ⟨nameOf host port, k.algorithm, k.base64⟩

/-- The content with one more line; an unfinished last line is finished first. -/
def appended (content : Bytes) (line : String) : Bytes :=
  content ++ (if content ≠ [] ∧ content.getLast? ≠ some 10 then [10] else []) ++ Text.encode line ++ [10]

/-- Appends an entry to the file. -/
def append (s : TrustStore) (e : Entry) : Except Failure TrustStore :=
  match s.place with
  | .unusable why => .error (.system why.text)
  | .absent => .ok ⟨s.entries ++ [e], .file (appended [] e.line)⟩
  | .file c => .ok ⟨s.entries ++ [e], .file (appended c e.line)⟩

/-- Trusts a key for a host and port from now on.  A key that is verified already is not stored again. -/
def add (s : TrustStore) (host : String) (port : UInt16) (k : PublicKey) : Except Failure TrustStore :=
  if s.verdict host port k = .verified then .ok s else s.append (entryOf host port k)

end TrustStore

end SshTunnel
