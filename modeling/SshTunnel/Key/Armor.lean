import SshTunnel.Key.Container
import SshTunnel.Key.Pkcs8
import SshTunnel.Key.Putty

/-!
Private keys as texts: in base64 between two marker lines, or in PuTTY's form.  `PrivateKey.decode` reads the keys
that a text holds in the clear, and `PrivateKey.clearDecoder` is the decoder that it gives.  Nothing is decrypted
here: under a passphrase a key is recognised but not read.
-/

namespace SshTunnel.PrivateKey

/-! ### Marker lines -/

/-- The forms of key that marker lines announce. -/
inductive Form
  | container
  | der
  | unsupported
deriving DecidableEq, Repr

def beginMarker (name : String) : List Char := ("-----BEGIN " ++ name ++ "-----").toList

/-- The form that a marker line announces. -/
def formOf? (line : List Char) : Option Form :=
  if line = beginMarker "OPENSSH PRIVATE KEY" then some .container
  else if ["ENCRYPTED PRIVATE KEY", "PRIVATE KEY", "EC PRIVATE KEY"].any fun n => line = beginMarker n then
    some .der
  else none

def isBodyChar (c : Char) : Bool := (Base64.value? c).isSome || c = '='

/-- The lines of a text; a carriage return before a line end belongs to the line end. -/
def textLines (s : List Char) : List (List Char) :=
  let ls := Text.pieces (· = '\n') s
  let strip (l : List Char) : List Char := if l.getLast? = some '\r' then l.dropLast else l
  ls.dropLast.map strip ++ (if ls.getLast? = some [] then [] else ls.getLast?.toList)

def cipherMark : List Char := "DEK-Info: AES-128-CBC,".toList

/-- What a line inside a key that names a cipher makes of it: a key that is not supported.  The line ends
with sixteen bytes in hexadecimal. -/
def cipherForm? (line : List Char) : Except Fault (Option Form) :=
  if cipherMark.isPrefixOf line then
    if (Bytes.ofHex? (line.drop cipherMark.length)).any (·.length = 16) then .ok (some .unsupported)
    else .error .unreadable
  else .ok none

/-- The form and the body of a key, from the lines before the end marker; `form` is what has been
announced so far.  Another marker line changes the form; that of a bare RSA key ends the reading. -/
def scan : Option Form → List (List Char) → Except Fault (Option Form × List Char)
  | form, [] => .ok (form, [])
  | form, l :: ls =>
    if form.isSome ∧ "-----END ".toList.isPrefixOf l then .ok (form, [])
    else if l = beginMarker "RSA PRIVATE KEY" then .error .unreadable
    else do
      let named ← if form.isSome then cipherForm? l else .ok none
      let (f, rest) ← scan (((formOf? l).or named).or form) ls
      return (f, (if form.isSome ∧ l.all isBodyChar then l else []) ++ rest)

/-! ### Keys -/

/-- The key in the body of a text.  DER that comes with a passphrase has to be encrypted. -/
def ofBody (form : Form) (b : Bytes) (passphrase : Option String) : Except Fault PrivateKey :=
  match form with
  | .container => ofContainer b passphrase
  | .der =>
    if passphrase.isSome then .error (decryptionFault b)
    else match ofDer? b with
      | some k => .ok k
      | none => .error .unreadable
  | .unsupported => .error .unreadable

/-- The private key that a text holds in the clear. -/
def decode (text : String) (passphrase : Option String) : Except Fault PrivateKey :=
  let lines := textLines text.toList
  if isPutty text.toList then ofPuttyLines lines passphrase
  else do
    match ← scan none lines with
    | (some form, body) => match Base64.decodeGroups? body with
      | some b => ofBody form b passphrase
      | none => .error .unreadable
    | (none, _) => .error .unreadable

/-- The decoder of a key library without ciphers: it reads the keys that are not encrypted, and no passphrase opens
another one. -/
def clearDecoder : Decoder := fun text passphrase => (decode text passphrase).mapError Fault.text

end SshTunnel.PrivateKey
