import SshTunnel.Bytes.Basic
import SshTunnel.Rule.Basic
import SshTunnel.Settings.Basic
import SshTunnel.Text.Blank
import SshTunnel.Text.Lower
import SshTunnel.Text.Utf8

/-!
Whether a host key that nobody has approved yet is to be trusted: always, never, or by an answer to a
question on the terminal.
-/

namespace SshTunnel

/-- What is asked about a key. -/
structure Question where
  host : String
  port : UInt16
  keyType : String
  fingerprint : String
deriving DecidableEq, Repr

def Question.text (q : Question) : String :=
  "The authenticity of host '" ++ q.host ++ ":" ++ toString q.port.toNat ++ "' can't be established.\n" ++
    q.keyType ++ " key fingerprint is " ++ q.fingerprint ++ ".\n" ++
    "Are you sure you want to continue connecting (yes/no)? "

namespace Consent

/-- The bytes up to and including the first line end. -/
def firstLine : Bytes → Bytes
  | [] => []
  | b :: bs => if b = 10 then [b] else b :: firstLine bs

/-- A line that says yes, in any case and with blanks around it. -/
def isYes (line : String) : Bool :=
  let a := Text.lower (String.ofList (Text.trim line.toList))
  a = "yes" || a = "y"

/-- The answer typed; one that is not UTF-8 is no. -/
def answer (input : Bytes) : Bool :=
  match Text.decode? (firstLine input) with
  | some line => isYes line
  | none => false

/-- The decision, given what would be typed. -/
def decide (c : Consent) (input : Bytes) : Bool :=
  match c with
  | ask => answer input
  | always => true
  | never => false

/-- What is shown on the terminal on the way to a decision. -/
def shown (c : Consent) (q : Question) : String :=
  match c with
  | ask => q.text
  | always | never => ""

end Consent

end SshTunnel
