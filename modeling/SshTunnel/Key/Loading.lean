import SshTunnel.Key.Private
import SshTunnel.Text.Blank

/-!
Private keys as users give them.  A text that says it is encrypted is asked its passphrase; then it is left to the
decoder of the key library, whose words are passed on where it does not read the text.
-/

namespace SshTunnel.PrivateKey

/-- What the user is told is wrong with a text. -/
inductive Flaw
  | passphraseRequired
  | wrongPassphrase
  /-- In the words of the decoder. -/
  | unreadable (why : String)
deriving DecidableEq, Repr

def Flaw.text : Flaw → String
  | .passphraseRequired => "encrypted key requires passphrase"
  | .wrongPassphrase => "invalid passphrase"
  | .unreadable why => "failed to parse key: " ++ why

/-- Whether the words of a decoder have to do with decryption. -/
def blamesPassphrase (why : String) : Bool :=
  Text.occursIn "decrypt".toList why.toList || Text.occursIn "password".toList why.toList

/-- The private key in a text, for a user.  A text that says it is encrypted needs a passphrase; where there
is one, it is blamed for a failure that has to do with decryption. -/
def ofText (d : Decoder) (text : String) (passphrase : Option String) : Except Flaw PrivateKey :=
  if passphrase = none ∧ Text.occursIn "ENCRYPTED".toList text.toList then .error .passphraseRequired
  else match d text passphrase with
    | .ok k => .ok k
    | .error why =>
      .error (if passphrase.isSome ∧ blamesPassphrase why = true then .wrongPassphrase else .unreadable why)

end SshTunnel.PrivateKey
