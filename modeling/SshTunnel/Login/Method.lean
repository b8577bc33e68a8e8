import SshTunnel.Failure
import SshTunnel.Key.Loading
import SshTunnel.Login.Credentials

/-!
How to log in at the gateway: one method is chosen from the credentials and tried once.
-/

namespace SshTunnel

inductive Login
  | publicKey (key : PrivateKey)
  | password (text : String)
deriving DecidableEq, Repr

namespace Login

def label : Login → String
  | publicKey _ => "publickey"
  | password _ => "password"

/-- The method that credentials are good for, keys being read by the decoder `d`.  A usable key comes before a
password; a password comes before the failure to read a key. -/
def select (d : PrivateKey.Decoder) (c : Credentials) : Except Failure Login :=
  let byPassword : Except Failure Login := match c.password with
    | some p => .ok (password p)
    | none => .error (.configuration "no credentials: supply a private key or a password")
  match c.privateKey with
  | none => byPassword
  | some text => match PrivateKey.ofText d text c.passphrase with
    | .ok k => .ok (publicKey k)
    | .error e =>
      if c.password.isSome then byPassword
      else .error (.authenticationFailed ("private key could not be loaded: " ++ e.text))

/-- An attempt to log in, as the gateway sees it. -/
structure Attempt where
  user : String
  method : Login
deriving DecidableEq, Repr

/-- What comes of an attempt: the gateway accepts it or not, or the attempt breaks off.  Whatever breaks
it off counts as a failure to log in. -/
def conclude (a : Attempt) (answer : Except Failure Bool) : Except Failure Unit :=
  match answer with
  | .ok true => .ok ()
  | .ok false => .error (.authenticationFailed (a.method.label ++
      " authentication rejected by server for user " ++ a.user))
  | .error (.authenticationFailed m) => .error (.authenticationFailed m)
  | .error e => .error (.authenticationFailed e.text)

end Login

/-- Credentials with a private key from a file, given what reading it gave. -/
def Credentials.withKeyFile (c : Credentials) (path : String) (file : Except SystemError Bytes)
    (passphrase : Option String) : Except Failure Credentials :=
  let unreadable (why : String) : Failure :=
    .configuration ("Failed to read identity file " ++ Text.quoted path ++ ": " ++ why)
  match file with
  | .error e => .error (unreadable e.text)
  | .ok b => match Text.decode? b with
    | none => .error (unreadable SystemError.notUtf8.text)
    | some text => .ok (c.withPrivateKey text passphrase)

end SshTunnel
