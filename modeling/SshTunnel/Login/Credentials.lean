import SshTunnel.Text.Shown

/-!
What a user logs in with at the gateway.
-/

namespace SshTunnel

structure Credentials where
  user : String
  /-- Text of a private key. -/
  privateKey : Option String := none
  passphrase : Option String := none
  password : Option String := none
deriving DecidableEq, Repr

namespace Credentials

/-- A passphrase belongs to the key it comes with: both are replaced. -/
def withPrivateKey (c : Credentials) (key : String) (passphrase : Option String) : Credentials :=
  { c with privateKey := some key, passphrase := passphrase }

def withPassword (c : Credentials) (password : String) : Credentials :=
  { c with password := some password }

/-- A log shows of a secret only whether there is one. -/
def shown (c : Credentials) : Text.Shown := .record "GatewayCredentials" [
  ("user", .text c.user), ("has_private_key", .bool c.privateKey.isSome),
  ("has_password", .bool c.password.isSome)]

end Credentials

end SshTunnel
