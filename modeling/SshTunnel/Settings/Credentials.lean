import SshTunnel.Login.Method
import SshTunnel.Settings.Basic

/-!
The credentials that settings name.
-/

namespace SshTunnel.Settings

/-- Reads the identity file, if there is one; the password is added to what it gives. -/
def credentials (read : String → Except SystemError Bytes) (s : Settings) : Except Failure Credentials := do
  let c : Credentials := { user := s.gateway.user }
  let c ← match s.gateway.identityFile with
    | none => .ok c
    | some path => c.withKeyFile path (read path) s.gateway.passphrase
  .ok (match s.gateway.password with
    | none => c
    | some p => c.withPassword p)

end SshTunnel.Settings
