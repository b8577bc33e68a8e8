import SshTunnel.Json.Reader
import SshTunnel.Json.Writer
import SshTunnel.Rule.Basic

/-!
Rules as JSON records.  The address to listen on may be left out.
-/

namespace SshTunnel.Rule

open Json

def jsonFields : List (Member Rule) := [
  .of "local_bind_address" readString fun a r => { r with bind := a },
  (.of "local_port" readU16 fun n r => { r with localPort := n } : Member Rule).need,
  (.of "remote_host" readString fun a r => { r with host := a } : Member Rule).need,
  (.of "remote_port" readU16 fun n r => { r with port := n } : Member Rule).need]

/-- The rule written in a JSON text. -/
def ofJsonText (text : String) : Except Fault Rule :=
  readDocument (readRecord jsonFields ⟨defaultBind, 0, "", 0⟩) text

def toJson (r : Rule) : SshTunnel.Json := .object [
  ("local_bind_address", .string r.bind), ("local_port", .nat r.localPort.toNat),
  ("remote_host", .string r.host), ("remote_port", .nat r.port.toNat)]

end SshTunnel.Rule
