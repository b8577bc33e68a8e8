import SshTunnel.Proofs.Json.Written
import SshTunnel.Proofs.Settings.Members
import SshTunnel.Settings.File

/-!
Files that say less, more, or the same in another order.  What is left out has its default, what is not known is
passed over, and no file at all is an empty one.
-/

namespace SshTunnel.Settings

open Json

variable {text text' : String} {ms ms' : List (Option String × Tree)}

/-! ### Sections -/

def plain : List (String × Json) := [("gateway", .object [("port", .nat 7)])]

end SshTunnel.Settings
