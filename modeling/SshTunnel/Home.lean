/-!
File names below the user's home directory.
-/

namespace SshTunnel

/-- A name below a directory: one slash between them unless the directory ends in one or is empty. -/
def below (dir name : String) : String :=
  if dir = "" ∨ dir.toList.getLast? = some '/' then dir ++ name else dir ++ "/" ++ name

namespace Home

def settingsDir (home : String) : String := below home ".oxidetunnel"

def settingsFile (home : String) : String := below (settingsDir home) "config.json"

/-- The trust store; in the working directory for a user without a home. -/
def trustStore : Option String → String
  | some home => below (below home ".ssh") "known_hosts"
  | none => "known_hosts"

end Home

end SshTunnel
