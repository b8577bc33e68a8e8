import SshTunnel.CommandLine.Overlay
import SshTunnel.CommandLine.Parser
import SshTunnel.Key.Armor
import SshTunnel.Run.Start

/-!
The command.  It reads its arguments and files and starts a run as far as that goes without a connection:
no transport to a gateway is linked in, so that every gateway counts as out of reach, and no cipher, so that only
keys in the clear are read.
-/

namespace SshTunnel.Command

def usage : String := "Usage: oxidetunnel [OPTIONS] [GATEWAY]\n\n" ++
  "SSH local port forwarding through a gateway\n\n" ++
  "  --config <CONFIG>  -l, --user <USER>  -p, --port <PORT>  -i, --identity <IDENTITY>\n" ++
  "  --passphrase <PASSPHRASE>  --password <PASSWORD>  -L, --tunnel <[BIND:]PORT:HOST:HOSTPORT>\n" ++
  "  --bind-address <ADDRESS>  --known-hosts <FILE>  --host-key-file <FILE>  --accept-any-host-key\n" ++
  "  --trust-new-host-key  --non-interactive  --connect-timeout <SECS>  --dial-timeout <SECS>\n" ++
  "  --shutdown-timeout <SECS>  --max-connections <N>  -h, --help  -V, --version\n"

def versionText : String := "oxidetunnel 0.1.0\n"

def placeAt (path : String) : IO Place := do
  try
    return .file (← IO.FS.readBinFile path).toList
  catch e =>
    return match e with
      | .noFileOrDirectory .. => .absent
      | .permissionDenied .. => .unusable (.code 13)
      | .inappropriateType .. => .unusable .isDirectory
      | e => .unusable (.custom .other (toString e))

/-- What is at the paths that a run may read. -/
def placesFor (home : Option String) (s : Settings) : IO (List (String × Place)) := do
  let paths := s.trustStorePath home :: (s.gateway.identityFile.toList ++ s.hostKeys.keyFile.toList)
  paths.mapM fun p => return (p, ← placeAt p)

/-- Adds to a file what a run added to it. -/
def writeBack (path : String) (before after : Place) : IO Unit :=
  match after with
  | .file b => do
    let old := match before with
      | .file b => b
      | _ => []
    if old.length < b.length then
      let h ← IO.FS.Handle.mk path .append
      h.write ⟨(b.drop old.length).toArray⟩
  | _ => return

def reach : World := {
  home := none, files := fun _ => .absent, decoder := PrivateKey.clearDecoder, typed := []
  lookupFirst := .failed "no transport", lookup := .failed "no transport"
  greeting := .stalls, conduct := fun _ => .stalls, system := Listener.onHost [] }

def failWith (e : Failure) : IO UInt32 := do
  (← IO.getStderr).putStrLn e.text
  return UInt32.ofNat e.kind.exitCode

def runWith (home : Option String) (s : Settings) : IO UInt32 := do
  let places ← placesFor home s
  let w : World := { reach with home, files := fun p => (places.lookup p).getD .absent }
  let o := Run.start w s
  writeBack (s.trustStorePath home) (w.trustPlace s) o.place
  match o.result with
  | .error e => failWith e
  | .ok _ => return 0

def refuse (f : Arguments.Fault) : IO UInt32 := do
  match f with
  | .help => (← IO.getStdout).putStr usage
  | .version => (← IO.getStdout).putStr versionText
  | _ => (← IO.getStderr).putStr usage
  return UInt32.ofNat f.exitCode

def carryOut (words : List String) : IO UInt32 := do
  match Arguments.parse words with
  | .error f => refuse f
  | .ok a =>
    let home ← IO.getEnv "HOME"
    let a := a.withPassword (← IO.getEnv "OXIDETUNNEL_PASSWORD")
    let file := (a.file.or (home.map Home.settingsFile)).getD ""
    let place ← placeAt file
    match a.settings (fun _ => place.read) home with
    | .error e => failWith e
    | .ok s => runWith home s

end SshTunnel.Command

def main (args : List String) : IO UInt32 := SshTunnel.Command.carryOut args
