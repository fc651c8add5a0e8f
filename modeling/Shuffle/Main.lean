import Shuffle.Command.Run
import Std.Async.DNS
import Std.Async.TCP

/-!
# The command line tool

The files, the network and the outputs of the process, for `Command.runLine`.
-/

namespace Shuffle.Tool

open Std.Async

/-! ## §1 Files and URLs -/

/-- The content of a file, if it can be read. -/
def load (p : Path) : IO (Option Bytes) := do
  try return some (← IO.FS.readBinFile p.text).toList
  catch _ => return none

/-- Writes a file and tells whether that worked. -/
def save (p : Path) (content : Bytes) : IO Bool := do
  try
    IO.FS.writeBinFile p.text content.toByteArray
    return true
  catch _ => return false

/-- Everything that the other side sends before it closes the connection. -/
partial def receive (c : TCP.Socket.Client) (got : ByteArray) : Async ByteArray := do
  match ← c.recv? 65536 with
  | none => return got
  | some more => receive c (got ++ more)

/-- Asks the service at an address. -/
def exchange (ip : Std.Net.IPAddr) (port : UInt16) (request : String) : Async Bytes := do
  let c ← TCP.Socket.Client.mk
  c.connect (match ip with
    | .v4 a => .v4 ⟨a, port⟩
    | .v6 a => .v6 ⟨a, port⟩)
  c.send request.toUTF8
  return (← receive c .empty).toList

/-- Opens a URL at the first of its host's addresses. -/
def openUrl (url : Url) : IO (Option Reply) := do
  match url.scheme, url.host?, url.port? with
  | "http", some host, some port =>
    let addresses ← (DNS.getAddrInfo (FetchDescriptor.hostText host) "").block
    match addresses[0]? with
    | none => return none
    | some ip => return Reply.read (← (exchange ip port url.openingRequest).block)
  | _, _, _ => return none

/-- The reply to opening a URL, if there is one. -/
def get (text : String) : IO (Option Reply) := do
  match Url.read text with
  | .error _ => return none
  | .ok url =>
    try openUrl url
    catch _ => return none

/-! ## §2 Running -/

/-- The files, the network and the environment of the process. -/
def surroundings (env : String → Option String) : Surroundings IO :=
  { env, load, save, get }

/-- Prints how a run ends. -/
def finish (e : Ending) : IO UInt32 := do
  (← IO.getStdout).write e.printed.toByteArray
  IO.eprint e.complaint
  return e.code

end Shuffle.Tool

/-- Runs the tool. -/
def main (words : List String) : IO UInt32 := do
  let maxTasks ← IO.getEnv Shuffle.Command.maxTasksVariable
  let rangeBytes ← IO.getEnv Shuffle.Command.rangeBytesVariable
  let env := fun name =>
    if name = Shuffle.Command.maxTasksVariable then maxTasks
    else if name = Shuffle.Command.rangeBytesVariable then rangeBytes
    else none
  Shuffle.Tool.finish (← Shuffle.Command.runLine (Shuffle.Tool.surroundings env) words)
