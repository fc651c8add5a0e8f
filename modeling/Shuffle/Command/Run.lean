import Shuffle.Command.Arguments
import Shuffle.Command.KeySpec
import Shuffle.Document.Plans
import Shuffle.Json.Printer
import Shuffle.Json.Reader
import Shuffle.Pull.Client
import Shuffle.Pull.Settings

/-!
# Running commands

A command reads and writes files and opens URLs. These are parameters, its `Surroundings`, in any
monad, so that the same command runs on real files and on values. What it makes is a `Product`:
octets, and the file that is to hold them if they are not to be printed.

- `Command.planTasks`, `FetchDescriptor.describe` are what `plan` and `decode` print.
- `Command.run` runs a command, `Command.runLine` a command line up to its exit code.
-/

namespace Shuffle

/-! ## §1 Results -/

/-- What a command makes. -/
structure Product where
  content : Bytes
  /-- The file to write; without one the content is printed. -/
  file : Option Path := none
deriving DecidableEq, Repr

/-- Why a command fails. -/
inductive CommandFault where
  | unreadableRequest (file : Path)
  | invalidRequest (file : Path)
  | noInputs
  | plan (fault : PlanError)
  | keySpec (spec : String) (fault : KeySpecFault)
  | descriptor (fault : DescriptorError)
  | key (fault : KeyError)
  | fetch (fault : FetchFault)
  | unreadable (file : Path)
  | handshake (fault : PullFault)
  | unwritable (file : Path)

/-- The wording of a fault. -/
def CommandFault.message : CommandFault → String
  | .unreadableRequest file => "Failed to read plan request " ++ file.text
  | .invalidRequest file => "Invalid plan request " ++ file.text
  | .noInputs => "Plan request has no input stages"
  | .plan fault => fault.message
  | .keySpec spec fault => fault.message spec
  | .descriptor fault => fault.message
  | .key fault => fault.message
  | .fetch fault => fault.message
  | .unreadable file => "Failed to read " ++ file.text
  | .handshake fault => fault.message
  | .unwritable file => "Failed to write " ++ file.text

/-- What a command works on. -/
structure Surroundings (m : Type → Type) where
  /-- The value of a variable of the environment. -/
  env : String → Option String
  /-- The content of a file, if it can be read. -/
  load : Path → m (Option Bytes)
  /-- Writes a file and tells whether that worked. -/
  save : Path → Bytes → m Bool
  /-- The reply to opening a URL, if there is one. -/
  get : String → m (Option Reply)

/-- How a run of the tool ends. -/
structure Ending where
  code : UInt32 := 0
  /-- What is printed to standard output. -/
  printed : Bytes := []
  /-- What is printed to the error output. -/
  complaint : String := ""
deriving DecidableEq, Repr

/-- The end of a command line that is not run. -/
def Ending.ofStop (stop : Stop) : Ending :=
  ⟨stop.code, Bytes.ofText stop.printed, stop.complaint⟩

/-- The end of a command that fails. -/
def Ending.ofFault (fault : CommandFault) : Ending :=
  { code := 1, complaint := "Error: " ++ fault.message ++ "\n" }

/-! ## §2 Plans -/

namespace Command

/-- Plans the tasks that a request asks for. A bound on the command line goes before the one of
the request. -/
def planTasks (options : PlanOptions) (request : PlanRequest) : Except CommandFault (List Task) :=
  let standard := PlannerConfig.standard
  let config := { standard with
    bytesPerRangeTask := options.rangeBytes.getD standard.bytesPerRangeTask }
  -- The command line goes before the request, and the request before the planner's own number.
  let maxTasks := ((options.maxTasks <|> request.maxTasks).getD config.defaultMaxTasks).toNat
  let ids : TaskIds := { stage := request.stage }
  let result : Except CommandFault PlanResult :=
    match options.mode, request.inputs with
    | .auto, [] => .error .noInputs
    | .auto, [input] => .ok (Planner.single config input maxTasks ids)
    -- Several inputs are joined, whatever their partitioning; the planner refuses what does not
    -- fit.
    | .auto, inputs => .ok (Planner.join inputs maxTasks ids)
    | .hash, inputs => .ok (Planner.plan config inputs (.hash maxTasks) ids)
    | .range, inputs => .ok (Planner.plan config inputs .range ids)
    | .broadcast, inputs => .ok (Planner.plan config inputs .broadcast ids)
  result.bind fun planned => (planned.mapError .plan).map (·.1)

/-- Reads the request in a file of this content. -/
def readRequest (file : Path) (content : Option Bytes) : Except CommandFault PlanRequest :=
  match content.bind Bytes.toText? with
  | none => .error (.unreadableRequest file)
  | some text =>
    match (Json.parse text).bind PlanRequest.ofJson? with
    | none => .error (.invalidRequest file)
    | some request => .ok request

/-- The document of a plan. -/
def planDocument (options : PlanOptions) (content : Option Bytes) : Except CommandFault Bytes := do
  let tasks ← planTasks options (← readRequest options.request content)
  return Bytes.ofText (Json.array (tasks.map Task.toJson)).pretty

end Command

/-! ## §3 Descriptions -/

namespace FetchDescriptor

/-- The bounds of a request over a range: as rows if their columns are known, else their length. -/
def describeBounds (schema : KeySchema) (start stop : Bytes) :
    Except KeyError ((String × Json) × (String × Json)) := do
  if schema.keys.isEmpty then
    return (("start_bytes", .ofNat start.length), ("end_bytes", .ofNat stop.length))
  else
    let low ← schema.decode start
    let high ← schema.decode stop
    return (("start", .ofText low.render), ("end", .ofText high.render))

/-- What a descriptor asks for, member by member in the order of the names. -/
def describe (schema : KeySchema) (d : FetchDescriptor) : Except KeyError Json := do
  let r := d.request
  let attempts := ("attempts", Json.array (r.attempts.map fun a => .ofText a.render))
  let host := ("host", Json.ofText d.address.host)
  let partition := ("partition_id", Json.ofNat r.partition.toNat)
  let port := ("port", Json.ofNat d.address.port.toNat)
  let stage := ("stage_id", Json.ofNat r.stage.toNat)
  let type := ("type", r.partitioning.toJson)
  match r.kind with
  | .hash => return .ofMembers [attempts, host, partition, port, stage, type]
  | .range start stop final =>
    let (low, high) ← describeBounds schema start stop
    return .ofMembers [attempts, high, ("final", .bool final), host, partition, port, stage, low,
      type]

end FetchDescriptor

/-! ## §4 Commands -/

namespace Command

/-- The descriptor of a URL. -/
def readDescriptor (url : String) : Except CommandFault FetchDescriptor :=
  (FetchDescriptor.read url).mapError .descriptor

/-- The description of a URL. -/
def description (url : String) (specs : List String) : Except CommandFault Bytes := do
  let keys ← specs.mapM fun spec => (SortKey.ofSpec spec).mapError (CommandFault.keySpec spec)
  let d ← readDescriptor url
  let j ← (d.describe ⟨keys⟩).mapError CommandFault.key
  return Bytes.ofText (j.pretty ++ "\n")

/-- The port in a file of this content. -/
def portLine (file : Path) (content : Option Bytes) : Except CommandFault Bytes :=
  match content with
  | none => .error (.unreadable file)
  | some content => do
    let port ← (Handshake.read content).mapError CommandFault.handshake
    return Bytes.ofText (Decimal.numeral port.toNat ++ "\n")

/-- Runs a command. -/
def run {m : Type → Type} [Monad m] (s : Surroundings m) :
    Command → m (Except CommandFault Product)
  | .plan options => do
    return (planDocument options (← s.load options.request)).map (⟨·, options.output⟩)
  | .fetch url output =>
    match readDescriptor url with
    | .error fault => return .error fault
    | .ok d => return ((← d.fetch s.get).mapError .fetch).map fun o => ⟨o.content, output⟩
  | .decode url keys => return (description url keys).map (⟨·, none⟩)
  | .port file => return (portLine file (← s.load file)).map (⟨·, none⟩)

/-- Runs a command line. -/
def runLine {m : Type → Type} [Monad m] (s : Surroundings m) (words : List String) :
    m Ending := do
  match read s.env words with
  | .error stop => return .ofStop stop
  | .ok command =>
    match ← command.run s with
    | .error fault => return .ofFault fault
    | .ok ⟨content, none⟩ => return { printed := content }
    | .ok ⟨content, some file⟩ =>
      if ← s.save file content then return {} else return .ofFault (.unwritable file)

end Command

end Shuffle
