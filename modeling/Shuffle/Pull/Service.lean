import Shuffle.Pull.Http
import Shuffle.Pull.Transfer

/-!
# The pull service

The service answers `GET /?<request>` with the octets that the request asks for. It counts what it
answered: an answer with a body counts when the body has been read through, any other at once.

- `PullService.resolve` is what a query asks for.
- `PullService.handle` answers a request to the service, `PullService.deliver` sends the body of
  an answer.
- `PullService.monitor` answers a request to the monitoring endpoints.
-/

namespace Shuffle

/-! ## §1 State -/

/-- What a service has counted. -/
structure Counters where
  /-- Octets of bodies that were read through. -/
  bytes : UInt64 := 0
  /-- Requests that were answered well. -/
  served : UInt64 := 0
  /-- Requests that were answered with a fault, or whose body was not read through. -/
  failed : UInt64 := 0
deriving DecidableEq, Repr

/-- Counts an answer without a body. -/
def Counters.addEmpty (c : Counters) : Counters := { c with served := c.served + 1 }

/-- Counts an answer with a fault. -/
def Counters.addFailure (c : Counters) : Counters := { c with failed := c.failed + 1 }

/-- Counts a body by its outcome. -/
def Counters.addBody (c : Counters) : Except TransferFault UInt64 → Counters
  | .ok sent => { c with bytes := c.bytes + sent, served := c.served + 1 }
  | .error _ => c.addFailure

/-- A pull service. -/
structure PullService where
  layout : Layout
  /-- The size of the blocks in which bodies are sent. -/
  bufferSize : Nat
  registry : Registry := {}
  counters : Counters := {}
deriving DecidableEq, Repr

namespace PullService

/-! ## §2 Fetching -/

/-- The slices of files that a query asks for. -/
def resolve (s : PullService) (store : FileStore) (query : String) :
    Except PullFault (List FileChunk) := do
  let request ← (FetchRequest.ofQuery query).mapError (PullFault.query query)
  match s.registry.active with
  | none => .error .noApplication
  | some id => FileChunk.resolve s.layout store id request

/-- Answers a query for which these slices were found, or a fault. -/
def answer (s : PullService) (found : Except PullFault (List FileChunk)) :
    Response × PullService :=
  match found with
  | .error fault =>
    (.plain fault.status fault.message, { s with counters := s.counters.addFailure })
  | .ok chunks =>
    if FileChunk.total chunks = 0 then
      (.empty 204, { s with counters := s.counters.addEmpty })
    -- An answer with a body is counted later, when the body has been read.
    else (.slices chunks, s)

/-- Answers a query. -/
def fetch (s : PullService) (store : FileStore) (query : String) : Response × PullService :=
  s.answer (s.resolve store query)

/-- Answers a request: only the path `/` is served. -/
def handle (s : PullService) (store : FileStore) (method : Method) (target : RequestTarget) :
    Response × PullService :=
  if target.path ≠ "/" then (.empty 404, s)
  else
    match method with
    | .other => (.wrongMethod, s)
    | .get => s.fetch store (target.query.getD "")
    | .head =>
      let (response, s) := s.fetch store (target.query.getD "")
      (response.withoutBody, s)

/-- Sends the body of an answer, from the files as they are now. -/
def deliver (s : PullService) (store : FileStore) (body : ResponseBody) :
    Bytes × Option TransferFault × PullService :=
  match body with
  | .text content => (Bytes.ofText content, none, s)
  | .chunks chunks =>
    let d := Transfer.run store s.bufferSize chunks
    (d.body, d.fault, { s with counters := s.counters.addBody d.outcome })

/-! ## §3 Monitoring -/

/-- The lines of one metric: what it is, its type, and its value. -/
def metric (name help type sample : String) (value : Nat) : String :=
  "# HELP " ++ name ++ " " ++ help ++ ".\n# TYPE " ++ name ++ " " ++ type ++ "\n" ++ sample ++ " "
    ++ Decimal.numeral value ++ "\n"

/-- A metric that only grows. -/
def counter (name help : String) (value : UInt64) : String :=
  metric name help "counter" (name ++ "_total") value.toNat

/-- All metrics in the text format of Prometheus. -/
def metrics (s : PullService) : String :=
  counter "stagefetch_shuffle_output_bytes" "Bytes of intermediate output served" s.counters.bytes
    ++ counter "stagefetch_shuffle_outputs_ok" "Fetch requests answered successfully"
      s.counters.served
    ++ counter "stagefetch_shuffle_outputs_failed" "Fetch requests answered with an error"
      s.counters.failed
    ++ metric "stagefetch_shuffle_connections" "Open client connections" "gauge"
      "stagefetch_shuffle_connections" 0
    ++ "# EOF\n"

/-- The monitoring page at a path. -/
def page? (s : PullService) (path : String) : Option Response :=
  if path = "/health" then some (.plain 200 "OK")
  else if path = "/ready" then
    some (if s.registry.active.isSome then .plain 200 "OK" else .empty 503)
  else if path = "/metrics" then some (.plain 200 s.metrics)
  else none

/-- Answers a request to the monitoring endpoints. -/
def monitor (s : PullService) (method : Method) (target : RequestTarget) : Response :=
  match s.page? target.path, method with
  | none, _ => .empty 404
  | some _, .other => .wrongMethod
  | some response, .get => response
  | some response, .head => response.withoutBody

end PullService

end Shuffle
