import Shuffle.Key.Codec
import Shuffle.Ordered
import Shuffle.Output
import Shuffle.Text.Form

/-!
# Fetch requests

A request asks a pull service for a part of the output of some attempts of a stage: one hash
bucket, or the rows between two keys. It travels as a query string:

```text
sid=<stage>&p=<bucket>&type=h&ta=<task>_<attempt>...
sid=<stage>&p=<bucket>&type=r&ta=<task>_<attempt>...&start=<key>&end=<key>[&final=1]
```

- `FetchRequest.toQuery` writes a request and `FetchRequest.ofQuery` reads one.
- `FetchRequest.ofFields` is the meaning of a list of fields: the first `sid`, `p`, `type`,
  `start` and `end` count, any `final` counts, and the `ta` fields together name a set.
-/

namespace Shuffle

/-! ## §1 Requests -/

/-- The part of each attempt's output that is asked for. -/
inductive FetchKind where
  /-- The file of the request's bucket. -/
  | hash
  /-- The rows between two encoded keys. A `final` range goes on to the end of the file. -/
  | range (start stop : Bytes) (final : Bool)
deriving DecidableEq, Repr

/-- A request for output of one stage. -/
structure FetchRequest where
  stage : UInt32
  /-- The hash bucket; without meaning for ranges. -/
  partition : UInt32
  kind : FetchKind
  /-- The attempts in ascending order, once each. -/
  attempts : List TaskAttempt
deriving DecidableEq, Repr

namespace FetchRequest

/-- A request for one hash bucket. -/
def hash (stage partition : UInt32) (attempts : List TaskAttempt) : FetchRequest :=
  ⟨stage, partition, .hash, Ordered.toSet TaskAttempt.le attempts⟩

/-- A request for a range of rows. -/
def range (stage : UInt32) (attempts : List TaskAttempt) (start stop : Bytes) (final : Bool) :
    FetchRequest :=
  ⟨stage, 0, .range start stop final, Ordered.toSet TaskAttempt.le attempts⟩

/-- The partitioning that the request expects. -/
def partitioning (r : FetchRequest) : Partitioning :=
  match r.kind with
  | .hash => .hash
  | .range .. => .range

/-! ## §2 Writing -/

/-- The fields that say which part is wanted. -/
def kindFields : FetchKind → List Form.Field
  | .hash => []
  | .range start stop final =>
    [("start", keyToText start), ("end", keyToText stop)] ++
      (if final then [("final", "1")] else [])

/-- The fields of a request, in the order in which they are written. -/
def fields (r : FetchRequest) : List Form.Field :=
  [("sid", Decimal.numeral r.stage.toNat), ("p", Decimal.numeral r.partition.toNat),
    ("type", r.partitioning.code)]
    ++ r.attempts.map (fun a => ("ta", a.render)) ++ kindFields r.kind

/-- The query string of a request. -/
def toQuery (r : FetchRequest) : String := Form.render r.fields

end FetchRequest

/-! ## §3 Reading -/

/-- Why fields make no request. -/
inductive RequestError where
  | missing (field : String)
  | number (field value : String)
  | kind (code : String)
  | attempt (text : String) (fault : AttemptFault)
  | key (fault : KeyError)
deriving DecidableEq, Repr

namespace RequestError

/-- The wording of a fault, without the words that say what was being done. -/
def detail : RequestError → String
  | .missing field => "missing '" ++ field ++ "' parameter"
  | .number field value => "'" ++ value ++ "' is not a valid " ++ field ++ " value"
  | .kind code => "unknown partition type '" ++ code ++ "'"
  | .attempt text fault => fault.message text
  | .key fault => fault.detail

/-- The wording of a fault. -/
def message : RequestError → String
  | .key fault => fault.message
  | e => "malformed fetch request: " ++ e.detail

end RequestError

namespace FetchRequest

/-- The first value of a field. -/
def first? (name : String) (fields : List Form.Field) : Option String :=
  (fields.find? (·.1 = name)).map (·.2)

/-- The first value of a field that has to be there. -/
def required (name : String) (fields : List Form.Field) : Except RequestError String :=
  match first? name fields with
  | some value => .ok value
  | none => .error (.missing name)

/-- A field that has to hold a 32-bit number. -/
def requiredNumber (name : String) (fields : List Form.Field) : Except RequestError UInt32 := do
  let value ← required name fields
  match Decimal.readUInt32 value with
  | .ok n => return n
  | .error _ => .error (.number name value)

/-- A field that has to hold an encoded key. -/
def requiredKey (name : String) (fields : List Form.Field) : Except RequestError Bytes := do
  let text ← required name fields
  (keyOfText text).mapError .key

/-- The attempts named in one field, between commas. -/
def attemptTexts (value : String) : List String :=
  ((value.toList.splitOn ',').filter (· ≠ [])).map String.ofList

/-- The texts of all attempts, in the order of the fields. -/
def allAttemptTexts (fields : List Form.Field) : List String :=
  (fields.filter (·.1 = "ta")).flatMap fun field => attemptTexts field.2

/-- Reads the text of an attempt. -/
def readAttempt (text : String) : Except RequestError TaskAttempt :=
  (TaskAttempt.parse text).mapError (.attempt text)

/-- The part that is asked for. -/
def readKind (partitioning : Partitioning) (fields : List Form.Field) :
    Except RequestError FetchKind :=
  match partitioning with
  | .hash => .ok .hash
  | .range => do
    let start ← requiredKey "start" fields
    let stop ← requiredKey "end" fields
    return .range start stop (fields.any (·.1 = "final"))

/-- The request that a list of fields stands for. A malformed attempt is reported before any
other fault. -/
def ofFields (fields : List Form.Field) : Except RequestError FetchRequest := do
  let attempts ← (allAttemptTexts fields).mapM readAttempt
  let stage ← requiredNumber "sid" fields
  let partition ← requiredNumber "p" fields
  let code ← required "type" fields
  match Partitioning.ofCode? code with
  | none => .error (.kind code)
  | some partitioning =>
    -- That no attempt is named is reported behind the faults of the other fields.
    if attempts.isEmpty then .error (.missing "ta") else
    let kind ← readKind partitioning fields
    return ⟨stage, partition, kind, Ordered.toSet TaskAttempt.le attempts⟩

/-- Reads a query string. -/
def ofQuery (query : String) : Except RequestError FetchRequest :=
  ofFields (Form.parse (Bytes.ofText query))

end FetchRequest

end Shuffle
