import Shuffle.Decimal.Natural

/-!
# Output of finished tasks

A task writes its output on the host it ran on. A task may run several times; each run is an
*attempt*. What the scheduler knows of one piece of output is an `OutputEntry`.
-/

namespace Shuffle

/-! ## §1 How output is partitioned -/

/-- How a stage partitions its output. -/
inductive Partitioning where
  /-- One file for each hash bucket. -/
  | hash
  /-- One sorted file with an index. -/
  | range
deriving DecidableEq, Repr

namespace Partitioning

/-- All kinds. -/
def all : List Partitioning := [.hash, .range]

/-- The letter of a kind in queries. -/
def code : Partitioning → String
  | .hash => "h"
  | .range => "r"

/-- The kind that a letter stands for. -/
def ofCode? (code : String) : Option Partitioning := all.find? (·.code = code)

/-- The name of a kind in documents. -/
def name : Partitioning → String
  | .hash => "hash"
  | .range => "range"

/-- The kind with a given name. -/
def ofName? (name : String) : Option Partitioning := all.find? (·.name = name)

/-- The name of a kind in messages. -/
def title : Partitioning → String
  | .hash => "Hash"
  | .range => "Range"

end Partitioning

/-! ## §2 Attempts -/

/-- One run of one task. -/
structure TaskAttempt where
  task : UInt32
  attempt : UInt32
deriving DecidableEq, Repr

/-- Why a text names no attempt. -/
inductive AttemptFault where
  | separator
  | task
  | attempt
deriving DecidableEq, Repr

/-- The wording of a fault in `text`. -/
def AttemptFault.message (text : String) : AttemptFault → String
  | .separator => "task attempt '" ++ text ++ "' lacks '_'"
  | .task => "invalid task id in '" ++ text ++ "'"
  | .attempt => "invalid attempt id in '" ++ text ++ "'"

namespace TaskAttempt

/-- Attempts go by task, then by attempt. -/
def le (a b : TaskAttempt) : Bool :=
  a.task < b.task || (a.task = b.task && a.attempt ≤ b.attempt)

/-- An attempt is written `task_attempt`. -/
def render (a : TaskAttempt) : String :=
  Decimal.numeral a.task.toNat ++ "_" ++ Decimal.numeral a.attempt.toNat

/-- Reads `task_attempt`. The first `_` separates the numbers. -/
def parse (text : String) : Except AttemptFault TaskAttempt :=
  let (task, rest) := text.toList.span (· ≠ '_')
  match rest with
  | [] => .error .separator
  | _ :: attempt =>
    match Decimal.readUInt32 (String.ofList task) with
    | .error _ => .error .task
    | .ok task =>
      match Decimal.readUInt32 (String.ofList attempt) with
      | .error _ => .error .attempt
      | .ok attempt => .ok ⟨task, attempt⟩

end TaskAttempt

/-! ## §3 Where output is -/

/-- The pull service that holds a task's output. -/
structure PullAddress where
  host : String
  port : UInt16
deriving DecidableEq, Repr

namespace PullAddress

/-- Addresses go by host, then by port. -/
def le (a b : PullAddress) : Bool :=
  a.host < b.host || (a.host = b.host && a.port ≤ b.port)

/-- An address as URLs have it. A host with colons is put in brackets unless it opens with one. -/
def render (a : PullAddress) : String :=
  let host :=
    if a.host.toList.contains ':' && a.host.toList.head? ≠ some '[' then "[" ++ a.host ++ "]"
    else a.host
  host ++ ":" ++ Decimal.numeral a.port.toNat

end PullAddress

/-- One piece of output of one attempt, as reported when the task finished. -/
structure OutputEntry where
  attempt : TaskAttempt
  /-- The hash bucket; without meaning for sorted output. -/
  partition : UInt32 := 0
  address : PullAddress
  /-- Its length in bytes. -/
  volume : UInt64 := 0
deriving DecidableEq, Repr

end Shuffle
