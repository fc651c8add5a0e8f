import Shuffle.Key.Codec

/-!
# The write log of a sorted index

While a sorted output file is written, its index records for some keys the byte offset at which
their rows start. Keys arrive in the order of the schema, offsets do not decrease, and a key that
is repeated keeps its first offset.

`IndexLog.write` keeps three facts of the log: keys strictly increase, offsets do not decrease,
and a refused write changes nothing.
-/

namespace Shuffle

/-- One entry of an index: rows with `key` start at byte `offset`. -/
structure IndexEntry where
  key : Tuple
  offset : UInt64
deriving DecidableEq, Repr

/-- Why an entry is refused. -/
inductive OrderError where
  /-- The key sorts before the last one written. -/
  | keyOrder (key last : Tuple)
  /-- The offset lies before the last one written. -/
  | offsetOrder (offset : UInt64) (key : Tuple) (last : UInt64)
deriving DecidableEq, Repr

/-- The wording of a refusal. -/
def OrderError.message : OrderError → String
  | .keyOrder key last =>
    "index keys out of order: key " ++ key.render ++ " follows " ++ last.render
  | .offsetOrder offset key last =>
    s!"index keys out of order: offset {offset.toNat} for key " ++ key.render
      ++ s!" precedes offset {last.toNat}"

/-- The entries of an index under construction. -/
structure IndexLog where
  schema : KeySchema
  entries : Array IndexEntry := #[]

namespace IndexLog

/-- A log without entries. -/
def empty (schema : KeySchema) : IndexLog := ⟨schema, #[]⟩

/-- Number of entries. -/
def size (log : IndexLog) : Nat := log.entries.size

/-- Adds an entry behind all others. -/
def push (log : IndexLog) (entry : IndexEntry) : IndexLog :=
  { log with entries := log.entries.push entry }

/-- Records that rows with `key` start at `offset`. The last key again changes nothing. -/
def write (log : IndexLog) (key : Tuple) (offset : UInt64) : Except OrderError IndexLog :=
  match log.entries.back? with
  | none => .ok (log.push ⟨key, offset⟩)
  | some last =>
    match log.schema.compare last.key key with
    | .eq => .ok log
    | .gt => .error (.keyOrder key last.key)
    | .lt =>
      if offset < last.offset then .error (.offsetOrder offset key last.offset)
      else .ok (log.push ⟨key, offset⟩)

end IndexLog

end Shuffle
