import Shuffle.Document.Keys
import Shuffle.Plan.Repartition

/-!
# Documents of plans

The JSON form of statistics, stages, tasks and the planner's settings, and of the request that
asks for a plan.
-/

namespace Shuffle

/-! ## §1 Statistics -/

/-- A value or null. -/
def Datum.optionToJson : Option Datum → Json
  | none => .null
  | some d => d.toJson

/-- The extremes of a column. -/
def ColumnStats.toJson (c : ColumnStats) : Json :=
  .ofMembers [("column", .ofText c.column), ("min", Datum.optionToJson c.min),
    ("max", Datum.optionToJson c.max)]

/-- Reads the extremes of a column. -/
def ColumnStats.ofJson? (j : Json) : Option ColumnStats :=
  match j.slots? ["column", "min", "max"] with
  | some [column, min, max] => do
    return ⟨← Json.required Json.text? column, ← Json.optional Datum.ofJson? min,
      ← Json.optional Datum.ofJson? max⟩
  | _ => none

/-- The statistics of a stage. -/
def TableStats.toJson (s : TableStats) : Json :=
  .ofMembers [("num_rows", .ofNat s.rows.toNat), ("num_bytes", .ofNat s.bytes.toNat),
    ("column_stats", .array (s.columns.map ColumnStats.toJson))]

/-- Reads the statistics of a stage. -/
def TableStats.ofJson? (j : Json) : Option TableStats :=
  match j.slots? ["num_rows", "num_bytes", "column_stats"] with
  | some [rows, bytes, columns] => do
    return ⟨← Json.required Json.uint64? rows, ← Json.required Json.uint64? bytes,
      ← Json.withDefault [] (Json.listOf? ColumnStats.ofJson?) columns⟩
  | _ => none

/-! ## §2 Stages -/

/-- A finished stage. -/
def InputStage.toJson (s : InputStage) : Json :=
  .ofMembers [("stage_id", .ofNat s.stage.toNat), ("table", .ofText s.table),
    ("output", s.output.toJson), ("partition_keys", .array (s.partitionKeys.map Json.ofText)),
    ("sort_keys", s.sortKeys.toJson), ("stats", s.stats.toJson),
    ("entries", .array (s.entries.map OutputEntry.toJson))]

/-- Reads a finished stage. -/
def InputStage.ofJson? (j : Json) : Option InputStage :=
  match j.slots?
    ["stage_id", "table", "output", "partition_keys", "sort_keys", "stats", "entries"] with
  | some [stage, table, output, partitionKeys, sortKeys, stats, entries] => do
    return ⟨← Json.required Json.uint32? stage, ← Json.required Json.text? table,
      ← Json.required Partitioning.ofJson? output,
      ← Json.withDefault [] (Json.listOf? Json.text?) partitionKeys,
      ← Json.withDefault ⟨[]⟩ KeySchema.ofJson? sortKeys,
      ← Json.required TableStats.ofJson? stats,
      ← Json.required (Json.listOf? OutputEntry.ofJson?) entries⟩
  | _ => none

/-! ## §3 Tasks -/

/-- The number of a task. -/
def TaskId.toJson (id : TaskId) : Json :=
  .ofMembers [("stage_id", .ofNat id.stage.toNat), ("seq", .ofNat id.seq.toNat)]

/-- Reads the number of a task. -/
def TaskId.ofJson? (j : Json) : Option TaskId :=
  match j.slots? ["stage_id", "seq"] with
  | some [stage, seq] => do
    return ⟨← Json.required Json.uint32? stage, ← Json.required Json.uint32? seq⟩
  | _ => none

/-- A task. -/
def Task.toJson (t : Task) : Json :=
  .ofMembers [("id", t.id.toJson),
    ("fetches", .ofMembers (t.fetches.map fun (table, pieces) =>
      (table, .array (pieces.map FetchDescriptor.toJson))))]

/-- Reads the pieces of a task by table. Of a repeated table the last list counts. -/
def Task.fetchesOfJson? : Json → Option (List (String × List FetchDescriptor))
  | .object members =>
    members.foldlM (fun (fetches : List (String × List FetchDescriptor)) member => do
      let pieces ← Json.listOf? FetchDescriptor.ofJson? member.2
      return Ordered.update (fun a b => a < b) (← member.1) [] (fun _ => pieces) fetches) []
  | _ => none

/-- Reads a task. -/
def Task.ofJson? (j : Json) : Option Task :=
  match j.slots? ["id", "fetches"] with
  | some [id, fetches] => do
    return ⟨← Json.required TaskId.ofJson? id, ← Json.required Task.fetchesOfJson? fetches⟩
  | _ => none

/-! ## §4 Planning -/

/-- The settings of the planner. -/
def PlannerConfig.toJson (c : PlannerConfig) : Json :=
  .ofMembers [("bytes_per_range_task", .ofNat c.bytesPerRangeTask.toNat),
    ("default_max_tasks", .ofNat c.defaultMaxTasks.toNat)]

/-- Reads the settings of the planner. -/
def PlannerConfig.ofJson? (j : Json) : Option PlannerConfig :=
  match j.slots? ["bytes_per_range_task", "default_max_tasks"] with
  | some [bytes, tasks] => do
    return ⟨← Json.required Json.uint64? bytes, ← Json.required Json.uint64? tasks⟩
  | _ => none

/-- What a plan is asked for: the stage whose tasks are wanted, and the stages it reads. -/
structure PlanRequest where
  stage : UInt32
  maxTasks : Option UInt64 := none
  inputs : List InputStage
deriving Repr

/-- Reads the request for a plan. -/
def PlanRequest.ofJson? (j : Json) : Option PlanRequest :=
  match j.slots? ["stage_id", "max_tasks", "inputs"] with
  | some [stage, maxTasks, inputs] => do
    return ⟨← Json.required Json.uint32? stage, ← Json.optional Json.uint64? maxTasks,
      ← Json.required (Json.listOf? InputStage.ofJson?) inputs⟩
  | _ => none

end Shuffle
