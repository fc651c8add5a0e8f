import Shuffle.Index.Writer
import Shuffle.Store.Files

/-!
# Saving an index

```text
"SFIX" | u8 version
u16 column count | per column: u8 type, u8 ascending, u8 nulls first, u16 name length, name
u64 entry count  | per entry:  u32 key length, key, u64 offset
```

All numbers are big-endian. Lengths that exceed their field lose their high bits.

- `IndexLog.file` writes a log; when a key does not fit the schema it answers what was written up
  to that key, with the fault.
- `IndexLog.save` puts the file of a log into a store. A key that does not fit the schema is found
  only then, and what is before it is left in the file.
-/

namespace Shuffle

namespace IndexFile

/-- The first four octets of every index file. -/
def magic : Bytes := [0x53, 0x46, 0x49, 0x58]

/-- The version of the format. -/
def version : UInt8 := 1

/-- A truth value as an octet. -/
def flag (b : Bool) : UInt8 := if b then 1 else 0

/-- A column of the schema. -/
def column (key : SortKey) : Bytes :=
  let name := Bytes.ofText key.column
  key.dataType.tag :: flag key.ascending :: flag key.nullsFirst
    :: (Bytes.bigEndian 2 name.length ++ name)

/-- Everything before the entries. -/
def header (schema : KeySchema) (entries : Nat) : Bytes :=
  magic ++ version :: (Bytes.bigEndian 2 schema.keys.length ++ schema.keys.flatMap column
    ++ Bytes.bigEndian 8 entries)

/-- An entry with its encoded key. -/
def entry (key : Bytes) (offset : UInt64) : Bytes :=
  Bytes.bigEndian 4 key.length ++ key ++ Bytes.bigEndian 8 offset.toNat

/-- Entries up to the first one whose key does not fit the schema. -/
def entries (schema : KeySchema) : List IndexEntry → Bytes × Option KeyError
  | [] => ([], none)
  | e :: rest =>
    match schema.encode e.key with
    -- What was written before this entry stays in the file.
    | .error fault => ([], some fault)
    | .ok key =>
      let (more, fault) := entries schema rest
      (entry key e.offset ++ more, fault)

end IndexFile

/-- The file of a log, and the fault that cut it short. -/
def IndexLog.file (log : IndexLog) : Bytes × Option KeyError :=
  let (body, fault) := IndexFile.entries log.schema log.entries.toList
  (IndexFile.header log.schema log.size ++ body, fault)

/-- Why an index is not saved whole. -/
inductive SaveFault where
  | file (fault : FileFault)
  | key (fault : KeyError)
deriving DecidableEq, Repr

/-- Writes the file of a log at a path, whose directory has to be there. -/
def IndexLog.save (log : IndexLog) (store : FileStore) (path : Path) :
    FileStore × Option SaveFault :=
  let (content, fault) := log.file
  match store.write path content with
  | .error e => (store, some (.file e))
  | .ok store => (store, fault.map .key)

end Shuffle
