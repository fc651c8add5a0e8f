import Shuffle.Index.Save

/-!
# Reading an index

`Index.ofFile` reads a file in the format of `IndexLog.file`, and answers its schema and its
entries. A file is refused with its first fault, and also when anything follows the last entry.
-/

namespace Shuffle

/-- Why bytes are no index file. -/
inductive IndexError where
  | magic
  | version (found : UInt8)
  | typeTag (found : UInt8)
  | columnName (fault : Utf8.Fault)
  /-- More entries are announced than the bytes could hold. -/
  | entryCount (count : Nat)
  | trailing (count : Nat)
  /-- A field is cut off or a key is malformed. -/
  | key (fault : KeyError)
deriving DecidableEq, Repr

/-- The wording of a fault, without the words that say what was being done. -/
def IndexError.detail : IndexError → String
  | .magic => "bad magic"
  | .version found => s!"unsupported index version {found.toNat}"
  | .typeTag found => s!"unknown type tag {found.toNat}"
  | .columnName fault => "key name is not UTF-8: " ++ fault.message
  | .entryCount count => s!"entry count {count} exceeds file size"
  | .trailing count => s!"{count} trailing bytes"
  | .key fault => fault.detail

/-- The wording of a fault. -/
def IndexError.message (e : IndexError) : String := "corrupt index: " ++ e.detail

/-- An index that has been read. -/
structure Index where
  schema : KeySchema
  entries : Array IndexEntry

namespace IndexFile

/-- Restates a shortage as a fault of the file. -/
def ofShortage {α : Type} (r : Except Shortage α) : Except IndexError α :=
  r.mapError fun s => .key (.shortage s)

/-- Reads one column of the schema. -/
def readColumn (c : Cursor) : Except IndexError (SortKey × Cursor) := do
  let (tag, c) ← ofShortage c.u8
  match DataType.ofTag? tag with
  | none => .error (.typeTag tag)
  | some dataType =>
    let (ascending, c) ← ofShortage c.u8
    let (nullsFirst, c) ← ofShortage c.u8
    let (length, c) ← ofShortage c.u16
    let (name, c) ← ofShortage (c.take length.toNat)
    match Utf8.decode name with
    | .error fault => .error (.columnName fault)
    | .ok column => return (⟨column, dataType, ascending ≠ 0, nullsFirst ≠ 0⟩, c)

/-- Reads `count` items, collecting them behind `done`. -/
def readMany {α : Type} (readOne : Cursor → Except IndexError (α × Cursor)) :
    (count : Nat) → (done : Array α) → Cursor → Except IndexError (Array α × Cursor)
  | 0, done, c => .ok (done, c)
  | count + 1, done, c =>
    match readOne c with
    | .error fault => .error fault
    | .ok (item, c) => readMany readOne count (done.push item) c

/-- Reads one entry. The key is read from the start of its field. -/
def readEntry (schema : KeySchema) (c : Cursor) : Except IndexError (IndexEntry × Cursor) := do
  let (length, c) ← ofShortage c.u32
  let (raw, c) ← ofShortage (c.take length.toNat)
  -- What is left of the field behind the key is not looked at.
  let (key, _) ← (schema.read (Cursor.start raw)).mapError IndexError.key
  let (offset, c) ← ofShortage c.u64
  return (⟨key, offset⟩, c)

/-- The fewest octets that an entry takes: its two lengths. -/
def smallestEntry : Nat := 12

end IndexFile

/-- Reads an index file. -/
def Index.ofFile (bytes : Bytes) : Except IndexError Index := do
  let (magic, c) ← IndexFile.ofShortage ((Cursor.start bytes).take IndexFile.magic.length)
  if magic ≠ IndexFile.magic then .error .magic else
  let (version, c) ← IndexFile.ofShortage c.u8
  if version ≠ IndexFile.version then .error (.version version) else
  let (columns, c) ← IndexFile.ofShortage c.u16
  let (keys, c) ← IndexFile.readMany IndexFile.readColumn columns.toNat #[] c
  let schema : KeySchema := ⟨keys.toList⟩
  let (count, c) ← IndexFile.ofShortage c.u64
  -- A count that cannot be right is refused before any entry is read.
  if c.left / IndexFile.smallestEntry < count.toNat then .error (.entryCount count.toNat) else
  let (entries, c) ← IndexFile.readMany (IndexFile.readEntry schema) count.toNat #[] c
  if c.isDone then return ⟨schema, entries⟩ else .error (.trailing c.left)

end Shuffle
