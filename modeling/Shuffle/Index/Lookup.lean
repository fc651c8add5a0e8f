import Shuffle.Index.File

/-!
# Looking keys up

Both searches halve the entries, so on an index whose keys increase they answer what a scan
would, and on any other index an answer that depends only on the keys they meet.

- `Index.find?` is the offset of a key.
- `Index.findNearest?` is the offset of the first key that does not sort before a given one.
-/

namespace Shuffle

/-- Halves a run of `size` positions from `base` on, always keeping the upper half unless its
first position is `above`. Answers the one position left. -/
def bisect (above : Nat → Bool) (base size : Nat) : Nat :=
  if _h : 1 < size then
    let half := size / 2
    bisect above (if above (base + half) then base else base + half) (size - half)
  else base
termination_by size
decreasing_by omega

namespace Index

/-- Number of entries. -/
def size (index : Index) : Nat := index.entries.size

/-- The key of the first entry. -/
def firstKey? (index : Index) : Option Tuple := index.entries[0]?.map (·.key)

/-- The key of the last entry. -/
def lastKey? (index : Index) : Option Tuple := index.entries.back?.map (·.key)

/-- How the key at a position compares with a given one. -/
def compareAt (index : Index) (key : Tuple) (position : Nat) : Option Ordering :=
  index.entries[position]?.map fun e => index.schema.compare e.key key

/-- The offset of the entry whose key equals the given one. -/
def find? (index : Index) (key : Tuple) : Option UInt64 :=
  let position := bisect (fun p => index.compareAt key p == some .gt) 0 index.size
  match index.entries[position]? with
  | some e => if index.schema.compare e.key key = .eq then some e.offset else none
  | none => none

/-- The first position whose key does not sort before the given one, as far as halving tells. -/
def lowerBound (index : Index) (key : Tuple) : Nat :=
  let position := bisect (fun p => index.compareAt key p != some .lt) 0 index.size
  -- Halving ends at the last position it may, which can still sort before the key.
  if index.compareAt key position = some .lt then position + 1 else position

/-- The offset of the first entry whose key does not sort before the given one. -/
def findNearest? (index : Index) (key : Tuple) : Option UInt64 :=
  index.entries[index.lowerBound key]?.map (·.offset)

/-- Where the rows from a key on begin: at the key itself, else at the first key after it. -/
def lookup? (index : Index) (key : Tuple) : Option UInt64 :=
  index.find? key <|> index.findNearest? key

end Index

end Shuffle
