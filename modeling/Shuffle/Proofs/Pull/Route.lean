import Mathlib
import Shuffle.Proofs.Index.Capacity
import Shuffle.Proofs.Pull.RangeChunk

/-!
# Ranges asked for one after the other

A *route* is a list of range requests in which each begins at the key where the one before it
ends. However many requests it has, and wherever its keys lie between the
keys of the index, the answers follow each other in the file without a gap.

- `SortedOutput` is what an attempt leaves in its directory.
- `FileChunk.Tile`: slices that follow each other from one offset to another.
- `Route.tile_chunks`: the answers to a route, which depend on its two ends only.
-/

namespace Shuffle

open Std

/-! ## §1 The output of an attempt -/

/-- A directory with sorted output: the data, and beside it the file of an index log that was
written against the sort order of the data. No entry points behind the data. -/
structure SortedOutput (store : FileStore) (dir : Path) (schema : KeySchema) (log : IndexLog)
    (content : Bytes) : Prop where
  data : store.stat (dir.join Layout.dataFile) = .ok (.file content)
  /-- Lengths of files have 64 bits. -/
  short : content.length < UInt64.size
  written : ∃ writes, log = IndexLog.run schema writes
  saved : ∃ bytes, log.file = (bytes, none) ∧
    store.read (dir.join Layout.indexFile) = .ok bytes
  within : ∀ e, log.entries.back? = some e → e.offset.toNat ≤ content.length

namespace SortedOutput

variable {store : FileStore} {dir : Path} {schema : KeySchema} {log : IndexLog} {content : Bytes}

/-- The log was written with the schema of the output. -/
theorem schema_eq (h : SortedOutput store dir schema log content) : log.schema = schema := by
  obtain ⟨writes, rfl⟩ := h.written
  exact (IndexLog.rising_run schema writes).1

/-- The entries of the index are in order. -/
theorem rising (h : SortedOutput store dir schema log content) :
    schema.Rising log.entries.toList := by
  obtain ⟨writes, rfl⟩ := h.written
  exact (IndexLog.rising_run schema writes).2

/-- The data file has the length of its content. -/
theorem fileLength_eq (h : SortedOutput store dir schema log content) :
    FileChunk.fileLength store (dir.join Layout.dataFile)
      = .ok (UInt64.ofNat content.length) := by
  simp [FileChunk.fileLength, FileStore.length, h.data, Except.map]

/-- The length of the content fits its word. -/
theorem toNat_length (h : SortedOutput store dir schema log content) :
    (UInt64.ofNat content.length).toNat = content.length :=
  UInt64.toNat_ofNat_of_lt' h.short

/-- The last offset bounds all others. -/
theorem offset_le (h : SortedOutput store dir schema log content) {e : IndexEntry}
    (he : e ∈ log.entries.toList) : e.offset ≤ UInt64.ofNat content.length := by
  obtain ⟨init, last, hsplit⟩ : ∃ init last, log.entries.toList = init ++ [last] :=
    ⟨_, _, (List.dropLast_append_getLast (List.ne_nil_of_mem he)).symm⟩
  have hback : log.entries.back? = some last := by
    rw [← Array.getLast?_toList, hsplit, List.getLast?_concat]
  have hlast : last.offset ≤ UInt64.ofNat content.length := by
    rw [UInt64.le_iff_toNat_le, h.toNat_length]
    exact h.within last hback
  have hrise := h.rising
  rw [hsplit] at he hrise
  rcases List.mem_append.mp he with he | he
  · -- An entry in front of the last one: offsets do not decrease.
    have hle := ((List.pairwise_append.mp hrise).2.2 e he last (List.mem_singleton_self last)).2
    exact UInt64.le_trans hle hlast
  · obtain rfl := List.mem_singleton.mp he
    exact hlast

/-- The service opens the index as it was written exactly if it fits the format. -/
theorem openIndex_eq_iff (h : SortedOutput store dir schema log content) :
    FileChunk.openIndex store (dir.join Layout.indexFile) = .ok log.index ↔ log.Fits := by
  obtain ⟨bytes, hfile, hread⟩ := h.saved
  rw [FileChunk.openIndex, hread, ← IndexLog.ofFile_file_iff hfile]
  exact Fallible.mapError_eq_ok

/-- A store with one directory that holds data and the file of a log. -/
def singleton (log : IndexLog) (content : Bytes) : FileStore :=
  ⟨[(⟨false, 0, ["d"]⟩, .directory), (⟨false, 0, ["d", "output"]⟩, .file content),
    (⟨false, 0, ["d", "index"]⟩, .file log.file.1)]⟩

/-- Every log whose keys fit its schema can be what an attempt leaves. -/
theorem of_singleton {writes : List IndexEntry} (hshort : content.length < UInt64.size)
    (hfile : (IndexLog.run schema writes).file.2 = none)
    (hwithin : ∀ e ∈ (IndexLog.run schema writes).entries, e.offset.toNat ≤ content.length) :
    SortedOutput (singleton (IndexLog.run schema writes) content) ⟨"d"⟩ schema
      (IndexLog.run schema writes) content where
  data := rfl
  short := hshort
  written := ⟨writes, rfl⟩
  saved := ⟨_, Prod.ext rfl hfile, rfl⟩
  within := fun e he => hwithin e (Array.mem_of_back? he)

end SortedOutput

/-! ## §2 Slices that follow each other -/

namespace FileChunk

/-- The slices of one file that cover its octets from `a` to `b`, each where the one before it
ends. -/
def Tile (path : Path) : (a b : Nat) → List FileChunk → Prop
  | a, b, [] => a = b
  | a, b, c :: rest => c.path = path ∧ c.offset.toNat = a ∧ Tile path (a + c.length.toNat) b rest

/-- The octets of a slice, from a file with the given content. -/
def octets (content : Bytes) (c : FileChunk) : Bytes :=
  (content.drop c.offset.toNat).take c.length.toNat

/-- A tiling goes forward. -/
theorem Tile.le {path : Path} {a b : Nat} {chunks : List FileChunk} (h : Tile path a b chunks) :
    a ≤ b := by
  induction chunks generalizing a with
  | nil => exact Nat.le_of_eq h
  | cons c rest ih => exact Nat.le_trans (Nat.le_add_right a _) (ih h.2.2)

/-- Together such slices hold each octet from `a` to `b` once, in order. -/
theorem Tile.octets_eq {path : Path} {content : Bytes} {a b : Nat} {chunks : List FileChunk}
    (h : Tile path a b chunks) :
    chunks.flatMap (octets content) = (content.drop a).take (b - a) := by
  induction chunks generalizing a with
  | nil =>
    obtain rfl : a = b := h
    simp
  | cons c rest ih =>
    obtain ⟨-, hoffset, hrest⟩ := h
    have hle := hrest.le
    have hsplit : b - a = c.length.toNat + (b - (a + c.length.toNat)) := by omega
    rw [List.flatMap_cons, ih hrest, octets, hoffset, hsplit, List.take_add, List.drop_drop]

/-- Tiles hold the octets of the whole file exactly if they begin and end with it. -/
theorem Tile.octets_eq_iff {path : Path} {content : Bytes} {a b : Nat} {chunks : List FileChunk}
    (h : Tile path a b chunks) (hb : b ≤ content.length) :
    chunks.flatMap (octets content) = content ↔ a = 0 ∧ b = content.length := by
  have hle := h.le
  rw [h.octets_eq]
  constructor
  · intro hwhole
    have hlength := congrArg List.length hwhole
    rw [List.length_take, List.length_drop] at hlength
    omega
  · rintro ⟨rfl, rfl⟩
    simp

/-- A slice goes in front of those that begin where it ends. -/
theorem Tile.cons_make? {path : Path} {a b : UInt64} {c : Nat} {chunks : List FileChunk}
    (hab : a ≤ b) (h : Tile path b.toNat c chunks) :
    Tile path a.toNat c ((make? path a (b - a)).toList ++ chunks) := by
  have hsub : (b - a).toNat = b.toNat - a.toNat := UInt64.toNat_sub_of_le b a hab
  have hle : a.toNat ≤ b.toNat := UInt64.le_iff_toNat_le.mp hab
  unfold make?
  split
  case isTrue hzero =>
    -- Nothing is put in front, and the two offsets are one.
    have heq : a.toNat = b.toNat := by
      have := congrArg UInt64.toNat hzero
      rw [hsub] at this
      simp only [UInt64.toNat_zero] at this
      omega
    rw [heq]
    exact h
  case isFalse =>
    refine ⟨rfl, rfl, ?_⟩
    rw [hsub, Nat.add_sub_cancel' hle]
    exact h

end FileChunk

/-! ## §3 Stored entries -/

namespace KeySchema

variable {schema : KeySchema} {entries : List IndexEntry} {length : UInt64}

/-- Offsets do not depend on whether keys are compared before or after they were stored. -/
theorem startOf_stored (key : Tuple) :
    schema.startOf (entries.map schema.storedEntry) length (schema.stored key)
      = schema.startOf entries length key := by
  have hsame : (fun e : IndexEntry => schema.compare e.key (schema.stored key) != .lt)
      ∘ schema.storedEntry = fun e => schema.compare e.key key != .lt := by
    funext e
    simp only [Function.comp_apply, storedEntry, compare_stored]
  simp only [startOf, List.find?_map, hsame, Option.map_map]
  rfl

/-- A key reaches the same entries when it has been stored. -/
theorem reaches_stored (key : Tuple) :
    schema.reaches (entries.map schema.storedEntry) (schema.stored key)
      = schema.reaches entries key := by
  simp only [reaches, List.any_map, Function.comp_def, storedEntry, compare_stored]

/-- Rows end at the same places when keys have been stored. -/
theorem stopOf_stored (key : Tuple) (final : Bool) :
    schema.stopOf (entries.map schema.storedEntry) length (schema.stored key) final
      = schema.stopOf entries length key final := by
  simp only [stopOf, reaches_stored, startOf_stored]

end KeySchema

/-! ## §4 Routes -/

/-- A request for the rows between two encoded keys. -/
structure RangeAsk where
  start : Bytes
  stop : Bytes
  final : Bool
deriving DecidableEq, Repr

namespace RangeAsk

/-- The ask as a fetch request carries it. -/
def kind (ask : RangeAsk) : FetchKind := .range ask.start ask.stop ask.final

/-- The slice that answers the ask in a directory with sorted output. -/
def chunk (ask : RangeAsk) (store : FileStore) (dir : Path) : Except PullFault (Option FileChunk) :=
  FileChunk.rangeChunk store dir ask.start ask.stop ask.final

end RangeAsk

/-- Asks for the rows from `a` to `b` in reading order: each begins at the key where the one before
it ends. A route is open if no ask is final, and final if only its last one is. -/
inductive Route (schema : KeySchema) : (final : Bool) → (a b : Tuple) → List RangeAsk → Prop where
  | stay (a : Tuple) : Route schema false a a []
  | last {a b : Tuple} {start stop : Bytes} (hle : (schema.compare a b).isLE)
      (hkeys : FileChunk.readKeys schema start stop = .ok (schema.stored a, schema.stored b)) :
      Route schema true a b [⟨start, stop, true⟩]
  | step {final : Bool} {a b c : Tuple} {start stop : Bytes} {rest : List RangeAsk}
      (hle : (schema.compare a b).isLE)
      (hkeys : FileChunk.readKeys schema start stop = .ok (schema.stored a, schema.stored b))
      (hrest : Route schema final b c rest) :
      Route schema final a c (⟨start, stop, false⟩ :: rest)

namespace Route

variable {store : FileStore} {dir : Path} {schema : KeySchema} {log : IndexLog} {content : Bytes}

/-- A final route has an ask. -/
theorem length_pos {a b : Tuple} {asks : List RangeAsk} (h : Route schema true a b asks) :
    0 < asks.length := by
  cases h <;> exact Nat.succ_pos _

/-- An open route can be continued. -/
theorem append {final : Bool} {a b c : Tuple} {front rest : List RangeAsk}
    (hfront : Route schema false a b front) (hrest : Route schema final b c rest) :
    Route schema final a c (front ++ rest) := by
  generalize hopen : false = isOpen at hfront
  induction hfront with
  | stay a => exact hrest
  | last => cases hopen
  | step hle hkeys _ ih => exact step hle hkeys (ih hrest hopen)

/-- One ask between two keys is answered with the octets between their offsets. -/
theorem chunk_eq (h : SortedOutput store dir schema log content) (hfits : log.Fits) {a b : Tuple}
    {start stop : Bytes} (hle : (schema.compare a b).isLE)
    (hkeys : FileChunk.readKeys schema start stop = .ok (schema.stored a, schema.stored b))
    (final : Bool) :
    (RangeAsk.mk start stop final).chunk store dir
      = .ok (FileChunk.make? (dir.join Layout.dataFile)
          (schema.startOf log.entries.toList (UInt64.ofNat content.length) a)
          (schema.stopOf log.entries.toList (UInt64.ofNat content.length) b final
            - schema.startOf log.entries.toList (UInt64.ofNat content.length) a)) := by
  -- The service compares stored keys, which compare as the keys of the log.
  have hschema : log.index.schema = schema := h.schema_eq
  have hentries : log.index.entries.toList = log.entries.toList.map schema.storedEntry := by
    rw [IndexLog.toList_index, h.schema_eq]
  have hrise : log.index.schema.Rising log.index.entries.toList :=
    IndexLog.rising_index (h.schema_eq.symm ▸ h.rising)
  have hbound : ∀ e ∈ log.index.entries.toList, e.offset ≤ UInt64.ofNat content.length := by
    rw [hentries]
    intro e he
    obtain ⟨x, hx, rfl⟩ := List.mem_map.mp he
    have hle : x.offset ≤ UInt64.ofNat content.length := h.offset_le hx
    exact hle
  have hstored : (log.index.schema.compare (schema.stored a) (schema.stored b)).isLE := by
    rw [hschema, schema.compare_stored]
    exact hle
  have hread : FileChunk.readKeys log.index.schema start stop
      = .ok (schema.stored a, schema.stored b) := by
    rw [hschema]
    exact hkeys
  have hindex := h.openIndex_eq_iff.mpr hfits
  have hanswer := FileChunk.rangeChunk_eq_make? final h.fileLength_eq hindex hrise hbound hread
    hstored
  rw [hschema, hentries, KeySchema.startOf_stored, KeySchema.stopOf_stored] at hanswer
  exact hanswer

private theorem filterMap_cons_id {α : Type} (c : Option α) (rest : List (Option α)) :
    (c :: rest).filterMap (fun c => c) = c.toList ++ rest.filterMap fun c => c := by
  cases c <;> rfl

/-- The answers to a route tile the file from where the rows of its first key begin to where a
range that ends at its last key ends. -/
theorem tile_chunks (h : SortedOutput store dir schema log content) (hfits : log.Fits)
    {final : Bool} {a b : Tuple} {asks : List RangeAsk} (hroute : Route schema final a b asks) :
    ∃ chunks, asks.mapM (fun ask => ask.chunk store dir) = .ok chunks ∧
      FileChunk.Tile (dir.join Layout.dataFile)
        (schema.startOf log.entries.toList (UInt64.ofNat content.length) a).toNat
        (schema.stopOf log.entries.toList (UInt64.ofNat content.length) b final).toNat
        (chunks.filterMap fun c => c) := by
  have hbound : ∀ e ∈ log.entries.toList, e.offset ≤ UInt64.ofNat content.length :=
    fun _ he => h.offset_le he
  induction hroute with
  | stay a => exact ⟨[], rfl, rfl⟩
  | last hle hkeys =>
    -- The final ask: one slice, from its own start to the end of the route.
    refine ⟨[_], by simp only [List.mapM_cons, chunk_eq h hfits hle hkeys true]; rfl, ?_⟩
    have horder := KeySchema.startOf_le_stopOf h.rising hbound hle true
    rw [filterMap_cons_id]
    exact FileChunk.Tile.cons_make? horder rfl
  | step hle hkeys _ ih =>
    obtain ⟨chunks, hchunks, htile⟩ := ih
    refine ⟨_ :: chunks, by
      simp only [List.mapM_cons, chunk_eq h hfits hle hkeys false, hchunks]; rfl, ?_⟩
    -- A range that is not final ends where the rows of its last key begin, as the next one does.
    have horder := KeySchema.startOf_mono h.rising hbound hle
    rw [filterMap_cons_id]
    exact FileChunk.Tile.cons_make? horder htile

end Route

end Shuffle
