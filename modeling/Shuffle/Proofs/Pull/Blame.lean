import Mathlib
import Shuffle.Proofs.Key.Canonical
import Shuffle.Proofs.Pull.Blocks
import Shuffle.Proofs.Pull.Complete

/-!
# Whom a range request without an answer is blamed on

The files of a directory may be missing, and the index may hold any octets. What is missing is
reported as such; octets that are no index are blamed on the index, whatever was asked; and a
request is blamed only if the index can be read and the request does not suit it. An index that can
be read need not make sense: its offsets are checked before a slice is cut.

- `Index.Rejects`: the requests that do not suit an index.
- `FileChunk.RangeOutcome` are the ways in which a request can end.
- `FileChunk.rangeChunk_blames` says which faults come when.
-/

namespace Shuffle

open Fallible

/-! ## §1 Files and requests -/

/-- A path leads to a file with this content, or to nothing. -/
def FileStore.HasFile (store : FileStore) (p : Path) : Option Bytes → Prop
  | none => store.stat p = .error .notFound
  | some content => store.stat p = .ok (.file content)

/-- Octets that are a key of a schema: the whole encoded form of a row. -/
def KeySchema.IsKey (schema : KeySchema) (octets : Bytes) : Prop :=
  ∃ row, schema.encode row = .ok octets

/-- The keys are the octets that can be decoded. -/
theorem KeySchema.isKey_iff_decode {schema : KeySchema} {octets : Bytes} :
    schema.IsKey octets ↔ ∃ row, schema.decode octets = .ok row :=
  ⟨fun ⟨_, h⟩ => ⟨_, decode_encode h⟩, fun ⟨row, h⟩ => ⟨row, encode_of_decode h⟩⟩

/-- A request does not suit an index if one of its ends is no key, or if its ends are in the wrong
order. The latter is not looked at without entries. -/
def Index.Rejects (index : Index) (start stop : Bytes) : Prop :=
  ¬ index.schema.IsKey start ∨ ¬ index.schema.IsKey stop ∨
    index.entries ≠ #[] ∧ ∃ r : KeyRange, r.Asked index.schema start stop ∧
      index.schema.compare r.first r.last = .gt

/-- Octets ask for one range only. -/
theorem KeyRange.Asked.unique {schema : KeySchema} {start stop : Bytes} {r r' : KeyRange}
    (h : r.Asked schema start stop) (h' : r'.Asked schema start stop) : r = r' := by
  obtain ⟨low, high, ascending⟩ := r
  obtain ⟨low', high', ascending'⟩ := r'
  obtain rfl : low = low' := Except.ok.inj (h.low.symm.trans h'.low)
  obtain rfl : high = high' := Except.ok.inj (h.high.symm.trans h'.high)
  obtain rfl : ascending = ascending' := h.direction.symm.trans h'.direction
  rfl

namespace FileChunk

variable {store : FileStore} {dir p : Path} {start stop : Bytes} {final : Bool}
  {data? index? : Option Bytes} {answer : Except PullFault (Option FileChunk)} {c : FileChunk}

/-- The length of a data file is known, or its absence is. -/
theorem fileLength_of_hasFile (h : store.HasFile p data?) :
    fileLength store p
      = (data?.elim (.error (.missing [p])) fun data => .ok (UInt64.ofNat data.length)) := by
  cases data? with
  | none => simp [fileLength, FileStore.length, show store.stat p = _ from h, Except.map,
      PullFault.ofFile]
  | some data => simp [fileLength, FileStore.length, show store.stat p = _ from h, Except.map]

/-- An index is read, found damaged, or missing. -/
theorem openIndex_of_hasFile (h : store.HasFile p index?) :
    openIndex store p = (index?.elim (.error (.missing [p])) fun bytes =>
      (Index.ofFile bytes).mapError .index) := by
  cases index? with
  | none => simp [openIndex, FileStore.read, show store.stat p = _ from h, bind, Except.bind,
      PullFault.ofFile]
  | some bytes => simp [openIndex, FileStore.read, show store.stat p = _ from h, bind, Except.bind,
      pure, Except.pure]

/-- The ends of a request are read as a range, or one of them is no key. -/
theorem readKeys_cases (schema : KeySchema) (start stop : Bytes) :
    (∃ r, KeyRange.Asked schema start stop r) ∨
      (¬ schema.IsKey start ∨ ¬ schema.IsKey stop) ∧
        ∃ fault, readKeys schema start stop = .error (.key fault) := by
  simp only [KeySchema.isKey_iff_decode]
  -- The start is read before the end, so the end's fault is told only when the start is a key.
  cases hlow : schema.decode start with
  | error fault =>
    exact Or.inr ⟨Or.inl (by simp), fault,
      by simp [readKeys, hlow, Except.mapError, bind, Except.bind]⟩
  | ok low =>
    cases hhigh : schema.decode stop with
    | error fault =>
      exact Or.inr ⟨Or.inr (by simp), fault,
        by simp [readKeys, hlow, hhigh, Except.mapError, bind, Except.bind]⟩
    | ok high =>
      exact Or.inl ⟨⟨low, high, schema.ascendsFirst⟩, hlow, hhigh, rfl⟩

/-! ## §2 How a request ends -/

/-- The ways in which a range request can end, from what the two files of the directory hold. -/
inductive RangeOutcome (dir : Path) (start stop : Bytes) (final : Bool) :
    Option Bytes → Option Bytes → Except PullFault (Option FileChunk) → Prop where
  | noData (index? : Option Bytes) :
    RangeOutcome dir start stop final none index?
      (.error (.missing [dir.join Layout.dataFile]))
  | noIndex (data : Bytes) :
    RangeOutcome dir start stop final (some data) none
      (.error (.missing [dir.join Layout.indexFile]))
  | unreadable {data bytes : Bytes} {bad : IndexError} (hindex : Index.ofFile bytes = .error bad) :
    RangeOutcome dir start stop final (some data) (some bytes) (.error (.index bad))
  | rejected {data bytes : Bytes} {index : Index} {fault : PullFault}
    (hindex : Index.ofFile bytes = .ok index) (hrejects : index.Rejects start stop)
    (hkind : fault.kind = .badRequest) :
    RangeOutcome dir start stop final (some data) (some bytes) (.error fault)
  | noRows {data bytes : Bytes} {index : Index} (hindex : Index.ofFile bytes = .ok index)
    (hsuits : ¬ index.Rejects start stop) :
    RangeOutcome dir start stop final (some data) (some bytes) (.ok none)
  | badOffsets {data bytes : Bytes} {index : Index} {fault : PullFault}
    (hindex : Index.ofFile bytes = .ok index) (hsuits : ¬ index.Rejects start stop)
    (hkind : fault.kind = .index) :
    RangeOutcome dir start stop final (some data) (some bytes) (.error fault)
  | slice {data bytes : Bytes} {index : Index} {r : KeyRange} {c : FileChunk}
    (hindex : Index.ofFile bytes = .ok index) (hsuits : ¬ index.Rejects start stop)
    (hasked : r.Asked index.schema start stop) (hpath : c.path = dir.join Layout.dataFile)
    (hcut : c.Cut index (UInt64.ofNat data.length) r.first r.last final) :
    RangeOutcome dir start stop final (some data) (some bytes) (.ok (some c))

/-- An index with entries has a first and a last key. -/
private theorem exists_keys {index : Index} (h : index.entries ≠ #[]) :
    ∃ lowest highest, index.firstKey? = some lowest ∧ index.lastKey? = some highest := by
  have hsize : 0 < index.entries.size := Array.size_pos_iff.mpr h
  have hlast : index.entries.size - 1 < index.entries.size := Nat.sub_lt hsize Nat.one_pos
  refine ⟨index.entries[0].key, index.entries[index.entries.size - 1].key, ?_, ?_⟩
  · rw [Index.firstKey?, Array.getElem?_eq_getElem hsize, Option.map_some]
  · rw [Index.lastKey?, Array.back?_eq_getElem?, Array.getElem?_eq_getElem hlast, Option.map_some]

/-- What is done with an index that can be read and a range in its columns. -/
private theorem outcome_of_asked {data bytes : Bytes} {index : Index} {r : KeyRange}
    (hlength : fileLength store (dir.join Layout.dataFile) = .ok (UInt64.ofNat data.length))
    (hopen : openIndex store (dir.join Layout.indexFile) = .ok index)
    (hindex : Index.ofFile bytes = .ok index) (hasked : r.Asked index.schema start stop) :
    RangeOutcome dir start stop final (some data) (some bytes)
      (rangeChunk store dir start stop final) := by
  -- The octets ask for no other range.
  have hsuits : (index.entries = #[] ∨ index.schema.compare r.first r.last ≠ .gt) →
      ¬ index.Rejects start stop := by
    rintro horder (hstart | hstop | ⟨hentries, r', hasked', hgt⟩)
    · exact hstart (KeySchema.isKey_iff_decode.mpr ⟨_, hasked.low⟩)
    · exact hstop (KeySchema.isKey_iff_decode.mpr ⟨_, hasked.high⟩)
    · rw [hasked.unique hasked'] at horder
      exact horder.elim hentries fun hne => hne hgt
  simp only [rangeChunk, sliceOf, hlength, hopen, hasked.readKeys_eq, bind, Except.bind]
  -- Without entries there is no first key and no last one, and the order does not matter.
  split
  case h_1 lowest highest hlowest hhighest =>
    have hentries : index.entries ≠ #[] := by
      intro hempty
      simp [Index.firstKey?, hempty] at hlowest
    split_ifs with hgt hscope
    · exact .rejected hindex (Or.inr (Or.inr ⟨hentries, r, hasked, hgt⟩)) rfl
    · exact .noRows hindex (hsuits (Or.inr hgt))
    · -- In scope, the offsets of the index decide.
      cases hslice : sliceBetween index (dir.join Layout.dataFile) (UInt64.ofNat data.length)
        r.first r.last final with
      | error fault => exact .badOffsets hindex (hsuits (Or.inr hgt)) (kind_of_sliceBetween hslice)
      | ok answer =>
        cases answer with
        | none => exact .noRows hindex (hsuits (Or.inr hgt))
        | some c =>
          obtain ⟨hpath, hcut⟩ := cut_of_sliceBetween hslice
          exact .slice hindex (hsuits (Or.inr hgt)) hasked hpath hcut
  case h_2 hnone =>
    refine .noRows hindex (hsuits (Or.inl ?_))
    by_contra hentries
    obtain ⟨lowest, highest, hlowest, hhighest⟩ := exists_keys hentries
    exact hnone lowest highest hlowest hhighest

/-- A range request ends in one of these ways. -/
theorem outcome_rangeChunk (hdata : store.HasFile (dir.join Layout.dataFile) data?)
    (hindex : store.HasFile (dir.join Layout.indexFile) index?) (start stop : Bytes)
    (final : Bool) :
    RangeOutcome dir start stop final data? index? (rangeChunk store dir start stop final) := by
  have hlength := fileLength_of_hasFile hdata
  have hopen := openIndex_of_hasFile hindex
  -- The steps in the order of the code: the data file, the index, its octets, the keys of the
  -- request.
  cases data? with
  | none =>
    rw [rangeChunk, hlength]
    exact .noData index?
  | some data =>
    cases index? with
    | none =>
      rw [rangeChunk, hlength, hopen]
      exact .noIndex data
    | some bytes =>
      cases hbytes : Index.ofFile bytes with
      | error bad =>
        rw [rangeChunk, hlength, hopen]
        simp only [Option.elim, hbytes]
        exact .unreadable hbytes
      | ok index =>
        have hopen : openIndex store (dir.join Layout.indexFile) = .ok index := by
          rw [hopen]
          simp only [Option.elim, hbytes]
          rfl
        rcases readKeys_cases index.schema start stop with ⟨r, hasked⟩ | ⟨hkeys, fault, hread⟩
        · exact outcome_of_asked hlength hopen hbytes hasked
        · rw [rangeChunk, hlength, hopen]
          simp only [Option.elim, sliceOf, bind, Except.bind, hread]
          exact .rejected hbytes (hkeys.imp_right Or.inl) rfl

namespace RangeOutcome

variable (h : RangeOutcome dir start stop final data? index? answer)

include h

/-- What is missing is reported as missing, and nothing else is. -/
theorem notFound_iff : (∃ fault, answer = .error fault ∧ fault.kind = .notFound) ↔
    data? = none ∨ index? = none := by
  cases h with
  | noData index? => simp [PullFault.kind]
  | noIndex data => simp [PullFault.kind]
  | unreadable hindex => simp [PullFault.kind]
  | rejected hindex hrejects hkind => simp [hkind]
  | noRows hindex hsuits => simp
  | badOffsets hindex hsuits hkind => simp [hkind]
  | slice hindex hsuits hasked hpath hcut => simp

/-- Octets that are no index are the index's fault, whatever the request is. -/
theorem eq_error_of_refused {data bytes : Bytes} {bad : IndexError} (hdata : data? = some data)
    (hindex : index? = some bytes) (hbad : Index.ofFile bytes = .error bad) :
    answer = .error (.index bad) := by
  cases h with
  | noData index? => cases hdata
  | noIndex data => cases hindex
  | unreadable hrefused =>
    cases hindex
    rw [Except.error.inj (hrefused.symm.trans hbad)]
  | rejected hread | noRows hread | badOffsets hread | slice hread =>
    cases hindex
    cases hread.symm.trans hbad

/-- A request is blamed if the index can be read and it does not suit it, and in no other case. -/
theorem badRequest_iff : (∃ fault, answer = .error fault ∧ fault.kind = .badRequest) ↔
    ∃ data bytes index, data? = some data ∧ index? = some bytes ∧ Index.ofFile bytes = .ok index ∧
      index.Rejects start stop := by
  cases h with
  | noData index? => simp [PullFault.kind]
  | noIndex data => simp [PullFault.kind]
  | unreadable hindex => simp [PullFault.kind, hindex]
  | rejected hindex hrejects hkind => simp [hkind, hindex, hrejects]
  | noRows hindex hsuits => simp [hindex, hsuits]
  | badOffsets hindex hsuits hkind => simp [hkind, hindex, hsuits]
  | slice hindex hsuits hasked hpath hcut => simp [hindex, hsuits]

/-- A slice is cut out of the data between two offsets of the index, whatever else this holds. -/
theorem cut_of_slice (hslice : answer = .ok (some c)) :
    ∃ data bytes index r, data? = some data ∧ index? = some bytes ∧
      Index.ofFile bytes = .ok index ∧ KeyRange.Asked index.schema start stop r ∧
      c.path = dir.join Layout.dataFile ∧
      c.Cut index (UInt64.ofNat data.length) r.first r.last final := by
  cases h with
  | noData | noIndex | unreadable | rejected | noRows | badOffsets => cases hslice
  | slice hindex hsuits hasked hpath hcut =>
    cases hslice
    exact ⟨_, _, _, _, rfl, rfl, hindex, hasked, hpath, hcut⟩

end RangeOutcome

/-! ## §3 The faults of a request -/

/-- **Faults blame the right side.** Whatever the files of a directory hold, a request is told that
something is missing exactly if a file is; octets that are no index are a fault of the service,
whatever is asked; a request is called bad exactly if there is an index that can be read and the
request does not suit it; and a slice that is found has octets, all of them in the data. -/
theorem rangeChunk_blames (hdata : store.HasFile (dir.join Layout.dataFile) data?)
    (hindex : store.HasFile (dir.join Layout.indexFile) index?) (start stop : Bytes)
    (final : Bool) :
    ((∃ fault, rangeChunk store dir start stop final = .error fault ∧ fault.kind = .notFound) ↔
      data? = none ∨ index? = none) ∧
    (∀ data bytes bad, data? = some data → index? = some bytes → Index.ofFile bytes = .error bad →
      rangeChunk store dir start stop final = .error (.index bad) ∧
        (PullFault.index bad).status = 500) ∧
    ((∃ fault, rangeChunk store dir start stop final = .error fault ∧ fault.kind = .badRequest) ↔
      ∃ data bytes index, data? = some data ∧ index? = some bytes ∧
        Index.ofFile bytes = .ok index ∧ index.Rejects start stop) ∧
    ∀ c, rangeChunk store dir start stop final = .ok (some c) →
      ∃ data bytes index r, data? = some data ∧ index? = some bytes ∧
        Index.ofFile bytes = .ok index ∧ KeyRange.Asked index.schema start stop r ∧
        c.path = dir.join Layout.dataFile ∧
        c.Cut index (UInt64.ofNat data.length) r.first r.last final ∧
        0 < c.length.toNat ∧ c.offset.toNat + c.length.toNat ≤ data.length := by
  have houtcome := outcome_rangeChunk hdata hindex start stop final
  refine ⟨houtcome.notFound_iff, ?refused, houtcome.badRequest_iff, ?inside⟩
  case refused =>
    intro data bytes bad hdata hindex hbad
    exact ⟨houtcome.eq_error_of_refused hdata hindex hbad, rfl⟩
  case inside =>
    intro c hslice
    obtain ⟨data, bytes, index, r, hdata, hindex, hread, hasked, hpath, hcut⟩ :=
      houtcome.cut_of_slice hslice
    obtain ⟨hpositive, hwithin⟩ := hcut.toNat_length
    -- A length that does not fit in 64 bits is taken for a smaller one.
    have hshort : (UInt64.ofNat data.length).toNat ≤ data.length := Nat.mod_le _ _
    exact ⟨data, bytes, index, r, hdata, hindex, hread, hasked, hpath, hcut, by omega, by omega⟩

/-- An index whose keys are out of order and whose offsets are, too. -/
def tangledLog : IndexLog :=
  ⟨⟨[⟨"k", .int8, true, false⟩]⟩, #[⟨⟨[.int8 50]⟩, 4⟩, ⟨⟨[.int8 10]⟩, 9⟩, ⟨⟨[.int8 30]⟩, 2⟩]⟩

/-- The file of these entries is read as it was written. -/
private theorem ofFile_tangled : Index.ofFile tangledLog.file.1 = .ok tangledLog.index :=
  (IndexLog.ofFile_file_iff (Prod.ext rfl (by decide +kernel))).mpr
    (IndexLog.fits_of_width ⟨by decide, by decide +kernel⟩ (by decide) (by decide))

/-- A directory with such an index. -/
def tangledStore : FileStore := SortedOutput.singleton tangledLog [1, 2, 3]

/-- The index is not at fault when it is asked for the rows from 60 to 10: the request is. -/
theorem rangeChunk_blames_request :
    tangledStore.HasFile (Path.join ⟨"d"⟩ Layout.dataFile) (some [1, 2, 3]) ∧
    tangledStore.HasFile (Path.join ⟨"d"⟩ Layout.indexFile) (some tangledLog.file.1) ∧
    ∃ fault, rangeChunk tangledStore ⟨"d"⟩ [0, 0, 0, 0, 0, 0, 0, 0, 60]
        [0, 0, 0, 0, 0, 0, 0, 0, 10] false = .error fault ∧ fault.kind = .badRequest := by
  have hdata : tangledStore.HasFile (Path.join ⟨"d"⟩ Layout.dataFile) (some [1, 2, 3]) := rfl
  have hindex : tangledStore.HasFile (Path.join ⟨"d"⟩ Layout.indexFile)
      (some tangledLog.file.1) := rfl
  obtain ⟨-, -, hbad, -⟩ := rangeChunk_blames hdata hindex [0, 0, 0, 0, 0, 0, 0, 0, 60]
    [0, 0, 0, 0, 0, 0, 0, 0, 10] false
  have hasked : KeyRange.Asked tangledLog.schema [0, 0, 0, 0, 0, 0, 0, 0, 60]
      [0, 0, 0, 0, 0, 0, 0, 0, 10] ⟨⟨[.int8 60]⟩, ⟨[.int8 10]⟩, true⟩ := ⟨rfl, rfl, rfl⟩
  have hentries : tangledLog.index.entries ≠ #[] := Array.size_pos_iff.mp (by decide +kernel)
  exact ⟨hdata, hindex, hbad.mpr ⟨_, _, _, rfl, rfl, ofFile_tangled,
    Or.inr (Or.inr ⟨hentries, _, hasked, rfl⟩)⟩⟩

end FileChunk

end Shuffle
