import Mathlib
import Shuffle.Proofs.Index.Capacity

/-!
# Index files are read whole or not at all

A part of an index file is never taken for a shorter index. Reads that succeed do not depend on what
follows, so octets behind a file that is read are left over, and those are a fault. The file that a
log leaves behind when a key does not fit announces more entries than it has.

- `Cursor.Steady`: what a read answers does not change when more octets follow.
- `Index.ofFile_append`: octets behind a file that is read.
- `IndexLog.ofFile_of_fault`: files that were cut short by a key.
- `IndexLog.refused_iff_torn` and `IndexLog.run_reads_back` are the two sides of it.
-/

namespace Shuffle

/-! ## §1 Reads that do not depend on what follows -/

namespace Cursor

/-- The cursor with more octets at the end. -/
def extend (c : Cursor) (more : Bytes) : Cursor := ⟨c.offset, c.rest ++ more⟩

/-- A read that succeeds answers the same when more octets follow, and leaves them. -/
def Steady {ε α : Type} (read : Cursor → Except ε (α × Cursor)) : Prop :=
  ∀ ⦃c c' : Cursor⦄ ⦃a : α⦄, read c = .ok (a, c') →
    ∀ more, read (c.extend more) = .ok (a, c'.extend more)

namespace Steady

variable {ε ε' α β : Type} {read : Cursor → Except ε (α × Cursor)}

/-- Reading nothing is steady. -/
theorem pure (a : α) : Steady fun c => (.ok (a, c) : Except ε (α × Cursor)) := by
  intro c c' a' h more
  cases h
  rfl

/-- A fault that does not depend on the input stays one. -/
theorem error (fault : ε) : Steady fun _ => (.error fault : Except ε (α × Cursor)) := by
  intro c c' a h
  cases h

/-- What is made of the item does not matter. -/
theorem map (h : Steady read) (f : α → β) :
    Steady fun c => (read c).map fun (a, c) => (f a, c) := by
  intro c c' b hread more
  obtain ⟨⟨a, rest⟩, ha, heq⟩ := Fallible.map_eq_ok.mp hread
  cases heq
  exact Fallible.map_eq_ok.mpr ⟨_, h ha more, rfl⟩

/-- How a fault is worded does not matter. -/
theorem mapError (h : Steady read) (f : ε → ε') : Steady fun c => (read c).mapError f := by
  intro c c' a hread more
  exact Fallible.mapError_eq_ok.mpr (h (Fallible.mapError_eq_ok.mp hread) more)

/-- Two steady readings, one after the other, are steady. -/
theorem bind {next : α × Cursor → Except ε (β × Cursor)} (h : Steady read)
    (hnext : ∀ a, Steady fun c => next (a, c)) : Steady fun c => read c >>= next := by
  intro c c' b hread more
  obtain ⟨⟨a, rest⟩, ha, hb⟩ := Fallible.bind_eq_ok.mp hread
  exact Fallible.bind_eq_ok.mpr ⟨_, h ha more, hnext a hb more⟩

end Steady

/-- A field that is there stays there when more octets follow. -/
theorem steady_take (count : Nat) : Steady fun c => c.take count := by
  intro c c' field h more
  unfold take at h
  dsimp only at h
  split_ifs at h with hlength
  cases h
  -- The octets that are taken are in front, and what follows is not reached.
  have hle : count ≤ c.rest.length := by
    rw [List.length_take] at hlength
    omega
  simp only [take, extend, List.take_append_of_le_length hle, List.drop_append_of_le_length hle,
    if_pos hlength]

theorem steady_number (width : Nat) : Steady fun c => c.number width :=
  (steady_take width).map Bytes.ofBigEndian

theorem steady_u8 : Steady u8 := (steady_number 1).map UInt8.ofNat

theorem steady_u16 : Steady u16 := (steady_number 2).map UInt16.ofNat

theorem steady_u32 : Steady u32 := (steady_number 4).map UInt32.ofNat

theorem steady_u64 : Steady u64 := (steady_number 8).map UInt64.ofNat

end Cursor

namespace IndexFile

open Cursor

/-- It does not matter as which fault a shortage is reported. -/
theorem steady_ofShortage {α : Type} {read : Cursor → Except Shortage (α × Cursor)}
    (h : Steady read) : Steady fun c => ofShortage (read c) :=
  h.mapError _

/-- A column is read in the same way when more octets follow. -/
theorem steady_readColumn : Steady readColumn := by
  unfold readColumn
  apply (steady_ofShortage steady_u8).bind
  intro tag
  dsimp only
  cases DataType.ofTag? tag with
  | none => exact Steady.error _
  | some dataType =>
    apply (steady_ofShortage steady_u8).bind
    intro ascending
    -- The flags stand in the instances of their tests as well.
    dsimp +instances only
    apply (steady_ofShortage steady_u8).bind
    intro nullsFirst
    dsimp +instances only
    apply (steady_ofShortage steady_u16).bind
    intro length
    dsimp only
    apply (steady_ofShortage (steady_take length.toNat)).bind
    intro name
    dsimp only
    cases Utf8.decode name with
    | error fault => exact Steady.error _
    | ok column => exact Steady.pure _

/-- Reading an entry is steady. -/
theorem steady_readEntry (schema : KeySchema) : Steady (readEntry schema) := by
  unfold readEntry
  apply (steady_ofShortage steady_u32).bind
  intro length
  dsimp only
  apply (steady_ofShortage (steady_take length.toNat)).bind
  intro raw
  dsimp only
  -- The key is read from its own field, whatever stands behind the entry.
  cases (schema.read (Cursor.start raw)).mapError IndexError.key with
  | error fault => exact Steady.error _
  | ok key =>
    apply (steady_ofShortage steady_u64).bind
    intro offset
    dsimp only
    exact Steady.pure _

/-- Reading any number of items is steady if reading one is. -/
theorem readMany_extend {α : Type} {readOne : Cursor → Except IndexError (α × Cursor)}
    (hone : Steady readOne) {count : Nat} {done items : Array α} {c c' : Cursor}
    (h : readMany readOne count done c = .ok (items, c')) (more : Bytes) :
    readMany readOne count done (c.extend more) = .ok (items, c'.extend more) := by
  -- The loop hands on what it has collected, so the induction is over all such lists.
  induction count generalizing done c with
  | zero =>
    cases h
    rfl
  | succ count ih =>
    rw [readMany] at h ⊢
    cases hread : readOne c with
    | error fault => rw [hread] at h; cases h
    | ok item =>
      rw [hread] at h
      rw [hone hread more]
      exact ih h

end IndexFile

/-! ## §2 More and less than a file -/

open IndexFile Cursor in
/-- Octets behind a file that is read are left over. -/
theorem Index.ofFile_append {bytes : Bytes} {index : Index} (h : ofFile bytes = .ok index)
    {more : Bytes} (hmore : more ≠ []) :
    ofFile (bytes ++ more) = .error (.trailing more.length) := by
  obtain ⟨columns, count, keys, c₁, c₂, c₃, c₄, c₅, c₆, hmagic, hversion, hcolumns, hkeys, hschema,
    hcount, hroom, hentries, hend⟩ := ofFile_ok h
  rw [hschema] at hentries
  -- Each field is read as it was, and the octets behind it stay behind.
  replace hmagic := steady_ofShortage (steady_take _) hmagic more
  replace hversion := steady_ofShortage steady_u8 hversion more
  replace hcolumns := steady_ofShortage steady_u16 hcolumns more
  replace hkeys := readMany_extend steady_readColumn hkeys more
  replace hcount := steady_ofShortage steady_u64 hcount more
  replace hentries := readMany_extend (steady_readEntry _) hentries more
  -- More octets leave room for more entries.
  have hroom' : ¬ (c₅.extend more).left / smallestEntry < count.toNat := by
    have hle : c₅.left / smallestEntry ≤ (c₅.extend more).left / smallestEntry := by
      apply Nat.div_le_div_right
      simp only [left, extend, List.length_append]
      omega
    omega
  have hrest : c₆.extend more = ⟨c₆.offset, more⟩ := by rw [extend, hend, List.nil_append]
  have hstart : start (bytes ++ more) = (start bytes).extend more := rfl
  have hleft : ¬ (Cursor.mk c₆.offset more).isDone = true := by
    rw [isDone, List.isEmpty_iff]
    exact hmore
  simp only [ofFile, hstart, hmagic, hversion, hcolumns, hkeys, hcount, hentries, bind,
    Except.bind, ne_eq, not_true_eq_false, if_false, if_neg hroom', hrest, if_neg hleft]
  rfl

namespace IndexLog

open IndexFile in
/-- A file that was cut short by a key announces more entries than it could hold, or than it
has. -/
theorem ofFile_of_fault {log : IndexLog} (hfits : log.Fits) {bytes : Bytes} {fault : KeyError}
    (h : log.file = (bytes, some fault)) :
    Index.ofFile bytes = .error (.entryCount log.size) ∨
      Index.ofFile bytes = .error (.key (.shortage ⟨4, bytes.length, 0⟩)) := by
  obtain ⟨front, back, hsplit, hkeys, hfile, hfault⟩ := log.file_split
  rw [h] at hfile hfault
  obtain rfl : bytes = _ := hfile
  rw [ofFile_header hfits.schema hfits.count]
  split_ifs with hroom
  · -- So few entries were written that the count is refused at once.
    exact Or.inl rfl
  · right
    obtain ⟨e, back, rfl⟩ : ∃ e rest, back = e :: rest :=
      List.exists_cons_of_ne_nil fun hnil => by cases hfault.mpr hnil
    -- All entries that were written are read, and one more is asked for.
    have hsize : log.size = front.length + (back.length + 1) := by
      rw [size, ← Array.length_toList, hsplit, List.length_append, List.length_cons]
    have hfront := readMany_flatMap log.schema.storedEntry (fun e he => by
      obtain ⟨key, hkey⟩ := hkeys e he
      have hmem : e ∈ log.entries.toList := hsplit ▸ List.mem_append_left _ he
      exact readEntry_written hkey (hfits.keys e hmem key hkey))
      #[] (header log.schema log.size).length []
    rw [List.append_nil] at hfront
    rw [hsize, readMany_add, ← hsize, hfront]
    simp only [bind, Except.bind, readMany_readEntry_nil, List.length_append]

/-! ## §3 The files of logs -/

/-- The file of a log is read exactly if it was written to its end. -/
theorem exists_ofFile_iff {log : IndexLog} (hfits : log.Fits) :
    (∃ index, Index.ofFile log.file.1 = .ok index) ↔ log.file.2 = none := by
  rcases hfile : log.file with ⟨bytes, fault⟩
  cases fault with
  | none => exact iff_of_true ⟨log.index, ofFile_file hfits hfile⟩ rfl
  | some fault =>
    refine iff_of_false ?_ (Option.some_ne_none fault)
    rintro ⟨index, hread⟩
    rcases ofFile_of_fault hfits hfile with h | h
    · cases h.symm.trans hread
    · cases h.symm.trans hread

/-- The file of a log is never too long for its own header. -/
theorem ofFile_ne_trailing {log : IndexLog} (hfits : log.Fits) (count : Nat) :
    Index.ofFile log.file.1 ≠ .error (.trailing count) := by
  intro htrailing
  rcases hfile : log.file with ⟨bytes, fault⟩
  rw [hfile] at htrailing
  -- Either the file is read, or the reader asks for more than there is.
  cases fault with
  | none => cases (ofFile_file hfits hfile).symm.trans htrailing
  | some fault =>
    rcases ofFile_of_fault hfits hfile with h | h
    · cases h.symm.trans htrailing
    · cases h.symm.trans htrailing

/-- **A torn index is never opened.** Whatever part of a file is there, from its start on, it is
refused as a corrupt index exactly if something is missing: octets at its end, or the entries from
the one on whose key does not fit the schema. -/
theorem refused_iff_torn {log : IndexLog} (hfits : log.Fits) {front : Bytes}
    (hfront : front <+: log.file.1) :
    (∃ why, Index.ofFile front = .error why) ↔ front ≠ log.file.1 ∨ log.file.2 ≠ none := by
  constructor
  case mp =>
    rintro ⟨why, hwhy⟩
    -- A file that is whole and without a fault would be read.
    by_contra hwhole
    obtain ⟨rfl, hend⟩ : front = log.file.1 ∧ log.file.2 = none := by tauto
    obtain ⟨index, hread⟩ := (exists_ofFile_iff hfits).mpr hend
    cases hread.symm.trans hwhy
  case mpr =>
    intro htorn
    cases hread : Index.ofFile front with
    | error why => exact ⟨why, rfl⟩
    | ok index =>
      exfalso
      obtain ⟨more, hmore⟩ := hfront
      rcases eq_or_ne more [] with rfl | hcut
      · -- Nothing is cut off, so a key ended the file, and it is not read.
        rw [List.append_nil] at hmore
        refine htorn.elim (fun hne => hne hmore) fun hfault => hfault ?_
        exact (exists_ofFile_iff hfits).mp ⟨index, hmore ▸ hread⟩
      · -- If the front were read, what is cut off would be left over in the file.
        apply ofFile_ne_trailing hfits more.length
        rw [← hmore]
        exact Index.ofFile_append hread hcut

/-- The newest first, and visitors without a name in front of the others. -/
def visitSchema : KeySchema := ⟨[⟨"at", .int8, false, false⟩, ⟨"name", .text, true, true⟩]⟩

/-- The key of the last entry is too short for the schema. -/
def shortVisits : IndexLog :=
  ⟨visitSchema, #[⟨⟨[.int8 9, .text "é"]⟩, 0⟩, ⟨⟨[.int4 7, .null]⟩, 4⟩, ⟨⟨[.int8 3]⟩, 8⟩]⟩

/-- The same entries without the last one. -/
def visits : IndexLog := ⟨visitSchema, shortVisits.entries.pop⟩

/-- Two columns with short names fit the format. -/
theorem fits_visitSchema : visitSchema.Fits := ⟨by decide, by decide +kernel⟩

/-- The file that a key cut short, a part of it, and a part of a file that is whole. -/
theorem refused_iff_torn_visits :
    (∃ why, Index.ofFile shortVisits.file.1 = .error why) ∧
      (∃ why, Index.ofFile (shortVisits.file.1.take 40) = .error why) ∧
      (∃ why, Index.ofFile (visits.file.1.take 70) = .error why) ∧
      ¬ ∃ why, Index.ofFile visits.file.1 = .error why := by
  have hshort : shortVisits.Fits :=
    fits_of_width fits_visitSchema (by decide +kernel) (by decide)
  have hvisits : visits.Fits := fits_of_width fits_visitSchema (by decide +kernel) (by decide)
  -- One log has a key that does not fit its schema, the other one has none.
  have hcut : shortVisits.file.2 ≠ none := by decide +kernel
  have hwhole : visits.file.2 = none := by decide +kernel
  refine ⟨?_, ?_, ?_, ?_⟩
  · exact (refused_iff_torn hshort (List.prefix_refl _)).mpr (Or.inr hcut)
  · exact (refused_iff_torn hshort (List.take_prefix 40 _)).mpr (Or.inr hcut)
  · exact (refused_iff_torn hvisits (List.take_prefix 70 _)).mpr (Or.inl (by decide +kernel))
  · rw [refused_iff_torn hvisits (List.prefix_refl _)]
    simp [hwhole]

/-- **Round trip of indexes**: after any writes to a new log, the refused and repeated ones among
them, a file that could be written is read as the schema of the log and its entries, in their
order, with the offsets as they were and keys that equal the written ones. Only the lengths have to
fit their fields; a list of 2^64 entries would not fit any memory. -/
theorem run_reads_back {schema : KeySchema} {writes : List IndexEntry} {bytes : Bytes}
    (hschema : schema.Fits) (hfile : (run schema writes).file = (bytes, none))
    (hkeys : ∀ e ∈ (run schema writes).entries.toList, ∀ key, schema.encode e.key = .ok key →
      key.length < UInt32.size)
    (hcount : (run schema writes).size < UInt64.size) :
    ∃ index, Index.ofFile bytes = .ok index ∧ index.schema = schema ∧
      List.Forall₂ (fun e kept => kept.offset = e.offset ∧ kept.key = schema.stored e.key ∧
          kept.key.same e.key = true)
        (run schema writes).entries.toList index.entries.toList := by
  -- No write changes the schema.
  have hsame : (run schema writes).schema = schema := (rising_run schema writes).1
  have hfits : (run schema writes).Fits := by
    refine ⟨?_, ?_, hcount⟩
    · rw [hsame]
      exact hschema
    · rw [hsame]
      exact hkeys
  refine ⟨_, ofFile_file hfits hfile, hsame, ?_⟩
  rw [index, Array.toList_map, hsame, List.forall₂_map_right_iff, List.forall₂_same]
  intro e he
  -- The file was written to its end, so the key of each entry could be encoded.
  obtain ⟨front, back, hsplit, hencoded, -, hfault⟩ := (run schema writes).file_split
  rw [hfile] at hfault
  rw [hsplit, hfault.mp rfl, List.append_nil] at he
  obtain ⟨key, hkey⟩ := hencoded e he
  rw [hsame] at hkey
  exact ⟨rfl, rfl, KeySchema.same_stored hkey⟩

/-- Writes that are accepted, repeated with the number in another width, refused for their key,
accepted with NULL, refused for their offset, and accepted. -/
def visitWrites : List IndexEntry :=
  [⟨⟨[.int8 9, .text "é"]⟩, 0⟩, ⟨⟨[.int4 9, .text "é"]⟩, 2⟩, ⟨⟨[.int8 12, .text "b"]⟩, 4⟩,
    ⟨⟨[.int4 7, .null]⟩, 4⟩, ⟨⟨[.int8 5, .text "c"]⟩, 3⟩, ⟨⟨[.int4 (-5), .text ""]⟩, 8⟩]

/-- Three of the six writes are in the file, and are read from it. -/
theorem run_reads_back_visits :
    ∃ bytes index, (run visitSchema visitWrites).file = (bytes, none) ∧
      Index.ofFile bytes = .ok index ∧ index.schema = visitSchema ∧
      index.entries.toList = [⟨⟨[.int8 9, .text "é"]⟩, 0⟩, ⟨⟨[.int8 7, .null]⟩, 4⟩,
        ⟨⟨[.int8 (-5), .text ""]⟩, 8⟩] := by
  -- The log of these writes, whose file has no fault and whose keys are short.
  have hrun : (run visitSchema visitWrites).entries.toList
      = [⟨⟨[.int8 9, .text "é"]⟩, 0⟩, ⟨⟨[.int4 7, .null]⟩, 4⟩,
        ⟨⟨[.int4 (-5), .text ""]⟩, 8⟩] := by decide +kernel
  have hfile : (run visitSchema visitWrites).file
      = ((run visitSchema visitWrites).file.1, none) := Prod.ext rfl (by decide +kernel)
  have hwidth : ∀ e ∈ (run visitSchema visitWrites).entries.toList,
      visitSchema.width (visitSchema.stored e.key) < UInt32.size := by decide +kernel
  obtain ⟨index, hread, hsame, hentries⟩ := run_reads_back fits_visitSchema hfile
    (fun e he key hkey => KeySchema.length_encode hkey ▸ hwidth e he) (by decide +kernel)
  refine ⟨_, index, hfile, hread, hsame, ?_⟩
  rw [hrun] at hentries
  generalize index.entries.toList = kept at hentries ⊢
  -- The entries that are read are those of the log, one by one.
  simp only [List.forall₂_cons_left_iff, List.forall₂_nil_left_iff] at hentries
  obtain ⟨⟨_, _⟩, _, ⟨rfl, rfl, -⟩, ⟨⟨_, _⟩, _, ⟨rfl, rfl, -⟩, ⟨⟨_, _⟩, _, ⟨rfl, rfl, -⟩, rfl,
    rfl⟩, rfl⟩, rfl⟩ := hentries
  decide

end IndexLog

end Shuffle
