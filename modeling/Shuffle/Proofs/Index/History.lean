import Mathlib
import Shuffle.Proofs.Index.Lookup
import Shuffle.Proofs.Index.Whole

/-!
# Lookups answer for the writes

What an index answers can be told from the writes that were accepted, as if there were no file, no
log and no halving in between: a key that was written again keeps its first offset, and rows from a
key on begin at the least key that does not sort before it.

- `IndexLog.accepted`: the writes that are accepted, repeated keys among them.
- `IndexLog.find?_run`: a search that takes equal keys for the same finds in the log what it finds
  among the accepted writes.
- `KeySchema.Nearest`: which of the writes a search for rows from a key on answers with;
  `KeySchema.Nearest.unique` says that there is one answer.
- `Index.lookups_of_writes` puts log, file and searches together.
-/

namespace Shuffle

open Std

/-! ## §1 Accepted writes -/

namespace IndexLog

/-- The writes that are accepted, those that repeat the last key among them. -/
def accepted (log : IndexLog) : List IndexEntry → List IndexEntry
  | [] => []
  | entry :: writes =>
    match log.write entry.key entry.offset with
    | .ok log => entry :: accepted log writes
    | .error _ => accepted log writes

/-- A search that does not tell equal keys apart does not miss the writes that were left out. -/
private theorem find?_attempts (log : IndexLog) {p : IndexEntry → Bool}
    (hp : ∀ a b, log.schema.compare a.key b.key = .eq → p a = p b) (writes : List IndexEntry) :
    (writes.foldl attempt log).entries.toList.find? p
      = (log.entries.toList ++ log.accepted writes).find? p := by
  induction writes generalizing log with
  | nil => rw [accepted, List.append_nil, List.foldl_nil]
  | cons entry writes ih =>
    have hpush : ((writes.foldl attempt (log.push entry)).entries.toList).find? p
        = (log.entries.toList ++ entry :: (log.push entry).accepted writes).find? p := by
      rw [ih (log.push entry) hp, push, Array.toList_push, List.append_assoc, List.singleton_append]
    rw [List.foldl_cons, attempt, accepted]
    have houtcome := outcome_write log entry.key entry.offset
    generalize log.write entry.key entry.offset = answer at houtcome
    -- What is stored goes behind all others, and what is refused leaves both sides alone.
    cases houtcome with
    | first => exact hpush
    | next => exact hpush
    | keyOrder => exact ih log hp
    | offsetOrder => exact ih log hp
    | @again last hback hkey =>
      dsimp only
      rw [ih log hp, List.find?_append, List.find?_append]
      cases hfound : p entry with
      | false => rw [List.find?_cons_of_neg (by simp [hfound])]
      | true =>
        -- The search ends at the last entry at the latest, so it never comes to the repeated one.
        have hmem : last ∈ log.entries.toList := Array.mem_toList_iff.mpr (Array.mem_of_back? hback)
        have hsome : (log.entries.toList.find? p).isSome := by
          rw [List.find?_isSome]
          exact ⟨last, hmem, (hp last entry hkey).trans hfound⟩
        obtain ⟨x, hx⟩ := Option.isSome_iff_exists.mp hsome
        rw [hx, Option.some_or, Option.some_or]

/-- A search that takes equal keys for the same finds in the log what it finds among the writes that
were accepted. -/
theorem find?_run (schema : KeySchema) {p : IndexEntry → Bool}
    (hp : ∀ a b, schema.compare a.key b.key = .eq → p a = p b) (writes : List IndexEntry) :
    (run schema writes).entries.toList.find? p = ((empty schema).accepted writes).find? p :=
  find?_attempts (empty schema) hp writes

/-- Each key that was accepted is in the log. -/
theorem exists_stored_of_accepted {schema : KeySchema} {writes : List IndexEntry} {e : IndexEntry}
    (he : e ∈ (empty schema).accepted writes) :
    ∃ x ∈ (run schema writes).entries.toList, schema.compare x.key e.key = .eq := by
  have hfound : (((empty schema).accepted writes).find?
      fun x => schema.compare x.key e.key == .eq).isSome := by
    rw [List.find?_isSome]
    exact ⟨e, he, beq_iff_eq.mpr ReflCmp.compare_self⟩
  rw [← find?_run schema fun a b hab => by rw [TransCmp.congr_left hab],
    List.find?_isSome] at hfound
  obtain ⟨x, hx, hkey⟩ := hfound
  exact ⟨x, hx, beq_iff_eq.mp hkey⟩

end IndexLog

/-! ## §2 The nearest of the writes -/

/-- What a search for the rows from a key on answers: the offset that was first written with the
least key that does not sort before it, and nothing if all keys sort before it. -/
inductive KeySchema.Nearest (schema : KeySchema) (writes : List IndexEntry) (key : Tuple) :
    Option UInt64 → Prop where
  | none (hbelow : ∀ e ∈ writes, schema.compare e.key key = .lt) : Nearest schema writes key none
  | some {e : IndexEntry} {before after : List IndexEntry} (hwrites : writes = before ++ e :: after)
      (hkey : schema.compare e.key key ≠ .lt)
      (hleast : ∀ x ∈ writes, schema.compare x.key key ≠ .lt →
        (schema.compare e.key x.key).isLE)
      (hfirst : ∀ x ∈ before, schema.compare x.key e.key ≠ .eq) :
      Nearest schema writes key (some e.offset)

/-- The writes leave no choice which of them is the nearest. -/
theorem KeySchema.Nearest.unique {schema : KeySchema} {writes : List IndexEntry} {key : Tuple}
    {answer answer' : Option UInt64} (h : schema.Nearest writes key answer)
    (h' : schema.Nearest writes key answer') : answer = answer' := by
  cases h with
  | none hbelow =>
    cases h' with
    | none => rfl
    | some hwrites hkey => exact absurd (hbelow _ (hwrites ▸ by simp)) hkey
  | @some e before after hwrites hkey hleast hfirst =>
    cases h' with
    | none hbelow => exact absurd (hbelow _ (hwrites ▸ by simp)) hkey
    | @some e' before' after' hwrites' hkey' hleast' hfirst' =>
      have hle := hleast e' (hwrites' ▸ by simp) hkey'
      have hge := hleast' e (hwrites ▸ by simp) hkey
      have heq : schema.compare e.key e'.key = .eq := OrientedCmp.isLE_antisymm hle hge
      -- Neither stands in front of the other, so they stand at the same place.
      rcases List.append_eq_append_iff.mp (hwrites.symm.trans hwrites') with
        ⟨more, rfl, hmore⟩ | ⟨more, rfl, hmore⟩
      · cases more with
        | nil => obtain ⟨rfl, -⟩ := List.cons.inj hmore; rfl
        | cons x more =>
          obtain ⟨rfl, -⟩ := List.cons.inj hmore
          exact absurd heq (hfirst' e (by simp))
      · cases more with
        | nil => obtain ⟨rfl, -⟩ := List.cons.inj hmore; rfl
        | cons x more =>
          obtain ⟨rfl, -⟩ := List.cons.inj hmore
          exact absurd (OrientedCmp.eq_symm heq) (hfirst e' (by simp))

/-- On entries that rise, the first one that does not sort before a key is the least. -/
theorem KeySchema.Rising.isLE_of_find? {schema : KeySchema} {entries : List IndexEntry}
    (h : schema.Rising entries) {key : Tuple} {first x : IndexEntry}
    (hfirst : (entries.find? fun e => schema.compare e.key key != .lt) = some first)
    (hx : x ∈ entries) (hkey : schema.compare x.key key ≠ .lt) :
    (schema.compare first.key x.key).isLE := by
  obtain ⟨-, before, after, rfl, hbefore⟩ := List.find?_eq_some_iff_append.mp hfirst
  rcases List.mem_append.mp hx with hx | hx
  · exact absurd (by simpa using hbefore x hx) hkey
  · rcases List.mem_cons.mp hx with rfl | hx
    · exact ReflCmp.isLE_rfl
    · have hafter := (List.pairwise_append.mp h).2.1
      rw [((List.pairwise_cons.mp hafter).1 x hx).1]
      rfl

/-- The scan of a log for the first key that does not sort before the given one finds the nearest of
the accepted writes. -/
theorem IndexLog.nearest_run (schema : KeySchema) (writes : List IndexEntry) (key : Tuple) :
    schema.Nearest ((empty schema).accepted writes) key
      (((run schema writes).entries.toList.find? fun e => schema.compare e.key key != .lt).map
        (·.offset)) := by
  have hsame := find?_run schema (p := fun e => schema.compare e.key key != .lt)
    (fun a b hab => by rw [TransCmp.congr_left hab]) writes
  cases hfind : (run schema writes).entries.toList.find?
      fun e => schema.compare e.key key != .lt with
  | none =>
    rw [hfind] at hsame
    refine .none fun e he => ?_
    simpa using List.find?_eq_none.mp hsame.symm e he
  | some first =>
    rw [hfind] at hsame
    obtain ⟨hkey, before, after, hwrites, hbefore⟩ :=
      List.find?_eq_some_iff_append.mp hsame.symm
    refine .some hwrites (bne_iff_ne.mp hkey) (fun x hx hxkey => ?least) fun x hx heq => ?first
    case least =>
      -- An equal key is in the log, and the one that was found is the least there.
      obtain ⟨y, hy, heq⟩ := exists_stored_of_accepted hx
      have hykey : schema.compare y.key key ≠ .lt := by rwa [TransCmp.congr_left heq]
      have hle := (rising_run schema writes).2.isLE_of_find? hfind hy hykey
      rwa [TransCmp.congr_right heq] at hle
    case first =>
      -- What is in front sorts before the key, unlike the one that was found.
      have hbelow : schema.compare x.key key = .lt := by simpa using hbefore x hx
      rw [TransCmp.congr_left heq] at hbelow
      exact bne_iff_ne.mp hkey hbelow

/-! ## §3 Lookups -/

namespace IndexLog

/-- A search by key finds the same entry before and after the log was written to a file. -/
theorem find?_index (log : IndexLog) (key : Tuple) (accepts : Ordering → Bool) :
    (log.index.entries.toList.find? fun e => accepts (log.schema.compare e.key key)).map (·.offset)
      = (log.entries.toList.find? fun e => accepts (log.schema.compare e.key key)).map
          (·.offset) := by
  have hsame : (fun e : IndexEntry => accepts (log.schema.compare e.key key))
      ∘ log.schema.storedEntry = fun e => accepts (log.schema.compare e.key key) := by
    funext e
    rw [Function.comp_apply, KeySchema.storedEntry, KeySchema.compare_stored_left]
  rw [toList_index, List.find?_map, hsame, Option.map_map]
  rfl

end IndexLog

open IndexLog in
/-- **Lookups answer for the writes.** Whatever was written, refused writes among it: if the file of
the log is read with the schema of the log, a key is looked up to the offset that was first written
with an equal key, rows from a key on are looked up to the nearest of the accepted writes, trying an
exact match first makes no difference, and rows of a later key begin no earlier. -/
theorem Index.lookups_of_writes {schema : KeySchema} {writes : List IndexEntry} {bytes : Bytes}
    {index : Index} (hfile : (run schema writes).file = (bytes, none))
    (hread : ofFile bytes = .ok index) (hschema : index.schema = schema) (key : Tuple) :
    index.find? key = (((empty schema).accepted writes).find?
        fun e => schema.compare e.key key == .eq).map (·.offset) ∧
      schema.Nearest ((empty schema).accepted writes) key (index.findNearest? key) ∧
      index.lookup? key = index.findNearest? key ∧
      ∀ later, schema.compare key later ≠ .gt → ∀ stop, index.findNearest? later = some stop →
        ∃ start, index.findNearest? key = some start ∧ start ≤ stop := by
  -- The file is read as the log, whose entries rise.
  obtain ⟨hsame, hrise⟩ := rising_run schema writes
  obtain rfl : index = (run schema writes).index :=
    eq_index_of_ofFile hfile hread (hschema.trans hsame.symm)
  have hindex : (run schema writes).index.schema.Rising (run schema writes).index.entries.toList :=
    rising_index (hsame.symm ▸ hrise)
  refine ⟨?exact, ?nearest, ?lookup, ?mono⟩
  case exact =>
    -- Keys are compared as the file keeps them, which makes no difference.
    rw [find?_eq_find? hindex]
    have hlog := find?_index (run schema writes) key (· == .eq)
    rw [hsame] at hlog
    rw [hschema, hlog, find?_run schema fun a b hab => by rw [TransCmp.congr_left hab]]
  case nearest =>
    have hlog := find?_index (run schema writes) key (· != .lt)
    rw [hsame] at hlog
    rw [findNearest?_eq_scan? hindex, scan?, hschema, hlog]
    exact nearest_run schema writes key
  case lookup => rw [lookup?_eq_scan? hindex, findNearest?_eq_scan? hindex]
  case mono =>
    intro later hle stop hstop
    rw [findNearest?_eq_scan? hindex] at hstop ⊢
    exact scan?_mono hindex (hschema.symm ▸ Ordering.isLE_iff_ne_gt.mpr hle) hstop

/-- The writes of `IndexLog.visitWrites` that are accepted: all but the ones for twelve and five. -/
def IndexLog.visitHistory : List IndexEntry :=
  [⟨⟨[.int8 9, .text "é"]⟩, 0⟩, ⟨⟨[.int4 9, .text "é"]⟩, 2⟩, ⟨⟨[.int4 7, .null]⟩, 4⟩,
    ⟨⟨[.int4 (-5), .text ""]⟩, 8⟩]

open IndexLog in
/-- The newest visits first: a key that was written twice, a key between two others, an earlier key,
and a row of NULLs, which sorts behind all keys. -/
theorem Index.lookups_of_writes_visits :
    ∃ bytes index, (run visitSchema visitWrites).file = (bytes, none) ∧
      ofFile bytes = .ok index ∧ index.find? ⟨[.int4 9, .text "é"]⟩ = some 0 ∧
      index.findNearest? ⟨[.int8 8]⟩ = some 4 ∧ index.lookup? ⟨[.int8 8]⟩ = some 4 ∧
      (∃ start, index.findNearest? ⟨[.int8 10]⟩ = some start ∧ start ≤ 4) ∧
      index.findNearest? ⟨[.null, .null, .null]⟩ = none := by
  have hfile : (run visitSchema visitWrites).file
      = ((run visitSchema visitWrites).file.1, none) := Prod.ext rfl (by decide +kernel)
  have hschema : (run visitSchema visitWrites).schema = visitSchema :=
    (rising_run visitSchema visitWrites).1
  have hfits : (run visitSchema visitWrites).Fits :=
    fits_of_width (hschema.symm ▸ fits_visitSchema) (by decide +kernel) (by decide +kernel)
  have hread := ofFile_file hfits hfile
  have haccepted : (empty visitSchema).accepted visitWrites = visitHistory := by decide +kernel
  have hall := lookups_of_writes hfile hread hschema
  rw [haccepted] at hall
  -- From here on, only what the theorem says of the index is used.
  generalize (run visitSchema visitWrites).file.1 = bytes at hfile hread
  generalize (run visitSchema visitWrites).index = index at hread hall
  obtain ⟨hfind, -⟩ := hall ⟨[.int4 9, .text "é"]⟩
  obtain ⟨-, hnearest, hlookup, -⟩ := hall ⟨[.int8 8]⟩
  obtain ⟨-, -, -, hmono⟩ := hall ⟨[.int8 10]⟩
  obtain ⟨-, hlast, -⟩ := hall ⟨[.null, .null, .null]⟩
  have hseven : index.findNearest? ⟨[.int8 8]⟩ = some 4 := by
    have hwrites : visitHistory = [⟨⟨[.int8 9, .text "é"]⟩, 0⟩, ⟨⟨[.int4 9, .text "é"]⟩, 2⟩]
        ++ ⟨⟨[.int4 7, .null]⟩, 4⟩ :: [⟨⟨[.int4 (-5), .text ""]⟩, 8⟩] := rfl
    exact hnearest.unique
      (.some hwrites (by decide) (by decide +kernel) (by decide +kernel))
  refine ⟨bytes, index, hfile, hread, ?_, hseven, hlookup.trans hseven, ?_, ?_⟩
  · rw [hfind]
    decide +kernel
  · exact hmono ⟨[.int8 8]⟩ (by decide) 4 hseven
  · exact hlast.unique (.none (by decide +kernel))

end Shuffle
