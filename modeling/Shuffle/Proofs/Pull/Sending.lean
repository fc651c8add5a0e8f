import Mathlib
import Shuffle.Pull.Transfer
import Shuffle.Proofs.Pull.Route
import Shuffle.Proofs.Store.Walk

/-!
# Slices that are there are sent whole

A transfer cuts slices into blocks, whatever the size of its buffer, and puts them behind each
other again. If the files still hold all octets of the slices, nothing is missing at the end, and
the transfer notices that it is complete with the last block and not before.

- `FileChunk.Present`: all octets of a slice are in its file.
- `Transfer.follow_eq_closing`: what is delivered depends on the octets and not on the blocks.
- `Transfer.run_present` is the transfer of slices that are present.
-/

namespace Shuffle

open Fallible

/-! ## §1 Slices of files that are there -/

namespace FileChunk

/-- The octets that a slice stands for, from the file as it is in the store. -/
def octetsIn (store : FileStore) (c : FileChunk) : Bytes :=
  match store.read c.path with
  | .ok content => c.octets content
  | .error _ => []

/-- The number of octets in a list of slices. -/
def size (chunks : List FileChunk) : Nat := (chunks.map (·.length.toNat)).sum

/-- The file of a slice is there, holds all its octets, and can be read from its offset on. -/
structure Present (store : FileStore) (content : Bytes) (c : FileChunk) : Prop where
  file : store.stat c.path = .ok (.file content)
  within : c.offset.toNat + c.length.toNat ≤ content.length
  positive : 0 < c.length.toNat
  seekable : c.offset.toNat ≤ FileStore.largestOffset

namespace Present

variable {store : FileStore} {content : Bytes} {c : FileChunk}

/-- The octets of a slice are those of its file. -/
theorem octetsIn_eq (h : c.Present store content) : c.octetsIn store = c.octets content := by
  rw [octetsIn, FileStore.read_eq_ok.mpr h.file]

/-- A slice within its file has as many octets as it says. -/
theorem length_octetsIn (h : c.Present store content) :
    (c.octetsIn store).length = c.length.toNat := by
  have hwithin := h.within
  rw [h.octetsIn_eq, octets, List.length_take, List.length_drop]
  omega

/-- Reading a slice that is there gives its octets. -/
theorem slice_eq (h : c.Present store content) :
    store.slice c.path c.offset.toNat c.length.toNat = .ok (c.octetsIn store) := by
  have hlength : c.length.toNat ≠ 0 := Nat.pos_iff_ne_zero.mp h.positive
  rw [h.octetsIn_eq, FileStore.slice, h.file]
  simp [bind, Except.bind, pure, Except.pure, octets, Nat.not_lt.mpr h.seekable, hlength]

end Present

/-- The octets of slices that are present are as many as their lengths say. -/
theorem length_flatMap_octetsIn {store : FileStore} {chunks : List FileChunk}
    (h : ∀ c ∈ chunks, ∃ content, c.Present store content) :
    (chunks.flatMap (octetsIn store)).length = size chunks := by
  rw [List.length_flatMap, size]
  congr 1
  apply List.map_congr_left
  intro c hc
  obtain ⟨content, hpresent⟩ := h c hc
  exact hpresent.length_octetsIn

/-- Adding lengths up in 64 bits loses multiples of what 64 bits hold. -/
theorem toNat_total (chunks : List FileChunk) :
    (total chunks).toNat = size chunks % UInt64.size := by
  -- The sum runs from the left, so the induction is over any sum to begin with.
  have hfold (lengths : List UInt64) (start : UInt64) :
      (lengths.foldl (· + ·) start).toNat
        = (start.toNat + (lengths.map UInt64.toNat).sum) % UInt64.size := by
    induction lengths generalizing start with
    | nil => simp [Nat.mod_eq_of_lt start.toNat_lt]
    | cons n rest ih =>
      simp only [List.foldl_cons, ih, UInt64.toNat_add, List.map_cons, List.sum_cons]
      show ((start.toNat + n.toNat) % UInt64.size + _) % UInt64.size = _
      rw [Nat.mod_add_mod, Nat.add_assoc]
  rw [total, hfold, List.map_map, UInt64.toNat_zero, Nat.zero_add]
  rfl

/-- The sum of the lengths is exact as long as it fits its word. -/
theorem toNat_total_of_lt {chunks : List FileChunk} (h : size chunks < UInt64.size) :
    (total chunks).toNat = size chunks := by
  rw [toNat_total, Nat.mod_eq_of_lt h]

/-- Slices with octets have some together. -/
theorem total_pos {chunks : List FileChunk} (hpos : ∀ c ∈ chunks, 0 < c.length.toNat)
    (hne : chunks ≠ []) (hsize : size chunks < UInt64.size) : 0 < total chunks := by
  obtain ⟨c, rest, rfl⟩ := List.exists_cons_of_ne_nil hne
  have hfirst := hpos c List.mem_cons_self
  rw [UInt64.lt_iff_toNat_lt, toNat_total_of_lt hsize, size, List.map_cons, List.sum_cons,
    UInt64.toNat_zero]
  omega

end FileChunk

/-! ## §2 Blocks -/

namespace Transfer

/-- Blocks are the octets in order, whatever the size of the buffer. -/
theorem flatten_blocks (bufferSize : Nat) (bytes : Bytes) :
    (blocks bufferSize bytes).flatten = bytes := by
  fun_induction blocks bufferSize bytes with
  | case1 => rfl
  | case2 b rest ih =>
    rw [List.flatten_cons, ih, List.cons_append, List.take_append_drop]

/-- No block is empty. -/
theorem ne_nil_of_mem_blocks {bufferSize : Nat} {bytes block : Bytes}
    (h : block ∈ blocks bufferSize bytes) : block ≠ [] := by
  fun_induction blocks bufferSize bytes with
  | case1 => cases h
  | case2 b rest ih =>
    rcases List.mem_cons.mp h with rfl | h
    · exact List.cons_ne_nil _ _
    · exact ih h

/-- A slice that is there is sent in blocks, and nothing fails. -/
theorem events_present {store : FileStore} {content : Bytes} {c : FileChunk}
    (h : c.Present store content) (bufferSize : Nat) :
    events store bufferSize c = (blocks bufferSize (c.octetsIn store)).map .block := by
  rw [events, h.slice_eq]

/-- A transfer depends on its store through the files of its slices only. -/
theorem run_congr {store store' : FileStore} {chunks : List FileChunk} (bufferSize : Nat)
    (h : ∀ c ∈ chunks, store.stat c.path = store'.stat c.path) :
    run store bufferSize chunks = run store' bufferSize chunks := by
  rw [run, run]
  congr 1
  apply List.flatMap_congr
  intro c hc
  rw [events, events, FileStore.slice, FileStore.slice, h c hc]

/-! ## §3 Following events -/

/-- How many octets an event brings. -/
def Event.octets : Event → Nat
  | .block bytes => bytes.length
  | .failed _ => 0

/-- How many octets events bring. -/
def octets (es : List Event) : Nat := (es.map Event.octets).sum

/-- Octets of events add up. -/
theorem octets_append (es es' : List Event) : octets (es ++ es') = octets es + octets es' := by
  simp [octets]

/-- Blocks have the octets that were cut into them. -/
theorem octets_blocks (bs : List Bytes) : octets (bs.map .block) = bs.flatten.length := by
  rw [octets, List.map_map, List.length_flatten]
  rfl

/-- Events that bring no more octets than are lacking, and fewer where one of them is a fault. -/
structure Suited (lacking : Nat) (es : List Event) : Prop where
  blocks : ∀ b, .block b ∈ es → b ≠ []
  room : octets es ≤ lacking
  short : (∃ fault, .failed fault ∈ es) → octets es < lacking

/-- A first block leaves the rest suited to what is lacking behind it. -/
theorem Suited.tail {lacking : Nat} {b : Bytes} {rest : List Event}
    (h : Suited lacking (.block b :: rest)) :
    b.length ≤ lacking ∧ Suited (lacking - b.length) rest := by
  have hroom : b.length + octets rest ≤ lacking := h.room
  refine ⟨by omega, fun b' hb' => h.blocks b' (List.mem_cons_of_mem _ hb'), by omega, ?_⟩
  rintro ⟨fault, hfault⟩
  have hshort : b.length + octets rest < lacking :=
    h.short ⟨fault, List.mem_cons_of_mem _ hfault⟩
  omega

/-- Where nothing lacks, nothing follows: a block would have octets, and a fault would leave octets
lacking. -/
theorem Suited.eq_nil {es : List Event} (h : Suited 0 es) : es = [] := by
  rw [List.eq_nil_iff_forall_not_mem]
  intro event hevent
  have hnone : octets es = 0 := Nat.le_zero.mp h.room
  cases event with
  | failed fault => exact absurd (h.short ⟨fault, hevent⟩) (Nat.not_lt_zero _)
  | block b =>
    have hpos := List.length_pos_iff.mpr (h.blocks b hevent)
    have hmem : b.length ≤ octets es := List.le_sum_of_mem (List.mem_map.mpr ⟨_, hevent, rfl⟩)
    omega

/-- The octets that events bring before the first fault, and that fault. -/
def joined : List Event → Bytes × Option FileFault
  | [] => ([], none)
  | .block bytes :: rest => (bytes ++ (joined rest).1, (joined rest).2)
  | .failed fault :: _ => ([], some fault)

/-- What is joined is no more than what was read. -/
theorem length_joined_le (es : List Event) : (joined es).1.length ≤ octets es := by
  induction es with
  | nil => exact Nat.le_refl 0
  | cons event rest ih =>
    cases event with
    | failed fault => exact Nat.zero_le _
    | block b =>
      show (b ++ (joined rest).1).length ≤ b.length + octets rest
      rw [List.length_append]
      exact Nat.add_le_add_left ih b.length

/-- A fault in what is joined was one of the events. -/
theorem mem_of_joined {es : List Event} {fault : FileFault} (h : (joined es).2 = some fault) :
    .failed fault ∈ es := by
  induction es with
  | nil => cases h
  | cons event rest ih =>
    cases event with
    | failed fault' =>
      obtain rfl := Option.some.inj h
      exact List.mem_cons_self
    | block b => exact List.mem_cons_of_mem _ (ih h)

/-- Blocks without a fault are joined whole. -/
theorem joined_blocks (bs : List Bytes) : joined (bs.map .block) = (bs.flatten, none) := by
  induction bs with
  | nil => rfl
  | cons b bs ih => rw [List.map_cons, joined, ih, List.flatten_cons]

/-- Whatever follows events counts only if these bring no fault. -/
theorem joined_append (es es' : List Event) :
    joined (es ++ es') = match (joined es).2 with
      | some fault => ((joined es).1, some fault)
      | none => ((joined es).1 ++ (joined es').1, (joined es').2) := by
  -- On the first events: a failure among them hides all that follows.
  induction es with
  | nil => rfl
  | cons event rest ih =>
    cases event with
    | failed fault => rfl
    | block b =>
      rw [List.cons_append, joined, ih, joined]
      cases (joined rest).2 with
      | some fault => rfl
      | none => simp only [List.append_assoc]

/-- How a transfer ends that brings these octets, and then this fault, if any. -/
def closing (expected sent : UInt64) : Bytes × Option FileFault → Delivery
  | (body, some fault) => ⟨body, some (.file fault), .error (.file fault)⟩
  | (body, none) =>
    let sent := sent + UInt64.ofNat body.length
    if expected ≤ sent then ⟨body, none, .ok expected⟩
    else ⟨body, some (.ended sent expected), .error (.ended sent expected)⟩

/-- Octets in front are sent first. -/
private theorem closing_append (expected sent : UInt64) (b body : Bytes)
    (fault? : Option FileFault) :
    closing expected sent (b ++ body, fault?)
      = { closing expected (sent + UInt64.ofNat b.length) (body, fault?) with
          body := b ++ (closing expected (sent + UInt64.ofNat b.length) (body, fault?)).body } := by
  cases fault? with
  | some fault => rfl
  | none =>
    simp only [closing, List.length_append, UInt64.ofNat_add, UInt64.add_assoc]
    split <;> rfl

/-- Closing a transfer adds nothing to its body. -/
theorem body_closing (expected sent : UInt64) (j : Bytes × Option FileFault) :
    (closing expected sent j).body = j.1 := by
  obtain ⟨body, fault?⟩ := j
  cases fault? with
  | some fault => rfl
  | none =>
    simp only [closing]
    split <;> rfl

/-- **What is delivered does not depend on how it is cut into blocks.** The transfer is complete by
the block with which nothing lacks any more, or ends by a fault, or because nothing follows. -/
theorem follow_eq_closing {expected sent : UInt64} {es : List Event} (hlacks : sent < expected)
    (h : Suited (expected.toNat - sent.toNat) es) :
    follow expected sent none es = closing expected sent (joined es) := by
  have hlt := UInt64.lt_iff_toNat_lt.mp hlacks
  induction es generalizing sent with
  -- The events end before the promised length is reached.
  | nil =>
    have hmore : ¬ expected ≤ sent := UInt64.not_le.mpr hlacks
    simp [follow, joined, closing, hmore]
  | cons event rest ih =>
    cases event with
    | failed fault => rfl
    | block b =>
      obtain ⟨hroom, hrest⟩ := h.tail
      have hbound := expected.toNat_lt
      have hsent : (sent + UInt64.ofNat b.length).toNat = sent.toNat + b.length := by
        rw [UInt64.toNat_add, UInt64.toNat_ofNat']
        omega
      by_cases hdone : expected ≤ sent + UInt64.ofNat b.length
      · -- Nothing lacks any more, so nothing follows.
        have hle := UInt64.le_iff_toNat_le.mp hdone
        have hall : sent + UInt64.ofNat b.length = expected := UInt64.toNat_inj.mp (by omega)
        rw [Nat.sub_eq_zero_of_le (by omega : expected.toNat - sent.toNat ≤ b.length)] at hrest
        obtain rfl := hrest.eq_nil
        simp [follow, joined, closing, hall]
      · have hnext : sent + UInt64.ofNat b.length < expected := UInt64.not_le.mp hdone
        have hlacking : expected.toNat - sent.toNat - b.length
            = expected.toNat - (sent + UInt64.ofNat b.length).toNat := by omega
        rw [hlacking] at hrest
        have hfollow : follow expected sent none (.block b :: rest)
            = { follow expected (sent + UInt64.ofNat b.length) none rest with
                body := b ++ (follow expected (sent + UInt64.ofNat b.length) none rest).body } := by
          simp [follow, hdone]
        rw [hfollow, ih hnext hrest (UInt64.lt_iff_toNat_lt.mp hnext)]
        exact (closing_append expected sent b _ _).symm

/-! ## §4 Transfers of slices -/

variable {store : FileStore} {bufferSize : Nat} {c : FileChunk} {chunks : List FileChunk}

/-- What comes out of a slice is suited to its length. -/
theorem suited_events (store : FileStore) (bufferSize : Nat) {c : FileChunk}
    (hpos : 0 < c.length.toNat) : Suited c.length.toNat (events store bufferSize c) := by
  unfold events
  cases hslice : store.slice c.path c.offset.toNat c.length.toNat with
  -- A slice that cannot be read sends nothing, and its length is missing.
  | error fault =>
    refine ⟨?_, Nat.zero_le _, fun _ => hpos⟩
    intro b hb
    simp at hb
  | ok bytes =>
    -- A slice that is read has at most the octets that were asked for.
    have hlength : bytes.length ≤ c.length.toNat := by
      obtain ⟨node, -, h⟩ := bind_eq_ok.mp hslice
      split_ifs at h
      · omega
      · cases node with
        | directory => cases h
        | file content =>
          obtain rfl := Except.ok.inj h
          exact List.length_take_le _ _
    have hoctets : octets ((blocks bufferSize bytes).map .block) = bytes.length := by
      rw [octets_blocks, flatten_blocks]
    refine ⟨?_, hoctets ▸ hlength, ?_⟩
    · intro b hb
      obtain ⟨b', hmem, heq⟩ := List.mem_map.mp hb
      cases heq
      exact ne_nil_of_mem_blocks hmem
    · rintro ⟨fault, hfault⟩
      simp at hfault

/-- Slices together are suited to their size. -/
theorem suited_flatMap_events (store : FileStore) (bufferSize : Nat) {chunks : List FileChunk}
    (hpos : ∀ c ∈ chunks, 0 < c.length.toNat) :
    Suited (FileChunk.size chunks) (chunks.flatMap (events store bufferSize)) := by
  induction chunks with
  | nil => exact ⟨by simp, Nat.le_refl 0, by simp⟩
  | cons c rest ih =>
    have hfirst := suited_events store bufferSize (hpos c List.mem_cons_self)
    have hrest := ih fun c' hc' => hpos c' (List.mem_cons_of_mem c hc')
    have hsize : FileChunk.size (c :: rest) = c.length.toNat + FileChunk.size rest := by
      simp [FileChunk.size]
    have hroom := hfirst.room
    have hroom' := hrest.room
    rw [List.flatMap_cons, hsize]
    refine ⟨?_, ?_, ?_⟩
    · intro b hb
      exact (List.mem_append.mp hb).elim (hfirst.blocks b) (hrest.blocks b)
    · rw [octets_append]
      omega
    · rintro ⟨fault, hfault⟩
      rw [octets_append]
      -- A fault in one slice leaves less than its length, and the others add no more than theirs.
      rcases List.mem_append.mp hfault with hfault | hfault
      · have := hfirst.short ⟨fault, hfault⟩
        omega
      · have := hrest.short ⟨fault, hfault⟩
        omega

/-- The octets of slices are the same however they are cut into blocks. -/
theorem joined_events_congr (store : FileStore) (bufferSize bufferSize' : Nat)
    (chunks : List FileChunk) :
    joined (chunks.flatMap (events store bufferSize))
      = joined (chunks.flatMap (events store bufferSize')) := by
  induction chunks with
  | nil => rfl
  | cons c rest ih =>
    have hfirst : joined (events store bufferSize c) = joined (events store bufferSize' c) := by
      unfold events
      cases store.slice c.path c.offset.toNat c.length.toNat with
      | error fault => rfl
      | ok bytes => simp only [joined_blocks, flatten_blocks]
    rw [List.flatMap_cons, List.flatMap_cons, joined_append, joined_append, hfirst, ih]

/-- A transfer of slices is what their octets make of it. -/
theorem run_eq_closing (store : FileStore) (bufferSize : Nat)
    (hpos : ∀ c ∈ chunks, 0 < c.length.toNat) (hne : chunks ≠ [])
    (hsize : FileChunk.size chunks < UInt64.size) :
    run store bufferSize chunks
      = closing (FileChunk.total chunks) 0 (joined (chunks.flatMap (events store bufferSize))) := by
  have hsuited := suited_flatMap_events store bufferSize hpos
  rw [← FileChunk.toNat_total_of_lt hsize] at hsuited
  exact follow_eq_closing (FileChunk.total_pos hpos hne hsize) hsuited

/-- Slices whose files hold them come out whole. -/
theorem joined_of_present (bufferSize : Nat)
    (h : ∀ c ∈ chunks, ∃ content, c.Present store content) :
    joined (chunks.flatMap (events store bufferSize))
      = (chunks.flatMap (FileChunk.octetsIn store), none) := by
  induction chunks with
  | nil => rfl
  | cons c rest ih =>
    obtain ⟨⟨content, hc⟩, hrest⟩ := List.forall_mem_cons.mp h
    rw [List.flatMap_cons, events_present hc, joined_append, joined_blocks, flatten_blocks,
      ih hrest, List.flatMap_cons]

/-- Slices that are there are sent whole, if there are any and their lengths fit in 64 bits
together. -/
theorem run_present (bufferSize : Nat)
    (hpresent : ∀ c ∈ chunks, ∃ content, c.Present store content)
    (hne : chunks ≠ []) (hsize : FileChunk.size chunks < UInt64.size) :
    run store bufferSize chunks
      = ⟨chunks.flatMap (FileChunk.octetsIn store), none, .ok (FileChunk.total chunks)⟩ := by
  have hpos : ∀ c ∈ chunks, 0 < c.length.toNat := fun c hc =>
    (hpresent c hc).elim fun _ h => h.positive
  -- The octets that arrive are as many as were announced.
  have hall : FileChunk.total chunks
      ≤ 0 + UInt64.ofNat (chunks.flatMap (FileChunk.octetsIn store)).length := by
    rw [UInt64.zero_add, FileChunk.length_flatMap_octetsIn hpresent, UInt64.le_iff_toNat_le,
      FileChunk.toNat_total, UInt64.toNat_ofNat']
  rw [run_eq_closing store bufferSize hpos hne hsize, joined_of_present bufferSize hpresent,
    closing]
  exact if_pos hall

end Transfer

end Shuffle
