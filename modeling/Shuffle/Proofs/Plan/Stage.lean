import Mathlib
import Shuffle.Plan.Stage
import Shuffle.Proofs.Ordered

/-!
# Each host has one piece of a group

Entries are gathered by host, and attempts within a host by their numbers, so a group has one piece
for each host that reported an entry, and the piece names each attempt there once.

- `InputStage.attemptsAt` is what the piece of a host names.
- `InputStage.filter_pieces` finds the piece of an entry.
-/

namespace Shuffle.InputStage

variable {s : InputStage} {entries : List OutputEntry}
  {request : List TaskAttempt → FetchRequest}

/-- The attempts that reported an entry from a host, in ascending order and once each. -/
def attemptsAt (entries : List OutputEntry) (address : PullAddress) : List TaskAttempt :=
  Ordered.toSet TaskAttempt.le ((entries.filter (·.address = address)).map (·.attempt))

/-- The attempts at an address are those that were reported there. -/
theorem mem_attemptsAt {address : PullAddress} {attempt : TaskAttempt} :
    attempt ∈ attemptsAt entries address ↔
      ∃ e ∈ entries, e.address = address ∧ e.attempt = attempt := by
  simp only [attemptsAt, Ordered.mem_toSet, List.mem_map, List.mem_filter, decide_eq_true_eq,
    and_assoc]

/-- An attempt that reported an entry several times is named once. -/
theorem count_attemptsAt {e : OutputEntry} (he : e ∈ entries) :
    (attemptsAt entries e.address).count e.attempt = 1 := by
  apply Ordered.count_toSet Ordered.linear_attempt
  exact List.mem_map_of_mem (List.mem_filter.mpr ⟨he, decide_eq_true rfl⟩)

/-- Requests sort the attempts that they are given, which changes nothing here. -/
@[simp] theorem toSet_attemptsAt (address : PullAddress) :
    Ordered.toSet TaskAttempt.le (attemptsAt entries address) = attemptsAt entries address :=
  Ordered.toSet_toSet Ordered.linear_attempt _

/-- The addresses are those of the entries. -/
private theorem mem_addresses {address : PullAddress} :
    address ∈ Ordered.toSet PullAddress.le (entries.map (·.address)) ↔
      ∃ e ∈ entries, e.address = address := by
  simp only [Ordered.mem_toSet, List.mem_map]

/-- A piece belongs to a host with an entry. -/
theorem mem_pieces {piece : TableFetch} :
    piece ∈ s.pieces entries request ↔
      ∃ e ∈ entries, piece = (s.table, ⟨e.address, request (attemptsAt entries e.address)⟩) := by
  simp only [pieces, hosts, List.map_map, List.mem_map, mem_addresses]
  constructor
  · rintro ⟨address, ⟨e, he, rfl⟩, rfl⟩
    exact ⟨e, he, rfl⟩
  · rintro ⟨e, he, rfl⟩
    exact ⟨e.address, ⟨e, he, rfl⟩, rfl⟩

/-- There is something to fetch as soon as there is an entry. -/
theorem pieces_eq_nil_iff : s.pieces entries request = [] ↔ entries = [] := by
  simp only [List.eq_nil_iff_forall_not_mem, mem_pieces]
  constructor
  · intro hnone e he
    exact hnone _ ⟨e, he, rfl⟩
  · rintro hnone piece ⟨e, he, -⟩
    exact hnone e he

/-- Among the pieces of a group, one is addressed to the host of an entry. -/
theorem filter_pieces (s : InputStage) (request : List TaskAttempt → FetchRequest)
    {e : OutputEntry} (he : e ∈ entries) :
    (s.pieces entries request).filter (·.2.address = e.address)
      = [(s.table, ⟨e.address, request (attemptsAt entries e.address)⟩)] := by
  -- The host of the entry is one of the hosts, and each is listed once.
  have hhost : (Ordered.toSet PullAddress.le (entries.map (·.address))).filter (· = e.address)
      = [e.address] := by
    rw [List.filter_eq, Ordered.count_toSet Ordered.linear_address (List.mem_map_of_mem he)]
    rfl
  rw [pieces, hosts, List.map_map, List.filter_map]
  exact congrArg (List.map _) hhost

/-- No host has two pieces. -/
theorem nodup_addresses_pieces (s : InputStage) (entries : List OutputEntry)
    (request : List TaskAttempt → FetchRequest) :
    ((s.pieces entries request).map (·.2.address)).Nodup := by
  have haddresses : (s.pieces entries request).map (·.2.address)
      = Ordered.toSet PullAddress.le (entries.map (·.address)) := by
    rw [pieces, hosts, List.map_map, List.map_map]
    exact List.map_id _
  rw [haddresses]
  exact Ordered.nodup_toSet Ordered.linear_address _

end Shuffle.InputStage
