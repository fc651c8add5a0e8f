import Mathlib
import Shuffle.Fetch.Request
import Shuffle.Proofs.Decimal
import Shuffle.Proofs.Fallible
import Shuffle.Proofs.Ordered
import Shuffle.Proofs.Text.Base64Url
import Shuffle.Proofs.Text.Form

/-!
# Fetch requests are read back from their queries

- `FetchRequest.Canonical` are the requests that can be read: they name attempts, as a set.
- `FetchRequest.Canonical.ofQuery_toQuery` is their round trip, and
  `FetchRequest.canonical_of_ofQuery` says that no others are read.
- `FetchRequest.query_round_trip` puts both together.
-/

namespace Shuffle

open Fallible

/-! ## §1 Fields -/

namespace Partitioning

/-- Codes of partitionings are read back. -/
theorem ofCode?_code (p : Partitioning) : ofCode? p.code = some p := by
  cases p <;> decide

end Partitioning

namespace FetchRequest

variable {r : FetchRequest}

/-- The name of an attempt has no comma. -/
theorem attemptTexts_render (a : TaskAttempt) : attemptTexts a.render = [a.render] := by
  have hcomma : ',' ∉ a.render.toList := by
    rw [TaskAttempt.toList_render, List.mem_append, List.mem_cons, not_or, not_or]
    exact ⟨Decimal.notMem_numeral rfl, by decide, Decimal.notMem_numeral rfl⟩
  have hne : a.render.toList ≠ [] := by simp [TaskAttempt.toList_render]
  rw [attemptTexts, List.splitOn_eq_singleton hcomma]
  simp [hne]

/-- The attempts of a request are all that its fields name. -/
theorem mapM_readAttempt_fields (r : FetchRequest) :
    (allAttemptTexts r.fields).mapM readAttempt = .ok r.attempts := by
  -- The attempts stand in the fields of their name and nowhere else.
  have htexts : allAttemptTexts r.fields = r.attempts.map (·.render) := by
    have hkind : (kindFields r.kind).filter (·.1 = "ta") = [] := by
      cases r.kind with
      | hash => rfl
      | range start stop final => cases final <;> simp [kindFields]
    have hattempts : (r.attempts.map fun a => ("ta", a.render)).filter (·.1 = "ta")
        = r.attempts.map fun a => ("ta", a.render) := by
      rw [List.filter_eq_self]
      simp
    simp [allAttemptTexts, fields, hkind, hattempts, List.flatMap_map, attemptTexts_render]
    exact List.map_eq_flatMap.symm
  rw [htexts, mapM_eq_ok, List.forall₂_map_left_iff]
  apply List.forall₂_same.mpr
  intro a ha
  simp [readAttempt, TaskAttempt.parse_render, Except.mapError]

/-- A field that says which part is wanted is found among the others. -/
theorem first?_fields {name : String} (hname : name ∉ ["sid", "p", "type", "ta"]) :
    first? name r.fields = first? name (kindFields r.kind) := by
  simp only [List.mem_cons, List.not_mem_nil, or_false, not_or] at hname
  obtain ⟨hsid, hp, htype, hta⟩ := hname
  have hattempts : (r.attempts.map fun a => ("ta", a.render)).find? (·.1 = name) = none := by
    rw [List.find?_eq_none]
    simp [Ne.symm hta]
  simp [first?, fields, Ne.symm hsid, Ne.symm hp, Ne.symm htype, hattempts]

/-- What a request asks for is read back from its parameters. -/
theorem readKind_fields (r : FetchRequest) : readKind r.partitioning r.fields = .ok r.kind := by
  -- None of the other fields has one of these names.
  have hstart : first? "start" r.fields = first? "start" (kindFields r.kind) :=
    first?_fields (by decide)
  have hend : first? "end" r.fields = first? "end" (kindFields r.kind) := first?_fields (by decide)
  have hfinal : r.fields.any (·.1 = "final") = (kindFields r.kind).any (·.1 = "final") := by
    have hattempts : (r.attempts.map fun a => ("ta", a.render)).any (·.1 = "final") = false := by
      simp
    simp [fields, hattempts]
  unfold partitioning
  cases hkind : r.kind with
  | hash => rfl
  | range start stop final =>
    rw [hkind] at hstart hend hfinal
    have hstart' : requiredKey "start" r.fields = .ok start := by
      rw [requiredKey, required, hstart]
      exact mapError_eq_ok.mpr (keyOfText_keyToText start)
    have hend' : requiredKey "end" r.fields = .ok stop := by
      rw [requiredKey, required, hend]
      exact mapError_eq_ok.mpr (keyOfText_keyToText stop)
    simp only [readKind, hstart', hend', hfinal]
    cases final <;> rfl

/-! ## §2 Requests -/

/-- Requests that can be read: the attempts are a set, with a member. -/
structure Canonical (r : FetchRequest) : Prop where
  nonempty : r.attempts ≠ []
  set : Ordered.toSet TaskAttempt.le r.attempts = r.attempts

/-- What is made of a set of attempts is canonical. -/
theorem canonical_toSet {r : FetchRequest} {attempts : List TaskAttempt} (hne : attempts ≠ [])
    (h : r.attempts = Ordered.toSet TaskAttempt.le attempts) : r.Canonical := by
  obtain ⟨a, ha⟩ := List.exists_mem_of_ne_nil attempts hne
  have hmem : a ∈ r.attempts := by
    rw [h]
    exact Ordered.mem_toSet.mpr ha
  exact ⟨List.ne_nil_of_mem hmem, by rw [h, Ordered.toSet_toSet Ordered.linear_attempt]⟩

/-- A request that can be read is read back from its query. -/
theorem Canonical.ofQuery_toQuery (h : r.Canonical) : ofQuery r.toQuery = .ok r := by
  have hnumber {name : String} {n : UInt32}
      (hvalue : required name r.fields = .ok (Decimal.numeral n.toNat)) :
      requiredNumber name r.fields = .ok n := by
    refine bind_eq_ok.mpr ⟨_, hvalue, ?_⟩
    rw [Decimal.readUInt32_numeral]
    rfl
  rw [toQuery, ofQuery, Form.parse_render, ofFields]
  -- The fields are read in the order in which the reader asks for them.
  refine bind_eq_ok.mpr ⟨_, mapM_readAttempt_fields r, bind_eq_ok.mpr ⟨_, hnumber rfl,
    bind_eq_ok.mpr ⟨_, hnumber rfl, bind_eq_ok.mpr ⟨r.partitioning.code, rfl, ?_⟩⟩⟩⟩
  rw [Partitioning.ofCode?_code]
  dsimp only
  rw [if_neg (by simpa using h.nonempty)]
  exact bind_eq_ok.mpr ⟨_, readKind_fields r, congrArg Except.ok (by rw [h.set])⟩

/-- A request that was read from parameters is canonical. -/
theorem canonical_of_ofFields {fields : List Form.Field} (h : ofFields fields = .ok r) :
    r.Canonical := by
  obtain ⟨attempts, -, h⟩ := bind_eq_ok.mp h
  obtain ⟨stage, -, h⟩ := bind_eq_ok.mp h
  obtain ⟨partition, -, h⟩ := bind_eq_ok.mp h
  obtain ⟨code, -, h⟩ := bind_eq_ok.mp h
  split at h
  · cases h
  · split_ifs at h with hempty
    -- The attempts become a set in the last step, after they are known not to be empty.
    obtain ⟨kind, -, h⟩ := bind_eq_ok.mp h
    cases h
    exact canonical_toSet (by simpa using hempty) rfl

/-- A request that was read from a query is canonical. -/
theorem canonical_of_ofQuery {query : String} (h : ofQuery query = .ok r) : r.Canonical :=
  canonical_of_ofFields h

/-! ## §3 Round trips -/

/-- **Requests are read back from their queries.** A request for one bucket or for a range, with any
attempts in any order and with repeats, is read back as it is, so that different requests have
different queries. What was read from any query whatsoever is read again from its own query. -/
theorem query_round_trip :
    (∀ stage partition attempts, attempts ≠ [] →
        ofQuery (hash stage partition attempts).toQuery = .ok (hash stage partition attempts)) ∧
      (∀ stage attempts start stop final, attempts ≠ [] →
        ofQuery (range stage attempts start stop final).toQuery
          = .ok (range stage attempts start stop final)) ∧
      (∀ r r' : FetchRequest, r.Canonical → r'.Canonical → r.toQuery = r'.toQuery → r = r') ∧
      ∀ query r, ofQuery query = .ok r → ofQuery r.toQuery = .ok r := by
  refine ⟨?_, ?_, ?_, ?_⟩
  · intro stage partition attempts hne
    exact (canonical_toSet hne rfl).ofQuery_toQuery
  · intro stage attempts start stop final hne
    exact (canonical_toSet hne rfl).ofQuery_toQuery
  · intro r r' h h' hquery
    -- Reading back makes writing injective.
    have hread := h.ofQuery_toQuery
    rw [hquery, h'.ofQuery_toQuery] at hread
    exact (Except.ok.inj hread).symm
  · intro query r h
    exact (canonical_of_ofQuery h).ofQuery_toQuery

/-- Attempts in the wrong order and twice; and a query with a sign, leading zeros, an escape, a plus
sign for a space, and padding behind a key. -/
theorem query_round_trip_loose :
    ofQuery (hash 7 0 [⟨2, 0⟩, ⟨1, 4294967295⟩, ⟨2, 0⟩]).toQuery
        = .ok (hash 7 0 [⟨2, 0⟩, ⟨1, 4294967295⟩, ⟨2, 0⟩]) ∧
      ∃ r, ofQuery "+=1&sid=%2B07&p=0&type=r&ta=1_0,1_00&start=AA==&end=&final=" = .ok r ∧
        r = range 7 [⟨1, 0⟩] [0] [] true ∧ ofQuery r.toQuery = .ok r := by
  obtain ⟨hhash, -, -, hstable⟩ := query_round_trip
  have hread : ofQuery "+=1&sid=%2B07&p=0&type=r&ta=1_0,1_00&start=AA==&end=&final="
      = .ok (range 7 [⟨1, 0⟩] [0] [] true) := by cbv
  exact ⟨hhash 7 0 _ (by simp), _, hread, rfl, hstable _ _ hread⟩

end FetchRequest

end Shuffle
