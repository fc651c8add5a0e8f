import Mathlib
import Shuffle.Proofs.Fetch.Query

/-!
# Only the meaning of parameters matters

A request is read in one pass over its parameters: the first value of some of them is kept, the
attempts are gathered, and all others are passed over. Two lists of parameters that agree in what is
kept are read as one request, however they are ordered.

- `FetchRequest.Slots.take` is one step of the pass, and `FetchRequest.foldlM_take` the whole pass:
  what it keeps is the meaning of the list.
- `FetchRequest.ofFields_eq_pass`: requests are read that way.
- `FetchRequest.SameMeaning` relates lists that agree, and `FetchRequest.Reworded` is one rewording
  of a list.
- `FetchRequest.reading_by_meaning` puts them together.
-/

namespace Shuffle

open Fallible

namespace FetchRequest

/-! ## §1 One pass -/

/-- The parameters of which the first value counts. -/
def singleNames : List String := ["sid", "p", "type", "start", "end"]

/-- What has been kept of the parameters that were read so far. -/
structure Slots where
  /-- The first values. -/
  value : String → Option String := fun _ => none
  final : Bool := false
  attempts : List TaskAttempt := []

/-- Takes one parameter. -/
def Slots.take (s : Slots) (field : Form.Field) : Except RequestError Slots :=
  if field.1 = "ta" then do
    let attempts ← (attemptTexts field.2).mapM readAttempt
    return { s with attempts := s.attempts ++ attempts }
  else if field.1 = "final" then .ok { s with final := true }
  else if field.1 ∈ singleNames then
    let value := s.value field.1 <|> some field.2
    .ok { s with value := Function.update s.value field.1 value }
  else .ok s

/-- The slots behind further parameters, whose attempts have been read. -/
def Slots.gather (s : Slots) (fields : List Form.Field) (attempts : List TaskAttempt) : Slots where
  value name := s.value name <|> if name ∈ singleNames then first? name fields else none
  final := s.final || fields.any (·.1 = "final")
  attempts := s.attempts ++ attempts

variable {fields fields' : List Form.Field} {r : FetchRequest}

/-- The first field of a name is at the head or further on. -/
theorem first?_cons (name : String) (field : Form.Field) (fields : List Form.Field) :
    first? name (field :: fields)
      = if field.1 = name then some field.2 else first? name fields := by
  by_cases hname : field.1 = name <;> simp [first?, hname]

theorem allAttemptTexts_cons (field : Form.Field) (fields : List Form.Field) :
    allAttemptTexts (field :: fields) = allAttemptTexts [field] ++ allAttemptTexts fields := by
  by_cases hname : field.1 = "ta" <;> simp [allAttemptTexts, hname]

/-- A parameter that names no attempts adds none. -/
theorem allAttemptTexts_singleton_of_ne {field : Form.Field} (h : field.1 ≠ "ta") :
    allAttemptTexts [field] = [] := by
  simp [allAttemptTexts, h]

namespace Slots

/-- A parameter of another name is no first value. -/
theorem gather_of_notMem (s : Slots) {field : Form.Field} (h : field.1 ∉ singleNames)
    (attempts : List TaskAttempt) :
    s.gather [field] attempts
      = { s with final := s.final || decide (field.1 = "final"),
                 attempts := s.attempts ++ attempts } := by
  -- None of the slots can be filled by such a field.
  have hvalue : (s.gather [field] attempts).value = s.value := by
    funext name
    by_cases hname : name ∈ singleNames
    · have hne : field.1 ≠ name := fun heq => h (heq ▸ hname)
      simp [gather, hname, first?, hne]
    · simp [gather, hname]
  simp only [gather] at hvalue ⊢
  rw [hvalue]
  simp

/-- One step keeps what one parameter says. -/
theorem take_eq (s : Slots) (field : Form.Field) :
    s.take field
      = (allAttemptTexts [field]).mapM readAttempt >>= fun a => .ok (s.gather [field] a) := by
  unfold take
  split_ifs with hta hfinal hsingle
  · have hnot : field.1 ∉ singleNames := by simp [hta, singleNames]
    simp only [gather_of_notMem s hnot]
    simp [hta, allAttemptTexts]
    rfl
  · have hnot : field.1 ∉ singleNames := by simp [hfinal, singleNames]
    rw [allAttemptTexts_singleton_of_ne hta]
    simp only [gather_of_notMem s hnot]
    simp [hfinal]
  · rw [allAttemptTexts_singleton_of_ne hta]
    -- A slot that is taken stays as it is, as the first field of a name decides.
    have hvalue : Function.update s.value field.1 (s.value field.1 <|> some field.2)
        = (s.gather [field] []).value := by
      funext name
      by_cases hname : name = field.1
      · subst hname
        simp [gather, hsingle, first?]
      · simp [gather, first?, hname, Ne.symm hname]
    dsimp only
    rw [hvalue]
    simp [gather, hfinal]
  · rw [allAttemptTexts_singleton_of_ne hta]
    simp only [gather_of_notMem s hsingle]
    simp [hfinal]

/-- Gathering from fields goes on from what the first one gave. -/
theorem gather_cons (s : Slots) (field : Form.Field) (fields : List Form.Field)
    (attempts attempts' : List TaskAttempt) :
    (s.gather [field] attempts).gather fields attempts'
      = s.gather (field :: fields) (attempts ++ attempts') := by
  -- A slot keeps the first value that it is given, whichever pass gives it.
  have hvalue : ((s.gather [field] attempts).gather fields attempts').value
      = (s.gather (field :: fields) (attempts ++ attempts')).value := by
    funext name
    by_cases hname : field.1 = name
    · by_cases hsingle : name ∈ singleNames <;> cases hheld : s.value name <;>
        simp [gather, first?, hsingle, hname, hheld]
    · simp [gather, first?, hname]
  simp only [gather] at hvalue ⊢
  rw [hvalue]
  simp [Bool.or_assoc]

/-- The whole pass keeps the first values, notes a final, and gathers the attempts. -/
theorem foldlM_take (s : Slots) (fields : List Form.Field) :
    fields.foldlM take s
      = (allAttemptTexts fields).mapM readAttempt >>= fun a => .ok (s.gather fields a) := by
  induction fields generalizing s with
  | nil => simp [allAttemptTexts, gather, first?, pure, Except.pure, bind, Except.bind]
  | cons field fields ih =>
    rw [List.foldlM_cons, take_eq, allAttemptTexts_cons field fields, List.mapM_append]
    cases (allAttemptTexts [field]).mapM readAttempt with
    | error fault => rfl
    | ok attempts =>
      -- The step is done, and the rest of the pass goes on from what it kept.
      refine (ih (s.gather [field] attempts)).trans ?_
      cases (allAttemptTexts fields).mapM readAttempt with
      | error fault => rfl
      | ok rest => exact congrArg Except.ok (gather_cons s field fields attempts rest)

/-- The value that a parameter must have. -/
def required (s : Slots) (name : String) : Except RequestError String :=
  match s.value name with
  | some value => .ok value
  | none => .error (.missing name)

/-- The number that a parameter must have. -/
def requiredNumber (s : Slots) (name : String) : Except RequestError UInt32 := do
  let value ← s.required name
  match Decimal.readUInt32 value with
  | .ok n => return n
  | .error _ => .error (.number name value)

/-- The key that a parameter must have. -/
def requiredKey (s : Slots) (name : String) : Except RequestError Bytes := do
  let text ← s.required name
  (keyOfText text).mapError .key

/-- The part that is asked for. -/
def readKind (s : Slots) : Partitioning → Except RequestError FetchKind
  | .hash => .ok .hash
  | .range => do
    let start ← s.requiredKey "start"
    let stop ← s.requiredKey "end"
    return .range start stop s.final

/-- The request that was kept. -/
def close (s : Slots) : Except RequestError FetchRequest := do
  let stage ← s.requiredNumber "sid"
  let partition ← s.requiredNumber "p"
  let code ← s.required "type"
  match Partitioning.ofCode? code with
  | none => .error (.kind code)
  | some partitioning =>
    if s.attempts.isEmpty then .error (.missing "ta") else
    let kind ← s.readKind partitioning
    return ⟨stage, partition, kind, Ordered.toSet TaskAttempt.le s.attempts⟩

/-- Of the attempts only the set counts. -/
theorem close_congr {s s' : Slots} (hvalue : s.value = s'.value) (hfinal : s.final = s'.final)
    (hattempts : ∀ a, a ∈ s.attempts ↔ a ∈ s'.attempts) : s.close = s'.close := by
  obtain ⟨value, final, attempts⟩ := s
  obtain ⟨value', final', attempts'⟩ := s'
  obtain rfl : value = value' := hvalue
  obtain rfl : final = final' := hfinal
  -- Attempts are put into a set, so only which there are counts.
  have hset := Ordered.toSet_congr Ordered.linear_attempt hattempts
  have hempty : attempts.isEmpty = attempts'.isEmpty := by
    rw [Bool.eq_iff_iff, List.isEmpty_iff, List.isEmpty_iff, List.eq_nil_iff_forall_not_mem,
      List.eq_nil_iff_forall_not_mem]
    exact forall_congr' fun a => not_congr (hattempts a)
  simp only [close, hset, hempty]
  rfl

end Slots

/-- **A request is read in one pass.** -/
theorem ofFields_eq_pass (fields : List Form.Field) :
    ofFields fields = fields.foldlM Slots.take {} >>= Slots.close := by
  rw [Slots.foldlM_take]
  cases h : (allAttemptTexts fields).mapM readAttempt with
  | error fault => simp only [ofFields, h]; rfl
  | ok attempts => simp only [ofFields, h]; rfl

/-! ## §2 Lists with one meaning -/

/-- Lists of parameters that agree in everything that is kept of them. -/
structure SameMeaning (fields fields' : List Form.Field) : Prop where
  value : ∀ name ∈ singleNames, first? name fields = first? name fields'
  final : (∃ value, ("final", value) ∈ fields) ↔ ∃ value, ("final", value) ∈ fields'
  attempts : ∀ text, text ∈ allAttemptTexts fields ↔ text ∈ allAttemptTexts fields'

namespace SameMeaning

theorem symm (h : SameMeaning fields fields') : SameMeaning fields' fields :=
  ⟨fun name hname => (h.value name hname).symm, h.final.symm, fun text => (h.attempts text).symm⟩

/-- If all attempts of one list are read, so are those of the other, and they are the same. -/
theorem exists_attempts (h : SameMeaning fields fields') {attempts : List TaskAttempt}
    (hread : (allAttemptTexts fields).mapM readAttempt = .ok attempts) :
    ∃ attempts', (allAttemptTexts fields').mapM readAttempt = .ok attempts' ∧
      ∀ a, a ∈ attempts ↔ a ∈ attempts' := by
  have hall := mapM_ok_iff.mp ⟨attempts, hread⟩
  obtain ⟨attempts', hread'⟩ := mapM_ok_iff.mpr fun text htext =>
    hall text ((h.attempts text).mpr htext)
  refine ⟨attempts', hread', fun a => ?_⟩
  simp only [mem_of_mapM_eq_ok hread, mem_of_mapM_eq_ok hread', h.attempts]

/-- The passes over two queries of one meaning keep the same. -/
theorem gather_eq (h : SameMeaning fields fields') (attempts attempts' : List TaskAttempt) :
    (Slots.gather {} fields attempts).value = (Slots.gather {} fields' attempts').value ∧
      (Slots.gather {} fields attempts).final = (Slots.gather {} fields' attempts').final := by
  constructor
  · funext name
    by_cases hname : name ∈ singleNames
    · simp [Slots.gather, hname, h.value name hname]
    · simp [Slots.gather, hname]
  · -- The flag counts as given if any field has its name, whatever its value.
    have hany (l : List Form.Field) :
        l.any (fun field => decide (field.1 = "final")) = true ↔ ∃ v, ("final", v) ∈ l := by
      simp
    have hfinal := (hany fields).trans (h.final.trans (hany fields').symm)
    exact congrArg (false || ·) (Bool.eq_iff_iff.mpr hfinal)

/-- What is read from one list is read from the other. -/
theorem ofFields_eq_ok (h : SameMeaning fields fields') (hr : ofFields fields = .ok r) :
    ofFields fields' = .ok r := by
  rw [ofFields_eq_pass, Slots.foldlM_take] at hr ⊢
  obtain ⟨s, hs, hclose⟩ := bind_eq_ok.mp hr
  obtain ⟨attempts, hread, hs⟩ := bind_eq_ok.mp hs
  obtain ⟨attempts', hread', hmem⟩ := h.exists_attempts hread
  obtain ⟨hvalue, hfinal⟩ := h.gather_eq attempts attempts'
  cases hs
  rw [Slots.close_congr hvalue hfinal hmem] at hclose
  exact bind_eq_ok.mpr ⟨_, bind_eq_ok.mpr ⟨attempts', hread', rfl⟩, hclose⟩

end SameMeaning

/-! ## §3 Rewordings -/

/-- One rewording of a list of parameters. -/
inductive Reworded : List Form.Field → List Form.Field → Prop
  /-- Attempts are moved, among themselves and among the other parameters. -/
  | moved {fields fields' : List Form.Field}
      (hothers : fields.filter (·.1 ≠ "ta") = fields'.filter (·.1 ≠ "ta"))
      (hattempts : (fields.filter (·.1 = "ta")).Perm (fields'.filter (·.1 = "ta"))) :
      Reworded fields fields'
  /-- Attempts are named again. -/
  | repeated {before after : List Form.Field} {value : String}
      (h : ("ta", value) ∈ before ++ after) :
      Reworded (before ++ after) (before ++ ("ta", value) :: after)
  /-- Attempts between commas are named apart. -/
  | split (before after : List Form.Field) (front back : String) :
      Reworded (before ++ ("ta", front ++ "," ++ back) :: after)
        (before ++ ("ta", front) :: ("ta", back) :: after)
  /-- A parameter without meaning is left out. -/
  | unknown (before after : List Form.Field) {name : String} (value : String)
      (h : name ∉ ["ta", "final"] ++ singleNames) :
      Reworded (before ++ (name, value) :: after) (before ++ after)
  /-- A later value of a parameter is left out. -/
  | later {before : List Form.Field} (after : List Form.Field) {name : String} (value : String)
      {first : String} (hname : name ∈ singleNames) (hfirst : (name, first) ∈ before) :
      Reworded (before ++ (name, value) :: after) (before ++ after)

/-- Attempts between commas are those on both sides of a comma. -/
theorem attemptTexts_append (front back : String) :
    attemptTexts (front ++ "," ++ back) = attemptTexts front ++ attemptTexts back := by
  have hsplit : (front ++ "," ++ back).toList.splitOn ','
      = front.toList.splitOn ',' ++ back.toList.splitOn ',' := by
    rw [String.toList_append, String.toList_append, List.append_assoc]
    exact List.splitOnP_append_cons _ _ (by decide)
  rw [attemptTexts, hsplit, List.filter_append, List.map_append]
  rfl

/-- The attempts of two lists of fields are gathered in order. -/
theorem allAttemptTexts_append (before after : List Form.Field) :
    allAttemptTexts (before ++ after) = allAttemptTexts before ++ allAttemptTexts after := by
  simp [allAttemptTexts]

/-- The values of attempts are gathered from all fields of their name. -/
theorem allAttemptTexts_cons_ta (value : String) (fields : List Form.Field) :
    allAttemptTexts (("ta", value) :: fields) = attemptTexts value ++ allAttemptTexts fields := by
  simp [allAttemptTexts]

/-- Other fields hold no attempts. -/
theorem allAttemptTexts_cons_of_ne {name : String} (hname : name ≠ "ta") (value : String)
    (fields : List Form.Field) :
    allAttemptTexts ((name, value) :: fields) = allAttemptTexts fields := by
  simp [allAttemptTexts, hname]

/-- The first field of a name is in the first list, if it is there at all. -/
theorem first?_append (name : String) (before after : List Form.Field) :
    first? name (before ++ after) = (first? name before <|> first? name after) := by
  cases h : before.find? (·.1 = name) <;> simp [first?, h]

/-- Attempts are the one parameter that may be repeated. -/
theorem singleNames_ne_ta {name : String} (h : name ∈ singleNames) : name ≠ "ta" := by
  rintro rfl
  simp [singleNames] at h

/-- Attempts are none of the other parameters. -/
theorem first?_filter {name : String} (hname : name ∈ singleNames) (fields : List Form.Field) :
    first? name (fields.filter (·.1 ≠ "ta")) = first? name fields := by
  rw [first?, first?, List.find?_filter]
  congr 2
  funext field
  by_cases hfield : field.1 = name
  · simp [hfield, singleNames_ne_ta hname]
  · simp [hfield]

/-- A rewording does not change what is kept. -/
theorem Reworded.sameMeaning (h : Reworded fields fields') : SameMeaning fields fields' := by
  cases h with
  | moved hothers hattempts =>
    refine ⟨?_, ?_, ?_⟩
    · intro name hname
      rw [← first?_filter hname fields, hothers, first?_filter hname]
    · -- Moving attempts does not move the flag.
      have hmem (l : List Form.Field) (value : String) :
          ("final", value) ∈ l ↔ ("final", value) ∈ l.filter (·.1 ≠ "ta") := by
        simp
      simp only [hmem fields, hothers, ← hmem fields']
    · intro text
      exact (hattempts.flatMap_right _).mem_iff
  | @repeated before after value hmem =>
    -- The repeated attempts are among the others already.
    have hsub : attemptTexts value ⊆ allAttemptTexts (before ++ after) := fun text htext =>
      List.mem_flatMap.mpr ⟨_, List.mem_filter.mpr ⟨hmem, rfl⟩, htext⟩
    refine ⟨?_, by simp, ?_⟩
    · intro name hname
      rw [first?_append, first?_append, first?_cons, if_neg (singleNames_ne_ta hname).symm]
    · intro text
      have htext := @hsub text
      simp only [allAttemptTexts_append, allAttemptTexts_cons_ta, List.mem_append] at htext ⊢
      tauto
  | split before after front back =>
    refine ⟨?_, by simp, ?_⟩
    · intro name hname
      simp only [first?_append, first?_cons, if_neg (singleNames_ne_ta hname).symm]
    · intro text
      simp only [allAttemptTexts_append, allAttemptTexts_cons_ta, attemptTexts_append,
        List.append_assoc]
  | @unknown before after name value hname =>
    obtain ⟨hta, hfinal, hsingle⟩ : name ≠ "ta" ∧ name ≠ "final" ∧ name ∉ singleNames := by
      simpa using hname
    refine ⟨?_, by simp [Ne.symm hfinal], ?_⟩
    · intro name' hname'
      have hne : name ≠ name' := fun heq => hsingle (heq ▸ hname')
      rw [first?_append, first?_append, first?_cons, if_neg hne]
    · intro text
      rw [allAttemptTexts_append, allAttemptTexts_append, allAttemptTexts_cons_of_ne hta]
  | @later before after name value first hname hfirst =>
    have hfinal : name ≠ "final" := by
      rintro rfl
      simp [singleNames] at hname
    refine ⟨?_, by simp [Ne.symm hfinal], ?_⟩
    · intro name' hname'
      rw [first?_append, first?_append, first?_cons]
      split_ifs with heq
      · -- The earlier value is found before the later one is looked for.
        obtain ⟨held, hheld⟩ : ∃ held, first? name' before = some held := by
          rw [← heq, ← Option.isSome_iff_exists, first?, Option.isSome_map, List.find?_isSome]
          exact ⟨(name, first), hfirst, decide_eq_true rfl⟩
        rw [hheld]
        rfl
      · rfl
    · intro text
      rw [allAttemptTexts_append, allAttemptTexts_append,
        allAttemptTexts_cons_of_ne (singleNames_ne_ta hname)]

/-- **Only the meaning of parameters matters.** Lists with the same first values, the same presence
of a final and the same set of attempts are read alike: both are refused, or both are one request.
So are lists of which one is a rewording of the other, in any number of steps either way. The
attempts of what is read are strictly ascending. -/
theorem reading_by_meaning :
    (∀ fields fields', SameMeaning fields fields' →
        ∀ r, ofFields fields = .ok r ↔ ofFields fields' = .ok r) ∧
      (∀ fields fields', Relation.EqvGen Reworded fields fields' →
        ∀ r, ofFields fields = .ok r ↔ ofFields fields' = .ok r) ∧
      ∀ fields r, ofFields fields = .ok r →
        r.attempts.Pairwise fun a b => a.le b = true ∧ a ≠ b := by
  have hsame {fields fields' : List Form.Field} (h : SameMeaning fields fields')
      (r : FetchRequest) : ofFields fields = .ok r ↔ ofFields fields' = .ok r :=
    ⟨h.ofFields_eq_ok, h.symm.ofFields_eq_ok⟩
  refine ⟨fun fields fields' => hsame, ?_, ?_⟩
  · intro fields fields' h r
    -- Any chain of rewordings, in either direction, keeps the meaning.
    induction h with
    | rel fields fields' hstep => exact hsame hstep.sameMeaning r
    | refl fields => rfl
    | symm fields fields' _ ih => exact ih.symm
    | trans fields fields' fields'' _ _ ih ih' => exact ih.trans ih'
  · intro fields r h
    rw [← (canonical_of_ofFields h).set]
    exact Ordered.pairwise_toSet Ordered.linear_attempt r.attempts

/-- Attempts in one parameter and in three, behind a parameter without meaning and before a second
value. -/
theorem reading_by_meaning_scattered :
    SameMeaning [("x", "1"), ("ta", ",2_0,1_0"), ("sid", "1"), ("p", "0"), ("type", "h")]
        [("sid", "1"), ("ta", "1_0"), ("type", "h"), ("ta", "2_0"), ("sid", "z"), ("p", "0"),
          ("ta", "1_0")] ∧
      ∀ r, ofFields [("x", "1"), ("ta", ",2_0,1_0"), ("sid", "1"), ("p", "0"), ("type", "h")]
          = .ok r ↔
        ofFields [("sid", "1"), ("ta", "1_0"), ("type", "h"), ("ta", "2_0"), ("sid", "z"),
          ("p", "0"), ("ta", "1_0")] = .ok r := by
  -- The attempts of both lists, one of them named twice in the second.
  have htexts : allAttemptTexts [("x", "1"), ("ta", ",2_0,1_0"), ("sid", "1"), ("p", "0"),
      ("type", "h")] = ["2_0", "1_0"] := by cbv
  have htexts' : allAttemptTexts [("sid", "1"), ("ta", "1_0"), ("type", "h"), ("ta", "2_0"),
      ("sid", "z"), ("p", "0"), ("ta", "1_0")] = ["1_0", "2_0", "1_0"] := by cbv
  have hsame : SameMeaning [("x", "1"), ("ta", ",2_0,1_0"), ("sid", "1"), ("p", "0"),
      ("type", "h")] [("sid", "1"), ("ta", "1_0"), ("type", "h"), ("ta", "2_0"), ("sid", "z"),
      ("p", "0"), ("ta", "1_0")] := by
    refine ⟨?_, by simp, ?_⟩
    · simp [singleNames, first?]
    · intro text
      rw [htexts, htexts']
      simp
      tauto
  exact ⟨hsame, reading_by_meaning.1 _ _ hsame⟩

end FetchRequest

end Shuffle
