import Mathlib

/-!
# When a computation that may fail succeeds

Each step of such a computation succeeds if the whole does, and if the whole fails, some step fails
in the same way. The lemmas take results apart without opening the steps.
-/

namespace Shuffle.Fallible

variable {ε ε' α β : Type}

/-- Two steps succeed if the first does, and the second does with its result. -/
theorem bind_eq_ok {x : Except ε α} {f : α → Except ε β} {b : β} :
    (x >>= f) = .ok b ↔ ∃ a, x = .ok a ∧ f a = .ok b := by
  cases x with
  | error fault => simp [bind, Except.bind]
  | ok a => simp [bind, Except.bind]

/-- What is made of a result succeeds if there is one. -/
theorem map_eq_ok {x : Except ε α} {f : α → β} {b : β} :
    x.map f = .ok b ↔ ∃ a, x = .ok a ∧ f a = b := by
  cases x with
  | error fault => simp [Except.map]
  | ok a => simp [Except.map]

/-- Rewording faults changes no result. -/
theorem mapError_eq_ok {x : Except ε α} {f : ε → ε'} {a : α} :
    x.mapError f = .ok a ↔ x = .ok a := by
  cases x with
  | error fault => simp [Except.mapError]
  | ok a' => simp [Except.mapError]

/-- Two steps fail as the first of them that fails. -/
theorem bind_eq_error {x : Except ε α} {f : α → Except ε β} {fault : ε} :
    (x >>= f) = .error fault ↔ x = .error fault ∨ ∃ a, x = .ok a ∧ f a = .error fault := by
  cases x with
  | error fault' => simp [bind, Except.bind]
  | ok a => simp [bind, Except.bind]

/-- What is made of a result adds no fault. -/
theorem map_eq_error {x : Except ε α} {f : α → β} {fault : ε} :
    x.map f = .error fault ↔ x = .error fault := by
  cases x with
  | error fault' => simp [Except.map]
  | ok a => simp [Except.map]

/-- Every fault is reworded. -/
theorem mapError_eq_error {x : Except ε α} {f : ε → ε'} {fault : ε'} :
    x.mapError f = .error fault ↔ ∃ fault', x = .error fault' ∧ f fault' = fault := by
  cases x with
  | error fault' => simp [Except.mapError]
  | ok a => simp [Except.mapError]

/-- A loop succeeds with the results of its rounds. -/
theorem mapM_eq_ok {f : α → Except ε β} {items : List α} {results : List β} :
    items.mapM f = .ok results ↔ List.Forall₂ (fun a b => f a = .ok b) items results := by
  induction items generalizing results with
  | nil =>
    rw [List.mapM_nil, List.forall₂_nil_left_iff]
    constructor
    · intro h
      cases h
      rfl
    · rintro rfl
      rfl
  | cons a rest ih =>
    -- The first item has a result, and so have the others.
    rw [List.mapM_cons, bind_eq_ok, List.forall₂_cons_left_iff]
    constructor
    · rintro ⟨b, hb, h⟩
      obtain ⟨bs, hbs, h⟩ := bind_eq_ok.mp h
      cases h
      exact ⟨b, bs, hb, ih.mp hbs, rfl⟩
    · rintro ⟨b, bs, hb, hbs, rfl⟩
      exact ⟨b, hb, bind_eq_ok.mpr ⟨bs, ih.mpr hbs, rfl⟩⟩

/-- The results of a loop are those of its rounds. -/
theorem mem_of_mapM_eq_ok {f : α → Except ε β} {items : List α}
    {results : List β} (h : items.mapM f = .ok results) {b : β} :
    b ∈ results ↔ ∃ a ∈ items, f a = .ok b := by
  replace h := mapM_eq_ok.mp h
  induction h with
  | nil => simp
  | cons hab hrest ih =>
    simp [ih, hab, eq_comm]

/-- A loop succeeds if each of its rounds does. -/
theorem mapM_ok_iff {f : α → Except ε β} {items : List α} :
    (∃ results, items.mapM f = .ok results) ↔ ∀ a ∈ items, ∃ b, f a = .ok b := by
  simp only [mapM_eq_ok]
  -- The results are those of the first item and those of the others.
  induction items with
  | nil => simp
  | cons a rest ih =>
    simp only [List.forall₂_cons_left_iff, List.forall_mem_cons, ← ih]
    constructor
    · rintro ⟨_, b, bs, hb, hbs, rfl⟩
      exact ⟨⟨b, hb⟩, bs, hbs⟩
    · rintro ⟨⟨b, hb⟩, bs, hbs⟩
      exact ⟨b :: bs, b, bs, hb, hbs, rfl⟩

/-- A loop fails as its first round that fails. Rounds behind it do not matter. -/
theorem mapM_eq_error {f : α → Except ε β} {items : List α} {fault : ε} :
    items.mapM f = .error fault ↔ ∃ before a after, items = before ++ a :: after ∧
      (∀ b ∈ before, ∃ result, f b = .ok result) ∧ f a = .error fault := by
  induction items with
  | nil =>
    constructor
    · nofun
    · rintro ⟨before, a, after, hsplit, -⟩
      simp at hsplit
  | cons x rest ih =>
    rw [List.mapM_cons, bind_eq_error]
    constructor
    · -- The first round fails, or it succeeds and the round is found among the others.
      rintro (hfirst | ⟨result, hfirst, h⟩)
      · exact ⟨[], x, rest, rfl, by simp, hfirst⟩
      · rcases bind_eq_error.mp h with hrest | ⟨results, -, hpure⟩
        · obtain ⟨before, a, after, rfl, hbefore, ha⟩ := ih.mp hrest
          refine ⟨x :: before, a, after, rfl, ?_, ha⟩
          exact List.forall_mem_cons.mpr ⟨⟨result, hfirst⟩, hbefore⟩
        · cases hpure
    · rintro ⟨before, a, after, hsplit, hbefore, ha⟩
      -- The round that fails is the first one, or all rounds before it succeed.
      rcases List.cons_eq_append_iff.mp hsplit with ⟨rfl, htail⟩ | ⟨before', rfl, rfl⟩
      · obtain ⟨rfl, rfl⟩ := List.cons_eq_cons.mp htail
        exact Or.inl ha
      · obtain ⟨⟨result, hfirst⟩, hbefore⟩ := List.forall_mem_cons.mp hbefore
        have hrest := ih.mpr ⟨before', a, after, rfl, hbefore, ha⟩
        exact Or.inr ⟨result, hfirst, bind_eq_error.mpr (Or.inl hrest)⟩

/-- A loop that fails does so in one of its rounds. -/
theorem exists_of_mapM_eq_error {f : α → Except ε β} {items : List α} {fault : ε}
    (h : items.mapM f = .error fault) : ∃ a ∈ items, f a = .error fault := by
  obtain ⟨before, a, after, rfl, -, ha⟩ := mapM_eq_error.mp h
  exact ⟨a, by simp, ha⟩

/-- Loops whose rounds are the same are the same. -/
theorem mapM_congr {f g : α → Except ε β} {items : List α} (h : ∀ a ∈ items, f a = g a) :
    items.mapM f = items.mapM g := by
  induction items with
  | nil => rfl
  | cons a rest ih =>
    obtain ⟨ha, hrest⟩ := List.forall_mem_cons.mp h
    rw [List.mapM_cons, List.mapM_cons, ha, ih hrest]

/-- The result at a place is that of the item at the same place. -/
theorem getElem?_of_mapM {f : α → Except ε β} {items : List α} {results : List β}
    (h : items.mapM f = .ok results) {i : Nat} {a : α} (hi : items[i]? = some a) :
    ∃ b, results[i]? = some b ∧ f a = .ok b := by
  replace h := mapM_eq_ok.mp h
  induction h generalizing i with
  | nil => cases hi
  | cons hab hrest ih =>
    cases i with
    | zero =>
      cases hi
      exact ⟨_, rfl, hab⟩
    | succ i => exact ih hi

end Shuffle.Fallible
