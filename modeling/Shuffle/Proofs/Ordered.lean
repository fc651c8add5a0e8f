import Mathlib
import Shuffle.Output
import Shuffle.Ordered

/-!
# Sorted lists hold each member once

`Ordered.toSet` gives every list with the same members one strictly ascending list, and
`Ordered.update` keeps everything that other keys hold. Both need nothing of the members beyond a
linear order, which partitions, attempts and addresses have. Names of tables have the strict form of
one, and what is looked up under a name is what was last put there.
-/

namespace Shuffle.Ordered

variable {α β γ : Type}

/-! ## §1 Linear orders -/

/-- A test that sorts: total, transitive, and telling different members apart. -/
structure Linear (le : α → α → Bool) : Prop where
  trans : ∀ a b c, le a b = true → le b c = true → le a c = true
  total : ∀ a b, (le a b || le b a) = true
  antisymm : ∀ a b, le a b = true → le b a = true → a = b

/-- Numbers of partitions are in linear order. -/
theorem linear_partition : Linear (fun a b : UInt32 => decide (a ≤ b)) where
  trans a b c hab hbc := decide_eq_true
    (UInt32.le_trans (of_decide_eq_true hab) (of_decide_eq_true hbc))
  total a b := by simpa using UInt32.le_total a b
  antisymm a b hab hba := UInt32.le_antisymm (of_decide_eq_true hab) (of_decide_eq_true hba)

/-- Two parts that are compared one after the other are in linear order if both are. -/
private theorem linear_lex {γ δ : Type} [LE γ] [LT γ] [DecidableEq γ] [DecidableLT γ]
    [Std.IsLinearOrder γ] [Std.LawfulOrderLT γ] [LE δ] [DecidableLE δ] [Std.IsLinearOrder δ]
    {f : α → γ} {g : α → δ} (hfg : ∀ a b, f a = f b → g a = g b → a = b) :
    Linear fun a b => f a < f b || (f a = f b && g a ≤ g b) where
  -- Strictly less by the first part at either step is so over both.
  trans a b c := by
    simp only [Bool.or_eq_true, Bool.and_eq_true, decide_eq_true_eq]
    rintro (hab | ⟨hab, hab'⟩) (hbc | ⟨hbc, hbc'⟩)
    · exact Or.inl (Std.lt_trans hab hbc)
    · exact Or.inl (hbc ▸ hab)
    · exact Or.inl (hab ▸ hbc)
    · exact Or.inr ⟨hab.trans hbc, Std.le_trans hab' hbc'⟩
  total a b := by
    simp only [Bool.or_eq_true, Bool.and_eq_true, decide_eq_true_eq]
    rcases Std.lt_trichotomy (f a) (f b) with h | h | h
    · exact Or.inl (Or.inl h)
    · rcases Std.le_total (a := g a) (b := g b) with h' | h'
      · exact Or.inl (Or.inr ⟨h, h'⟩)
      · exact Or.inr (Or.inr ⟨h.symm, h'⟩)
    · exact Or.inr (Or.inl h)
  -- Equal both ways is equal in both parts, and these tell the element.
  antisymm a b := by
    simp only [Bool.or_eq_true, Bool.and_eq_true, decide_eq_true_eq]
    rintro (hab | ⟨hab, hab'⟩) (hba | ⟨hba, hba'⟩)
    · exact absurd hba (Std.not_gt_of_lt hab)
    · exact absurd hba.symm (Std.ne_of_lt hab)
    · exact absurd hab.symm (Std.ne_of_lt hba)
    · exact hfg a b hab (Std.le_antisymm hab' hba')

/-- Attempts are ordered by their task and then by their number. -/
theorem linear_attempt : Linear TaskAttempt.le :=
  linear_lex fun ⟨_, _⟩ ⟨_, _⟩ htask hattempt => TaskAttempt.mk.injEq .. ▸ ⟨htask, hattempt⟩

/-- Addresses are ordered by their host and then by their port. -/
theorem linear_address : Linear PullAddress.le :=
  linear_lex fun ⟨_, _⟩ ⟨_, _⟩ hhost hport => PullAddress.mk.injEq .. ▸ ⟨hhost, hport⟩

/-- A test that sorts strictly: no member is in front of itself, and of two different members one
is in front of the other. -/
structure Strict (lt : α → α → Bool) : Prop where
  trans : ∀ a b c, lt a b = true → lt b c = true → lt a c = true
  irrefl : ∀ a, lt a a = false
  connected : ∀ a b, a ≠ b → lt a b = false → lt b a = true

/-- Texts are in strict order. -/
theorem strict_text : Strict (fun a b : String => decide (a < b)) where
  trans a b c hab hbc := decide_eq_true
    (Std.lt_trans (of_decide_eq_true hab) (of_decide_eq_true hbc))
  irrefl a := decide_eq_false (Std.lt_irrefl)
  connected a b hne hab := by
    rcases Std.lt_trichotomy a b with h | h | h
    · exact absurd h (of_decide_eq_false hab)
    · exact absurd h hne
    · exact decide_eq_true h

/-! ## §2 Sets -/

section Sets

variable [DecidableEq α] {le : α → α → Bool}

/-- Dropping repeats drops no member. -/
theorem mem_dropRepeats {members : List α} {a : α} : a ∈ dropRepeats members ↔ a ∈ members := by
  fun_induction dropRepeats members with
  | case1 x rest ih => simp only [ih, List.mem_cons, or_self_left]
  | case2 x y rest hne ih => rw [List.mem_cons, ih, ← List.mem_cons]
  | case3 rest => rfl

/-- A set has the members that it was made from. -/
theorem mem_toSet {members : List α} {a : α} : a ∈ toSet le members ↔ a ∈ members := by
  rw [toSet, mem_dropRepeats, List.mem_mergeSort]

/-- In a sorted list equal members stand together, so dropping repeats leaves each one once. -/
private theorem pairwise_dropRepeats (h : Linear le) {members : List α}
    (hsorted : members.Pairwise fun a b => le a b = true) :
    (dropRepeats members).Pairwise fun a b => le a b = true ∧ a ≠ b := by
  fun_induction dropRepeats members with
  | case1 x rest ih => exact ih (List.pairwise_cons.mp hsorted).2
  | case2 x y rest hne ih =>
    obtain ⟨hx, hrest⟩ := List.pairwise_cons.mp hsorted
    refine List.pairwise_cons.mpr ⟨fun z hz => ?_, ih hrest⟩
    have hzmem : z ∈ y :: rest := mem_dropRepeats.mp hz
    refine ⟨hx z hzmem, ?_⟩
    -- Were `x` met again behind `y`, then `y` would be at most `x`.
    rintro rfl
    rcases List.mem_cons.mp hzmem with heq | hmem
    · exact hne heq
    · have hyx := (List.pairwise_cons.mp hrest).1 x hmem
      exact hne (h.antisymm x y (hx y List.mem_cons_self) hyx)
  | case3 rest hshort =>
    match rest, hshort with
    | [], _ => exact List.Pairwise.nil
    | [x], _ => exact List.pairwise_singleton _ x
    | x :: y :: rest, hshort => exact absurd rfl (hshort x y rest)

/-- A set is strictly ascending. -/
theorem pairwise_toSet (h : Linear le) (members : List α) :
    (toSet le members).Pairwise fun a b => le a b = true ∧ a ≠ b :=
  pairwise_dropRepeats h (List.pairwise_mergeSort h.trans h.total members)

/-- No member is in a set twice. -/
theorem nodup_toSet (h : Linear le) (members : List α) : (toSet le members).Nodup :=
  (pairwise_toSet h members).imp fun hab => hab.2

/-- Without repeats nothing is dropped. -/
private theorem dropRepeats_of_nodup {members : List α} (h : members.Nodup) :
    dropRepeats members = members := by
  fun_induction dropRepeats members with
  | case1 x rest ih => simp at h
  | case2 x y rest hne ih => rw [ih (List.nodup_cons.mp h).2]
  | case3 rest => rfl

/-- Making a set twice changes nothing. -/
theorem toSet_toSet (h : Linear le) (members : List α) :
    toSet le (toSet le members) = toSet le members := by
  have hsorted := pairwise_toSet h members
  rw [toSet, List.mergeSort_of_pairwise (hsorted.imp fun hab => hab.1)]
  exact dropRepeats_of_nodup (nodup_toSet h members)

/-- A set holds each member once. -/
theorem count_toSet (h : Linear le) {members : List α} {a : α} (ha : a ∈ members) :
    (toSet le members).count a = 1 :=
  List.count_eq_one_of_mem (nodup_toSet h members) (mem_toSet.mpr ha)

/-- Which members a list has decides its set: how often they are listed, and where, makes no
difference. -/
theorem toSet_congr (h : Linear le) {members members' : List α}
    (hmem : ∀ a, a ∈ members ↔ a ∈ members') : toSet le members = toSet le members' := by
  have hsorted (l : List α) : (toSet le l).Pairwise fun a b => le a b = true :=
    (pairwise_toSet h l).imp fun hab => hab.1
  apply List.Perm.eq_of_pairwise (fun a b _ _ => h.antisymm a b) (hsorted _) (hsorted _)
  apply (List.perm_ext_iff_of_nodup (nodup_toSet h members) (nodup_toSet h members')).mpr
  intro a
  rw [mem_toSet, mem_toSet, hmem]

/-- If only one member of a set yields anything, so does the whole set. -/
theorem flatMap_toSet (h : Linear le) {members : List α} {a : α} (ha : a ∈ members)
    {f : α → List γ} (hf : ∀ b, b ≠ a → f b = []) : (toSet le members).flatMap f = f a := by
  have hnodup := nodup_toSet h members
  have hmem : a ∈ toSet le members := mem_toSet.mpr ha
  -- Every member before or after `a` is another one, and yields nothing.
  obtain ⟨before, after, hsplit⟩ := List.mem_iff_append.mp hmem
  rw [hsplit] at hnodup ⊢
  have hother : ∀ b ∈ before ++ after, f b = [] := fun b hb => hf b fun heq =>
    (List.nodup_middle.mp hnodup).notMem (heq ▸ hb)
  have hbefore : before.flatMap f = [] :=
    List.flatMap_eq_nil_iff.mpr fun b hb => hother b (List.mem_append_left after hb)
  have hafter : after.flatMap f = [] :=
    List.flatMap_eq_nil_iff.mpr fun b hb => hother b (List.mem_append_right before hb)
  rw [List.flatMap_append, List.flatMap_cons, hbefore, hafter, List.nil_append, List.append_nil]

end Sets

/-! ## §3 Maps -/

/-- If a change puts `extra` behind what a key holds, it puts `extra` into the whole map. -/
theorem flatMap_update_perm [DecidableEq α] (held : α → β → List γ) {lt : α → α → Bool} {key : α}
    {start : β} {change : β → β} {extra : List γ} (hstart : held key start = [])
    (hchange : ∀ v, held key (change v) = held key v ++ extra) (entries : List (α × β)) :
    ((update lt key start change entries).flatMap fun e => held e.1 e.2).Perm
      ((entries.flatMap fun e => held e.1 e.2) ++ extra) := by
  induction entries with
  | nil => simp [update, hchange, hstart]
  | cons e rest ih =>
    obtain ⟨k, v⟩ := e
    unfold update
    split_ifs with heq hlt
    · -- The key is here: what follows it changes places with `extra`.
      subst heq
      simp only [List.flatMap_cons, hchange, List.append_assoc]
      exact List.Perm.append_left _ List.perm_append_comm
    · -- The key is new and goes in front.
      rw [List.flatMap_cons, hchange, hstart, List.nil_append]
      exact List.perm_append_comm
    · rw [List.flatMap_cons, List.flatMap_cons, List.append_assoc]
      exact List.Perm.append_left _ ih

/-- Keys stand in ascending order, each once. -/
def Ascending (lt : α → α → Bool) (entries : List (α × β)) : Prop :=
  entries.Pairwise fun a b => lt a.1 b.1 = true

section Lookup

variable [DecidableEq α] {lt : α → α → Bool} {key : α} {start : β} {change : β → β}
  {entries : List (α × β)}

/-- An update adds or replaces one entry. -/
theorem mem_update {e : α × β} (he : e ∈ update lt key start change entries) :
    e.1 = key ∨ e ∈ entries := by
  induction entries with
  | nil =>
    obtain rfl := List.mem_singleton.mp he
    exact Or.inl rfl
  | cons head rest ih =>
    obtain ⟨k, v⟩ := head
    unfold update at he
    -- The key is at the head, belongs in front of it, or is further on.
    split_ifs at he with heq hlt
    · rcases List.mem_cons.mp he with rfl | he
      · exact Or.inl heq
      · exact Or.inr (List.mem_cons_of_mem _ he)
    · rcases List.mem_cons.mp he with rfl | he
      · exact Or.inl rfl
      · exact Or.inr he
    · rcases List.mem_cons.mp he with rfl | he
      · exact Or.inr List.mem_cons_self
      · exact (ih he).imp_right (List.mem_cons_of_mem _)

/-- A change keeps the order of the keys. -/
theorem ascending_update (h : Strict lt) (hasc : Ascending lt entries) :
    Ascending lt (update lt key start change entries) := by
  induction entries with
  | nil => exact List.pairwise_singleton _ _
  | cons head rest ih =>
    obtain ⟨k, v⟩ := head
    obtain ⟨hhead, hrest⟩ := List.pairwise_cons.mp hasc
    unfold update
    split_ifs with heq hlt
    · exact List.pairwise_cons.mpr ⟨hhead, hrest⟩
    · -- The new key is in front of the first one, and so in front of all.
      refine List.pairwise_cons.mpr ⟨fun e he => ?_, hasc⟩
      rcases List.mem_cons.mp he with rfl | he
      · exact hlt
      · exact h.trans _ _ _ hlt (hhead e he)
    · refine List.pairwise_cons.mpr ⟨fun e he => ?_, ih hrest⟩
      -- Further on are the old entries and the new one, all behind the head.
      rcases mem_update he with hkey | he
      · rw [hkey]
        exact h.connected key k (Ne.symm heq) (Bool.eq_false_iff.mpr hlt)
      · exact hhead e he

/-- A lookup passes the entries of other keys. -/
theorem lookup_cons_of_ne {k : α} (hk : k ≠ key) (v : β) :
    ((k, v) :: entries).lookup key = entries.lookup key := by
  rw [List.lookup_cons, beq_false_of_ne hk.symm]

/-- An update changes what its key holds. -/
theorem lookup_update (h : Strict lt) (hasc : Ascending lt entries) :
    (update lt key start change entries).lookup key
      = some (change ((entries.lookup key).getD start)) := by
  induction entries with
  | nil => rw [update, List.lookup_cons_self]; rfl
  | cons head rest ih =>
    obtain ⟨k, v⟩ := head
    obtain ⟨hhead, hrest⟩ := List.pairwise_cons.mp hasc
    unfold update
    split_ifs with heq hlt
    · -- The key is at the head, and its value is changed there.
      subst heq
      rw [List.lookup_cons_self, List.lookup_cons_self]
      rfl
    · -- All keys are behind the new one, so it held nothing.
      have hnone : ((k, v) :: rest).lookup key = none := by
        rw [List.lookup_eq_none_iff]
        intro e he
        have hbehind : lt key e.1 = true := by
          rcases List.mem_cons.mp he with rfl | he
          · exact hlt
          · exact h.trans _ _ _ hlt (hhead e he)
        rw [bne_iff_ne]
        rintro rfl
        exact absurd hbehind (by simp [h.irrefl])
      rw [List.lookup_cons_self, hnone]
      rfl
    · rw [lookup_cons_of_ne heq, lookup_cons_of_ne heq, ih hrest]

/-- An update leaves alone what other keys hold. -/
theorem lookup_update_of_ne {other : α} (hne : other ≠ key) :
    (update lt key start change entries).lookup other = entries.lookup other := by
  induction entries with
  | nil => rw [update, lookup_cons_of_ne hne.symm]
  | cons head rest ih =>
    obtain ⟨k, v⟩ := head
    unfold update
    split_ifs with heq hlt
    · subst heq
      rw [lookup_cons_of_ne hne.symm, lookup_cons_of_ne hne.symm]
    · exact lookup_cons_of_ne hne.symm _
    · rw [List.lookup_cons, List.lookup_cons, ih]

end Lookup

end Shuffle.Ordered
