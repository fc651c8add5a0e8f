import Mathlib
import Shuffle.Store.Path

/-!
# Paths and the names on their way

What a path means is the list of names between its slashes. Joining paths joins these lists, so a
path that is put together from names is walked by going down along them, whatever slashes its first
part ends with.

- `Path.IsName` is a name that an entry of a directory can have.
- `Path.entries_join` and `Path.EndsInName.steps` say what a joined path means.
- `Path.below` goes down along a list of names, and `Path.IsPlain` is a path that only goes down.
-/

namespace Shuffle

namespace Path

/-! ## §1 Names -/

/-- A single name of an entry: it is not empty, has neither a slash nor a zero character, and is
not one of the names that stand for the directory itself and for the one above. -/
structure IsName (name : String) : Prop where
  nonempty : name ≠ ""
  noSlash : '/' ∉ name.toList
  noZero : '\x00' ∉ name.toList
  notHere : name ≠ "."
  notUp : name ≠ ".."

instance : DecidablePred IsName := fun name =>
  decidable_of_iff
    (name ≠ "" ∧ '/' ∉ name.toList ∧ '\x00' ∉ name.toList ∧ name ≠ "." ∧ name ≠ "..")
    ⟨fun ⟨h₁, h₂, h₃, h₄, h₅⟩ => ⟨h₁, h₂, h₃, h₄, h₅⟩,
      fun ⟨h₁, h₂, h₃, h₄, h₅⟩ => ⟨h₁, h₂, h₃, h₄, h₅⟩⟩

/-- A name is a step down. -/
theorem IsName.step {name : String} (h : IsName name) : Step.ofName name = .down name := by
  simp [Step.ofName, h.notHere, h.notUp]

/-- Names are steps downwards: neither `.` nor `..` is a name. -/
theorem map_ofName {names : List String} (h : ∀ name ∈ names, IsName name) :
    names.map Step.ofName = names.map Step.down :=
  List.map_congr_left fun name hname => (h name hname).step

/-- The names on the way of a path. Empty ones, between slashes that follow each other, are left
out. -/
def entries (p : Path) : List String := p.names.filter (· ≠ "")

/-- A slash parts the names before it from those behind it. -/
private theorem names_of_append (cs ds : List Char) :
    names ⟨String.ofList (cs ++ '/' :: ds)⟩
      = names ⟨String.ofList cs⟩ ++ names ⟨String.ofList ds⟩ := by
  simp [names, List.splitOn_append_cons_self]

/-- The names before a slash are followed by those behind it. -/
private theorem entries_of_append (cs ds : List Char) :
    entries ⟨String.ofList (cs ++ '/' :: ds)⟩
      = entries ⟨String.ofList cs⟩ ++ entries ⟨String.ofList ds⟩ := by
  rw [entries, names_of_append, List.filter_append]
  rfl

private theorem entries_empty : entries ⟨""⟩ = [] := by
  decide

/-- A name is a path of one entry. -/
theorem IsName.entries {name : String} (h : IsName name) : entries ⟨name⟩ = [name] := by
  have hwhole : name.toList.splitOn '/' = [name.toList] :=
    List.splitOn_eq_singleton h.noSlash
  simp [Path.entries, names, hwhole, h.nonempty]

/-! ## §2 Joining -/

theorem IsName.isAbsolute {name : String} (h : IsName name) : isAbsolute ⟨name⟩ = false := by
  have hhead : name.toList.head? ≠ some '/' := fun heq =>
    h.noSlash (List.mem_of_mem_head? heq)
  simpa [Path.isAbsolute] using hhead

/-- A path that ends in a name, and not in a slash. -/
structure EndsInName (p : Path) : Prop where
  nonempty : p.text ≠ ""
  last : p.text.toList.getLast? ≠ some '/'

theorem IsName.endsInName {name : String} (h : IsName name) : EndsInName ⟨name⟩ where
  nonempty := h.nonempty
  last heq := h.noSlash (List.mem_of_getLast? heq)

/-- Joining puts the names of both paths behind each other. -/
theorem entries_join {a b : Path} (hb : b.isAbsolute = false) :
    (a.join b).entries = a.entries ++ b.entries := by
  obtain ⟨a⟩ := a
  obtain ⟨b⟩ := b
  simp only [join, hb, Bool.false_eq_true, if_false]
  split
  next hend =>
    rcases hend with rfl | hslash
    · simp [entries_empty]
    · -- The slash is there already: it ends the last name of the first path.
      obtain ⟨cs, hcs⟩ := List.getLast?_eq_some_iff.mp hslash
      have ha : a = String.ofList (cs ++ '/' :: []) := by rw [← hcs, String.ofList_toList]
      have hab : a ++ b = String.ofList (cs ++ '/' :: b.toList) := by
        rw [ha, ← String.toList_inj]
        simp
      rw [hab, ha, entries_of_append, entries_of_append]
      simp [entries_empty]
  next =>
    -- Otherwise the slash comes between the two paths.
    have hab : a ++ "/" ++ b = String.ofList (a.toList ++ '/' :: b.toList) := by
      rw [← String.toList_inj]
      simp
    rw [hab, entries_of_append]
    simp

/-- The names of the last part stand last, also if that part is absolute and replaces the rest. -/
theorem entries_suffix_join (a b : Path) : b.entries <:+ (a.join b).entries := by
  cases hb : b.isAbsolute with
  | true => simp [join, hb]
  | false =>
    rw [entries_join hb]
    exact List.suffix_append a.entries b.entries

/-- What joining puts between two parts. -/
private def glue (a : Path) : String :=
  if a.text = "" ∨ a.text.toList.getLast? = some '/' then "" else "/"

/-- Joining puts the glue between two texts. -/
private theorem join_eq (a : Path) {b : Path} (hb : b.isAbsolute = false) :
    a.join b = ⟨a.text ++ a.glue ++ b.text⟩ := by
  unfold join glue
  rw [hb]
  split
  · contradiction
  · split <;> simp

/-- A joined path is absolute if the first one is. -/
theorem isAbsolute_join {a b : Path} (hb : b.isAbsolute = false) :
    (a.join b).isAbsolute = a.isAbsolute := by
  rw [join_eq a hb]
  by_cases ha : a.text = ""
  · simp_all [isAbsolute, glue]
  · -- A first part that is not empty keeps its first character.
    have hne : a.text.toList ≠ [] := by simpa using ha
    obtain ⟨c, cs, hcs⟩ := List.exists_cons_of_ne_nil hne
    simp [isAbsolute, hcs]

private theorem getLast?_join {a b : Path} (hb : b.text ≠ "") :
    (a.join b).text.toList.getLast? = b.text.toList.getLast? := by
  cases habs : b.isAbsolute with
  | true => simp [join, habs]
  | false =>
    have hne : b.text.toList ≠ [] := by simpa using hb
    rw [join_eq a habs]
    simp only [String.toList_append]
    rw [List.getLast?_append_of_ne_nil _ hne]

/-- Joined paths end as the last part does. -/
theorem EndsInName.join {b : Path} (h : b.EndsInName) (a : Path) : (a.join b).EndsInName where
  nonempty hempty := by
    have hlast := getLast?_join (a := a) h.nonempty
    rw [hempty] at hlast
    exact h.nonempty (by simpa using hlast.symm)
  last := by
    rw [getLast?_join h.nonempty]
    exact h.last

/-- A path that ends in a name is walked along its names. -/
theorem EndsInName.steps {p : Path} (h : p.EndsInName) :
    p.steps = p.entries.map Step.ofName := by
  simp [Path.steps, Path.entries, h.last]

/-- What is joined next depends on the end of the last path alone. -/
private theorem glue_join {a b : Path} (h : b.EndsInName) : (a.join b).glue = b.glue := by
  simp only [glue, getLast?_join h.nonempty, (h.join a).nonempty, h.nonempty]

/-- Which parts of a path are joined first makes no difference. -/
theorem join_join (a : Path) {b c : Path} (hb : b.isAbsolute = false) (hend : b.EndsInName)
    (hc : c.isAbsolute = false) : (a.join b).join c = a.join (b.join c) := by
  have hbc : (b.join c).isAbsolute = false := by rw [isAbsolute_join hc, hb]
  -- Both sides are the same text: what stands before `c` depends on the end of `b` only.
  rw [join_eq _ hc, glue_join hend, join_eq a hb, join_eq a hbc, join_eq b hc]
  simp [String.append_assoc]

/-! ## §3 Going down -/

/-- The path that goes down from `p` along names. -/
def below (p : Path) (names : List String) : Path :=
  names.foldl (fun p name => p.join ⟨name⟩) p

@[simp] theorem below_nil (p : Path) : p.below [] = p := rfl

theorem below_cons (p : Path) (name : String) (names : List String) :
    p.below (name :: names) = (p.join ⟨name⟩).below names := rfl

theorem below_append (p : Path) (names more : List String) :
    p.below (names ++ more) = (p.below names).below more :=
  List.foldl_append

/-- The last name is joined last. -/
theorem below_concat (p : Path) (names : List String) (name : String) :
    p.below (names ++ [name]) = (p.below names).join ⟨name⟩ :=
  below_append p names [name]

/-- Names that are gone down are the last entries. -/
theorem entries_below (p : Path) {names : List String} (h : ∀ name ∈ names, IsName name) :
    (p.below names).entries = p.entries ++ names := by
  induction names generalizing p with
  | nil => simp
  | cons name names ih =>
    have hname : IsName name := h name List.mem_cons_self
    rw [below_cons, ih _ fun n hn => h n (List.mem_cons_of_mem name hn),
      entries_join hname.isAbsolute, hname.entries]
    simp

/-- Names below a path do not change where it starts. -/
theorem isAbsolute_below (p : Path) {names : List String} (h : ∀ name ∈ names, IsName name) :
    (p.below names).isAbsolute = p.isAbsolute := by
  induction names generalizing p with
  | nil => rfl
  | cons name names ih =>
    rw [below_cons, ih _ fun n hn => h n (List.mem_cons_of_mem name hn),
      isAbsolute_join (h name List.mem_cons_self).isAbsolute]

/-- Going down from a joined path is joining what goes down. -/
theorem join_below (a : Path) {p : Path} (hp : p.isAbsolute = false) (hend : p.EndsInName)
    {names : List String} (h : ∀ name ∈ names, IsName name) :
    a.join (p.below names) = (a.join p).below names := by
  induction names generalizing p with
  | nil => rfl
  | cons name names ih =>
    have hname : IsName name := h name List.mem_cons_self
    have hdown : (p.join ⟨name⟩).isAbsolute = false := by rw [isAbsolute_join hname.isAbsolute, hp]
    rw [below_cons, below_cons, join_join a hp hend hname.isAbsolute]
    exact ih hdown (hname.endsInName.join p)
      fun n hn => h n (List.mem_cons_of_mem name hn)

/-- A path below another one ends in the last of the names. -/
theorem endsInName_below (p : Path) {names : List String} (h : ∀ name ∈ names, IsName name)
    (hne : names ≠ []) : (p.below names).EndsInName := by
  -- Only the last name matters.
  rcases List.eq_nil_or_concat names with rfl | ⟨names, name, rfl⟩
  · contradiction
  · rw [List.concat_eq_append, below_concat]
    exact (h name (by simp)).endsInName.join _

/-! ## §4 Plain paths -/

/-- A path that is walked by going down only. -/
def IsPlain (p : Path) : Prop := ∀ name ∈ p.entries, IsName name

instance (p : Path) : Decidable p.IsPlain :=
  inferInstanceAs (Decidable (∀ name ∈ p.entries, IsName name))

/-- A name is a plain path. -/
theorem IsName.isPlain {name : String} (h : IsName name) : IsPlain ⟨name⟩ := by
  intro n hn
  rw [h.entries] at hn
  rwa [List.mem_singleton.mp hn]

namespace IsPlain

variable {p a b : Path}

/-- Joined plain paths are plain. -/
theorem join (ha : a.IsPlain) (hb : b.IsPlain) (habs : b.isAbsolute = false) :
    (a.join b).IsPlain := by
  intro name hname
  rw [entries_join habs] at hname
  rcases List.mem_append.mp hname with h | h
  · exact ha name h
  · exact hb name h

/-- Names below a plain path make a plain path. -/
theorem below (hp : p.IsPlain) {names : List String} (h : ∀ name ∈ names, IsName name) :
    (p.below names).IsPlain := by
  intro name hname
  rw [entries_below p h] at hname
  rcases List.mem_append.mp hname with hname | hname
  · exact hp name hname
  · exact h name hname

/-- A plain path goes down its entries one by one. -/
theorem steps (h : p.IsPlain) (hend : p.EndsInName) : p.steps = p.entries.map Step.down := by
  rw [hend.steps, map_ofName h]

theorem hasZero (h : p.IsPlain) (hend : p.EndsInName) : p.hasZero = false := by
  rw [Path.hasZero, h.steps hend, List.any_map, List.any_eq_false]
  intro name hname
  simp [Step.hasZero, (h name hname).noZero]

end IsPlain

end Path

end Shuffle
