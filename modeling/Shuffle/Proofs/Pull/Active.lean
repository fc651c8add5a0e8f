import Mathlib
import Shuffle.Pull.Registry

/-!
# The served application follows from the history

A worker keeps the users of its applications and, apart from them, the application that it serves.
After any run of starts and stops both belong together, and what is served is told by the run alone.

- `Registry.run` is a run of starts and stops.
- `Registry.active_start` and `Registry.active_stop` say what one call does to the answer, whatever
  the state is that it meets.
- `Registry.Registered` is the invariant: the served application has a user.
- `Registry.Leaves` is a history that leaves an application served: it ends with the start of that
  application and with stops of others.
- `Registry.active_run` reads the answer off the history.
-/

namespace Shuffle

/-- A start or a stop of an application. -/
inductive RegistryCall where
  | start (id : AppIdentity)
  | stop (app : String)
deriving DecidableEq, Repr

namespace Registry

/-! ## §1 Calls -/

/-- What a call makes of a registry. -/
def call (r : Registry) : RegistryCall → Registry
  | .start id => r.start id
  | .stop app => r.stop app

/-- What a run of calls makes of a registry. -/
def run (r : Registry) (calls : List RegistryCall) : Registry := calls.foldl call r

/-- The last call of a history acts on what the others left. -/
theorem run_concat (r : Registry) (calls : List RegistryCall) (c : RegistryCall) :
    r.run (calls ++ [c]) = (r.run calls).call c := by
  simp [run]

variable {r : Registry} {id : AppIdentity} {app other : String}

/-- A started application has its user. -/
theorem user?_start (r : Registry) (id : AppIdentity) :
    (r.start id).user? id.app = some id.user := by
  simp [user?, start]

/-- Users of other applications stay. -/
theorem user?_stop (hne : other ≠ app) : (r.stop app).user? other = r.user? other := by
  simp only [user?, stop, List.find?_filter]
  congr 2
  funext e
  by_cases he : e.1 = other
  · simp [he, hne]
  · simp [he]

/-- What is served is the current application under its user. -/
theorem active_eq_some_iff :
    r.active = some id ↔ r.current = some id.app ∧ r.user? id.app = some id.user := by
  simp only [active, Option.bind_eq_bind, Option.bind_eq_some_iff]
  constructor
  · rintro ⟨app, hcurrent, user, huser, hid⟩
    cases hid
    exact ⟨hcurrent, huser⟩
  · rintro ⟨hcurrent, huser⟩
    exact ⟨id.app, hcurrent, id.user, huser, rfl⟩

/-- An application is served from its start on, whatever was served before. -/
theorem active_start (r : Registry) (id : AppIdentity) : (r.start id).active = some id :=
  active_eq_some_iff.mpr ⟨rfl, user?_start r id⟩

/-- A stop ends only what is served under the name that is stopped. -/
theorem active_stop : (r.stop app).active = some id ↔ r.active = some id ∧ id.app ≠ app := by
  rw [active_eq_some_iff, active_eq_some_iff]
  by_cases happ : id.app = app
  · subst happ
    -- A stop of the application itself takes it off.
    have hgone : (r.stop id.app).current ≠ some id.app := by
      rw [stop]
      split_ifs with hcurrent
      · nofun
      · exact hcurrent
    simp [hgone]
  · -- A stop of another one touches neither the entry nor the place of this one.
    have hcurrent : (r.stop app).current = some id.app ↔ r.current = some id.app := by
      rw [stop]
      split_ifs with hserved
      · simp [hserved, Ne.symm happ]
      · rfl
    rw [hcurrent, user?_stop happ]
    simp [happ]

/-! ## §2 Histories -/

/-- The current application, if there is one, has a user. -/
def Registered (r : Registry) : Prop :=
  ∀ app, r.current = some app → ∃ user, r.user? app = some user

/-- The application that is current stays registered through every call. -/
theorem registered_call (h : r.Registered) (c : RegistryCall) : (r.call c).Registered := by
  cases c with
  | start id =>
    intro app hcurrent
    cases hcurrent
    exact ⟨id.user, user?_start r id⟩
  | stop app =>
    intro other hcurrent
    simp only [call, stop] at hcurrent
    split_ifs at hcurrent with hserved
    -- The application stopped is not the one still served, so its user was not dropped.
    have hne : other ≠ app := by
      rintro rfl
      exact hserved hcurrent
    obtain ⟨user, huser⟩ := h other hcurrent
    exact ⟨user, (user?_stop hne).trans huser⟩

/-- Users and the current application belong together after any run. -/
theorem registered_run (calls : List RegistryCall) : (run {} calls).Registered := by
  induction calls using List.reverseRecOn with
  | nil => nofun
  | append_singleton calls c ih =>
    rw [run_concat]
    exact registered_call ih c

/-- The last start in a history is that of an application, and no later stop names it. -/
def Leaves (calls : List RegistryCall) (id : AppIdentity) : Prop :=
  ∃ before after, calls = before ++ .start id :: after ∧ (∀ id', .start id' ∉ after) ∧
    .stop id.app ∉ after

/-- A member of a longer history is the last one or stands in the shorter history. -/
private theorem concat_eq_append_cons {calls before after : List RegistryCall}
    {last c : RegistryCall} (h : calls ++ [last] = before ++ c :: after) :
    (after = [] ∧ last = c) ∨ ∃ rest, after = rest ++ [last] ∧ calls = before ++ c :: rest := by
  rcases List.eq_nil_or_concat' after with rfl | ⟨rest, behind, rfl⟩
  · exact Or.inl ⟨rfl, by simpa using (List.append_inj' h rfl).2⟩
  · rw [← List.cons_append, ← List.append_assoc] at h
    obtain ⟨hcalls, hlast⟩ := List.append_inj' h rfl
    exact Or.inr ⟨rest, by rw [hlast], hcalls⟩

/-- A start leaves its own application. -/
theorem leaves_concat_start {calls : List RegistryCall} {id id' : AppIdentity} :
    Leaves (calls ++ [.start id']) id ↔ id' = id := by
  constructor
  · rintro ⟨before, after, hsplit, hstart, -⟩
    rcases concat_eq_append_cons hsplit with ⟨-, hlast⟩ | ⟨rest, rfl, -⟩
    · exact RegistryCall.start.inj hlast
    · exact absurd (List.mem_append_right rest (List.mem_singleton_self _)) (hstart id')
  · rintro rfl
    exact ⟨calls, [], rfl, by simp, by simp⟩

/-- A stop leaves what was there, unless it stops that. -/
theorem leaves_concat_stop {calls : List RegistryCall} :
    Leaves (calls ++ [.stop app]) id ↔ Leaves calls id ∧ id.app ≠ app := by
  constructor
  · rintro ⟨before, after, hsplit, hstart, hstop⟩
    -- The stop is not the start that was left, so it is one of the calls behind it.
    rcases concat_eq_append_cons hsplit with ⟨-, hlast⟩ | ⟨rest, rfl, hcalls⟩
    · cases hlast
    · simp only [List.mem_append, List.mem_singleton, not_or] at hstart hstop
      refine ⟨⟨before, rest, hcalls, fun id' => (hstart id').1, hstop.1⟩, ?_⟩
      rintro rfl
      exact hstop.2 rfl
  · rintro ⟨⟨before, after, rfl, hstart, hstop⟩, hne⟩
    exact ⟨before, after ++ [.stop app], by simp, by simp [hstart], by simp [hstop, hne]⟩

/-- What is served after a run is what the history leaves served. -/
theorem active_run_eq_some_iff {calls : List RegistryCall} :
    (run {} calls).active = some id ↔ Leaves calls id := by
  -- On the history from its end: the last call tells what it adds and what it takes away.
  induction calls using List.reverseRecOn generalizing id with
  | nil =>
    constructor
    · nofun
    · rintro ⟨before, after, hsplit, -⟩
      simp at hsplit
  | append_singleton calls c ih =>
    rw [run_concat]
    cases c with
    | start id' => rw [call, active_start, leaves_concat_start, Option.some.injEq]
    | stop app => rw [call, active_stop, ih, leaves_concat_stop]

/-- **The served application is told by the history.** After any run of starts and stops it is the
one that was started last, unless it was stopped since, and otherwise there is none. The current
application has its user, so that it is served, and stopping any other one changes nothing. -/
theorem active_run (calls : List RegistryCall) :
    (∀ id, (run {} calls).active = some id ↔ Leaves calls id) ∧
      ((run {} calls).active = none ↔ ∀ id, ¬ Leaves calls id) ∧
      (∀ app, (run {} calls).current = some app →
        ∃ user, (run {} calls).user? app = some user ∧
          (run {} calls).active = some ⟨user, app⟩) ∧
      ∀ app, (∀ user, (run {} calls).active ≠ some ⟨user, app⟩) →
        (run {} (calls ++ [.stop app])).active = (run {} calls).active := by
  refine ⟨fun id => active_run_eq_some_iff, ?_, ?_, ?_⟩
  · simp only [Option.eq_none_iff_forall_ne_some, ne_eq, active_run_eq_some_iff]
  · intro app hcurrent
    obtain ⟨user, huser⟩ := registered_run calls app hcurrent
    exact ⟨user, huser, active_eq_some_iff.mpr ⟨hcurrent, huser⟩⟩
  · -- A stop of any other application changes nothing that is served.
    intro app hother
    ext id
    rw [run_concat, call, active_stop, and_iff_left_iff_imp]
    rintro hactive rfl
    exact hother id.user hactive

/-- An application is started again by another user and outlives a stop of the one that it
replaced; stopping it serves nothing, not even what was started before. -/
theorem active_run_replaced :
    (run {} [.start ⟨"u", "x"⟩, .start ⟨"u", "y"⟩, .start ⟨"v", "x"⟩, .stop "y"]).active
        = some ⟨"v", "x"⟩ ∧
      (run {} ([.start ⟨"u", "x"⟩, .start ⟨"u", "y"⟩] ++ [.stop "y"])).active = none ∧
      (run {} ([.start ⟨"u", "x"⟩, .start ⟨"u", "y"⟩] ++ [.stop "x"])).active
        = some ⟨"u", "y"⟩ := by
  obtain ⟨hserved, -, -, hother⟩ := active_run [.start ⟨"u", "x"⟩, .start ⟨"u", "y"⟩]
  have hactive := (hserved ⟨"u", "y"⟩).mpr ⟨[.start ⟨"u", "x"⟩], [], rfl, by simp, by simp⟩
  refine ⟨?_, ?_, ?_⟩
  · exact ((active_run _).1 _).mpr
      ⟨[.start ⟨"u", "x"⟩, .start ⟨"u", "y"⟩], [.stop "y"], rfl, by simp, by simp⟩
  · rfl
  · rw [hother "x" (by simp [hactive]), hactive]

end Registry

end Shuffle
