import Mathlib
import Shuffle.Pull.Chunk
import Shuffle.Proofs.Decimal
import Shuffle.Proofs.Store.Walk

/-!
# Names that the layout of task output is made of

Apart from the user and the application, every name in the path of an attempt's output is fixed or
a number in decimal. So these names can be taken from a path again: attempts with different numbers
have their data at different places.

- `TaskAttempt.render_injective`: the name of an attempt determines it.
- `Layout.dataPath` is the path of the file that an attempt's output is read from, and
  `Layout.names_of_dataPath` the names that it ends with.
-/

namespace Shuffle

/-! ## §1 Numbers as names -/

namespace Decimal

/-- No character takes more than four octets. -/
private theorem utf8ByteSize_le (text : String) : text.utf8ByteSize ≤ 4 * text.toList.length := by
  have hchars (cs : List Char) : String.utf8Len cs ≤ 4 * cs.length := by
    induction cs with
    | nil => simp
    | cons c cs ih =>
      have hc := c.utf8Size_le_four
      rw [String.utf8Len_cons, List.length_cons]
      omega
  rw [← String.ofList_toList (s := text), String.utf8ByteSize_ofList, String.toList_ofList]
  exact hchars text.toList

/-- Numbers of 32 bits make short names. -/
theorem utf8ByteSize_numeral_le (n : UInt32) : (numeral n.toNat).utf8ByteSize ≤ 40 := by
  have hdigits : (numeral n.toNat).toList.length ≤ 10 := by
    have hbound := n.toNat_lt
    rw [String.length_toList]
    exact Nat.repr_length n.toNat 10 (by decide) (by omega)
  have hoctets := utf8ByteSize_le (numeral n.toNat)
  omega

end Decimal

/-- Neither of the names that stand for directories has a digit. -/
theorem Path.isName_of_digit {name : String} (hdigit : ∃ d ∈ name.toList, d.isDigit = true)
    (hslash : '/' ∉ name.toList) (hzero : '\x00' ∉ name.toList) : Path.IsName name := by
  obtain ⟨d, hd, hdigit⟩ := hdigit
  -- A text of dots alone has no character but the dot.
  have hdot : name.toList ⊆ ['.'] → False := by
    intro hdots
    rw [List.mem_singleton.mp (hdots hd)] at hdigit
    cases hdigit
  refine ⟨?_, hslash, hzero, ?_, ?_⟩
  · rintro rfl
    simp at hd
  · rintro rfl
    exact hdot (by simp)
  · rintro rfl
    exact hdot (by simp)

/-- A number is a name of a directory or a file. -/
theorem Decimal.isName_numeral (n : Nat) : Path.IsName (numeral n) :=
  Path.isName_of_digit (exists_digit_mem_numeral n) (notMem_numeral rfl) (notMem_numeral rfl)

namespace TaskAttempt

/-- An attempt is a name of a directory. -/
theorem isName_render (a : TaskAttempt) : Path.IsName a.render := by
  have hother {c : Char} (hc : c.isDigit = false) (hsep : c ≠ '_') : c ∉ a.render.toList := by
    rw [toList_render]
    simp [Decimal.notMem_numeral hc, hsep]
  apply Path.isName_of_digit _ (hother rfl (by decide)) (hother rfl (by decide))
  obtain ⟨d, hd, hdigit⟩ := Decimal.exists_digit_mem_numeral a.task.toNat
  exact ⟨d, by rw [toList_render]; exact List.mem_append_left _ hd, hdigit⟩

/-- Names of attempts are short enough for a directory. -/
theorem utf8ByteSize_render_le (a : TaskAttempt) : a.render.utf8ByteSize ≤ 81 := by
  have htask := Decimal.utf8ByteSize_numeral_le a.task
  have hattempt := Decimal.utf8ByteSize_numeral_le a.attempt
  have hseparator : "_".utf8ByteSize = 1 := rfl
  rw [render, String.utf8ByteSize_append, String.utf8ByteSize_append, hseparator]
  omega

/-- The name of an attempt determines it. -/
theorem render_injective {a b : TaskAttempt} (h : a.render = b.render) : a = b := by
  have hchars := congrArg String.toList h
  rw [toList_render, toList_render] at hchars
  -- Digits are no separators, so both names are cut at the same place.
  obtain ⟨htask, -, hattempt⟩ := (List.append_cons_inj_of_notMem
    (Decimal.notMem_numeral rfl) (Decimal.notMem_numeral rfl)).mp hchars
  have htask' := Decimal.numeral_injective (String.toList_injective htask)
  have hattempt' := Decimal.numeral_injective (String.toList_injective hattempt)
  cases a
  cases b
  simp_all [UInt32.toNat_inj]

end TaskAttempt

/-! ## §2 Where output is kept -/

/-- An application whose user and name are single names. -/
structure AppIdentity.IsPlain (id : AppIdentity) : Prop where
  user : Path.IsName id.user
  app : Path.IsName id.app

instance : DecidablePred AppIdentity.IsPlain := fun id =>
  decidable_of_iff (Path.IsName id.user ∧ Path.IsName id.app)
    ⟨fun ⟨h₁, h₂⟩ => ⟨h₁, h₂⟩, fun ⟨h₁, h₂⟩ => ⟨h₁, h₂⟩⟩

namespace Layout

variable {layout : Layout} {store : FileStore} {id : AppIdentity} {request : FetchRequest}
  {attempt : TaskAttempt} {p : Path}

/-- The directory below which all output of an application is kept, from a local directory on. -/
def outputTree (id : AppIdentity) : Path :=
  [⟨id.user⟩, ⟨"appcache"⟩, ⟨id.app⟩, ⟨"output"⟩].foldl Path.join ⟨"usercache"⟩

/-- The names of the output directory of an attempt, from the application's output on. -/
def attemptNames (stage : UInt32) (attempt : TaskAttempt) : List String :=
  [Decimal.numeral stage.toNat, attempt.render, "output"]

/-- The names of that directory. -/
def treeNames (id : AppIdentity) : List String :=
  ["usercache", id.user, "appcache", id.app, "output"]

theorem isName_output : Path.IsName "output" := by decide

theorem isName_index : Path.IsName "index" := by decide

/-- The tree of a plain application is made of names. -/
theorem isName_treeNames (h : id.IsPlain) : ∀ name ∈ treeNames id, Path.IsName name := by
  have husercache : Path.IsName "usercache" := by decide
  have happcache : Path.IsName "appcache" := by decide
  simp [treeNames, husercache, happcache, isName_output, h.user, h.app]

/-- All directories of an attempt have plain names. -/
theorem isName_attemptNames (stage : UInt32) (attempt : TaskAttempt) :
    ∀ name ∈ attemptNames stage attempt, Path.IsName name := by
  simp [attemptNames, Decimal.isName_numeral, TaskAttempt.isName_render, isName_output]

private theorem outputTree_eq (id : AppIdentity) :
    outputTree id = (⟨"usercache"⟩ : Path).below [id.user, "appcache", id.app, "output"] := by
  simp only [outputTree, Path.below, List.foldl_cons, List.foldl_nil]

/-- The outputs of an attempt lie below the tree of its application. -/
theorem taskDir_eq (id : AppIdentity) (stage : UInt32) (attempt : TaskAttempt) :
    taskDir id stage attempt = (outputTree id).below (attemptNames stage attempt) := by
  simp only [taskDir, outputTree, attemptNames, Path.below, List.foldl_cons, List.foldl_nil]

/-- The directories of an output tree, from the local directory down. -/
theorem entries_outputTree (h : id.IsPlain) : (outputTree id).entries = treeNames id := by
  have hnames := isName_treeNames h
  rw [treeNames, List.forall_mem_cons] at hnames
  rw [outputTree_eq, Path.entries_below _ hnames.2, hnames.1.entries]
  rfl

theorem isAbsolute_outputTree (h : id.IsPlain) : (outputTree id).isAbsolute = false := by
  have hnames := isName_treeNames h
  rw [treeNames, List.forall_mem_cons] at hnames
  rw [outputTree_eq, Path.isAbsolute_below _ hnames.2, hnames.1.isAbsolute]

/-- The path of the tree goes downwards only. -/
theorem isPlain_outputTree (h : id.IsPlain) : (outputTree id).IsPlain := by
  intro name hname
  rw [entries_outputTree h] at hname
  exact isName_treeNames h name hname

theorem endsInName_outputTree (id : AppIdentity) : (outputTree id).EndsInName := by
  rw [outputTree_eq]
  exact isName_output.endsInName.join _

/-- The names of the attempt come below those of the tree. -/
theorem entries_taskDir (id : AppIdentity) (stage : UInt32) (attempt : TaskAttempt) :
    (taskDir id stage attempt).entries
      = (outputTree id).entries ++ attemptNames stage attempt := by
  rw [taskDir_eq, Path.entries_below _ (isName_attemptNames stage attempt)]

theorem isAbsolute_taskDir (h : id.IsPlain) {stage : UInt32} :
    (taskDir id stage attempt).isAbsolute = false := by
  rw [taskDir_eq, Path.isAbsolute_below _ (isName_attemptNames stage attempt),
    isAbsolute_outputTree h]

/-- The path of an attempt goes downwards only. -/
theorem isPlain_taskDir (h : id.IsPlain) {stage : UInt32} :
    (taskDir id stage attempt).IsPlain := by
  rw [taskDir_eq]
  exact (isPlain_outputTree h).below (isName_attemptNames stage attempt)

theorem endsInName_taskDir (id : AppIdentity) (stage : UInt32) (attempt : TaskAttempt) :
    (taskDir id stage attempt).EndsInName := by
  rw [taskDir_eq]
  exact Path.endsInName_below _ (isName_attemptNames stage attempt) (by simp [attemptNames])

/-! ## §3 The data of an attempt -/

/-- The path of the file that the output of an attempt is read from. -/
def dataPath (layout : Layout) (store : FileStore) (id : AppIdentity) (request : FetchRequest)
    (attempt : TaskAttempt) : Except PullFault Path :=
  match request.kind with
  | .hash => layout.hashFile store id request.stage attempt request.partition
  | .range .. => (layout.rangeDir store id request.stage attempt).map (·.join dataFile)

/-- What is found is in one of the local directories. -/
theorem find_eq_ok {relative : Path} (h : layout.find store relative = .ok p) :
    ∃ d ∈ layout.localDirs, p = d.join relative ∧ store.holds p = true := by
  unfold find at h
  split at h
  next found hfound =>
    obtain rfl := Except.ok.inj h
    obtain ⟨d, hd, hjoin⟩ := List.mem_map.mp (List.mem_of_find?_eq_some hfound)
    exact ⟨d, hd, hjoin.symm, List.find?_some hfound⟩
  next => cases h

/-- The directory of a range output is one that holds its data file. -/
theorem rangeDir_eq_ok {stage : UInt32} (h : layout.rangeDir store id stage attempt = .ok p) :
    ∃ d ∈ layout.localDirs, p = d.join (taskDir id stage attempt) ∧
      store.holds (d.join ((taskDir id stage attempt).join dataFile)) = true := by
  unfold rangeDir at h
  dsimp only at h
  split at h
  next d hfound =>
    have hholds := List.find?_some hfound
    exact ⟨d, List.mem_of_find?_eq_some hfound, (Except.ok.inj h).symm, hholds⟩
  next => cases h

/-- The name of an attempt is the second from the end of the path of its output directory,
whatever the user and the application are called. -/
private theorem names_of_taskDir (id : AppIdentity) (stage : UInt32) (attempt : TaskAttempt) :
    [attempt.render, "output"] <:+ (taskDir id stage attempt).entries := by
  rw [entries_taskDir]
  exact ⟨(outputTree id).entries ++ [Decimal.numeral stage.toNat], by simp [attemptNames]⟩

/-- The last names of a path stay the last when one more is added. -/
private theorem names_of_join {dir : Path} {names : List String} {last : String}
    (hlast : Path.IsName last) (h : names <:+ dir.entries) :
    names ++ [last] <:+ (dir.join ⟨last⟩).entries := by
  rw [Path.entries_join hlast.isAbsolute, hlast.entries]
  exact List.suffix_append_inj_of_length_eq rfl |>.mpr ⟨h, rfl⟩

/-- The name of an attempt is the third from the end of the path of its data. -/
theorem names_of_dataPath (h : layout.dataPath store id request attempt = .ok p) :
    ∃ last, Path.IsName last ∧ [attempt.render, "output", last] <:+ p.entries ∧
      p.EndsInName := by
  have hdir := names_of_taskDir id request.stage attempt
  unfold dataPath at h
  split at h
  · -- The file of a bucket has the name of the bucket.
    rw [hashFile] at h
    obtain ⟨d, -, hp, -⟩ := find_eq_ok h
    rw [hp]
    have hbucket := Decimal.isName_numeral request.partition.toNat
    refine ⟨_, hbucket, ?_, ?_⟩
    · exact (names_of_join hbucket hdir).trans (Path.entries_suffix_join d _)
    · exact (hbucket.endsInName.join _).join d
  · -- The file of a range output is always called the same.
    obtain ⟨dir, hdir', hp⟩ := Fallible.map_eq_ok.mp h
    obtain ⟨d, -, hd, -⟩ := rangeDir_eq_ok hdir'
    rw [← hp, hd]
    refine ⟨"output", isName_output, ?_, ?_⟩
    · exact names_of_join isName_output (hdir.trans (Path.entries_suffix_join d _))
    · exact isName_output.endsInName.join _

/-- Attempts whose data is at one place are one attempt. -/
theorem attempt_of_locate {attempt' : TaskAttempt} {p' : Path} {l : Location}
    (h : layout.dataPath store id request attempt = .ok p)
    (h' : layout.dataPath store id request attempt' = .ok p') (hl : store.locate p = .ok l)
    (hl' : store.locate p' = .ok l) : attempt = attempt' := by
  have hends {a : TaskAttempt} {q : Path} (hq : layout.dataPath store id request a = .ok q)
      (hplace : store.locate q = .ok l) : ∃ last, [a.render, "output", last] <:+ l.names := by
    obtain ⟨last, hlast, hsuffix, hend⟩ := names_of_dataPath hq
    refine ⟨last, FileStore.suffix_of_locate ?_ hend hsuffix hplace⟩
    simp [TaskAttempt.isName_render, isName_output, hlast]
  obtain ⟨last, hsuffix⟩ := hends h hl
  obtain ⟨last', hsuffix'⟩ := hends h' hl'
  have hsame := (List.suffix_of_suffix_length_le hsuffix hsuffix' (by simp)).eq_of_length (by simp)
  exact TaskAttempt.render_injective (List.head_eq_of_cons_eq hsame)

end Layout

end Shuffle
