import MatrixFlow.Proofs.Bindings
import MatrixFlow.Proofs.Lists
import MatrixFlow.Run.Instance

/-!
# The instances of a job

* `Job.bind_eq_ok`: an instance is its job, bound to a combination.
* `Job.instances_eq_ok`: there is one instance for each combination of the matrix, in order.
* `Job.instances_ne_nil`: a job whose matrix can be expanded has an instance.
* `Job.instances_error`: the error of an expansion belongs to the job.

The name of a variable keeps letters without their case, and digits. Of all other characters it only
keeps that there is one, so that names can share a variable.

* `ShareVariable`: two names of which the variables are the same (`matrixVarName_eq_iff`).
* `Job.bind_get?`: in an instance the variables of the combination lie over all others.
* `Job.instances_variables`: of the names that share a variable the last one is kept, and nothing is
  lost if and only if such names have values of one text.
-/

namespace MatrixFlow

/-! ## Instances -/

theorem Matrix.expand_ne_nil {m : Matrix} {cs : List Combination} (h : m.expand = .ok cs) :
    cs ≠ [] := by
  unfold expand at h
  split at h
  · cases h
  · dsimp only at h
    split at h
    · cases h
      exact List.cons_ne_nil _ _
    · split at h
      · cases h
      · rename_i hne
        cases h
        exact fun hnil => hne (List.isEmpty_iff.mpr hnil)

namespace Job

variable {job : Job} {globals : Env} {workspace : String} {is : List Instance}

theorem bind_eq_ok {index : Nat} {c : Combination} {i : Instance}
    (h : job.bind globals workspace index c = .ok i) :
    i.job = job ∧ i.combination = c ∧ i.workspace = workspace := by
  unfold Job.bind at h
  dsimp only at h
  split at h <;> cases h
  exact ⟨rfl, rfl, rfl⟩

theorem forall₂_of_bindFrom {index : Nat} {cs : List Combination}
    (h : job.bindFrom globals workspace index cs = .ok is) :
    List.Forall₂ (fun c i => ∃ n, job.bind globals workspace n c = .ok i) cs is := by
  induction cs generalizing index is with
  | nil => cases h; exact .nil
  | cons c cs ih =>
    obtain ⟨first, hfirst, h⟩ := except_bind_eq_ok.mp h
    obtain ⟨others, hothers, h⟩ := except_bind_eq_ok.mp h
    cases h
    exact .cons ⟨index, hfirst⟩ (ih hothers)

theorem instances_eq (job : Job) (globals : Env) (workspace : String) :
    job.instances globals workspace =
      match job.matrix.expand with
      | .error cause => .error ⟨job.id, cause⟩
      | .ok cs => (job.bindFrom globals workspace 0 cs).mapError (ExpansionError.mk job.id) := by
  unfold instances combinations
  cases job.matrix.expand <;> rfl

/-- Every combination is bound by itself. -/
theorem instances_eq_ok (h : job.instances globals workspace = .ok is) :
    ∃ cs, job.matrix.expand = .ok cs ∧
      List.Forall₂ (fun c i => ∃ n, job.bind globals workspace n c = .ok i) cs is := by
  rw [instances_eq] at h
  split at h
  · cases h
  · rename_i cs hcs
    cases hb : job.bindFrom globals workspace 0 cs with
    | error cause => rw [hb] at h; cases h
    | ok is' =>
      rw [hb] at h
      cases h
      exact ⟨cs, hcs, forall₂_of_bindFrom hb⟩

theorem exists_bind_of_mem_instances (h : job.instances globals workspace = .ok is) :
    ∀ i ∈ is, ∃ n c, job.bind globals workspace n c = .ok i := by
  obtain ⟨cs, -, hbound⟩ := instances_eq_ok h
  intro i hi
  obtain ⟨c, -, n, hbind⟩ := exists_mem_of_forall₂ hbound i hi
  exact ⟨n, c, hbind⟩

theorem instances_job (h : job.instances globals workspace = .ok is) : ∀ i ∈ is, i.job = job := by
  intro i hi
  obtain ⟨n, c, hbind⟩ := exists_bind_of_mem_instances h i hi
  exact (bind_eq_ok hbind).1

theorem instances_ne_nil (h : job.instances globals workspace = .ok is) : is ≠ [] := by
  obtain ⟨cs, hcs, hbound⟩ := instances_eq_ok h
  rintro rfl
  cases hbound
  exact Matrix.expand_ne_nil hcs rfl

theorem instances_error {e : ExpansionError} (h : job.instances globals workspace = .error e) :
    e.job = job.id := by
  rw [instances_eq] at h
  split at h
  · cases h; rfl
  · rename_i cs _
    cases hb : job.bindFrom globals workspace 0 cs with
    | error cause => rw [hb] at h; cases h; rfl
    | ok is => rw [hb] at h; cases h

end Job

/-! ## Names -/

/-- What a character of a name becomes in the variable. -/
def varChar (c : Char) : Char := if c.isAlphanum then c.toUpper else '_'

/-- Two characters that a variable does not tell apart: the same letter or digit up to case, or two
that are neither letters nor digits. -/
def AlikeInVariable (c d : Char) : Prop :=
  (c.isAlphanum = true ∧ d.isAlphanum = true ∧ c.toUpper = d.toUpper) ∨
    (c.isAlphanum = false ∧ d.isAlphanum = false)

/-- The names are as long as each other, and no variable tells their characters apart. -/
def ShareVariable (name name' : String) : Prop :=
  List.Forall₂ AlikeInVariable name.toList name'.toList

theorem toUpper_ne_underscore {c : Char} (h : c.isAlphanum = true) : c.toUpper ≠ '_' := by
  intro heq
  unfold Char.toUpper at heq
  split at heq
  · rename_i hlow
    have hval := Char.ext_iff.mp heq
    dsimp only at hval
    -- what would be raised to an underscore is no letter
    have hc : c.val = '_'.val - ('A'.val - 'a'.val) := by rw [← hval, UInt32.add_sub_cancel]
    rw [hc] at hlow
    exact absurd hlow.2 (by decide)
  · subst heq
    exact absurd h (by decide)

theorem varChar_eq_iff {c d : Char} : varChar c = varChar d ↔ AlikeInVariable c d := by
  unfold varChar AlikeInVariable
  cases hc : c.isAlphanum with
  | false =>
    cases hd : d.isAlphanum with
    | false => simp
    | true => simpa using (toUpper_ne_underscore hd).symm
  | true =>
    cases hd : d.isAlphanum with
    | false => simpa using toUpper_ne_underscore hc
    | true => simp

theorem matrixVarName_eq_iff {name name' : String} :
    matrixVarName name = matrixVarName name' ↔ ShareVariable name name' := by
  have hchars : ∀ n : String, matrixVarName n = "MATRIX_" ++ String.ofList (n.toList.map varChar) :=
    fun _ => rfl
  rw [hchars, hchars, String.append_right_inj, String.ofList_inj, ← List.forall₂_eq_eq_eq,
    List.forall₂_map_left_iff, List.forall₂_map_right_iff, ShareVariable]
  simp only [varChar_eq_iff]

/-! ## Instances -/

namespace Job

variable {job : Job} {globals : Env} {workspace : String} {c : Combination} {b : String × Json}

/-- The last binding whose name shares the variable of a bound name gives the variable its value. -/
theorem exists_last_matrixVars (hb : b ∈ c.bindings) : ∃ before d after,
    c.bindings = before ++ d :: after ∧ ShareVariable d.1 b.1 ∧
      (∀ e ∈ after, ¬ShareVariable e.1 b.1) ∧
      lastBound (matrixVars c) (matrixVarName b.1) = some (valueText d.2) := by
  have hmem : matrixVarName b.1 ∈ (matrixVars c).map (·.1) :=
    List.mem_map.mpr ⟨_, List.mem_map.mpr ⟨b, hb, rfl⟩, rfl⟩
  obtain ⟨vars, v, vars', hvars, hafter, hlast⟩ := exists_last hmem
  obtain ⟨before, rest, hbindings, -, hrest⟩ := List.map_eq_append_iff.mp hvars
  obtain ⟨d, after, rfl, hd, rfl⟩ := List.map_eq_cons_iff.mp hrest
  obtain ⟨hname, hvalue⟩ := Prod.mk.inj hd
  refine ⟨before, d, after, hbindings, matrixVarName_eq_iff.mp hname, fun e he hshare => ?_, ?_⟩
  · refine hafter (List.mem_map.mpr ⟨_, List.mem_map.mpr ⟨e, he, rfl⟩, ?_⟩)
    exact matrixVarName_eq_iff.mpr hshare
  · rw [hlast, hvalue]

/-- The variables of the combination lie over all others of an instance. -/
theorem bind_get? {n : Nat} {i : Instance} (h : job.bind globals workspace n c = .ok i) :
    ∃ below : Env, ∀ name,
      i.env.get? name = (lastBound (matrixVars i.combination) name).or (below.get? name) := by
  unfold Job.bind at h
  dsimp only at h
  split at h
  · cases h
  · cases h
    exact ⟨_, fun name => Env.get?_extend _ _ name⟩

/-- What becomes of the bindings of a combination in the environment of its instance. Two names
share a variable if and only if they have as many characters, and the same ones up to the case of
letters and apart from the kind of all that are neither letters nor digits. A variable has the value
of the last binding whose name shares it. So every binding finds its value under its name if and
only if bindings whose names share a variable have values of one text. -/
theorem instances_variables {is : List Instance}
    (h : job.instances globals workspace = .ok is) :
    (∀ name name', matrixVarName name = matrixVarName name' ↔ ShareVariable name name') ∧
    ∀ i ∈ is,
      (∀ b ∈ i.combination.bindings, ∃ before d after,
        i.combination.bindings = before ++ d :: after ∧ ShareVariable d.1 b.1 ∧
          (∀ e ∈ after, ¬ShareVariable e.1 b.1) ∧
          i.env.get? (matrixVarName b.1) = some (valueText d.2)) ∧
      ((∀ b ∈ i.combination.bindings,
          i.env.get? (matrixVarName b.1) = some (valueText b.2)) ↔
        ∀ b ∈ i.combination.bindings, ∀ d ∈ i.combination.bindings,
          ShareVariable b.1 d.1 → valueText b.2 = valueText d.2) := by
  refine ⟨fun _ _ => matrixVarName_eq_iff, fun i hi => ?_⟩
  obtain ⟨n, c, hbind⟩ := exists_bind_of_mem_instances h i hi
  obtain ⟨below, henv⟩ := bind_get? hbind
  have hlast : ∀ b ∈ i.combination.bindings, ∃ before d after,
      i.combination.bindings = before ++ d :: after ∧ ShareVariable d.1 b.1 ∧
        (∀ e ∈ after, ¬ShareVariable e.1 b.1) ∧
        i.env.get? (matrixVarName b.1) = some (valueText d.2) := by
    intro b hb
    obtain ⟨before, d, after, hbindings, hshare, hafter, hvalue⟩ := exists_last_matrixVars hb
    exact ⟨before, d, after, hbindings, hshare, hafter, by rw [henv, hvalue, Option.some_or]⟩
  refine ⟨hlast, fun hkept b hb d hd hshare => ?_, fun hagree b hb => ?_⟩
  · have hb' := hkept b hb
    rw [matrixVarName_eq_iff.mpr hshare, hkept d hd] at hb'
    exact (Option.some.inj hb').symm
  · obtain ⟨before, d, after, hbindings, hshare, -, hvalue⟩ := hlast b hb
    have hd : d ∈ i.combination.bindings := by rw [hbindings]; simp
    rw [hvalue, hagree d hd b hb hshare]

end Job

namespace Sample

/-- A job that varies over two axes with one value each. -/
def twoAxes (name name' : String) : Job :=
  ⟨"build", none, .label "linux", [], ⟨[⟨name, [.str "x"]⟩, ⟨name', [.str "y"]⟩], [], []⟩, true,
    none, none, []⟩

/-- The only choice of values. -/
def choice (name name' : String) : Combination :=
  ⟨[(name, .str "x"), (name', .str "y")]⟩

/-- The only instance of the job. -/
def choiceInst (name name' : String) : Instance :=
  ⟨twoAxes name name', 0, choice name name', "linux",
    (twoAxes name name').instanceEnv Env.empty (choice name name') "linux" ".", "."⟩

end Sample

namespace Job

/-- Names that differ in more than their case and their separators have variables of their own. -/
theorem instances_variables_sample :
    (Sample.twoAxes "rust-version" "os").instances Env.empty "." =
      .ok [Sample.choiceInst "rust-version" "os"] ∧
    (Sample.choiceInst "rust-version" "os").env.get? "MATRIX_RUST_VERSION" = some "x" ∧
    (Sample.choiceInst "rust-version" "os").env.get? "MATRIX_OS" = some "y" := by
  have his : (Sample.twoAxes "rust-version" "os").instances Env.empty "." =
      .ok [Sample.choiceInst "rust-version" "os"] := rfl
  obtain ⟨hshare, hinst⟩ := instances_variables his
  have hkept := (hinst _ (List.mem_singleton_self _)).2.mpr
  have hall := hkept fun b hb d hd h => by
    have hname := (hshare b.1 d.1).mpr h
    rcases List.mem_pair.mp hb with rfl | rfl <;> rcases List.mem_pair.mp hd with rfl | rfl
    · rfl
    · exact absurd hname (by decide)
    · exact absurd hname (by decide)
    · rfl
  exact ⟨his, hall _ List.mem_cons_self, hall _ (List.mem_cons_of_mem _ List.mem_cons_self)⟩

/-- Two names that differ in a separator only share a variable. The first binding is lost: no
variable has its value. -/
theorem instances_lose_binding :
    (Sample.twoAxes "a-b" "a_b").instances Env.empty "." = .ok [Sample.choiceInst "a-b" "a_b"] ∧
    ("a-b", .str "x") ∈ (Sample.choiceInst "a-b" "a_b").combination.bindings ∧
    (Sample.choiceInst "a-b" "a_b").env.get? (matrixVarName "a-b") ≠ some (valueText (.str "x")) ∧
    (Sample.choiceInst "a-b" "a_b").env.get? (matrixVarName "a-b") = some "y" := by
  have hvalue : (Sample.choiceInst "a-b" "a_b").env.get? (matrixVarName "a-b") = some "y" := by
    decide
  refine ⟨rfl, List.mem_cons_self, ?_, hvalue⟩
  rw [hvalue]
  decide

end Job

end MatrixFlow
