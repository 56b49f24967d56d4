import MatrixFlow.Proofs.Lists
import MatrixFlow.Workflow.Check.Place

/-!
# When checks succeed

What a failed check says, and where it points, does not matter here.

* `Passes`: a check succeeds. There is one lemma for each way in which checks are put together.
* `Template.WellFormed`, `Check.EnvOk`: what the checks of texts and of variables ask for.
-/

namespace MatrixFlow

open Yaml (Value)

/-! ## Combining checks -/

section Passes

variable {ε α β : Type} {x : Except ε α} {f : α → Except ε β} {Q : Prop}

/-- The check succeeds. -/
def Passes (x : Except ε α) : Prop := ∃ a, x = .ok a

@[simp] theorem passes_ok (a : α) : Passes (.ok a : Except ε α) := ⟨a, rfl⟩

@[simp] theorem not_passes_error (e : ε) : ¬Passes (.error e : Except ε α) := fun ⟨_, h⟩ => by
  cases h

theorem passes_bind : Passes (x >>= f) ↔ ∃ a, x = .ok a ∧ Passes (f a) := by
  constructor
  · rintro ⟨b, h⟩
    obtain ⟨a, ha, hb⟩ := except_bind_eq_ok.mp h
    exact ⟨a, ha, b, hb⟩
  · rintro ⟨a, ha, b, hb⟩
    exact ⟨b, except_bind_eq_ok.mpr ⟨a, ha, hb⟩⟩

/-- Two checks one after the other, of which the second one does not depend on what the first one
made. -/
theorem passes_bind_iff (h : ∀ a, Passes (f a) ↔ Q) : Passes (x >>= f) ↔ Passes x ∧ Q := by
  rw [passes_bind]
  constructor
  · rintro ⟨a, ha, hf⟩
    exact ⟨⟨a, ha⟩, (h a).mp hf⟩
  · rintro ⟨⟨a, ha⟩, hq⟩
    exact ⟨a, ha, (h a).mpr hq⟩

/-- A check and a step that cannot fail. -/
theorem passes_bind_ok (h : ∀ a, Passes (f a)) : Passes (x >>= f) ↔ Passes x := by
  rw [passes_bind_iff fun a => iff_true_intro (h a), and_true]

theorem passes_map {g : α → β} : Passes (g <$> x) ↔ Passes x := by
  cases x with
  | error e => exact iff_of_false (not_passes_error e) (not_passes_error e)
  | ok a => exact iff_of_true (passes_ok (g a)) (passes_ok a)

theorem passes_mapM {l : List α} : Passes (l.mapM f) ↔ ∀ a ∈ l, Passes (f a) := by
  induction l with
  | nil => exact ⟨fun _ _ h => by simp at h, fun _ => ⟨[], rfl⟩⟩
  | cons a l ih =>
    rw [List.mapM_cons, List.forall_mem_cons, ← ih]
    exact passes_bind_iff fun _ => passes_bind_ok fun _ => ⟨_, rfl⟩

theorem mapM_eq_ok {l : List α} {bs : List β} {P : α → Prop} {g : α → β}
    (h : ∀ a b, f a = .ok b ↔ P a ∧ b = g a) :
    l.mapM f = .ok bs ↔ (∀ a ∈ l, P a) ∧ bs = l.map g := by
  induction l generalizing bs with
  | nil => exact ⟨fun h => ⟨fun _ h => by simp at h, by cases h; rfl⟩, fun h => by rw [h.2]; rfl⟩
  | cons a l ih =>
    rw [List.mapM_cons, except_bind_eq_ok, List.forall_mem_cons, List.map_cons]
    constructor
    · rintro ⟨b, hb, hrest⟩
      obtain ⟨bs', hbs, hcons⟩ := except_bind_eq_ok.mp hrest
      cases hcons
      obtain ⟨hp, rfl⟩ := (h a b).mp hb
      obtain ⟨hps, rfl⟩ := ih.mp hbs
      exact ⟨⟨hp, hps⟩, rfl⟩
    · rintro ⟨⟨hp, hps⟩, rfl⟩
      exact ⟨g a, (h a _).mpr ⟨hp, rfl⟩, except_bind_eq_ok.mpr ⟨_, ih.mpr ⟨hps, rfl⟩, rfl⟩⟩

theorem passes_forIn {f : α → Except ε Unit} {l : List α} :
    Passes (forIn l PUnit.unit fun a _ => do
      f a
      pure (ForInStep.yield PUnit.unit)) ↔ ∀ a ∈ l, Passes (f a) := by
  induction l with
  | nil => exact ⟨fun _ _ h => by simp at h, fun _ => ⟨_, rfl⟩⟩
  | cons a l ih =>
    rw [List.forIn_cons, List.forall_mem_cons, ← ih]
    cases f a with
    | error e => simp [Bind.bind, Except.bind]
    | ok u => simp [Bind.bind, Except.bind, Pure.pure, Except.pure]

end Passes

/-! ## Texts and variables -/

/-- Every reference in the text is well formed. -/
def Template.WellFormed (text : String) : Prop := check text = .ok ()

namespace Check

variable {source owner key : String}

@[simp] theorem not_passes_reject {α : Type} (source message key : String) :
    ¬Passes (reject source message key : Checked α) := not_passes_error _

@[simp] theorem not_passes_rejectWith {α : Type} (source message key hint : String) :
    ¬Passes (rejectWith source message key hint : Checked α) := not_passes_error _

/-- A test in front of a check. -/
theorem passes_unless {α : Type} {c : Prop} [Decidable c] {y : Checked PUnit} {x : Checked α}
    (hy : ¬Passes y) : Passes (do
      if c then y
      x) ↔ ¬c ∧ Passes x := by
  by_cases hc : c
  · simp only [hc, if_true, not_true, false_and, iff_false]
    exact fun h => hy ((passes_bind.mp h).imp fun _ h => h.1)
  · simp [hc]

theorem unless_eq_ok {α : Type} {c : Prop} [Decidable c] {y : Checked PUnit} {x : Checked α} {a : α}
    (hy : ¬Passes y) : (do
      if c then y
      x) = .ok a ↔ ¬c ∧ x = .ok a := by
  by_cases hc : c
  · simp only [hc, if_true, not_true, false_and, iff_false]
    intro h
    obtain ⟨u, hu, -⟩ := except_bind_eq_ok.mp h
    exact hy ⟨u, hu⟩
  · simp [hc]

/-- The value is a scalar without a tag, and its text a template. -/
def VarOk (v : Value) : Prop := ∃ text, scalarText? v = some text ∧ Template.WellFormed text

/-- The values of all variables are. -/
def EnvOk (vars : List (String × Value)) : Prop := ∀ b ∈ vars, VarOk b.2

theorem passes_checkTemplate {text : String} :
    Passes (checkTemplate source text key owner) ↔ Template.WellFormed text := by
  unfold checkTemplate Template.WellFormed
  split
  · rename_i h
    simp [h]
  · rename_i e h
    simp [h]

theorem passes_checkVar {name : String} {v : Value} :
    Passes (checkVar source key name v) ↔ VarOk v := by
  unfold checkVar VarOk
  split
  · rename_i h
    simp [h]
  · rename_i text h
    rw [passes_bind_ok fun _ => passes_ok _, passes_checkTemplate]
    simp [h]

theorem passes_checkEnv {vars : List (String × Value)} :
    Passes (checkEnv source key vars) ↔ EnvOk vars := by
  simp only [checkEnv, passes_mapM, passes_checkVar, EnvOk]

end Check

end MatrixFlow
