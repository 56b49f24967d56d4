import Mathlib.Data.List.Forall2

/-!
# Lists

General facts about lists that the proofs about runs need: lists with one element replaced, lists
that go together element by element, lists made from lists, counts, and `mapM` in `Option` and
`Except`.
-/

namespace MatrixFlow

/-! ## One after the other -/

section Pairs

variable {α β : Type} {R S : α → β → Prop} {P : β → Prop} {as : List α} {bs : List β} {a : α}
  {b : β} {j : Nat}

theorem exists_getElem?_of_forall₂ (h : List.Forall₂ R as bs) (ha : as[j]? = some a) :
    ∃ b, bs[j]? = some b ∧ R a b := by
  induction h generalizing j with
  | nil => cases ha
  | @cons a' b' as bs hab _ ih =>
    cases j with
    | zero => cases ha; exact ⟨b', rfl, hab⟩
    | succ j => exact ih ha

theorem exists_mem_of_forall₂ (h : List.Forall₂ R as bs) : ∀ b ∈ bs, ∃ a ∈ as, R a b := by
  induction h with
  | nil => simp
  | @cons a b as bs hab _ ih =>
    refine List.forall_mem_cons.mpr ⟨⟨a, List.mem_cons_self, hab⟩, fun b' hb' => ?_⟩
    obtain ⟨a', ha', hr⟩ := ih b' hb'
    exact ⟨a', List.mem_cons_of_mem a ha', hr⟩

theorem forall₂_set (h : List.Forall₂ R as bs) (hab : R a b) :
    List.Forall₂ R (as.set j a) (bs.set j b) := by
  induction h generalizing j with
  | nil => exact .nil
  | cons hab' hrest ih =>
    cases j with
    | zero => exact .cons hab hrest
    | succ j => exact .cons hab' ih

/-- What two lists have to do with a third one, they have to do with each other. -/
theorem forall₂_of_common {γ : Type} {Q : α → γ → Prop} {T : β → γ → Prop} {cs : List γ}
    (hr : List.Forall₂ R as bs) (hq : List.Forall₂ Q as cs)
    (h : ∀ a ∈ as, ∀ b c, R a b → Q a c → T b c) : List.Forall₂ T bs cs := by
  induction hr generalizing cs with
  | nil => cases hq; exact .nil
  | @cons a b as bs hab _ ih =>
    cases hq with
    | cons hac hrest =>
      exact .cons (h a List.mem_cons_self b _ hab hac)
        (ih hrest fun a' ha' => h a' (List.mem_cons_of_mem a ha'))

/-- What pairs say of their second halves, one after the other, they say of them all. -/
theorem forall_mem_iff_forall₂ (h : List.Forall₂ R as bs)
    (hs : ∀ a ∈ as, ∀ b, R a b → (P b ↔ S a b)) : (∀ b ∈ bs, P b) ↔ List.Forall₂ S as bs := by
  induction h with
  | nil => simp
  | @cons a b as bs hab _ ih =>
    have ih := ih fun a' ha' => hs a' (List.mem_cons_of_mem a ha')
    simp [hs a List.mem_cons_self b hab, ih]

theorem exists_mem_iff_of_forall₂ {T : β → Prop} {Q : α → Prop} (h : List.Forall₂ R as bs)
    (hs : ∀ a ∈ as, ∀ b, R a b → (P b ↔ Q a ∨ T b)) :
    (∃ b ∈ bs, P b) ↔ (∃ a ∈ as, Q a) ∨ ∃ b ∈ bs, T b := by
  induction h with
  | nil => simp
  | @cons a b as bs hab _ ih =>
    have ih := ih fun a' ha' => hs a' (List.mem_cons_of_mem a ha')
    rw [List.exists_mem_cons_iff, List.exists_mem_cons_iff, List.exists_mem_cons_iff,
      hs a List.mem_cons_self b hab, ih]
    exact or_or_or_comm

theorem forall₂_map_self {f : α → β} (h : ∀ a ∈ as, R a (f a)) : List.Forall₂ R as (as.map f) :=
  List.forall₂_map_right_iff.mpr (List.forall₂_same.mpr h)

end Pairs

/-! ## Lists made from lists -/

section Made

variable {α β : Type}

theorem exists_mem_flatMap {P : β → Prop} {f : α → List β} {as : List α} :
    (∃ b ∈ as.flatMap f, P b) ↔ ∃ a ∈ as, ∃ b ∈ f a, P b := by
  constructor
  · rintro ⟨b, hb, hp⟩
    obtain ⟨a, ha, hb⟩ := List.mem_flatMap.mp hb
    exact ⟨a, ha, b, hb, hp⟩
  · rintro ⟨a, ha, b, hb, hp⟩
    exact ⟨b, List.mem_flatMap.mpr ⟨a, ha, hb⟩, hp⟩

theorem forall_mem_intercalate {P : α → Prop} {sep : List α} {ls : List (List α)}
    (hsep : ∀ a ∈ sep, P a) (h : ∀ l ∈ ls, ∀ a ∈ l, P a) : ∀ a ∈ sep.intercalate ls, P a := by
  induction ls with
  | nil => simp [List.intercalate]
  | cons l ls ih =>
    obtain ⟨hl, hls⟩ := List.forall_mem_cons.mp h
    cases ls with
    | nil => simpa [List.intercalate] using hl
    | cons l' ls =>
      have hsplit : sep.intercalate (l :: l' :: ls) = l ++ sep ++ sep.intercalate (l' :: ls) := by
        simp [List.intercalate]
      rw [hsplit, List.forall_mem_append, List.forall_mem_append]
      exact ⟨⟨hl, hsep⟩, ih hls⟩

/-- Positions that are not looked at do not matter. -/
theorem map_zipIdx {f : α × Nat → β} {g : α → β} (h : ∀ a i, f (a, i) = g a) (as : List α) :
    as.zipIdx.map f = as.map g := by
  conv_rhs => rw [← List.zipIdx_map_fst 0 as, List.map_map]
  exact List.map_congr_left fun p _ => h p.1 p.2

/-- The elements of a list from one position on and before another, by their positions. -/
theorem filter_zipIdx (l : List α) (start low high : Nat) :
    (l.zipIdx start).filter (fun p => start + low ≤ p.2 ∧ p.2 < start + high) =
      ((l.take high).drop low).zipIdx (start + low) := by
  induction l generalizing start low high with
  | nil => simp
  | cons a l ih =>
    have hlater : ∀ p ∈ l.zipIdx (start + 1), start < p.2 := fun p hp =>
      List.le_snd_of_mem_zipIdx hp
    cases high with
    | zero =>
      rw [List.take_zero, List.drop_nil, List.zipIdx_nil, List.filter_eq_nil_iff]
      intro p hp
      have := List.le_snd_of_mem_zipIdx hp
      simp
      omega
    | succ high =>
      cases low with
      | zero =>
        have ih := ih (start + 1) 0 high
        rw [List.drop_zero] at ih
        rw [List.zipIdx_cons, List.filter_cons_of_pos (by simp), List.take_succ_cons,
          List.drop_zero, List.zipIdx_cons, ← ih]
        congr 1
        refine List.filter_congr fun p hp => ?_
        have := hlater p hp
        exact decide_eq_decide.mpr (by omega)
      | succ low =>
        have ih := ih (start + 1) low high
        rw [List.zipIdx_cons, List.filter_cons_of_neg (by simp), List.take_succ_cons,
          List.drop_succ_cons, ← Nat.add_assoc, Nat.add_right_comm, ← ih]
        exact List.filter_congr fun p _ => decide_eq_decide.mpr (by omega)

end Made

/-! ## Replacing an element -/

section Set

variable {α β : Type} {R : α → β → Prop} {p : α → Bool} {q : β → Bool} {l : List α} {i : Nat}
  {a b : α}

theorem set_eq_self (h : l[i]? = some a) : l.set i a = l := by
  obtain ⟨hlt, rfl⟩ := List.getElem?_eq_some_iff.mp h
  exact List.set_getElem_self hlt

/-- Replacing an element and changing the one at a position: the order does not matter. -/
theorem modify_set_self (l : List α) (i : Nat) (f : α → α) (a : α) :
    (l.set i a).modify i f = (l.modify i f).set i (f a) := by
  apply List.ext_getElem?
  intro j
  by_cases hj : i = j
  · subst hj
    rw [List.getElem?_modify_eq, List.getElem?_set_self', List.getElem?_set_self',
      List.getElem?_modify_eq]
    cases l[i]? <;> rfl
  · rw [List.getElem?_modify_ne _ _ hj, List.getElem?_set_ne hj, List.getElem?_set_ne hj,
      List.getElem?_modify_ne _ _ hj]

theorem modify_set_ne {i k : Nat} (h : i ≠ k) (l : List α) (f : α → α) (a : α) :
    (l.set i a).modify k f = (l.modify k f).set i a := by
  apply List.ext_getElem?
  intro j
  by_cases hj : k = j
  · subst hj
    rw [List.getElem?_modify_eq, List.getElem?_set_ne h, List.getElem?_set_ne h,
      List.getElem?_modify_eq]
  · rw [List.getElem?_modify_ne _ _ hj, List.getElem?_set, List.getElem?_set,
      List.getElem?_modify_ne _ _ hj, List.length_modify]

/-- What does not look at the change of an element gives the same for all. -/
theorem map_modify {f : α → α} {g : α → β} (h : ∀ a, g (f a) = g a) (i : Nat) (l : List α) :
    (l.modify i f).map g = l.map g := by
  apply List.ext_getElem?
  intro j
  rw [List.getElem?_map, List.getElem?_modify, List.getElem?_map]
  cases l[j]? with
  | none => rfl
  | some a => by_cases hj : i = j <;> simp [hj, h]

/-- How a count changes when the element at a position goes from `a` to `b`. -/
theorem countP_set_add (h : l[i]? = some a) :
    (l.set i b).countP p + (if p a then 1 else 0) = l.countP p + (if p b then 1 else 0) := by
  obtain ⟨hlt, rfl⟩ := List.getElem?_eq_some_iff.mp h
  have hpos : p l[i] = true → 0 < l.countP p := fun hp =>
    List.countP_pos_iff.mpr ⟨l[i], List.getElem_mem hlt, hp⟩
  rw [List.countP_set hlt]
  by_cases hp : p l[i] = true
  · have := hpos hp
    simp only [if_pos hp]
    omega
  · simp only [if_neg hp]
    omega

theorem countP_set_le (h : l[i]? = some a) (hp : p b = true → p a = true) :
    (l.set i b).countP p ≤ l.countP p := by
  have hadd := countP_set_add (p := p) (b := b) h
  by_cases hb : p b = true
  · rw [if_pos hb, if_pos (hp hb)] at hadd
    omega
  · rw [if_neg hb] at hadd
    omega

theorem countP_set_le_succ (h : l[i]? = some a) : (l.set i b).countP p ≤ l.countP p + 1 := by
  have hadd := countP_set_add (p := p) (b := b) h
  split at hadd <;> split at hadd <;> omega

theorem countP_le_of_forall₂ {as : List α} {bs : List β} (h : List.Forall₂ R as bs)
    (hq : ∀ a b, R a b → q b = true → p a = true) : bs.countP q ≤ as.countP p := by
  induction h with
  | nil => exact Nat.le_refl 0
  | @cons a b as bs hab _ ih =>
    rw [List.countP_cons, List.countP_cons]
    by_cases hb : q b = true
    · rw [if_pos hb, if_pos (hq a b hab hb)]
      omega
    · rw [if_neg hb]
      omega

end Set

/-! ## Values that may be missing -/

section Option

variable {α β γ : Type} {as : List α} {bs : List β}

theorem mapM_eq_some_map {f : α → Option β} {g : α → β} (h : ∀ a ∈ as, f a = some (g a)) :
    as.mapM f = some (as.map g) := by
  induction as with
  | nil => rfl
  | cons a as ih =>
    have ih := ih fun a' ha' => h a' (List.mem_cons_of_mem a ha')
    simp [h a List.mem_cons_self, ih]

theorem forall₂_of_mapM_eq_some {f : α → Option β} (h : as.mapM f = some bs) :
    List.Forall₂ (fun a b => f a = some b) as bs := by
  induction as generalizing bs with
  | nil => cases h; exact .nil
  | cons a as ih =>
    simp only [List.mapM_cons, bind, Option.bind_eq_some_iff] at h
    obtain ⟨b, hb, bs', hbs, h⟩ := h
    cases h
    exact .cons hb (ih hbs)

/-- If `f` has values at the second halves of pairs, it has a list of values at all of them. -/
theorem exists_mapM_eq_some {Q : α → β → Prop} {R : α → γ → Prop} {f : β → Option γ}
    (h : List.Forall₂ Q as bs) (hf : ∀ a ∈ as, ∀ b ∈ bs, Q a b → ∃ c, f b = some c ∧ R a c) :
    ∃ cs, bs.mapM f = some cs ∧ List.Forall₂ R as cs := by
  induction h with
  | nil => exact ⟨[], rfl, .nil⟩
  | @cons a b as bs hab _ ih =>
    obtain ⟨c, hc, hr⟩ := hf a List.mem_cons_self b List.mem_cons_self hab
    obtain ⟨cs, hcs, hrs⟩ := ih fun a' ha' b' hb' =>
      hf a' (List.mem_cons_of_mem a ha') b' (List.mem_cons_of_mem b hb')
    exact ⟨c :: cs, by simp [hc, hcs], .cons hr hrs⟩

end Option

/-! ## Values or errors -/

section Except

variable {ε α β : Type}

theorem except_bind_eq_ok {x : Except ε α} {f : α → Except ε β} {b : β} :
    (x >>= f) = .ok b ↔ ∃ a, x = .ok a ∧ f a = .ok b := by
  cases x with
  | error e => simp [Bind.bind, Except.bind]
  | ok a => simp [Bind.bind, Except.bind]

theorem except_bind_eq_error {x : Except ε α} {f : α → Except ε β} {e : ε} :
    (x >>= f) = .error e ↔ x = .error e ∨ ∃ a, x = .ok a ∧ f a = .error e := by
  cases x with
  | error e' => simp [Bind.bind, Except.bind]
  | ok a => simp [Bind.bind, Except.bind]

theorem except_map_eq_ok {x : Except ε α} {g : α → β} {b : β} :
    g <$> x = .ok b ↔ ∃ a, x = .ok a ∧ g a = b := by
  cases x with
  | error e => simp [Functor.map, Except.map]
  | ok a => simp [Functor.map, Except.map]

theorem except_any_eq_true {x : Except ε α} {p : α → Bool} :
    x.toOption.any p = true ↔ ∃ a, x = .ok a ∧ p a = true := by
  cases x with
  | error e => simp [Except.toOption]
  | ok a => simp [Except.toOption]

/-- What a list was read from, element by element. -/
theorem forall₂_of_mapM_eq_ok {f : α → Except ε β} {l : List α} {bs : List β}
    (h : l.mapM f = .ok bs) : List.Forall₂ (fun a b => f a = .ok b) l bs := by
  induction l generalizing bs with
  | nil => cases h; exact .nil
  | cons a l ih =>
    rw [List.mapM_cons, except_bind_eq_ok] at h
    obtain ⟨b, hb, h⟩ := h
    obtain ⟨bs', hbs, h⟩ := except_bind_eq_ok.mp h
    cases h
    exact .cons hb (ih hbs)

theorem exists_of_mem_mapM {f : α → Except ε β} {l : List α} {bs : List β}
    (h : l.mapM f = .ok bs) : ∀ b ∈ bs, ∃ a ∈ l, f a = .ok b :=
  exists_mem_of_forall₂ (forall₂_of_mapM_eq_ok h)

theorem exists_of_mapM_eq_error {f : α → Except ε β} {l : List α} {e : ε}
    (h : l.mapM f = .error e) : ∃ a ∈ l, f a = .error e := by
  induction l with
  | nil => cases h
  | cons a l ih =>
    rw [List.mapM_cons, except_bind_eq_error] at h
    obtain ha | ⟨b, -, h⟩ := h
    · exact ⟨a, List.mem_cons_self, ha⟩
    · obtain hl | ⟨bs, -, h⟩ := except_bind_eq_error.mp h
      · obtain ⟨a', ha', he⟩ := ih hl
        exact ⟨a', List.mem_cons_of_mem a ha', he⟩
      · cases h

/-- The errors that the orders of a list lead to are those of its elements. -/
theorem exists_perm_mapM_eq_error {f : α → Except ε β} {l : List α} {e : ε} :
    (∃ l' : List α, l'.Perm l ∧ l'.mapM f = .error e) ↔ ∃ a ∈ l, f a = .error e := by
  constructor
  · rintro ⟨l', hperm, h⟩
    obtain ⟨a, ha, he⟩ := exists_of_mapM_eq_error h
    exact ⟨a, hperm.mem_iff.mp ha, he⟩
  · rintro ⟨a, ha, he⟩
    obtain ⟨before, after, rfl⟩ := List.append_of_mem ha
    refine ⟨a :: (before ++ after), List.perm_middle.symm, ?_⟩
    rw [List.mapM_cons, he]
    rfl

end Except

end MatrixFlow
