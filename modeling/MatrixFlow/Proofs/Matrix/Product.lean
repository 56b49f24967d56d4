import Mathlib.Data.List.Induction
import MatrixFlow.Matrix.Expansion
import MatrixFlow.Proofs.Bindings
import MatrixFlow.Proofs.Json.Equality

/-!
# The product of axes

* `Matrix.size`: how many choices of one value per axis there are.
* `Matrix.getElem?_extendBy`: one more axis makes the position of a combination a position among
  the shorter ones and a digit.
* `Matrix.isChoice_of_getElem?_product`: the digits of a position, in the mixed base of the sizes,
  are the positions of the values.
* `Matrix.product_distinct_iff`: the combinations differ if and only if the values of each axis do.
* `Matrix.product_mixedRadix`: the product of axes.
* `Matrix.IsProduct`, `Matrix.isProduct_iff`: the combinations are choices of one value per axis,
  which they are if and only if no two axes have one name.
-/

namespace MatrixFlow

namespace Axis

/-- No two values of the axis are equal. -/
def Distinct (axis : Axis) : Prop :=
  axis.values.Pairwise fun v w => v.equal w = false

instance (axis : Axis) : Decidable axis.Distinct :=
  inferInstanceAs (Decidable (List.Pairwise _ _))

/-- Every fraction in the values is finite. -/
def isFinite (axis : Axis) : Bool :=
  axis.values.all Json.isFinite

end Axis

namespace Matrix

variable {axes : List Axis} {axis : Axis} {c d : Combination} {cs : List Combination} {i k : Nat}

/-- How many choices of one value per axis there are. -/
def size : List Axis → Nat
  | [] => 1
  | axis :: rest => axis.values.length * size rest

theorem size_concat (axes : List Axis) (axis : Axis) :
    size (axes ++ [axis]) = size axes * axis.values.length := by
  induction axes with
  | nil => simp only [List.nil_append, size, Nat.mul_one, Nat.one_mul]
  | cons a axes ih => rw [List.cons_append, size, ih, size, Nat.mul_assoc]

theorem product_concat (axes : List Axis) (axis : Axis) :
    product (axes ++ [axis]) = extendBy (product axes) axis := by
  rw [product, List.foldl_append]
  rfl

/-! ## Positions -/

theorem length_extendBy (cs : List Combination) (axis : Axis) :
    (extendBy cs axis).length = cs.length * axis.values.length := by
  simp [extendBy]

/-- The combinations of a longer list of axes: the last digit of the position chooses the value of
the last axis, the other digits are the position among the combinations of the others. -/
theorem getElem?_extendBy (cs : List Combination) (axis : Axis) (i : Nat) :
    (extendBy cs axis)[i]? = cs[i / axis.values.length]?.bind fun c =>
      axis.values[i % axis.values.length]?.map (c.insert axis.name) := by
  induction cs generalizing i with
  | nil => rfl
  | cons c cs ih =>
    have hcons : extendBy (c :: cs) axis =
        axis.values.map (c.insert axis.name) ++ extendBy cs axis := List.flatMap_cons
    rw [hcons, List.getElem?_append, List.length_map]
    by_cases hi : i < axis.values.length
    · rw [if_pos hi, Nat.div_eq_of_lt hi, Nat.mod_eq_of_lt hi, List.getElem?_map]
      rfl
    · rw [if_neg hi, ih]
      -- without values the digit is a remainder modulo zero, but there is nothing at any position
      rcases Nat.eq_zero_or_pos axis.values.length with h0 | hpos
      · have hnone : ∀ j : Nat, axis.values[j]? = Option.none := fun j =>
          List.getElem?_eq_none (by omega)
        simp only [hnone, Option.map_none, Option.bind_fun_none]
      · rw [Nat.div_eq_sub_div hpos (Nat.le_of_not_lt hi), Nat.mod_eq_sub_mod (Nat.le_of_not_lt hi),
          List.getElem?_cons_succ]

theorem length_product (axes : List Axis) : (product axes).length = size axes := by
  -- the product is built from the first axis on, so every induction takes the last axis off
  induction axes using List.reverseRecOn with
  | nil => rfl
  | append_singleton axes axis ih => rw [product_concat, length_extendBy, ih, size_concat]

theorem mem_extendBy :
    d ∈ extendBy cs axis ↔ ∃ c ∈ cs, ∃ v ∈ axis.values, c.insert axis.name v = d := by
  simp [extendBy]

/-! ## Names -/

theorem nodup_of_concat (hnames : ((axes ++ [axis]).map (·.name)).Nodup) :
    (axes.map (·.name)).Nodup := by
  rw [List.map_append] at hnames
  exact (List.nodup_append.mp hnames).1

theorem name_not_mem_of_concat (hnames : ((axes ++ [axis]).map (·.name)).Nodup) :
    axis.name ∉ axes.map (·.name) := by
  rw [List.map_append, List.nodup_append] at hnames
  exact fun hmem => hnames.2.2 axis.name hmem axis.name (by simp) rfl

/-- A combination of a product binds the names of the axes in their order. -/
theorem names_of_mem_product (hnames : (axes.map (·.name)).Nodup) (h : c ∈ product axes) :
    c.bindings.map (·.1) = axes.map (·.name) := by
  induction axes using List.reverseRecOn generalizing c with
  | nil => rw [List.mem_singleton.mp h]; rfl
  | append_singleton axes axis ih =>
    rw [product_concat, mem_extendBy] at h
    obtain ⟨c', hc', v, -, rfl⟩ := h
    have hc' := ih (nodup_of_concat hnames) hc'
    have hnew : axis.name ∉ c'.bindings.map (·.1) := hc' ▸ name_not_mem_of_concat hnames
    rw [Combination.bindings_insert, putNamed_of_not_mem hnew, List.map_append, hc',
      List.map_append]
    rfl

theorem bindings_concat (hnames : ((axes ++ [axis]).map (·.name)).Nodup) (h : c ∈ product axes)
    (v : Json) : (c.insert axis.name v).bindings = c.bindings ++ [(axis.name, v)] := by
  rw [Combination.bindings_insert, putNamed_of_not_mem]
  rw [names_of_mem_product (nodup_of_concat hnames) h]
  exact name_not_mem_of_concat hnames

/-! ## Digits -/

/-- The combination binds each axis in order, to the value at the digit of `i` that belongs to it
in the mixed base of the sizes. -/
def IsChoice (axes : List Axis) (i : Nat) (c : Combination) : Prop :=
  c.bindings.length = axes.length ∧
    ∀ k axis, axes[k]? = some axis →
      ∃ v, axis.values[i / size (axes.drop (k + 1)) % axis.values.length]? = some v ∧
        c.bindings[k]? = some (axis.name, v)

theorem IsChoice.concat (hc : IsChoice axes (i / axis.values.length) c)
    (hv : axis.values[i % axis.values.length]? = some v)
    (hd : d.bindings = c.bindings ++ [(axis.name, v)]) : IsChoice (axes ++ [axis]) i d := by
  obtain ⟨hlen, hdigits⟩ := hc
  refine ⟨by rw [hd, List.length_append, List.length_append, hlen]; rfl, fun k a ha => ?_⟩
  rcases Nat.lt_trichotomy k axes.length with hk | rfl | hk
  · rw [List.getElem?_append_left hk] at ha
    obtain ⟨w, hw, hbound⟩ := hdigits k a ha
    refine ⟨w, ?_, ?_⟩
    -- the digit of an earlier axis: the last axis only adds a factor to the divisor
    · rw [List.drop_append_of_le_length hk, size_concat, Nat.mul_comm, ← Nat.div_div_eq_div_mul]
      exact hw
    · rw [hd, List.getElem?_append_left (hlen ▸ hk)]
      exact hbound
  · rw [List.getElem?_concat_length] at ha
    cases ha
    refine ⟨v, ?_, ?_⟩
    · rw [List.drop_of_length_le (by simp), size, Nat.div_one]
      exact hv
    · rw [hd, ← hlen, List.getElem?_concat_length]
  · rw [List.getElem?_eq_none (by rw [List.length_append]; exact hk)] at ha
    cases ha

theorem isChoice_of_getElem?_product (hnames : (axes.map (·.name)).Nodup)
    (h : (product axes)[i]? = some c) : IsChoice axes i c := by
  induction axes using List.reverseRecOn generalizing i c with
  | nil =>
    rw [List.mem_singleton.mp (List.mem_of_getElem? h)]
    exact ⟨rfl, fun k axis hk => by cases hk⟩
  | append_singleton axes axis ih =>
    rw [product_concat, getElem?_extendBy, Option.bind_eq_some_iff] at h
    obtain ⟨c', hc', h⟩ := h
    obtain ⟨v, hv, rfl⟩ := Option.map_eq_some_iff.mp h
    exact (ih (nodup_of_concat hnames) hc').concat hv
      (bindings_concat hnames (List.mem_of_getElem? hc') v)

/-! ## Distinct combinations -/

/-- No two combinations of the list are equal. -/
def Distinct (cs : List Combination) : Prop :=
  cs.Pairwise fun c d => c.equal d = false

theorem size_pos (h : ∀ axis ∈ axes, axis.values ≠ []) : 0 < size axes := by
  induction axes with
  | nil => exact Nat.one_pos
  | cons axis axes ih =>
    exact Nat.mul_pos (List.length_pos_of_ne_nil (h axis List.mem_cons_self))
      (ih fun a ha => h a (List.mem_cons_of_mem axis ha))

theorem product_ne_nil (h : ∀ axis ∈ axes, axis.values ≠ []) : product axes ≠ [] :=
  List.ne_nil_of_length_pos (length_product axes ▸ size_pos h)

theorem isFinite_of_mem_product (hnames : (axes.map (·.name)).Nodup)
    (hfinite : ∀ axis ∈ axes, axis.isFinite = true) (h : c ∈ product axes) :
    c.isFinite = true := by
  induction axes using List.reverseRecOn generalizing c with
  | nil => rw [List.mem_singleton.mp h]; rfl
  | append_singleton axes axis ih =>
    rw [product_concat, mem_extendBy] at h
    obtain ⟨c', hc', v, hv, rfl⟩ := h
    have hlast := List.all_eq_true.mp (hfinite axis (by simp)) v hv
    have hfirst := ih (nodup_of_concat hnames)
      (fun a ha => hfinite a (List.mem_append_left _ ha)) hc'
    rw [Combination.isFinite, Json.fieldsFinite_iff] at hfirst ⊢
    rw [bindings_concat hnames hc']
    intro p hp
    rcases List.mem_append.mp hp with hp | hp
    · exact hfirst p hp
    · exact List.mem_singleton.mp hp ▸ hlast

/-- Two combinations are equal if they are on all axes but the last and on the last. -/
theorem equal_insert (hnames : ((axes ++ [axis]).map (·.name)).Nodup) (hc : c ∈ product axes)
    (hd : d ∈ product axes) (v w : Json) :
    (c.insert axis.name v).equal (d.insert axis.name w) = (c.equal d && v.equal w) := by
  have hlen : c.bindings.length = d.bindings.length := by
    have hfirst := nodup_of_concat hnames
    rw [← List.length_map (·.1), names_of_mem_product hfirst hc,
      ← names_of_mem_product hfirst hd, List.length_map]
  rw [Combination.equal, bindings_concat hnames hc, bindings_concat hnames hd,
    Json.equalFields_append hlen]
  simp only [Json.equalFields, beq_self_eq_true, Bool.true_and, Bool.and_true]
  rfl

/-- One combination, extended by each value of the last axis. -/
theorem distinct_map_insert_iff (hnames : ((axes ++ [axis]).map (·.name)).Nodup)
    (hc : c ∈ product axes) (hself : c.equal c = true) :
    Distinct (axis.values.map (c.insert axis.name)) ↔ axis.Distinct := by
  rw [Distinct, List.pairwise_map]
  simp only [equal_insert hnames hc hc, hself, Bool.true_and]
  rfl

/-- Two combinations, each extended by each value of the last axis. The value `v₀` goes with both,
so equal combinations would have equal extensions. -/
theorem forall_insert_ne_iff (hnames : ((axes ++ [axis]).map (·.name)).Nodup)
    (hc : c ∈ product axes) (hd : d ∈ product axes) {v₀ : Json} (hv₀ : v₀ ∈ axis.values)
    (hself : v₀.equal v₀ = true) :
    (∀ x ∈ axis.values.map (c.insert axis.name), ∀ y ∈ axis.values.map (d.insert axis.name),
      x.equal y = false) ↔ c.equal d = false := by
  simp only [List.forall_mem_map, equal_insert hnames hc hd, Bool.and_eq_false_imp]
  refine ⟨fun h => ?_, fun h v _ w _ heq => by rw [h] at heq; cases heq⟩
  by_contra heq
  have hdiffer := h v₀ hv₀ v₀ hv₀ (by simpa using heq)
  rw [hself] at hdiffer
  cases hdiffer

/-- With one more axis the combinations differ if and only if they did before and the values of the
axis do. Each combination occurs with each value, so neither can hide equal ones of the other. -/
theorem product_concat_distinct_iff (hnames : ((axes ++ [axis]).map (·.name)).Nodup)
    (hvalues : ∀ a ∈ axes ++ [axis], a.values ≠ [])
    (hfinite : ∀ a ∈ axes ++ [axis], a.isFinite = true) :
    Distinct (product (axes ++ [axis])) ↔ Distinct (product axes) ∧ axis.Distinct := by
  have hself : ∀ c ∈ product axes, c.equal c = true := fun c hc =>
    Combination.equal_self (isFinite_of_mem_product (nodup_of_concat hnames)
      (fun a ha => hfinite a (List.mem_append_left _ ha)) hc)
  obtain ⟨v₀, hv₀⟩ := List.exists_mem_of_ne_nil _ (hvalues axis (by simp))
  obtain ⟨c₀, hc₀⟩ := List.exists_mem_of_ne_nil _
    (product_ne_nil fun a ha => hvalues a (List.mem_append_left [axis] ha))
  have hv₀self : v₀.equal v₀ = true :=
    Json.equal_self v₀ (List.all_eq_true.mp (hfinite axis (by simp)) v₀ hv₀)
  have hsame := fun c hc => distinct_map_insert_iff hnames hc (hself c hc)
  have hother := fun c hc d hd => forall_insert_ne_iff (c := c) (d := d) hnames hc hd hv₀ hv₀self
  rw [Distinct, product_concat, extendBy, List.pairwise_flatMap, Distinct]
  constructor
  · rintro ⟨hin, hout⟩
    exact ⟨hout.imp_of_mem fun hc hd h => (hother _ hc _ hd).mp h, (hsame c₀ hc₀).mp (hin c₀ hc₀)⟩
  · rintro ⟨hout, hin⟩
    exact ⟨fun c hc => (hsame c hc).mpr hin,
      hout.imp_of_mem fun hc hd h => (hother _ hc _ hd).mpr h⟩

theorem product_distinct_iff (hnames : (axes.map (·.name)).Nodup)
    (hvalues : ∀ axis ∈ axes, axis.values ≠ []) (hfinite : ∀ axis ∈ axes, axis.isFinite = true) :
    Distinct (product axes) ↔ ∀ axis ∈ axes, axis.Distinct := by
  induction axes using List.reverseRecOn with
  | nil => simp [Distinct, product]
  | append_singleton axes axis ih =>
    rw [product_concat_distinct_iff hnames hvalues hfinite,
      ih (nodup_of_concat hnames) (fun a ha => hvalues a (List.mem_append_left _ ha))
        fun a ha => hfinite a (List.mem_append_left _ ha), List.forall_mem_append]
    simp

/-- The product of axes with different names has as many combinations as the sizes of the axes make.
The combination at each position binds every axis in order, to the value at the digit of the
position that belongs to the axis. If no axis is empty, the combinations differ if and only if the
values of each axis do. -/
theorem product_mixedRadix (hnames : (axes.map (·.name)).Nodup) :
    (product axes).length = size axes ∧
      (∀ i < size axes, ∃ c, (product axes)[i]? = some c ∧ IsChoice axes i c) ∧
      ((∀ axis ∈ axes, axis.values ≠ [] ∧ axis.isFinite = true) →
        (Distinct (product axes) ↔ ∀ axis ∈ axes, axis.Distinct)) := by
  refine ⟨length_product axes, fun i hi => ?_, fun haxes =>
    product_distinct_iff hnames (fun a ha => (haxes a ha).1) fun a ha => (haxes a ha).2⟩
  obtain ⟨c, hc⟩ : ∃ c, (product axes)[i]? = some c :=
    ⟨_, List.getElem?_eq_getElem (by rw [length_product]; exact hi)⟩
  exact ⟨c, hc, isChoice_of_getElem?_product hnames hc⟩

/-- Of three systems and two channels the fifth choice is the third system with the first
channel. -/
theorem product_mixedRadix_sample :
    let axes : List Axis := [⟨"os", [.str "a", .str "b", .str "c"]⟩,
      ⟨"rust", [.str "stable", .str "beta"]⟩]
    (axes.map (·.name)).Nodup ∧ (product axes).length = 6 ∧
      (∃ c, (product axes)[4]? = some c ∧ c.bindings[0]? = some ("os", .str "c") ∧
        c.bindings[1]? = some ("rust", .str "stable")) ∧
      Distinct (product axes) := by
  intro axes
  have hnames : (axes.map (·.name)).Nodup := by decide
  obtain ⟨hlen, hdigits, hdistinct⟩ := product_mixedRadix hnames
  obtain ⟨c, hc, -, hchoice⟩ := hdigits 4 (by decide)
  obtain ⟨os, hos, hfirst⟩ := hchoice 0 _ rfl
  obtain ⟨rust, hrust, hsecond⟩ := hchoice 1 _ rfl
  obtain rfl : Json.str "c" = os := by simpa [axes, size] using hos
  obtain rfl : Json.str "stable" = rust := by simpa [axes, size] using hrust
  exact ⟨hnames, hlen, ⟨c, hc, hfirst, hsecond⟩, (hdistinct (by decide)).mpr (by decide)⟩

/-! ## One name for several axes -/

/-- The product is what the axes promise: a combination for each choice of one value per axis, and
no two of them equal unless two values of an axis are. -/
structure IsProduct (axes : List Axis) : Prop where
  length : (product axes).length = size axes
  choices : ∀ i < size axes, ∃ c, (product axes)[i]? = some c ∧ IsChoice axes i c
  distinct : Distinct (product axes) ↔ ∀ axis ∈ axes, axis.Distinct

theorem IsChoice.names (h : IsChoice axes i c) : c.bindings.map (·.1) = axes.map (·.name) := by
  refine List.ext_getElem? fun k => ?_
  rw [List.getElem?_map, List.getElem?_map]
  cases haxis : axes[k]? with
  | none =>
    have hk : c.bindings.length ≤ k := h.1 ▸ List.getElem?_eq_none_iff.mp haxis
    rw [List.getElem?_eq_none hk]
    rfl
  | some axis =>
    obtain ⟨v, -, hbound⟩ := h.2 k axis haxis
    rw [hbound]
    rfl

/-- Whatever the axes are called, a combination binds no name twice. -/
theorem names_nodup_of_mem_product (h : c ∈ product axes) : (c.bindings.map (·.1)).Nodup := by
  induction axes using List.reverseRecOn generalizing c with
  | nil => rw [List.mem_singleton.mp h]; exact List.nodup_nil
  | append_singleton axes axis ih =>
    rw [product_concat, mem_extendBy] at h
    obtain ⟨c', hc', v, -, rfl⟩ := h
    rw [Combination.bindings_insert]
    exact names_putNamed_nodup (ih hc')

/-- If two axes have one name, the first combination lacks a binding already. -/
theorem isProduct_iff (hvalues : ∀ axis ∈ axes, axis.values ≠ [])
    (hfinite : ∀ axis ∈ axes, axis.isFinite = true) :
    IsProduct axes ↔ (axes.map (·.name)).Nodup := by
  constructor
  · intro h
    obtain ⟨c, hc, hchoice⟩ := h.choices 0 (size_pos hvalues)
    rw [← hchoice.names]
    exact names_nodup_of_mem_product (List.mem_of_getElem? hc)
  · intro hnames
    refine ⟨length_product axes, fun i hi => ?_, product_distinct_iff hnames hvalues hfinite⟩
    have hlt : i < (product axes).length := length_product axes ▸ hi
    exact ⟨_, List.getElem?_eq_getElem hlt,
      isChoice_of_getElem?_product hnames (List.getElem?_eq_getElem hlt)⟩

end Matrix

end MatrixFlow
