import MatrixFlow.Proofs.Matrix.Expansion

/-!
# Combinations as maps

A combination is a list of bindings that is searched from its start. It is a map with an order
because no name stands twice in it.

* `Combination.Built`: what can be made by binding names.
* `Combination.built_iff`: these are the combinations in which no name stands twice.
* `Combination.bindings_insert_built`: binding a name changes one value, or adds one binding at the
  end.
* `Combination.agrees_iff_bound`, `Combination.agrees_self`, `Combination.agrees_trans`: agreement.
* `Matrix.built_of_mem_product`, `Matrix.built_of_expand`: the combinations of a matrix.
* `Combination.ordered_map`: all of this together.
-/

namespace MatrixFlow

namespace Combination

variable {c d e part : Combination} {name : String} {value : Json}

/-- The names that are bound, in order. -/
def names (c : Combination) : List String := c.bindings.map (·.1)

/-- What binding names, one after the other, makes of nothing. -/
inductive Built : Combination → Prop
  | empty : Built Combination.empty
  | insert {c : Combination} (h : Built c) (name : String) (value : Json) :
      Built (c.insert name value)

/-! ## Bindings -/

theorem Built.nodup (h : Built c) : c.names.Nodup := by
  induction h with
  | empty => exact List.nodup_nil
  | insert _ name value ih =>
    rw [names, bindings_insert]
    exact names_putNamed_nodup ih

theorem built_of_nodup (h : c.names.Nodup) : Built c := by
  obtain ⟨bindings⟩ := c
  induction bindings using List.reverseRecOn with
  | nil => exact .empty
  | append_singleton bindings b ih =>
    simp only [names, List.map_append, List.nodup_append, List.map_singleton,
      List.mem_singleton] at h
    have hnew : b.1 ∉ bindings.map (·.1) := fun hb => h.2.2 _ hb _ rfl rfl
    have hlast : (Combination.mk bindings).insert b.1 b.2 = ⟨bindings ++ [b]⟩ := by
      rw [insert, insertBinding_eq_putNamed, putNamed_of_not_mem hnew]
    exact hlast ▸ (ih h.1).insert b.1 b.2

/-- The combinations that can be built are those in which no name stands twice. -/
theorem built_iff : Built c ↔ c.names.Nodup :=
  ⟨Built.nodup, built_of_nodup⟩

theorem Built.insertAll (h : Built c) (pairs : List (String × Json)) :
    Built (c.insertAll pairs) := by
  rw [built_iff, names, bindings_insertAll]
  exact names_putAll_nodup h.nodup

theorem built_ofList (pairs : List (String × Json)) : Built (ofList pairs) :=
  Built.empty.insertAll pairs

theorem names_ofList (pairs : List (String × Json)) :
    (ofList pairs).names = (pairs.map (·.1)).eraseDups := by
  rw [names, ofList, bindings_insertAll]
  exact names_putAll_nil pairs

theorem get?_ofList (pairs : List (String × Json)) (name : String) :
    (ofList pairs).get? name = lastBound pairs name := by
  rw [ofList, get?_insertAll]
  exact Option.or_none

/-- Binding a name that is bound changes its value in its place; a new name goes to the end. -/
theorem Built.bindings_insert (h : Built c) (name : String) (value : Json) :
    (c.insert name value).bindings =
      if name ∈ c.names then c.bindings.map fun b => if b.1 = name then (name, value) else b
      else c.bindings ++ [(name, value)] := by
  rw [Combination.bindings_insert]
  split
  · rename_i hname
    exact putNamed_of_mem h.nodup hname
  · rename_i hname
    exact putNamed_of_not_mem hname

/-! ## Agreement -/

theorem Built.get?_eq_some (h : Built c) :
    c.get? name = some value ↔ (name, value) ∈ c.bindings := by
  rw [get?_eq_lookup]
  exact lookup_eq_some_iff_mem h.nodup

/-- What is bound in the part is bound to an equal value. -/
theorem agrees_iff_bound (h : Built part) : c.agrees part = true ↔
    ∀ name value, part.get? name = some value →
      ∃ v, c.get? name = some v ∧ v.equal value = true := by
  simp only [agrees_iff, Agrees, Prod.forall, h.get?_eq_some]

theorem agrees_self (h : Built c) (hfinite : c.isFinite = true) : c.agrees c = true := by
  rw [agrees_iff_bound h]
  intro name value hvalue
  refine ⟨value, hvalue, Json.equal_self value ?_⟩
  exact Json.fieldsFinite_iff.mp hfinite _ (h.get?_eq_some.mp hvalue)

theorem agrees_trans (h : c.agrees d = true) (h' : d.agrees e = true) : c.agrees e = true := by
  rw [agrees_iff] at h h' ⊢
  intro b hb
  obtain ⟨v, hv, hvb⟩ := h' b hb
  obtain ⟨w, hw, hwv⟩ := h (b.1, v) (mem_of_lookup (d.get?_eq_lookup b.1 ▸ hv))
  exact ⟨w, hw, (Json.equal_congr w hwv b.2).trans hvb⟩

end Combination

/-! ## The combinations of a matrix -/

namespace Matrix

variable {m : Matrix} {axes : List Axis} {c : Combination} {cs : List Combination}

theorem built_of_mem_product (h : c ∈ product axes) : c.Built :=
  Combination.built_of_nodup (names_nodup_of_mem_product h)

theorem built_of_expand (hextras : ∀ e ∈ m.extras, e.Built) (h : m.expand = .ok cs)
    (hc : c ∈ cs) : c.Built := by
  by_cases hvalues : ∀ axis ∈ m.axes, axis.values ≠ []
  · rw [expand_eq hvalues] at h
    split at h
    · cases h
      exact List.mem_singleton.mp hc ▸ .empty
    · split at h
      · cases h
      · cases h
        obtain hc | hc := List.mem_append.mp hc
        · obtain ⟨chosen, hchosen, rfl⟩ := List.mem_map.mp hc
          exact (built_of_mem_product (mem_product_of_remaining hchosen)).insertAll _
        · exact hextras c (List.mem_of_mem_filter hc)
  · obtain ⟨_, _, _, -, -, -, herror⟩ := expand_emptyAxis (m := m) (by simpa using hvalues)
    rw [herror] at h
    cases h

end Matrix

namespace Combination

/-- The combination of a list of pairs binds each of their names once, in the order in which they
come first, to the last value for it. Binding a name in a combination that was built changes its
value and nothing else, in its place if it was bound and else at the end. A combination agrees with
a part if and only if each name of the part is bound in it to an equal value. It agrees with itself,
as its values are finite, and agreement carries over from one part to the next. No name stands twice
in what was built, and all combinations of a product and of a matrix can be built. -/
theorem ordered_map :
    (∀ pairs, (ofList pairs).Built ∧ (ofList pairs).names = (pairs.map (·.1)).eraseDups ∧
      ∀ name, (ofList pairs).get? name = lastBound pairs name) ∧
    (∀ c : Combination, c.Built → ∀ name value, (c.insert name value).Built ∧
      (c.insert name value).get? name = some value ∧
      (∀ other, other ≠ name → (c.insert name value).get? other = c.get? other) ∧
      (c.insert name value).bindings =
        if name ∈ c.names then c.bindings.map fun b => if b.1 = name then (name, value) else b
        else c.bindings ++ [(name, value)]) ∧
    (∀ c part : Combination, part.Built → (c.agrees part = true ↔
      ∀ name value, part.get? name = some value →
        ∃ v, c.get? name = some v ∧ v.equal value = true)) ∧
    (∀ c : Combination, c.Built → c.isFinite = true → c.agrees c = true) ∧
    (∀ c d e : Combination, c.agrees d = true → d.agrees e = true → c.agrees e = true) ∧
    (∀ c : Combination, c.Built → c.names.Nodup) ∧
    (∀ axes, ∀ c ∈ Matrix.product axes, c.Built) ∧
    ∀ m : Matrix, (∀ e ∈ m.extras, e.Built) → ∀ cs, m.expand = .ok cs → ∀ c ∈ cs, c.Built := by
  refine ⟨fun pairs => ⟨built_ofList pairs, names_ofList pairs, get?_ofList pairs⟩,
    fun c hc name value => ⟨hc.insert name value, ?_, fun other hother => ?_,
      hc.bindings_insert name value⟩,
    fun c part hpart => agrees_iff_bound hpart, fun c hc hfinite => agrees_self hc hfinite,
    fun c d e => agrees_trans, fun c hc => hc.nodup,
    fun axes c hc => Matrix.built_of_mem_product hc,
    fun m hextras cs hcs c hc => Matrix.built_of_expand hextras hcs hc⟩
  · rw [get?_insert, if_pos rfl]
  · rw [get?_insert, if_neg hother]

/-- The second value of a name stands in the place of the first. -/
example : (ofList [("os", .str "a"), ("rust", .str "beta"), ("os", .str "b")]).bindings =
    [("os", .str "b"), ("rust", .str "beta")] := by rfl

end Combination

end MatrixFlow
