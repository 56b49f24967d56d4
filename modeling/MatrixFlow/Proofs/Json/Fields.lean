import Mathlib.Data.String.Basic
import MatrixFlow.Proofs.Bindings

/-!
# Fields of objects

* `Json.Sorted`: fields in the order of their names, no name twice.
* `Json.collect`: fields put in order one after the other, as they are in an object.
* `Json.sorted_collect`, `Json.lookup_collect`: what comes of them is sorted, and of the fields of
  one name the last one stays.
* `Json.collect_eq_self`: sorted fields stay as they are.
-/

namespace MatrixFlow.Json

/-- The fields stand in the order of their names, and no name is there twice. -/
def Sorted (fields : List (String × Json)) : Prop :=
  fields.Pairwise fun a b => a.1 < b.1

instance (fields : List (String × Json)) : Decidable (Sorted fields) :=
  inferInstanceAs (Decidable (fields.Pairwise _))

/-- The fields of the object that some fields make. -/
def collect (fields : List (String × Json)) : List (String × Json) :=
  fields.foldl (fun acc (k, v) => insertField k v acc) []

theorem ofFields_eq (fields : List (String × Json)) : ofFields fields = obj (collect fields) := rfl

variable {name : String} {value : Json} {fields : List (String × Json)}

/-! ## One field -/

theorem name_of_mem_insertField {p : String × Json} (h : p ∈ insertField name value fields) :
    p.1 = name ∨ p ∈ fields := by
  induction fields with
  | nil =>
    obtain rfl := List.mem_singleton.mp h
    exact .inl rfl
  | cons q fields ih =>
    obtain ⟨k, v⟩ := q
    rw [insertField] at h
    split at h
    · rename_i hk
      obtain rfl | h := List.mem_cons.mp h
      · exact .inl hk.symm
      · exact .inr (List.mem_cons_of_mem _ h)
    · split at h
      · obtain rfl | h := List.mem_cons.mp h
        · exact .inl rfl
        · exact .inr h
      · obtain rfl | h := List.mem_cons.mp h
        · exact .inr List.mem_cons_self
        · exact (ih h).imp_right (List.mem_cons_of_mem _)

theorem sorted_insertField (h : Sorted fields) (name : String) (value : Json) :
    Sorted (insertField name value fields) := by
  induction fields with
  | nil => exact List.pairwise_singleton _ _
  | cons q fields ih =>
    obtain ⟨k, v⟩ := q
    obtain ⟨hfirst, hrest⟩ := List.pairwise_cons.mp h
    rw [insertField]
    split
    · exact List.pairwise_cons.mpr ⟨hfirst, hrest⟩
    · rename_i hne
      split
      · rename_i hlt
        refine List.pairwise_cons.mpr ⟨List.forall_mem_cons.mpr ⟨hlt, fun p hp => ?_⟩, h⟩
        exact hlt.trans (hfirst p hp)
      · rename_i hnot
        have hgt : k < name := lt_of_le_of_ne (not_lt.mp hnot) (Ne.symm hne)
        refine List.pairwise_cons.mpr ⟨fun p hp => ?_, ih hrest⟩
        obtain hp | hp := name_of_mem_insertField hp
        · exact hp ▸ hgt
        · exact hfirst p hp

theorem lookup_insertField (name : String) (value : Json) (fields : List (String × Json))
    (n : String) : (insertField name value fields).lookup n =
      if n = name then some value else fields.lookup n := by
  induction fields with
  | nil => rw [insertField, lookup_pair_cons]
  | cons q fields ih =>
    obtain ⟨k, v⟩ := q
    rw [insertField, lookup_pair_cons]
    split
    · rename_i hk
      rw [lookup_pair_cons, hk]
      by_cases hn : n = k <;> simp [hn]
    · rename_i hne
      split
      · rw [lookup_pair_cons, lookup_pair_cons]
      · rw [lookup_pair_cons, ih]
        by_cases hn : n = k
        · simp [hn, Ne.symm hne]
        · simp [hn]

/-- A field whose name comes behind all others goes to the end. -/
theorem insertField_of_lt (h : ∀ p ∈ fields, p.1 < name) (value : Json) :
    insertField name value fields = fields ++ [(name, value)] := by
  induction fields with
  | nil => rfl
  | cons q fields ih =>
    obtain ⟨k, v⟩ := q
    obtain ⟨hk, hrest⟩ := List.forall_mem_cons.mp h
    rw [insertField, if_neg hk.ne', if_neg hk.not_gt, ih hrest]
    rfl

/-! ## All fields -/

theorem collect_concat (fields : List (String × Json)) (p : String × Json) :
    collect (fields ++ [p]) = insertField p.1 p.2 (collect fields) := by
  rw [collect, List.foldl_concat]
  rfl

theorem sorted_collect (fields : List (String × Json)) : Sorted (collect fields) := by
  induction fields using List.reverseRecOn with
  | nil => exact List.Pairwise.nil
  | append_singleton fields p ih =>
    rw [collect_concat]
    exact sorted_insertField ih _ _

/-- Of the fields of one name the last one stays. -/
theorem lookup_collect (fields : List (String × Json)) (n : String) :
    (collect fields).lookup n = fields.reverse.lookup n := by
  induction fields using List.reverseRecOn with
  | nil => rfl
  | append_singleton fields p ih =>
    obtain ⟨k, v⟩ := p
    rw [collect_concat, lookup_insertField, ih, List.reverse_concat, lookup_pair_cons]

/-- Sorted fields stay as they are. -/
theorem collect_eq_self (h : Sorted fields) : collect fields = fields := by
  induction fields using List.reverseRecOn with
  | nil => rfl
  | append_singleton fields p ih =>
    obtain ⟨hfields, -, hlast⟩ := List.pairwise_append.mp h
    rw [collect_concat, ih hfields]
    exact insertField_of_lt (fun q hq => hlast q hq p List.mem_cons_self) p.2

theorem mem_names_iff_lookup {n : String} :
    n ∈ fields.map (·.1) ↔ (fields.lookup n).isSome = true := by
  rw [List.lookup_isSome_iff]
  simp

end MatrixFlow.Json
