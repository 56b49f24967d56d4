import Mathlib.Data.List.Induction
import Mathlib.Data.List.Perm.Subperm
import MatrixFlow.Proofs.Lists
import MatrixFlow.Run.Environment
import MatrixFlow.Workflow.Document

/-!
# Named bindings

Environments, combinations and the mappings of documents are lists of bindings, in which a name is
bound anew in the place where it stands or at the end (`putNamed`).

* `lastBound`: the value that the last binding of a name gives.
* `lookup_putAll`: after bindings have been put in, the last one of a name counts.
* `names_putAll_nodup`: a list in which no name stands twice keeps this.
* `names_putAll_nil`: names stand in the order in which they come first.
* `Env.get?_extend`, `Combination.get?_insertAll`: the same for environments and combinations.
-/

namespace MatrixFlow

section Bindings

variable {α : Type} {l pairs : List (String × α)} {name n : String} {value v : α}

/-- The value that the last binding of a name gives. -/
def lastBound (pairs : List (String × α)) (name : String) : Option α :=
  pairs.reverse.lookup name

/-- The bindings of a list, put into another one in order. -/
def putAll (l pairs : List (String × α)) : List (String × α) :=
  pairs.foldl (fun acc (k, v) => putNamed k v acc) l

@[simp] theorem putAll_nil (l : List (String × α)) : putAll l [] = l := rfl

@[simp] theorem putAll_cons (l : List (String × α)) (b : String × α) (pairs : List (String × α)) :
    putAll l (b :: pairs) = putAll (putNamed b.1 b.2 l) pairs := rfl

theorem putAll_concat (l pairs : List (String × α)) (b : String × α) :
    putAll l (pairs ++ [b]) = putNamed b.1 b.2 (putAll l pairs) := by
  rw [putAll, List.foldl_append]
  rfl

theorem lookup_pair_cons (k : String) (v : α) (l : List (String × α)) (n : String) :
    ((k, v) :: l).lookup n = if n = k then some v else l.lookup n := by
  rw [List.lookup_cons]
  by_cases hn : n = k
  · simp [hn]
  · have hb : (n == k) = false := by simpa using hn
    rw [hb, if_neg hn]

theorem find?_map_eq_lookup (l : List (String × α)) (name : String) :
    (l.find? fun (k, _) => k == name).map (·.2) = l.lookup name := by
  induction l with
  | nil => rfl
  | cons b l ih =>
    obtain ⟨k, v⟩ := b
    rw [lookup_pair_cons, ← ih]
    by_cases hk : name = k
    · simp [hk]
    · simp [hk, Ne.symm hk]

theorem lookup_putNamed (name : String) (value : α) (l : List (String × α)) (n : String) :
    (putNamed name value l).lookup n = if n = name then some value else l.lookup n := by
  induction l with
  | nil => rw [putNamed, lookup_pair_cons]
  | cons b l ih =>
    obtain ⟨k, v⟩ := b
    rw [putNamed, lookup_pair_cons]
    by_cases hk : k = name
    · rw [if_pos hk, lookup_pair_cons, hk]
      split <;> rfl
    · rw [if_neg hk, lookup_pair_cons, ih]
      by_cases hn : n = k
      · rw [if_pos hn, if_neg (hn ▸ hk), if_pos hn]
      · rw [if_neg hn, if_neg hn]

@[simp] theorem lastBound_nil (n : String) : lastBound ([] : List (String × α)) n = none := rfl

theorem lastBound_append (l pairs : List (String × α)) (n : String) :
    lastBound (l ++ pairs) n = (lastBound pairs n).or (lastBound l n) := by
  rw [lastBound, List.reverse_append, List.lookup_append]
  rfl

theorem lastBound_cons (b : String × α) (l : List (String × α)) (n : String) :
    lastBound (b :: l) n = (lastBound l n).or (if n = b.1 then some b.2 else none) := by
  obtain ⟨k, v⟩ := b
  rw [← List.singleton_append, lastBound_append]
  congr 1
  rw [lastBound, List.reverse_singleton, lookup_pair_cons, List.lookup_nil]

/-- Of the bindings that are put in the last one of a name counts, and before all others. -/
theorem lookup_putAll (l pairs : List (String × α)) (n : String) :
    (putAll l pairs).lookup n = (lastBound pairs n).or (l.lookup n) := by
  induction pairs generalizing l with
  | nil => simp
  | cons b pairs ih =>
    rw [putAll_cons, ih, lookup_putNamed, lastBound_cons, Option.or_assoc]
    congr 1
    split <;> rfl

theorem mem_of_lookup (h : l.lookup n = some v) : (n, v) ∈ l := by
  obtain ⟨l₁, l₂, rfl, -⟩ := List.lookup_eq_some_iff.mp h
  simp

/-- Where no name stands twice, the bindings are what is looked up. -/
theorem lookup_eq_some_iff_mem (h : (l.map (·.1)).Nodup) :
    l.lookup n = some v ↔ (n, v) ∈ l := by
  refine ⟨mem_of_lookup, fun hmem => ?_⟩
  obtain ⟨before, after, rfl⟩ := List.append_of_mem hmem
  rw [List.map_append, List.map_cons, List.nodup_append] at h
  rw [List.lookup_eq_some_iff]
  refine ⟨before, after, rfl, fun b hb => ?_⟩
  simpa using Ne.symm (h.2.2 b.1 (List.mem_map_of_mem hb) n List.mem_cons_self)

theorem mem_of_lastBound (h : lastBound l n = some v) : (n, v) ∈ l := by
  simpa using mem_of_lookup h

theorem lastBound_eq_none (h : n ∉ l.map (·.1)) : lastBound l n = none := by
  cases hv : lastBound l n with
  | none => rfl
  | some v => exact absurd (List.mem_map_of_mem (mem_of_lastBound hv)) h

/-- The last binding of a name that is bound, and what stands around it. -/
theorem exists_last (h : n ∈ l.map (·.1)) : ∃ before v after,
    l = before ++ (n, v) :: after ∧ n ∉ after.map (·.1) ∧ lastBound l n = some v := by
  induction l with
  | nil => cases h
  | cons b l ih =>
    by_cases hn : n ∈ l.map (·.1)
    · obtain ⟨before, v, after, rfl, hafter, hlast⟩ := ih hn
      exact ⟨b :: before, v, after, rfl, hafter, by rw [lastBound_cons, hlast, Option.some_or]⟩
    · obtain rfl : n = b.1 := (List.mem_cons.mp h).resolve_right hn
      exact ⟨[], b.2, l, rfl, hn, by rw [lastBound_cons, lastBound_eq_none hn, if_pos rfl,
        Option.none_or]⟩

theorem mem_of_mem_putNamed {b : String × α} (h : b ∈ putNamed name value l) :
    b = (name, value) ∨ b ∈ l := by
  induction l with
  | nil => exact .inl (List.mem_singleton.mp h)
  | cons first l ih =>
    obtain ⟨k, v⟩ := first
    unfold putNamed at h
    split at h <;> rename_i hk
    · rw [← hk]
      exact (List.mem_cons.mp h).imp_right (List.mem_cons_of_mem _)
    · obtain rfl | h := List.mem_cons.mp h
      · exact .inr List.mem_cons_self
      · exact (ih h).imp_right (List.mem_cons_of_mem _)

/-- All bindings were there, or have been put in. -/
theorem mem_of_mem_putAll {b : String × α} (h : b ∈ putAll l pairs) : b ∈ l ∨ b ∈ pairs := by
  induction pairs generalizing l with
  | nil => exact .inl h
  | cons first pairs ih =>
    obtain h | h := ih h
    · obtain rfl | h := mem_of_mem_putNamed h
      · exact .inr List.mem_cons_self
      · exact .inl h
    · exact .inr (List.mem_cons_of_mem _ h)

/-! ### Names -/

theorem names_putNamed (name : String) (value : α) (l : List (String × α)) :
    (putNamed name value l).map (·.1) =
      if name ∈ l.map (·.1) then l.map (·.1) else l.map (·.1) ++ [name] := by
  induction l with
  | nil => rfl
  | cons b l ih =>
    obtain ⟨k, v⟩ := b
    unfold putNamed
    split
    · rename_i hk
      simp [hk]
    · rename_i hk
      have hk : name ≠ k := fun h => hk h.symm
      simp only [List.map_cons, ih, List.mem_cons, hk, false_or]
      split <;> rfl

theorem putNamed_of_not_mem (h : name ∉ l.map (·.1)) :
    putNamed name value l = l ++ [(name, value)] := by
  induction l with
  | nil => rfl
  | cons b l ih =>
    obtain ⟨k, v⟩ := b
    rw [List.map_cons, List.mem_cons, not_or] at h
    rw [putNamed, if_neg (Ne.symm h.1), ih h.2, List.cons_append]

/-- A name that is there is bound anew in its place, and nothing else changes. -/
theorem putNamed_of_mem (h : (l.map (·.1)).Nodup) (hn : name ∈ l.map (·.1)) :
    putNamed name value l = l.map fun b => if b.1 = name then (name, value) else b := by
  induction l with
  | nil => cases hn
  | cons b l ih =>
    obtain ⟨k, v⟩ := b
    rw [List.map_cons, List.nodup_cons] at h
    rw [putNamed, List.map_cons]
    by_cases hk : k = name
    · -- the name stands in no other place
      have hother : l.map (fun b => if b.1 = name then (name, value) else b) = l.map id :=
        List.map_congr_left fun b hb => if_neg fun heq =>
          h.1 (List.mem_map.mpr ⟨b, hb, heq.trans hk.symm⟩)
      rw [if_pos hk, if_pos hk, hother, List.map_id, hk]
    · rw [if_neg hk, if_neg hk, ih h.2]
      exact (List.mem_cons.mp hn).resolve_left (Ne.symm hk)

theorem names_putNamed_nodup (h : (l.map (·.1)).Nodup) :
    ((putNamed name value l).map (·.1)).Nodup := by
  rw [names_putNamed]
  split
  · exact h
  · rename_i hn
    exact List.nodup_append.mpr ⟨h, by simp, by simpa using fun a b hab he => hn (by simp_all)⟩

theorem names_putAll_nodup (h : (l.map (·.1)).Nodup) : ((putAll l pairs).map (·.1)).Nodup := by
  induction pairs generalizing l with
  | nil => exact h
  | cons b pairs ih => exact ih (names_putNamed_nodup h)

theorem mem_names_putAll :
    n ∈ (putAll l pairs).map (·.1) ↔ n ∈ l.map (·.1) ∨ n ∈ pairs.map (·.1) := by
  induction pairs generalizing l with
  | nil => simp
  | cons b pairs ih =>
    rw [putAll_cons, ih, names_putNamed, List.map_cons, List.mem_cons]
    split
    · rename_i hb
      have : n = b.1 → n ∈ l.map (·.1) := fun h => h ▸ hb
      tauto
    · rw [List.mem_append, List.mem_singleton, or_assoc]

/-- Names stand in the order in which they come first. -/
theorem names_putAll_nil (pairs : List (String × α)) :
    (putAll [] pairs).map (·.1) = (pairs.map (·.1)).eraseDups := by
  induction pairs using List.reverseRecOn with
  | nil => rfl
  | append_singleton pairs b ih =>
    have hmem : b.1 ∈ (pairs.map (·.1)).eraseDups ↔ b.1 ∈ pairs.map (·.1) := by
      simp
    rw [putAll_concat, names_putNamed, ih, List.map_append, List.eraseDups_append]
    by_cases hb : b.1 ∈ pairs.map (·.1)
    · have hnew : [b.1].removeAll (pairs.map (·.1)) = [] := by
        simpa [List.removeAll] using hb
      rw [if_pos (hmem.mpr hb), List.map_singleton, hnew]
      exact (List.append_nil _).symm
    · have hnew : [b.1].removeAll (pairs.map (·.1)) = [b.1] := by
        simpa [List.removeAll] using hb
      rw [if_neg (mt hmem.mp hb), List.map_singleton, hnew]
      rfl

/-- Bindings of new names that are all different are put at the end as they are. -/
theorem putAll_eq_append (h : ((l ++ pairs).map (·.1)).Nodup) : putAll l pairs = l ++ pairs := by
  induction pairs generalizing l with
  | nil => rw [putAll_nil, List.append_nil]
  | cons b pairs ih =>
    have hsplit : l ++ b :: pairs = l ++ [b] ++ pairs := by simp
    have hfirst : b.1 ∉ l.map (·.1) := by
      rw [List.map_append, List.nodup_append] at h
      exact fun hb => h.2.2 _ hb b.1 List.mem_cons_self rfl
    rw [putAll_cons, putNamed_of_not_mem hfirst, hsplit]
    exact ih (by rwa [hsplit] at h)

theorem names_putAll_subperm :
    ((putAll [] pairs).map (·.1)).Subperm (pairs.map (·.1)) := by
  have hnodup : ((putAll [] pairs).map (·.1)).Nodup := names_putAll_nodup List.nodup_nil
  exact List.subperm_of_subset hnodup fun n hn => by simpa using mem_names_putAll.mp hn

theorem length_putAll_nil_le : (putAll [] pairs).length ≤ pairs.length := by
  simpa using (names_putAll_subperm : ((putAll [] pairs).map (·.1)).Subperm _).length_le

/-- No binding is lost if and only if no name stands twice. -/
theorem length_putAll_nil_eq_iff :
    (putAll [] pairs).length = pairs.length ↔ (pairs.map (·.1)).Nodup := by
  constructor
  · intro h
    have hnodup : ((putAll [] pairs).map (·.1)).Nodup := names_putAll_nodup List.nodup_nil
    have hperm : ((putAll [] pairs).map (·.1)).Perm (pairs.map (·.1)) :=
      names_putAll_subperm.perm_of_length_le (by simp [h])
    exact hperm.nodup hnodup
  · intro h
    rw [putAll_eq_append h, List.nil_append]

/-- Where no name stands twice, the first binding of a name is the last. -/
theorem lastBound_eq_lookup (h : (l.map (·.1)).Nodup) (n : String) :
    lastBound l n = l.lookup n := by
  induction l with
  | nil => rfl
  | cons b l ih =>
    obtain ⟨k, v⟩ := b
    rw [List.map_cons, List.nodup_cons] at h
    rw [lastBound_cons, lookup_pair_cons, ih h.2]
    by_cases hn : n = k
    · rw [if_pos hn, if_pos hn, ← ih h.2, lastBound_eq_none (hn ▸ h.1), Option.none_or]
    · rw [if_neg hn, if_neg hn, Option.or_none]

end Bindings

/-! ## Environments -/

namespace Env

theorem insertVar_eq_putNamed (name value : String) (vars : List (String × String)) :
    insertVar name value vars = putNamed name value vars := by
  induction vars with
  | nil => rfl
  | cons b vars ih => rw [insertVar, putNamed, ih]

theorem get?_eq_lookup (env : Env) (n : String) : env.get? n = env.vars.lookup n :=
  find?_map_eq_lookup env.vars n

theorem vars_insert (env : Env) (name value : String) :
    (env.insert name value).vars = putNamed name value env.vars :=
  insertVar_eq_putNamed name value env.vars

theorem vars_extend (env : Env) (vars : List (String × String)) :
    (env.extend vars).vars = putAll env.vars vars := by
  unfold extend putAll
  induction vars generalizing env with
  | nil => rfl
  | cons b vars ih =>
    rw [List.foldl_cons, List.foldl_cons, ih, vars_insert]

theorem get?_insert (env : Env) (name value n : String) :
    (env.insert name value).get? n = if n = name then some value else env.get? n := by
  rw [get?_eq_lookup, get?_eq_lookup, vars_insert, lookup_putNamed]

/-- Variables that are laid over an environment count before it, the last one of a name first. -/
theorem get?_extend (env : Env) (vars : List (String × String)) (n : String) :
    (env.extend vars).get? n = (lastBound vars n).or (env.get? n) := by
  rw [get?_eq_lookup, get?_eq_lookup, vars_extend, lookup_putAll]

end Env

/-! ## Combinations -/

namespace Combination

theorem insertBinding_eq_putNamed (name : String) (value : Json) (l : List (String × Json)) :
    insertBinding name value l = putNamed name value l := by
  induction l with
  | nil => rfl
  | cons b l ih => rw [insertBinding, putNamed, ih]

theorem get?_eq_lookup (c : Combination) (n : String) : c.get? n = c.bindings.lookup n :=
  find?_map_eq_lookup c.bindings n

theorem bindings_insert (c : Combination) (name : String) (value : Json) :
    (c.insert name value).bindings = putNamed name value c.bindings :=
  insertBinding_eq_putNamed name value c.bindings

theorem get?_insert (c : Combination) (name : String) (value : Json) (n : String) :
    (c.insert name value).get? n = if n = name then some value else c.get? n := by
  rw [get?_eq_lookup, get?_eq_lookup, bindings_insert, lookup_putNamed]

theorem bindings_insertAll (c : Combination) (pairs : List (String × Json)) :
    (c.insertAll pairs).bindings = putAll c.bindings pairs := by
  unfold insertAll putAll
  induction pairs generalizing c with
  | nil => rfl
  | cons b pairs ih =>
    rw [List.foldl_cons, List.foldl_cons, ih, bindings_insert]

theorem insertAll_insertAll (c : Combination) (pairs pairs' : List (String × Json)) :
    (c.insertAll pairs).insertAll pairs' = c.insertAll (pairs ++ pairs') := by
  unfold insertAll
  rw [List.foldl_append]

/-- Bindings that are put into a combination count before its own, the last one of a name first. -/
theorem get?_insertAll (c : Combination) (pairs : List (String × Json)) (n : String) :
    (c.insertAll pairs).get? n = (lastBound pairs n).or (c.get? n) := by
  rw [get?_eq_lookup, get?_eq_lookup, bindings_insertAll, lookup_putAll]

end Combination

end MatrixFlow
