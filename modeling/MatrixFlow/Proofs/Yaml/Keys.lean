import MatrixFlow.Proofs.Lists
import MatrixFlow.Yaml.Decode

/-!
# Keys of mappings

A mapping that has a key twice is not read. Keys are compared as values, so that tags count.

* `Gives x P`: what a reader gives has a property. There is one lemma for each way in which readers
  are put together, and `Gives.load` for whole documents.
* `Value.KeysApart`: no two of some keys are the same value.
* `Value.keysUnique_map_iff`: in a value without double keys, neither a mapping nor anything in it
  has a key twice.
* `Tree.readValue_gives`: every value that is read from a node is one without double keys.
* `Tree.readPairs_gives`: the entries of a mapping that is read are.
-/

namespace MatrixFlow.Yaml

/-! ## Readers -/

section Gives

variable {α β : Type} {x : Reader α} {f : α → Reader β} {P : α → Prop} {Q : β → Prop}

/-- Whatever the reader gives has the property. -/
def Gives (x : Reader α) (P : α → Prop) : Prop :=
  ∀ n a m, x.run n = .ok (a, m) → P a

theorem gives_pure {a : α} (h : P a) : Gives (pure a : Reader α) P := by
  intro n b m hb
  cases hb
  exact h

theorem gives_throw (e : LoadError) : Gives (throw e : Reader α) P := by
  intro n a m h
  cases h

theorem gives_true (x : Reader α) : Gives x fun _ => True := fun _ _ _ _ => trivial

theorem Gives.bind (hx : Gives x P) (hf : ∀ a, P a → Gives (f a) Q) : Gives (x >>= f) Q := by
  intro n b m h
  rw [StateT.run_bind, except_bind_eq_ok] at h
  obtain ⟨⟨a, k⟩, ha, hb⟩ := h
  exact hf a (hx n a k ha) k b m hb

/-- A reader whose result does not matter, and another one behind it. -/
theorem gives_bind (hf : ∀ a, Gives (f a) Q) : Gives (x >>= f) Q :=
  (gives_true x).bind fun a _ => hf a

theorem Gives.tryCatch {handle : LoadError → Reader α} (hx : Gives x P)
    (hhandle : ∀ e, Gives (handle e) P) : Gives (tryCatch x handle) P := by
  intro n a m h
  change MonadExcept.tryCatch (x.run n) (fun e => (handle e).run n) = .ok (a, m) at h
  cases hr : x.run n with
  | ok p =>
    rw [hr] at h
    cases h
    exact hx n a m hr
  | error e =>
    rw [hr] at h
    exact hhandle e n a m h

/-- The document that is loaded is what the reader gives at its root. -/
theorem Gives.load {t : Tree} {read : Tree → Node → Reader α} (h : Gives (read t t.root) P) {a : α}
    (hload : t.load read = .ok a) : P a := by
  obtain ⟨⟨b, m⟩, hb, hload⟩ := except_bind_eq_ok.mp hload
  dsimp only at hload
  split at hload
  · cases hload
  · split at hload
    · cases hload
    · cases hload
      exact h 0 a m hb

end Gives

/-! ## Values without double keys -/

namespace Value

/-- No two of the keys are the same. -/
def KeysApart (keys : List Value) : Prop :=
  keys.Pairwise fun k l => k.same l = false

theorem keysUniqueItems_iff {items : List Value} :
    keysUniqueItems items = true ↔ ∀ v ∈ items, v.keysUnique = true := by
  induction items with
  | nil => simp [keysUniqueItems]
  | cons v items ih => rw [keysUniqueItems, Bool.and_eq_true, List.forall_mem_cons, ih]

theorem keysUniqueEntries_iff {seen : List Value} {entries : List (Value × Value)} :
    keysUniqueEntries seen entries = true ↔
      (∀ e ∈ entries, e.1.keysUnique = true ∧ e.2.keysUnique = true) ∧
      KeysApart (entries.map (·.1)) ∧ ∀ l ∈ seen, ∀ e ∈ entries, l.same e.1 = false := by
  induction entries generalizing seen with
  | nil => simp [keysUniqueEntries, KeysApart]
  | cons e entries ih =>
    obtain ⟨k, v⟩ := e
    -- the key joins those that were seen, so what is apart from them is apart from it as well
    simp only [keysUniqueEntries, Bool.and_eq_true, Bool.not_eq_true', List.any_eq_false, ih,
      KeysApart, List.map_cons, List.pairwise_cons, List.forall_mem_cons, List.forall_mem_map,
      Bool.not_eq_true]
    constructor
    · rintro ⟨⟨⟨hk, hseen⟩, hv⟩, hentries, hapart, hkey, hrest⟩
      exact ⟨⟨⟨hk, hv⟩, hentries⟩, ⟨hkey, hapart⟩, fun l hl => ⟨hseen l hl, hrest l hl⟩⟩
    · rintro ⟨⟨⟨hk, hv⟩, hentries⟩, ⟨hkey, hapart⟩, hseen⟩
      exact ⟨⟨⟨hk, fun l hl => (hseen l hl).1⟩, hv⟩, hentries, hapart, hkey,
        fun l hl => (hseen l hl).2⟩

/-- Neither the mapping nor anything in it has a key twice. -/
theorem keysUnique_map_iff {entries : List (Value × Value)} :
    (map entries).keysUnique = true ↔
      (∀ e ∈ entries, e.1.keysUnique = true ∧ e.2.keysUnique = true) ∧
      KeysApart (entries.map (·.1)) := by
  rw [keysUnique, keysUniqueEntries_iff]
  simp

theorem keysUnique_untag (v : Value) : v.untag.keysUnique = v.keysUnique := by
  induction v using untag.induct with
  | case1 tag v ih => rw [untag, ih, keysUnique]
  | case2 v h => rw [untag.eq_2 _ h]

end Value

/-! ## Reading -/

namespace Tree

open Value

variable {t : Tree} {read : Path → Node → Reader Value} {rule : ValueRule} {path : Path}

theorem gives_fail {α : Type} {P : α → Prop} (cause : ShapeError) (m : Mark) (path : Path) :
    Gives (fail cause m path : Reader α) P := gives_throw _

theorem readItems_gives (hread : ∀ path n, Gives (read path n) fun v => v.keysUnique = true)
    (i : Nat) (nodes : List Node) :
    Gives (readItems read path i nodes) fun vs => ∀ v ∈ vs, v.keysUnique = true := by
  induction nodes generalizing i with
  | nil => exact gives_pure (by simp)
  | cons n nodes ih =>
    refine (hread _ n).bind fun v hv => (ih (i + 1)).bind fun vs hvs => ?_
    exact gives_pure (List.forall_mem_cons.mpr ⟨hv, hvs⟩)

/-- A key that was seen before is an error, so the keys that are read are apart. -/
theorem readPairs_gives (hread : ∀ path n, Gives (read path n) fun v => v.keysUnique = true)
    (m : Mark) {seen : List (Value × Value)} (hseen : (map seen.reverse).keysUnique = true)
    (entries : List (Node × Node)) :
    Gives (readPairs read true m path seen entries) fun es => (map es).keysUnique = true := by
  induction entries generalizing seen with
  | nil => exact gives_pure hseen
  | cons e entries ih =>
    obtain ⟨k, v⟩ := e
    refine (hread _ k).bind fun key hkey => ?_
    split
    · exact gives_fail _ _ _
    · rename_i hnew
      refine (hread _ v).bind fun value hvalue => ih ?_
      rw [Bool.true_and, Bool.not_eq_true, hasKey, List.any_eq_false] at hnew
      have hnew : ∀ e ∈ seen, e.1.same key = false := fun e he => by simpa using hnew e he
      obtain ⟨hinside, hapart⟩ := keysUnique_map_iff.mp hseen
      refine keysUnique_map_iff.mpr ⟨?_, ?_⟩
      · rw [List.reverse_cons, List.forall_mem_append]
        exact ⟨hinside, by simpa using ⟨hkey, hvalue⟩⟩
      · unfold KeysApart at hapart ⊢
        rw [List.reverse_cons, List.map_append, List.pairwise_append]
        refine ⟨hapart, List.pairwise_singleton _ _, ?_⟩
        simpa using fun l w hw => hnew (l, w) hw

theorem readBare_gives (hrule : rule.uniqueKeys = true) {read : Option (Path → Node → Reader Value)}
    (hread : ∀ r ∈ read, ∀ path n, Gives (r path n) fun v => v.keysUnique = true) (tagged : Bool)
    (n : Node) : Gives (t.readBare rule read path tagged n) fun v => v.keysUnique = true := by
  unfold readBare
  split
  · exact gives_throw _
  · exact gives_pure rfl
  · exact gives_throw _
  · split
    · exact gives_fail _ _ _
    · exact gives_pure rfl
    · exact gives_pure rfl
    · exact gives_pure rfl
    · exact gives_fail _ _ _
    · exact gives_pure rfl
    · exact gives_pure rfl
  · split
    · exact gives_throw _
    · rename_i read
      refine (readItems_gives (hread read rfl) _ _).bind fun vs hvs => gives_pure ?_
      exact keysUniqueItems_iff.mpr hvs
  · split
    · exact gives_throw _
    · rename_i read
      rw [hrule]
      refine (readPairs_gives (hread read rfl) _ ?_ _).bind fun es hes => gives_pure hes
      exact keysUnique_map_iff.mpr ⟨by simp, List.Pairwise.nil⟩

/-- Nothing that is read has a key twice, at any depth and behind any alias. -/
theorem readValue_gives (hrule : rule.uniqueKeys = true) (depth : Nat) (path : Path) (n : Node) :
    Gives (t.readValue rule depth path n) fun v => v.keysUnique = true := by
  induction depth generalizing path n with
  | zero =>
    unfold readValue
    refine gives_bind fun ⟨path, n⟩ => ?_
    dsimp only
    split
    · exact readBare_gives hrule (by simp) _ _
    · split
      · exact gives_fail _ _ _
      · exact (readBare_gives hrule (by simp) _ _).bind fun v hv => gives_pure hv
  | succ depth ih =>
    unfold readValue
    refine gives_bind fun ⟨path, n⟩ => ?_
    dsimp only
    split
    · exact readBare_gives hrule (by simpa using ih) _ _
    · split
      · exact gives_fail _ _ _
      · exact (readBare_gives hrule (by simpa using ih) _ _).bind fun v hv => gives_pure hv

/-- The entries of a mapping whose keys and values are read as they are. -/
theorem readPairs_readValue_gives (hrule : rule.uniqueKeys = true) (depth : Nat) (m : Mark)
    (path : Path) (entries : List (Node × Node)) :
    Gives (readPairs (t.readValue rule depth) true m path [] entries)
      fun es => (map es).keysUnique = true := by
  refine readPairs_gives (readValue_gives hrule depth) m ?_ entries
  exact keysUnique_map_iff.mpr ⟨by simp, List.Pairwise.nil⟩

end Tree

end MatrixFlow.Yaml
