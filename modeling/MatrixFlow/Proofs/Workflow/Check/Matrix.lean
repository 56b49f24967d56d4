import MatrixFlow.Proofs.Matrix.Product
import MatrixFlow.Proofs.Workflow.Check.Place
import MatrixFlow.Workflow.Check.Matrix

/-!
# When a matrix is accepted

* `Check.EntryOk`: one entry, which is an axis or holds combinations.
* `Check.MatrixOk`: such entries, whose exclusions name axes only. Which lists of exclusions count
  is left open, because two keys with different tags may both read as `exclude`.
* `Check.EntriesRead`: what is read from entries; a later list of exclusions replaces those before.
* `Check.passes_checkMatrix`: a matrix is accepted if it is so for the last list of exclusions.
-/

namespace MatrixFlow.Check

open Yaml (Value)

variable {source job key : String}

/-! ## Shapes -/

/-- The values whose keys read as a name. -/
def valuesAt (entries : List (Value × Value)) (name : String) : List Value :=
  (entries.filter fun e => e.1.asText? == some name).map (·.2)

/-- The names of the axes: all keys but those of combinations. -/
def axisNames (entries : List (Value × Value)) : List String :=
  (entries.filterMap (·.1.asText?)).filter fun name => name != "include" && name != "exclude"

/-- A list of mappings. -/
def IsMappingList (v : Value) : Prop :=
  ∃ items, v.asItems? = some items ∧ ∀ item ∈ items, ∃ entries, item.asEntries? = some entries

/-- The strings among the keys of the mappings in a list. -/
def keysIn (v : Value) : List String :=
  (v.asItems?.getD []).flatMap fun item => (item.asEntries?.getD []).filterMap (·.1.asText?)

/-- The combinations that a list of mappings makes. -/
def combinationsIn (v : Value) : List Combination :=
  (v.asItems?.getD []).map fun item => Combination.ofList (bindingsOf (item.asEntries?.getD []))

/-- The last of several lists under one name, which is the only one that is kept. -/
def lastOf (lists : List Value) : List Value := lists.getLast?.toList

/-- The key is a string; the value is a list of mappings under the keys of combinations, and a list
under the others. -/
def EntryOk (e : Value × Value) : Prop :=
  ∃ name, e.1.asText? = some name ∧
    if name = "include" ∨ name = "exclude" then IsMappingList e.2
    else ∃ items, e.2.asItems? = some items

/-- A mapping of such entries. The keys in those lists of exclusions that count name axes. -/
def MatrixOk (counting : List Value → List Value) (v : Value) : Prop :=
  ∃ entries, v.asEntries? = some entries ∧ (∀ e ∈ entries, EntryOk e) ∧
    ∀ w ∈ counting (valuesAt entries "exclude"), ∀ name ∈ keysIn w, name ∈ axisNames entries

theorem checkCombinations_eq_ok {v : Value} {cs : List Combination} :
    checkCombinations source job key v = .ok cs ↔ IsMappingList v ∧ cs = combinationsIn v := by
  unfold checkCombinations IsMappingList combinationsIn
  cases v.asItems? with
  | none => simp [reject]
  | some items =>
    rw [mapM_eq_ok (P := fun item => ∃ entries, item.asEntries? = some entries)
      (g := fun item => Combination.ofList (bindingsOf (item.asEntries?.getD [])))]
    · simp
    · intro item c
      cases item.asEntries? with
      | none => simp [reject]
      | some entries => simp [eq_comm]

theorem map_fst_bindingsOf (entries : List (Value × Value)) :
    (bindingsOf entries).map (·.1) = entries.filterMap (·.1.asText?) := by
  induction entries with
  | nil => rfl
  | cons e entries ih =>
    obtain ⟨k, v⟩ := e
    unfold bindingsOf
    split
    · rename_i name h
      simp [ih, h]
    · rename_i h
      simp [ih, h]

theorem forall_combinationsIn {v : Value} {P : String → Prop} :
    (∀ c ∈ combinationsIn v, ∀ b ∈ c.bindings, P b.1) ↔ ∀ name ∈ keysIn v, P name := by
  have hnames : ∀ pairs : List (String × Json),
      (∀ b ∈ (Combination.ofList pairs).bindings, P b.1) ↔ ∀ name ∈ pairs.map (·.1), P name := by
    intro pairs
    refine (List.forall_mem_map (f := Prod.fst) (P := P)).symm.trans ?_
    rw [Combination.ofList, Combination.bindings_insertAll]
    simp only [mem_names_putAll, Combination.empty, List.map_nil, List.not_mem_nil, false_or]
  simp only [combinationsIn, keysIn, List.forall_mem_map, hnames, map_fst_bindingsOf,
    List.mem_flatMap, forall_exists_index, and_imp]
  exact ⟨fun h name item hi hn => h item hi name hn, fun h item hi name hn => h name item hi hn⟩

/-- The combinations that entries hold under a name, or else those from before. Of several lists
under one name the last one is kept. -/
def combinationsUnder (entries : List (Value × Value)) (name : String) (before : List Combination) :
    List Combination :=
  ((valuesAt entries name).getLast?.map combinationsIn).getD before

theorem combinationsUnder_cons (e : Value × Value) (entries : List (Value × Value)) (name : String)
    (before : List Combination) : combinationsUnder (e :: entries) name before =
      combinationsUnder entries name (combinationsUnder [e] name before) := by
  have hvalues : valuesAt (e :: entries) name = valuesAt [e] name ++ valuesAt entries name := by
    rw [← List.singleton_append, valuesAt, List.filter_append, List.map_append]
    rfl
  rw [combinationsUnder, combinationsUnder, combinationsUnder, hvalues, List.getLast?_append]
  cases (valuesAt entries name).getLast? <;> rfl

theorem combinationsUnder_singleton {k v : Value} {key name : String} (hk : k.asText? = some key)
    (before : List Combination) : combinationsUnder [(k, v)] name before =
      if key = name then combinationsIn v else before := by
  by_cases hname : key = name <;> simp [combinationsUnder, valuesAt, hk, hname]

/-- What a matrix holds after some entries. -/
structure EntriesRead (m : Matrix) (entries : List (Value × Value)) (m' : Matrix) : Prop where
  axes : m'.axes.map (·.name) = m.axes.map (·.name) ++ axisNames entries
  extras : m'.extras = combinationsUnder entries "include" m.extras
  excluded : m'.excluded = combinationsUnder entries "exclude" m.excluded
  finite : (∀ axis ∈ m.axes, axis.isFinite = true) → ∀ axis ∈ m'.axes, axis.isFinite = true

theorem EntriesRead.nil (m : Matrix) : EntriesRead m [] m :=
  ⟨by simp [axisNames], rfl, rfl, fun hm => hm⟩

theorem EntriesRead.cons {m m₁ m₂ : Matrix} {e : Value × Value} {entries : List (Value × Value)}
    (h : EntriesRead m [e] m₁) (h' : EntriesRead m₁ entries m₂) :
    EntriesRead m (e :: entries) m₂ := by
  have haxes : axisNames (e :: entries) = axisNames [e] ++ axisNames entries := by
    rw [← List.singleton_append, axisNames, List.filterMap_append, List.filter_append]
    rfl
  exact ⟨by rw [h'.axes, h.axes, haxes, List.append_assoc],
    by rw [h'.extras, h.extras, ← combinationsUnder_cons],
    by rw [h'.excluded, h.excluded, ← combinationsUnder_cons], fun hm => h'.finite (h.finite hm)⟩

/-- An entry of either kind is read, and the rest is read into what it leaves. -/
theorem exists_entriesRead (source job : String) (m : Matrix) {k v : Value}
    (rest : List (Value × Value)) (h : EntryOk (k, v)) : ∃ m', EntriesRead m [(k, v)] m' ∧
      checkMatrixEntries source job m ((k, v) :: rest) = checkMatrixEntries source job m' rest := by
  obtain ⟨name, hk, hv⟩ := h
  rw [checkMatrixEntries, hk]
  dsimp only at hv ⊢
  by_cases hinclude : name = "include"
  · subst hinclude
    rw [if_pos (.inl rfl)] at hv
    refine ⟨{ m with extras := combinationsIn v }, ⟨?_, ?_, ?_, fun hm => hm⟩, ?_⟩
    · simp [axisNames, hk]
    · simp [combinationsUnder_singleton hk]
    · simp [combinationsUnder_singleton hk]
    · rw [if_pos rfl, checkCombinations_eq_ok.mpr ⟨hv, rfl⟩]
      rfl
  · by_cases hexclude : name = "exclude"
    · subst hexclude
      rw [if_pos (.inr rfl)] at hv
      refine ⟨{ m with excluded := combinationsIn v }, ⟨?_, ?_, ?_, fun hm => hm⟩, ?_⟩
      · simp [axisNames, hk]
      · simp [combinationsUnder_singleton hk]
      · simp [combinationsUnder_singleton hk]
      · rw [if_neg hinclude, if_pos rfl, checkCombinations_eq_ok.mpr ⟨hv, rfl⟩]
        rfl
    · rw [if_neg (not_or.mpr ⟨hinclude, hexclude⟩)] at hv
      obtain ⟨items, hitems⟩ := hv
      refine ⟨{ m with axes := m.axes ++ [⟨name, items.map jsonOf⟩] },
        ⟨?_, ?_, ?_, fun hm => ?_⟩, ?_⟩
      · simp [axisNames, hk, hinclude, hexclude]
      · simp [combinationsUnder_singleton hk, hinclude]
      · simp [combinationsUnder_singleton hk, hexclude]
      · have hlast : Axis.isFinite ⟨name, items.map jsonOf⟩ = true := by
          simp [Axis.isFinite, jsonOf_isFinite]
        exact List.forall_mem_append.mpr ⟨hm, by simpa using hlast⟩
      · rw [if_neg hinclude, if_neg hexclude, checkAxis, hitems]
        rfl

theorem EntryOk.of_passes {m : Matrix} {k v : Value} {rest : List (Value × Value)}
    (h : Passes (checkMatrixEntries source job m ((k, v) :: rest))) : EntryOk (k, v) := by
  rw [checkMatrixEntries] at h
  dsimp only at h
  split at h
  · exact (not_passes_reject _ _ _ h).elim
  · rename_i name hk
    refine ⟨name, hk, ?_⟩
    split at h
    · rename_i hname
      obtain ⟨cs, hcs, -⟩ := passes_bind.mp h
      rw [if_pos (.inl hname)]
      exact (checkCombinations_eq_ok.mp hcs).1
    · split at h
      · rename_i hname
        obtain ⟨cs, hcs, -⟩ := passes_bind.mp h
        rw [if_pos (.inr hname)]
        exact (checkCombinations_eq_ok.mp hcs).1
      · rename_i hinclude hexclude
        obtain ⟨axis, haxis, -⟩ := passes_bind.mp h
        rw [if_neg (not_or.mpr ⟨hinclude, hexclude⟩)]
        unfold checkAxis at haxis
        split at haxis
        · cases haxis
        · rename_i items hitems
          exact ⟨items, hitems⟩

/-- Entries that are accepted are of the two kinds, and all of them are in the matrix. -/
theorem checkMatrixEntries_eq_ok {m m' : Matrix} {entries : List (Value × Value)}
    (h : checkMatrixEntries source job m entries = .ok m') :
    (∀ e ∈ entries, EntryOk e) ∧ EntriesRead m entries m' := by
  induction entries generalizing m with
  | nil =>
    cases h
    exact ⟨by simp, .nil _⟩
  | cons e entries ih =>
    obtain ⟨k, v⟩ := e
    have he : EntryOk (k, v) := EntryOk.of_passes ⟨m', h⟩
    obtain ⟨m₁, hread, heq⟩ := exists_entriesRead source job m entries he
    rw [heq] at h
    obtain ⟨hentries, hrest⟩ := ih h
    exact ⟨List.forall_mem_cons.mpr ⟨he, hentries⟩, hread.cons hrest⟩

theorem passes_checkMatrixEntries {m : Matrix} {entries : List (Value × Value)} :
    Passes (checkMatrixEntries source job m entries) ↔ ∀ e ∈ entries, EntryOk e := by
  refine ⟨fun ⟨_, h⟩ => (checkMatrixEntries_eq_ok h).1, fun h => ?_⟩
  induction entries generalizing m with
  | nil => exact ⟨m, rfl⟩
  | cons e entries ih =>
    obtain ⟨he, hentries⟩ := List.forall_mem_cons.mp h
    obtain ⟨m₁, -, heq⟩ := exists_entriesRead source job m entries he
    rw [heq]
    exact ih hentries

theorem unknownAxis?_eq_none {m : Matrix} :
    unknownAxis? m = none ↔ ∀ c ∈ m.excluded, ∀ b ∈ c.bindings, b.1 ∈ m.axes.map (·.name) := by
  simp [unknownAxis?, List.findSome?_eq_none_iff, Matrix.hasAxis]

theorem checkMatrix_eq_ok {v : Value} {m : Matrix} (h : checkMatrix source job v = .ok m) :
    ∃ entries, v.asEntries? = some entries ∧
      checkMatrixEntries source job Matrix.none entries = .ok m := by
  unfold checkMatrix at h
  split at h
  · cases h
  · rename_i entries hentries
    obtain ⟨m', hm', h⟩ := except_bind_eq_ok.mp h
    split at h <;> cases h
    exact ⟨entries, hentries, hm'⟩

/-- Every fraction in a matrix that is accepted is finite, so its values equal themselves. -/
theorem checkMatrix_isFinite {v : Value} {m : Matrix} (h : checkMatrix source job v = .ok m) :
    ∀ axis ∈ m.axes, axis.isFinite = true := by
  obtain ⟨entries, -, hm⟩ := checkMatrix_eq_ok h
  exact (checkMatrixEntries_eq_ok hm).2.finite (by simp [Matrix.none])

/-- The last of the lists of exclusions counts. -/
theorem passes_checkMatrix {v : Value} :
    Passes (checkMatrix source job v) ↔ MatrixOk lastOf v := by
  unfold checkMatrix MatrixOk
  cases v.asEntries? with
  | none => simp
  | some entries =>
    have hexcluded : ∀ m, EntriesRead Matrix.none entries m → (unknownAxis? m = none ↔
        ∀ w ∈ (valuesAt entries "exclude").getLast?.toList, ∀ name ∈ keysIn w,
          name ∈ axisNames entries) := by
      intro m hm
      have haxes : m.axes.map (·.name) = axisNames entries := hm.axes
      rw [unknownAxis?_eq_none, haxes, hm.excluded, combinationsUnder]
      cases (valuesAt entries "exclude").getLast? with
      | none => simp [Matrix.none]
      | some w => simpa using forall_combinationsIn (P := (· ∈ axisNames entries))
    simp only [Option.some.injEq, exists_eq_left']
    rw [passes_bind]
    constructor
    · rintro ⟨m, hm, h⟩
      obtain ⟨hentries, hread⟩ := checkMatrixEntries_eq_ok hm
      refine ⟨hentries, (hexcluded m hread).mp ?_⟩
      split at h
      · exact (not_passes_reject _ _ _ h).elim
      · assumption
    · rintro ⟨hentries, hkeys⟩
      obtain ⟨m, hm⟩ : Passes (checkMatrixEntries source job Matrix.none entries) :=
        passes_checkMatrixEntries.mpr hentries
      refine ⟨m, hm, ?_⟩
      rw [(hexcluded m (checkMatrixEntries_eq_ok hm).2).mpr hkeys]
      exact passes_ok m

end MatrixFlow.Check
