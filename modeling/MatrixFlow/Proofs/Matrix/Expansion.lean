import MatrixFlow.Proofs.Matrix.Product
import MatrixFlow.Run.Instance

/-!
# Expanding a matrix

* `Combination.Agrees`, `Matrix.Fits`: what the checks of exclusions and of further combinations
  ask for.
* `Matrix.remaining`, `Matrix.unmatched`: the choices that are not excluded, and the further
  combinations that agree with none of them.
* `Matrix.fits_mergeAll`: a merge leaves the values of the axes equal, so it changes no agreement.
* `Matrix.foldl_addExtra`: all merges at once.
* `Job.combinations_declarative`: what the combinations of a job are.
-/

namespace MatrixFlow

/-! ## Agreement -/

namespace Combination

/-- Every binding of `part` holds in the combination. -/
def Agrees (c part : Combination) : Prop :=
  ∀ b ∈ part.bindings, ∃ v, c.get? b.1 = some v ∧ v.equal b.2 = true

theorem binds_iff {c : Combination} {name : String} {value : Json} :
    c.binds name value = true ↔ ∃ v, c.get? name = some v ∧ v.equal value = true := by
  unfold binds
  cases c.get? name <;> simp

theorem agrees_iff {c part : Combination} : c.agrees part = true ↔ c.Agrees part := by
  simp only [agrees, List.all_eq_true, binds_iff, Agrees]

instance (c part : Combination) : Decidable (c.Agrees part) :=
  decidable_of_iff _ agrees_iff

end Combination

namespace Matrix

variable {m : Matrix} {c e : Combination} {es : List Combination} {name : String}

/-- Every binding of `e` whose name is an axis holds in the combination. -/
def Fits (m : Matrix) (e c : Combination) : Prop :=
  ∀ b ∈ e.bindings, b.1 ∈ m.axes.map (·.name) →
    ∃ v, c.get? b.1 = some v ∧ v.equal b.2 = true

theorem hasAxis_iff : m.hasAxis name = true ↔ name ∈ m.axes.map (·.name) := by
  simp [hasAxis]

theorem fits_iff : m.fits e c = true ↔ m.Fits e c := by
  simp only [fits, List.all_eq_true, Bool.or_eq_true, Bool.not_eq_true', Fits, ← hasAxis_iff,
    Combination.binds_iff]
  refine forall₂_congr fun b _ => ?_
  cases m.hasAxis b.1 <;> simp

instance (m : Matrix) (e c : Combination) : Decidable (m.Fits e c) :=
  decidable_of_iff _ fits_iff

/-- The choices of values that agree with nothing excluded. -/
def remaining (m : Matrix) : List Combination :=
  (if m.axes = [] then [] else product m.axes).filter fun c => ∀ part ∈ m.excluded, ¬c.Agrees part

theorem kept_eq_remaining (m : Matrix) : m.kept = m.remaining := by
  unfold kept remaining
  simp only [List.isEmpty_iff]
  refine List.filter_congr fun c _ => ?_
  rw [Bool.eq_iff_iff]
  simp [← Combination.agrees_iff]

/-- The further combinations that agree with no remaining choice. -/
def unmatched (m : Matrix) : List Combination :=
  m.extras.filter fun e => ∀ c ∈ m.remaining, ¬m.Fits e c

/-! ## Axes -/

/-- A choice binds the names of the axes and no others. -/
theorem get?_product_isSome {axes : List Axis} (h : c ∈ product axes) :
    (c.get? name).isSome = true ↔ name ∈ axes.map (·.name) := by
  induction axes using List.reverseRecOn generalizing c with
  | nil => rw [List.mem_singleton.mp h]; simp [Combination.empty, Combination.get?]
  | append_singleton axes axis ih =>
    rw [product_concat, mem_extendBy] at h
    obtain ⟨c', hc', v, -, rfl⟩ := h
    rw [Combination.get?_insert, List.map_append, List.mem_append, ← ih hc', List.map_singleton,
      List.mem_singleton]
    split
    · rename_i hn
      simp [hn]
    · rename_i hn
      simp [hn]

theorem mem_product_of_remaining (h : c ∈ m.remaining) : c ∈ product m.axes := by
  rw [remaining, List.mem_filter] at h
  obtain ⟨h, -⟩ := h
  split at h
  · cases h
  · exact h

/-! ## Merges -/

/-- The combination with all bindings of those further combinations that agree with it. -/
def mergeAll (m : Matrix) (es : List Combination) (c : Combination) : Combination :=
  c.insertAll ((es.filter fun e => m.Fits e c).flatMap (·.bindings))

theorem mergeAll_concat (m : Matrix) (es : List Combination) (e c : Combination) :
    m.mergeAll (es ++ [e]) c =
      if m.Fits e c then (m.mergeAll es c).insertAll e.bindings else m.mergeAll es c := by
  unfold mergeAll
  rw [List.filter_append, List.flatMap_append, ← Combination.insertAll_insertAll]
  by_cases h : m.Fits e c
  · simp [h]
  · simp [h, Combination.insertAll]

/-- A merge changes the value of an axis at most to an equal one. -/
theorem get?_mergeAll_axis (es : List Combination) (c : Combination)
    (hname : name ∈ m.axes.map (·.name)) :
    (m.mergeAll es c).get? name = c.get? name ∨
      ∃ v w, c.get? name = some v ∧ (m.mergeAll es c).get? name = some w ∧ v.equal w = true := by
  rw [mergeAll, Combination.get?_insertAll]
  cases hlast : lastBound ((es.filter fun e => m.Fits e c).flatMap (·.bindings)) name with
  | none => exact .inl rfl
  | some w =>
    obtain ⟨e, he, hmem⟩ := List.mem_flatMap.mp (mem_of_lastBound hlast)
    obtain ⟨v, hv, hvw⟩ := of_decide_eq_true (List.mem_filter.mp he).2 _ hmem hname
    exact .inr ⟨v, w, hv, rfl, hvw⟩

/-- A merge changes no agreement on the axes. -/
theorem fits_mergeAll : m.Fits e (m.mergeAll es c) ↔ m.Fits e c := by
  refine forall₂_congr fun b _ => forall_congr' fun hb => ?_
  rcases get?_mergeAll_axis es c hb with heq | ⟨v, w, hv, hw, hvw⟩
  · rw [heq]
  · simp only [hv, hw, Option.some.injEq, exists_eq_left', Json.equal_congr v hvw]

/-- What the further combinations come to, one after the other: each choice is merged with all that
agree with it as it was before any merge, and those that agree with none stand behind. -/
theorem foldl_addExtra (m : Matrix) (s es : List Combination) :
    es.foldl m.addExtra (s, []) =
      (s.map (m.mergeAll es), es.filter fun e => ∀ c ∈ s, ¬m.Fits e c) := by
  induction es using List.reverseRecOn with
  | nil =>
    have hmap : s.map (m.mergeAll []) = s := List.map_id' s
    rw [List.foldl_nil, hmap]
    rfl
  | append_singleton es e ih =>
    -- agreement is decided on choices that earlier merges have changed
    have hany : ((s.map (m.mergeAll es)).any (m.fits e) = true) ↔ ∃ c ∈ s, m.Fits e c := by
      simp only [List.any_map, List.any_eq_true, Function.comp_apply, fits_iff, fits_mergeAll]
    rw [List.foldl_append, ih, List.foldl_cons, List.foldl_nil, addExtra, List.filter_append]
    by_cases hfit : ∃ c ∈ s, m.Fits e c
    · rw [if_pos (hany.mpr hfit), List.map_map]
      refine Prod.ext (List.map_congr_left fun c _ => ?_) ?_
      · rw [mergeAll_concat]
        simp only [Function.comp_apply, fits_iff, fits_mergeAll]
      · dsimp only
        rw [List.filter_singleton, decide_eq_false (by simpa using hfit), cond_false,
          List.append_nil]
    · have hnone : ∀ c ∈ s, ¬m.Fits e c := by simpa using hfit
      have hmap : s.map (m.mergeAll es) = s.map (m.mergeAll (es ++ [e])) :=
        List.map_congr_left fun c hc => by rw [mergeAll_concat, if_neg (hnone c hc)]
      rw [if_neg (mt hany.mp hfit), hmap, List.filter_singleton, decide_eq_true hnone, cond_true]

/-- What becomes of a choice: it keeps the values of the axes, or equal ones, and every other name
has the value of the last further combination that agrees with the choice and mentions the name. -/
structure Merged (m : Matrix) (c d : Combination) : Prop where
  axes : ∀ name ∈ m.axes.map (·.name),
    ∃ v w, c.get? name = some v ∧ d.get? name = some w ∧ (w = v ∨ v.equal w = true)
  others : ∀ name ∉ m.axes.map (·.name),
    d.get? name = lastBound ((m.extras.filter fun e => m.Fits e c).flatMap (·.bindings)) name

theorem mergeAll_merged (h : c ∈ m.remaining) : m.Merged c (m.mergeAll m.extras c) where
  axes name hname := by
    obtain ⟨v, hv⟩ := Option.isSome_iff_exists.mp
      ((get?_product_isSome (mem_product_of_remaining h)).mpr hname)
    rcases get?_mergeAll_axis m.extras c hname with heq | ⟨v, w, hv, hw, hvw⟩
    · exact ⟨v, v, hv, heq.trans hv, .inl rfl⟩
    · exact ⟨v, w, hv, hw, .inr hvw⟩
  others name hname := by
    have hnone : c.get? name = Option.none := by
      rw [← Option.not_isSome_iff_eq_none, get?_product_isSome (mem_product_of_remaining h)]
      exact hname
    rw [mergeAll, Combination.get?_insertAll, hnone, Option.or_none]

/-- The combinations of a matrix whose axes all have values. -/
theorem expand_eq (h : ∀ axis ∈ m.axes, axis.values ≠ []) :
    m.expand =
      if m.axes = [] ∧ m.extras = [] then .ok [Combination.empty]
      else if m.remaining.map (m.mergeAll m.extras) ++ m.unmatched = [] then .error .emptyMatrix
      else .ok (m.remaining.map (m.mergeAll m.extras) ++ m.unmatched) := by
  have hfind : m.axes.find? (fun axis => axis.values.isEmpty) = Option.none := by
    simpa using h
  unfold expand
  rw [hfind]
  simp only [kept_eq_remaining, foldl_addExtra, isEmpty, Bool.and_eq_true, List.isEmpty_iff]
  rfl

/-- The first axis without values is an error. -/
theorem expand_emptyAxis (h : ∃ axis ∈ m.axes, axis.values = []) :
    ∃ before axis after, m.axes = before ++ axis :: after ∧ (∀ a ∈ before, a.values ≠ []) ∧
      axis.values = [] ∧ m.expand = .error (.emptyAxis axis.name) := by
  obtain ⟨axis, hfind⟩ : ∃ axis, m.axes.find? (fun axis => axis.values.isEmpty) = some axis := by
    rw [← Option.isSome_iff_exists, List.find?_isSome]
    simpa using h
  obtain ⟨haxis, before, after, haxes, hbefore⟩ := List.find?_eq_some_iff_append.mp hfind
  refine ⟨before, axis, after, haxes, by simpa using hbefore, by simpa using haxis, ?_⟩
  unfold expand
  rw [hfind]

end Matrix

/-! ## Jobs -/

namespace Job

theorem combinations_eq (job : Job) :
    job.combinations = job.matrix.expand.mapError (ExpansionError.mk job.id) := rfl

/-- The combinations of a job. The first axis without values is an error. A job that varies over
nothing has the empty combination. Otherwise the choices that are not excluded come first, each
merged with the further combinations that agree with it, and then the further combinations that
agree with none of them; it is an error if these are none. -/
theorem combinations_declarative (job : Job) :
    ((∃ axis ∈ job.matrix.axes, axis.values = []) →
      ∃ before axis after, job.matrix.axes = before ++ axis :: after ∧
        (∀ a ∈ before, a.values ≠ []) ∧ axis.values = [] ∧
        job.combinations = .error ⟨job.id, .emptyAxis axis.name⟩) ∧
    (job.matrix.axes = [] ∧ job.matrix.extras = [] → job.combinations = .ok [Combination.empty]) ∧
    ((∀ axis ∈ job.matrix.axes, axis.values ≠ []) →
      ¬(job.matrix.axes = [] ∧ job.matrix.extras = []) →
        ∃ merged, List.Forall₂ job.matrix.Merged job.matrix.remaining merged ∧
          job.combinations =
            if merged ++ job.matrix.unmatched = [] then .error ⟨job.id, .emptyMatrix⟩
            else .ok (merged ++ job.matrix.unmatched)) ∧
    ∀ cs, job.combinations = .ok cs → cs ≠ [] := by
  have hexpand := fun h => Matrix.expand_eq (m := job.matrix) h
  refine ⟨fun h => ?_, fun h => ?_, fun h hvaries => ?_, fun cs hcs => ?_⟩
  · obtain ⟨before, axis, after, haxes, hbefore, haxis, herror⟩ := Matrix.expand_emptyAxis h
    refine ⟨before, axis, after, haxes, hbefore, haxis, ?_⟩
    rw [combinations_eq, herror]
    rfl
  · rw [combinations_eq, hexpand (by simp [h.1]), if_pos h]
    rfl
  · refine ⟨job.matrix.remaining.map (job.matrix.mergeAll job.matrix.extras), ?_, ?_⟩
    · rw [List.forall₂_map_right_iff]
      exact List.forall₂_same.mpr fun c hc => Matrix.mergeAll_merged hc
    · rw [combinations_eq, hexpand h, if_neg hvaries]
      split <;> rfl
  · by_cases h : ∀ axis ∈ job.matrix.axes, axis.values ≠ []
    · rw [combinations_eq, hexpand h] at hcs
      split at hcs
      · cases hcs
        exact List.cons_ne_nil _ _
      · split at hcs
        · cases hcs
        · rename_i hne
          cases hcs
          exact hne
    · have hempty : ∃ axis ∈ job.matrix.axes, axis.values = [] := by simpa using h
      obtain ⟨_, _, _, -, -, -, herror⟩ := Matrix.expand_emptyAxis hempty
      rw [combinations_eq, herror] at hcs
      cases hcs

/-- Of two systems the second is excluded; one further combination is merged into the first, another
one stands behind. -/
theorem combinations_declarative_sample :
    let job : Job := ⟨"build", none, .label "linux", [],
      ⟨[⟨"os", [.str "a", .str "b"]⟩],
        [⟨[("os", .str "a"), ("fast", .bool true)]⟩, ⟨[("os", .str "c")]⟩],
        [⟨[("os", .str "b")]⟩]⟩, true, none, none, []⟩
    ∃ d, job.combinations = .ok [d, ⟨[("os", .str "c")]⟩] ∧ d.get? "fast" = some (.bool true) := by
  intro job
  have hvalues : ∀ axis ∈ job.matrix.axes, axis.values ≠ [] := by simp [job]
  obtain ⟨merged, hmerged, heq⟩ :=
    (combinations_declarative job).2.2.1 hvalues (by simp [job])
  have hremaining : job.matrix.remaining = [⟨[("os", .str "a")]⟩] := by rfl
  have hunmatched : job.matrix.unmatched = [⟨[("os", .str "c")]⟩] := by rfl
  rw [hremaining] at hmerged
  rw [hunmatched] at heq
  cases hmerged with
  | @cons _ d _ _ hd hnil =>
    cases hnil
    exact ⟨d, heq, hd.others "fast" (by decide)⟩

end Job

end MatrixFlow
