import MatrixFlow.Proofs.Bindings
import MatrixFlow.Proofs.Template.Substitution
import MatrixFlow.Proofs.Template.WellFormed
import MatrixFlow.Run.Instance

/-!
# Names in references

What a reference can name is limited to what it is written with: points separate names, and blanks
around it do not count.

* `Template.IsName`: a name that can stand in a reference.
* `Template.Scope.SameNames`: two scopes that differ in other names only.
* `Template.Scope.render_congr`: such scopes render every well-formed template alike.
* `Template.reference name`: the reference to a name that a combination binds.
* `Template.Scope.render_reference`: a reference to a name is replaced by the value of the name.
* `Template.Scope.render_insert`: no well-formed template shows the value of another name.
* `Template.referable_iff`: which bound names can be referred to.
-/

namespace MatrixFlow.Template

/-- A name that can stand in a reference. -/
def IsName (name : List Char) : Prop := name ≠ [] ∧ ∀ c ∈ name, isNameChar c = true

instance (name : List Char) : Decidable (IsName name) :=
  inferInstanceAs (Decidable (_ ∧ _))

/-! ## Values of references -/

theorem isName_of_mem_splitOn {body : List Char} (h : isReference body = true) :
    ∀ part ∈ Text.splitOn '.' body, IsName part := by
  unfold isReference at h
  intro part hpart
  simp only [Bool.and_eq_true, List.all_eq_true, Bool.not_eq_true',
    List.isEmpty_eq_false_iff] at h
  exact h.2 part hpart

namespace Scope

variable {scope scope' : Scope} {body : List Char} {text : String}

/-- The scopes differ in what no reference can name. -/
structure SameNames (scope scope' : Scope) : Prop where
  matrix : ∀ name : String, IsName name.toList → scope.matrix.get? name = scope'.matrix.get? name
  env : scope.env = scope'.env
  runner : scope.runner = scope'.runner

theorem resolve?_congr (h : SameNames scope scope') (hbody : Supported body) :
    scope.resolve? body = scope'.resolve? body := by
  unfold resolve?
  cases hliteral : literal? body with
  | some cs => rfl
  | none =>
    have hreference : isReference body = true := hbody.2.resolve_left (by simp [hliteral])
    have hparts := isName_of_mem_splitOn hreference
    dsimp only
    split
    · rename_i name rest hsplit
      have hname : name ∈ (Text.splitOn '.' body).map String.ofList := by simp [hsplit]
      obtain ⟨part, hpart, rfl⟩ := List.mem_map.mp hname
      rw [h.matrix _ (by simpa using hparts part hpart)]
    · rw [h.env]
    · rw [h.runner]
    · rw [h.runner]
    · rfl
    · rfl

theorem renderSegment_congr (h : SameNames scope scope') {seg : Segment} (hseg : seg.Sound) :
    scope.renderSegment seg = scope'.renderSegment seg := by
  cases seg with
  | text cs => rfl
  | expr body => rw [renderSegment, renderSegment, resolve?_congr h hseg]

/-- Names that no reference can name make no difference to a well-formed template. -/
theorem render_congr (h : SameNames scope scope') (htext : WellFormed text) :
    scope.render text = scope'.render text := by
  have hsound := wellFormed_iff.mp htext
  have hsegs : scope.renderFrom (segments text.toList) = scope'.renderFrom (segments text.toList) :=
    List.flatMap_congr fun seg hseg => renderSegment_congr h (hsound seg hseg)
  rw [render_eq, render_eq, hsegs]

end Scope

/-! ## References to names -/

/-- The reference to a name that a combination binds. -/
def reference (name : String) : String :=
  "$\x7b\x7b matrix." ++ name ++ " \x7d\x7d"

theorem toNat_of_isNameChar {c : Char} (h : isNameChar c = true) :
    32 < c.toNat ∧ c.toNat < 125 := by
  simp only [isNameChar, Bool.or_eq_true, decide_eq_true_eq] at h
  obtain (h | rfl) | rfl := h
  · have := Text.toNat_of_isAlphanum h
    omega
  · decide
  · decide

theorem isBlank_of_isNameChar {c : Char} (h : isNameChar c = true) : Text.isBlank c = false := by
  have := toNat_of_isNameChar h
  simp only [Text.isBlank, Bool.or_eq_false_iff, Bool.and_eq_false_iff, decide_eq_false_iff_not,
    beq_eq_false_iff_ne]
  omega

section Reference

variable {name : String} {scope : Scope} {v : Json}

/-- The word before the first point. -/
def matrixWord : List Char := ['m', 'a', 't', 'r', 'i', 'x']

/-- The body of the reference to a name. -/
def bodyOf (name : String) : List Char := matrixWord ++ '.' :: name.toList

theorem toList_reference (name : String) :
    (reference name).toList = opening ++ ([' '] ++ bodyOf name ++ [' '] ++ closing) := by
  have hstart : "$\x7b\x7b matrix.".toList = opening ++ [' '] ++ matrixWord ++ ['.'] := by decide
  have hend : " \x7d\x7d".toList = [' '] ++ closing := by decide
  rw [reference, String.toList_append, String.toList_append, hstart, hend, bodyOf]
  simp only [List.append_assoc, List.cons_append, List.nil_append]

theorem isName_matrixWord : IsName matrixWord := by
  have hall : matrixWord.all isNameChar = true := by decide
  exact ⟨List.cons_ne_nil _ _, List.all_eq_true.mp hall⟩

theorem splitOn_bodyOf (h : IsName name.toList) :
    Text.splitOn '.' (bodyOf name) = [matrixWord, name.toList] := by
  have hpoint : ∀ part, IsName part → '.' ∉ part := fun part hpart hmem =>
    absurd (hpart.2 '.' hmem) (by decide)
  have hparts : ∀ part ∈ [matrixWord, name.toList], '.' ∉ part := by
    simpa using ⟨hpoint _ isName_matrixWord, hpoint _ h⟩
  have hbody : bodyOf name = ['.'].intercalate [matrixWord, name.toList] := by
    simp [bodyOf, List.intercalate]
  rw [Text.splitOn_eq, hbody, List.splitOn_intercalate '.' hparts (by simp)]

theorem dotted_bodyOf (h : IsName name.toList) : Dotted (bodyOf name) := by
  refine ⟨[matrixWord, name.toList], Nat.le_refl 2, by simp [bodyOf, List.intercalate], ?_⟩
  exact List.forall_mem_cons.mpr ⟨isName_matrixWord, List.forall_mem_singleton.mpr h⟩

/-- There are no blanks in the body. -/
theorem trim_bodyOf (h : IsName name.toList) : Text.trim (bodyOf name) = bodyOf name := by
  have hpart : ∀ part, IsName part → ∀ c ∈ part, Text.isBlank c = false := fun part hpart c hc =>
    isBlank_of_isNameChar (hpart.2 c hc)
  refine Text.trim_of_no_blank (List.forall_mem_append.mpr ⟨hpart _ isName_matrixWord, ?_⟩)
  exact List.forall_mem_cons.mpr ⟨by decide, hpart _ h⟩

theorem segments_reference_name (h : IsName name.toList) :
    segments (reference name).toList = [.expr (bodyOf name)] := by
  have hmark : '\x7d' ∉ [' '] ++ bodyOf name ++ [' '] := by
    have hname : '\x7d' ∉ name.toList := fun hmem => absurd (h.2 _ hmem) (by decide)
    simpa [bodyOf, matrixWord] using hname
  rw [toList_reference, segments_single (isBody_of_not_mem hmark),
    Text.trim_append (by decide) (by decide), trim_bodyOf h]

/-- A reference to a name is well formed. -/
theorem wellFormed_reference (h : IsName name.toList) : WellFormed (reference name) := by
  rw [wellFormed_iff, segments_reference_name h, List.forall_mem_singleton]
  exact ⟨by simp [bodyOf], .inr (isReference_iff.mpr (dotted_bodyOf h))⟩

/-- A reference to a name is replaced by the value of the name. -/
theorem Scope.render_reference (h : IsName name.toList) (hv : scope.matrix.get? name = some v) :
    scope.render (reference name) = valueText v := by
  have hliteral : literal? (bodyOf name) = none := rfl
  have hresolve : scope.resolve? (bodyOf name) = some (valueText v) := by
    unfold resolve?
    rw [hliteral, splitOn_bodyOf h]
    have hword : String.ofList matrixWord = "matrix" := by decide
    simp [hword, hv, nestedValue?]
  rw [render_eq, segments_reference_name h]
  simp [renderFrom, renderSegment, hresolve]

end Reference

/-! ## Names that cannot be referred to -/

/-- No well-formed template shows the value of such a name. -/
theorem Scope.render_insert {name text : String} (h : ¬IsName name.toList) (htext : WellFormed text)
    (scope : Scope) (v : Json) :
    Scope.render { scope with matrix := scope.matrix.insert name v } text = scope.render text := by
  refine render_congr ⟨fun other hother => ?_, rfl, rfl⟩ htext
  have hne : other ≠ name := fun heq => h (heq ▸ hother)
  rw [Combination.get?_insert, if_neg hne]

/-- Which bound names can be referred to. A name of letters, digits, `_` and `-` can: the reference
to it passes the check and is replaced by the text of its value, whatever the value is. For other
names that is not so, and not only for this reference: no well-formed template changes with their
value. The variable of a bound name is set to the text of the value in any case. -/
theorem referable_iff (name : String) :
    (IsName name.toList ↔ WellFormed (reference name) ∧ ∀ (scope : Scope) (v : Json),
      scope.matrix.get? name = some v → scope.render (reference name) = valueText v) ∧
    (¬IsName name.toList → ∀ text, WellFormed text → ∀ (scope : Scope) (v : Json),
      Scope.render { scope with matrix := scope.matrix.insert name v } text = scope.render text) ∧
    ∀ (c : Combination) (v : Json), c.get? name = some v →
      (matrixVarName name, valueText v) ∈ Job.matrixVars c := by
  refine ⟨⟨fun h => ⟨wellFormed_reference h, fun _ _ hv => Scope.render_reference h hv⟩, ?_⟩,
    fun h text htext scope v => Scope.render_insert h htext scope v, fun c v hv => ?_⟩
  · rintro ⟨hcheck, hrender⟩
    by_contra hname
    -- all values of the name would be shown alike
    have hshown : ∀ s : String,
        Scope.render ⟨Combination.empty, Env.empty, ""⟩ (reference name) = s := by
      intro s
      rw [← Scope.render_insert hname hcheck _ (.str s)]
      exact hrender _ (.str s) (by simp [Combination.get?_insert])
    exact absurd ((hshown "a").symm.trans (hshown "b")) (by decide)
  · rw [Combination.get?_eq_lookup] at hv
    exact List.mem_map.mpr ⟨(name, v), mem_of_lookup hv, rfl⟩

/-- A name with a point in it is bound, its variable is set, and the reference to it passes the
check. It names a field of another value, of which there is none, and is replaced by nothing. -/
theorem pointed_name_unseen :
    let scope : Scope := ⟨⟨[("rust-version.minor", .str "74")]⟩, Env.empty, ""⟩
    scope.matrix.get? "rust-version.minor" = some (.str "74") ∧
      WellFormed (reference "rust-version.minor") ∧
      Job.matrixVars scope.matrix = [("MATRIX_RUST_VERSION_MINOR", valueText (.str "74"))] ∧
      scope.render (reference "rust-version.minor") = "" ∧ valueText (.str "74") = "74" := by
  intro scope
  have hcheck : check (reference "rust-version.minor") = .ok () := by decide
  have hvars : Job.matrixVars scope.matrix = [("MATRIX_RUST_VERSION_MINOR", "74")] := by decide
  have hshown : scope.render (reference "rust-version.minor") = "" := by decide
  exact ⟨rfl, hcheck, hvars, hshown, rfl⟩

end MatrixFlow.Template
