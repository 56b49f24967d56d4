import MatrixFlow.Workflow.Document
import MatrixFlow.Matrix.Combination

/-!
# Equality of matrix values

* `Json.equal_comm`, `Json.equal_congr`: equality of values is symmetric, and equal values equal
  the same values.
* `Json.isFinite`, `Json.equal_self`: a value equals itself if every fraction in it is finite.
* `jsonOf_isFinite`: so does every matrix value that was read from a document.
* `Combination.equal`: the same names in the same order, with equal values.
-/

namespace MatrixFlow

/-! ## Numbers -/

namespace Binary64

theorem equal_comm (a b : Binary64) : a.equal b = b.equal a := by
  cases a <;> cases b <;> simp only [equal, Bool.and_comm, BEq.comm]

theorem equal_congr {a b : Binary64} (h : a.equal b = true) (c : Binary64) :
    a.equal c = b.equal c := by
  cases a <;> cases b <;> cases c <;> simp [equal] at h ⊢ <;> grind

theorem equal_self {a : Binary64} (h : a.isFinite = true) : a.equal a = true := by
  cases a <;> simp_all [equal, isFinite]

end Binary64

namespace Number

/-- Not a fraction without a value. -/
def isFinite : Number → Bool
  | int _ => true
  | float x => x.isFinite

theorem equal_comm (a b : Number) : a.equal b = b.equal a := by
  cases a <;> cases b <;> simp only [equal, BEq.comm, Binary64.equal_comm]

theorem equal_congr {a b : Number} (h : a.equal b = true) (c : Number) :
    a.equal c = b.equal c := by
  cases a with
  | int a =>
    cases b with
    | int b => rw [eq_of_beq h]
    | float b => cases h
  | float a =>
    cases b with
    | int b => cases h
    | float b =>
      cases c with
      | int c => rfl
      | float c => exact Binary64.equal_congr h c

theorem equal_self {a : Number} (h : a.isFinite = true) : a.equal a = true := by
  cases a with
  | int a => exact beq_self_eq_true a
  | float a => exact Binary64.equal_self h

end Number

/-! ## Values -/

namespace Json

mutual

/-- Every fraction in the value is finite. -/
def isFinite : Json → Bool
  | num n => n.isFinite
  | arr items => itemsFinite items
  | obj fields => fieldsFinite fields
  | null | bool _ | str _ => true

/-- Every fraction in the values is finite. -/
def itemsFinite : List Json → Bool
  | [] => true
  | a :: as => isFinite a && itemsFinite as

/-- Every fraction in the values of the fields is finite. -/
def fieldsFinite : List (String × Json) → Bool
  | [] => true
  | (_, a) :: as => isFinite a && fieldsFinite as

end

mutual

theorem equal_comm (a b : Json) : a.equal b = b.equal a := by
  cases a <;> cases b <;> simp only [equal, BEq.comm, Number.equal_comm]
  · exact equalItems_comm _ _
  · exact equalFields_comm _ _

theorem equalItems_comm (as bs : List Json) : equalItems as bs = equalItems bs as := by
  cases as <;> cases bs <;> simp only [equalItems]
  rw [equal_comm, equalItems_comm]

theorem equalFields_comm (as bs : List (String × Json)) :
    equalFields as bs = equalFields bs as := by
  cases as with
  | nil => cases bs <;> rfl
  | cons p as =>
    cases bs with
    | nil => rfl
    | cons q bs =>
      obtain ⟨k, a⟩ := p
      obtain ⟨l, b⟩ := q
      simp only [equalFields]
      rw [equal_comm, equalFields_comm, BEq.comm]

end

mutual

/-- Equal values equal the same values. -/
theorem equal_congr (a : Json) {b : Json} (h : a.equal b = true) (c : Json) :
    a.equal c = b.equal c := by
  cases a <;> cases b <;> simp only [equal, beq_iff_eq, Bool.false_eq_true] at h
  case null => rfl
  case bool => rw [h]
  case num => cases c <;> first | rfl | exact Number.equal_congr h _
  case str => rw [h]
  case arr => cases c <;> first | rfl | exact equalItems_congr _ h _
  case obj => cases c <;> first | rfl | exact equalFields_congr _ h _
termination_by structural a

theorem equalItems_congr (as : List Json) {bs : List Json} (h : equalItems as bs = true)
    (cs : List Json) : equalItems as cs = equalItems bs cs := by
  cases as <;> cases bs <;> simp only [equalItems, Bool.and_eq_true, Bool.false_eq_true] at h
  case nil => rfl
  case cons =>
    cases cs with
    | nil => rfl
    | cons c cs =>
      simp only [equalItems]
      rw [equal_congr _ h.1, equalItems_congr _ h.2]
termination_by structural as

theorem equalFields_congr (as : List (String × Json)) {bs : List (String × Json)}
    (h : equalFields as bs = true) (cs : List (String × Json)) :
    equalFields as cs = equalFields bs cs := by
  cases as with
  | nil =>
    cases bs with
    | nil => rfl
    | cons q bs => cases h
  | cons p as =>
    cases bs with
    | nil => cases h
    | cons q bs =>
      obtain ⟨k, a⟩ := p
      obtain ⟨l, b⟩ := q
      simp only [equalFields, Bool.and_eq_true, beq_iff_eq] at h
      cases cs with
      | nil => rfl
      | cons r cs =>
        simp only [equalFields]
        rw [h.1.1, equal_congr _ h.1.2, equalFields_congr _ h.2]
termination_by structural as

end

mutual

theorem equal_self (a : Json) (h : a.isFinite = true) : a.equal a = true := by
  cases a with
  | null => rfl
  | bool a => exact beq_self_eq_true a
  | num a => exact Number.equal_self h
  | str a => exact beq_self_eq_true a
  | arr as => exact equalItems_self as h
  | obj as => exact equalFields_self as h

theorem equalItems_self (as : List Json) (h : itemsFinite as = true) :
    equalItems as as = true := by
  cases as with
  | nil => rfl
  | cons a as =>
    simp only [itemsFinite, Bool.and_eq_true] at h
    simp only [equalItems, equal_self a h.1, equalItems_self as h.2, Bool.and_self]

theorem equalFields_self (as : List (String × Json)) (h : fieldsFinite as = true) :
    equalFields as as = true := by
  cases as with
  | nil => rfl
  | cons p as =>
    obtain ⟨k, a⟩ := p
    simp only [fieldsFinite, Bool.and_eq_true] at h
    simp only [equalFields, beq_self_eq_true, equal_self a h.1, equalFields_self as h.2,
      Bool.and_self]

end

theorem fieldsFinite_iff {as : List (String × Json)} :
    fieldsFinite as = true ↔ ∀ p ∈ as, p.2.isFinite = true := by
  induction as with
  | nil => simp [fieldsFinite]
  | cons p as ih => simp [fieldsFinite, ih]

theorem equalFields_append {as bs as' bs' : List (String × Json)} (h : as.length = bs.length) :
    equalFields (as ++ as') (bs ++ bs') = (equalFields as bs && equalFields as' bs') := by
  induction as generalizing bs with
  | nil =>
    obtain rfl := List.length_eq_zero_iff.mp h.symm
    simp [equalFields]
  | cons p as ih =>
    cases bs with
    | nil => cases h
    | cons q bs => simp [equalFields, ih (Nat.succ.inj h), Bool.and_assoc]

theorem insertField_finite {name : String} {value : Json} {l : List (String × Json)}
    (hv : value.isFinite = true) (hl : fieldsFinite l = true) :
    fieldsFinite (insertField name value l) = true := by
  induction l with
  | nil => simp [insertField, fieldsFinite, hv]
  | cons p l ih =>
    obtain ⟨k, v⟩ := p
    simp only [fieldsFinite, Bool.and_eq_true] at hl
    unfold insertField
    split
    · simp [fieldsFinite, hv, hl]
    · split
      · simp [fieldsFinite, hv, hl]
      · simp [fieldsFinite, hl.1, ih hl.2]

theorem ofFields_finite {fields : List (String × Json)} (h : fieldsFinite fields = true) :
    (ofFields fields).isFinite = true := by
  rw [fieldsFinite_iff] at h
  simp only [ofFields, isFinite]
  refine List.foldlRecOn (motive := fun l => fieldsFinite l = true) fields _ rfl ?_
  rintro l hl ⟨k, v⟩ hp
  exact insertField_finite (h _ hp) hl

end Json

/-! ## Values of a document -/

mutual

/-- A matrix value that was read from a document equals itself. -/
theorem jsonOf_isFinite (v : Yaml.Value) : (jsonOf v).isFinite = true := by
  cases v with
  | null | bool _ | str _ => rfl
  | num n =>
    cases n with
    | int i =>
      rw [jsonOf, jsonOfNumber, jsonOfInteger_eq]
      rfl
    | float x =>
      simp only [jsonOf, jsonOfNumber]
      split
      · rename_i hx
        exact hx
      · rfl
  | seq items => exact jsonItems_finite items
  | map entries => exact Json.ofFields_finite (jsonFields_finite entries)
  | tagged _ v => exact jsonOf_isFinite v

theorem jsonItems_finite (items : List Yaml.Value) :
    Json.itemsFinite (jsonItems items) = true := by
  cases items with
  | nil => rfl
  | cons v rest =>
    simp only [jsonItems, Json.itemsFinite, jsonOf_isFinite v, jsonItems_finite rest, Bool.and_self]

theorem jsonFields_finite (entries : List (Yaml.Value × Yaml.Value)) :
    Json.fieldsFinite (jsonFields entries) = true := by
  cases entries with
  | nil => rfl
  | cons e rest =>
    obtain ⟨k, v⟩ := e
    simp only [jsonFields]
    split
    · simp only [Json.fieldsFinite, jsonOf_isFinite v, jsonFields_finite rest, Bool.and_self]
    · exact jsonFields_finite rest

end

/-! ## Combinations -/

namespace Combination

/-- Both combinations bind the same names in the same order, to equal values. -/
def equal (c d : Combination) : Bool :=
  Json.equalFields c.bindings d.bindings

/-- Every fraction that a name is bound to is finite. -/
def isFinite (c : Combination) : Bool :=
  Json.fieldsFinite c.bindings

theorem equal_self {c : Combination} (h : c.isFinite = true) : c.equal c = true :=
  Json.equalFields_self c.bindings h

end Combination

end MatrixFlow
