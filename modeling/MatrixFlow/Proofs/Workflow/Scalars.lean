import MatrixFlow.Matrix.Combination
import MatrixFlow.Workflow.Document

/-!
# Texts of scalars

A scalar of a document reaches a step as a variable or an input, by the text that it is written as,
or as a matrix value, by the text of the JSON value that it becomes.

* `Yaml.Value.IsScalar`: the scalars without a tag.
* `Binary64.decimalExponent`, `Binary64.IsLarge`: numbers that are written with an exponent that is
  not negative.
* `numberText_of_not_large`, `numberText_of_large`: a finite number is written the same in both
  texts, unless it is one of these, whose exponent bears a plus sign as a matrix value.
* `Yaml.scalar_texts`: the two texts of a scalar, and when they are the same.
-/

namespace MatrixFlow

namespace Binary64

/-- The exponent of the first of the shortest digits of a number. -/
def decimalExponent (mant : Nat) (exp : Int) : Int :=
  (shortest mant exp).2 + (Nat.toDigits 10 (shortest mant exp).1).length - 1

/-- The shortest digits begin at `10^16` or beyond. -/
def IsLarge : Binary64 → Prop
  | finite _ mant exp => mant ≠ 0 ∧ 15 < decimalExponent mant exp
  | infinite _ | nan => False

instance : DecidablePred IsLarge
  | finite _ mant exp => inferInstanceAs (Decidable (mant ≠ 0 ∧ 15 < decimalExponent mant exp))
  | infinite _ | nan => inferInstanceAs (Decidable False)

theorem IsLarge.isFinite {x : Binary64} (h : x.IsLarge) : x.isFinite = true := by
  cases x with
  | finite => rfl
  | infinite | nan => cases h

end Binary64

/-! ## Layouts of digits -/

namespace FloatStyle

open Binary64 (shortest decimalExponent)

variable {negative plusSign : Bool} {mant : Nat} {exp low high exponent : Int}

/-- The minus sign of a negative number. -/
def minus (negative : Bool) : List Char := if negative then ['-'] else []

theorem render_positional (h : mant = 0 ∨ low ≤ decimalExponent mant exp ∧
    decimalExponent mant exp ≤ high) (plusSign : Bool) :
    (FloatStyle.mk (some (low, high)) plusSign).render negative mant exp =
      String.ofList (minus negative ++
        positionalText (Nat.toDigits 10 (shortest mant exp).1) (shortest mant exp).2) := by
  have hrange : (mant == 0 || decide (low ≤ decimalExponent mant exp ∧
      decimalExponent mant exp ≤ high)) = true := by simpa using h
  unfold decimalExponent at hrange
  simp only [render, hrange, if_true]
  cases negative <;> rfl

theorem render_exponent (h : ¬(mant = 0 ∨ low ≤ decimalExponent mant exp ∧
    decimalExponent mant exp ≤ high)) (plusSign : Bool) :
    (FloatStyle.mk (some (low, high)) plusSign).render negative mant exp =
      String.ofList (minus negative ++ exponentText plusSign
        (Nat.toDigits 10 (shortest mant exp).1) (decimalExponent mant exp)) := by
  have hrange : (mant == 0 || decide (low ≤ decimalExponent mant exp ∧
      decimalExponent mant exp ≤ high)) = false := by simpa using h
  unfold decimalExponent at hrange ⊢
  simp only [render, hrange]
  cases negative <;> rfl

theorem exponentText_of_neg (h : exponent < 0) (digits : List Char) (plusSign : Bool) :
    exponentText plusSign digits exponent = exponentText false digits exponent := by
  simp only [exponentText, if_pos h]

theorem exponentText_of_nonneg (h : 0 ≤ exponent) (digits : List Char) :
    ∃ front back, exponentText false digits exponent = front ++ 'e' :: back ∧
      exponentText true digits exponent = front ++ 'e' :: '+' :: back := by
  have hsign : ¬exponent < 0 := by omega
  rcases digits with _ | ⟨d, _ | ⟨d', digits⟩⟩
  · exact ⟨[], Nat.toDigits 10 exponent.natAbs, by simp [exponentText, hsign],
      by simp [exponentText, hsign]⟩
  · exact ⟨[d], Nat.toDigits 10 exponent.natAbs, by simp [exponentText, hsign],
      by simp [exponentText, hsign]⟩
  · exact ⟨d :: '.' :: d' :: digits, Nat.toDigits 10 exponent.natAbs,
      by simp [exponentText, hsign], by simp [exponentText, hsign]⟩

end FloatStyle

/-! ## Numbers -/

section Numbers

open Binary64 (decimalExponent)

variable {x : Binary64}

/-- Finite numbers are written alike up to `10^16`. -/
theorem numberText_of_not_large (hfinite : x.isFinite = true) (h : ¬x.IsLarge) :
    Json.numberText (.float x) = Yaml.numberText (.float x) := by
  cases x with
  | infinite | nan => cases hfinite
  | finite negative mant exp =>
    have hsmall : mant ≠ 0 → decimalExponent mant exp ≤ 15 := fun hmant =>
      Int.not_lt.mp fun hlarge => h ⟨hmant, hlarge⟩
    rw [Json.numberText, Yaml.numberText, Json.floatStyle, Yaml.floatStyle]
    by_cases hpos : mant = 0 ∨ -5 ≤ decimalExponent mant exp ∧ decimalExponent mant exp ≤ 15
    · rw [FloatStyle.render_positional hpos, FloatStyle.render_positional hpos]
    · have hneg : decimalExponent mant exp < 0 := by
        have := hsmall fun hmant => hpos (.inl hmant)
        omega
      rw [FloatStyle.render_exponent hpos, FloatStyle.render_exponent hpos,
        FloatStyle.exponentText_of_neg hneg]

/-- From `10^16` on the exponent bears a plus sign as a matrix value, and no sign else. -/
theorem numberText_of_large (h : x.IsLarge) : ∃ front back : String,
    Yaml.numberText (.float x) = front ++ "e" ++ back ∧
      Json.numberText (.float x) = front ++ "e+" ++ back := by
  cases x with
  | infinite | nan => cases h
  | finite negative mant exp =>
    obtain ⟨hmant, hlarge⟩ := h
    have hpos : ¬(mant = 0 ∨ -5 ≤ decimalExponent mant exp ∧ decimalExponent mant exp ≤ 15) := by
      omega
    have hnonneg : 0 ≤ decimalExponent mant exp := by omega
    obtain ⟨front, back, hfalse, htrue⟩ := FloatStyle.exponentText_of_nonneg hnonneg
      (Nat.toDigits 10 (Binary64.shortest mant exp).1)
    refine ⟨String.ofList (FloatStyle.minus negative ++ front), String.ofList back, ?_, ?_⟩
    · rw [Yaml.numberText, Yaml.floatStyle, FloatStyle.render_exponent hpos, hfalse,
        ← String.toList_inj]
      simp
    · rw [Json.numberText, Json.floatStyle, FloatStyle.render_exponent hpos, htrue,
        ← String.toList_inj]
      simp

theorem append_sign_ne (front back : String) : front ++ "e+" ++ back ≠ front ++ "e" ++ back := by
  intro h
  have hlength := congrArg String.length h
  simp only [String.length_append] at hlength
  exact absurd (Nat.add_left_cancel (Nat.add_right_cancel hlength)) (by decide)

end Numbers

/-! ## Scalars -/

namespace Yaml

/-- A scalar without a tag. -/
inductive Value.IsScalar : Value → Prop
  | null : IsScalar .null
  | bool (b : Bool) : IsScalar (.bool b)
  | num (n : Number) : IsScalar (.num n)
  | str (s : String) : IsScalar (.str s)

variable {v : Value} {x : Binary64}

theorem numberText_of_not_finite (h : x.isFinite = false) :
    numberText (.float x) ∈ [".inf", "-.inf", ".nan"] := by
  cases x with
  | finite => cases h
  | infinite negative => cases negative <;> simp [numberText]
  | nan => simp [numberText]

theorem jsonOf_of_not_finite (h : x.isFinite = false) : jsonOf (.num (.float x)) = .null := by
  rw [jsonOf, jsonOfNumber, h]
  rfl

theorem valueText_jsonOf_of_finite (h : x.isFinite = true) :
    valueText (jsonOf (.num (.float x))) = Json.numberText (.float x) := by
  simp [jsonOf, jsonOfNumber, h, valueText, Json.compact]

/-- A fraction has the same text both ways if and only if it is finite and not large. -/
theorem valueText_fraction_iff :
    valueText (jsonOf (.num (.float x))) = numberText (.float x) ↔
      x.isFinite = true ∧ ¬x.IsLarge := by
  cases hfinite : x.isFinite with
  | false =>
    have hword := numberText_of_not_finite hfinite
    refine iff_of_false (fun heq => ?_) (by simp)
    rw [← heq, jsonOf_of_not_finite hfinite] at hword
    simp [valueText] at hword
  | true =>
    rw [valueText_jsonOf_of_finite hfinite]
    refine ⟨fun heq => ⟨rfl, fun hlarge => ?_⟩, fun h => numberText_of_not_large hfinite h.2⟩
    obtain ⟨front, back, hyaml, hjson⟩ := numberText_of_large hlarge
    exact append_sign_ne front back (hjson.symm.trans (heq.trans hyaml))

/-- The text of a scalar as a variable, and its text as a matrix value. They are the same for all
scalars but two kinds of fractions. One whose shortest digits begin at `10^16` or beyond bears a
plus sign before its exponent as a matrix value. One that is no finite number, which JSON has no
numbers for, is nothing as a matrix value and a word as a variable. -/
theorem scalar_texts (h : v.IsScalar) : ∃ text, scalarText? v = some text ∧
    (valueText (jsonOf v) = text ↔ ∀ x, v = .num (.float x) → x.isFinite = true ∧ ¬x.IsLarge) ∧
    ∀ x, v = .num (.float x) →
      (x.IsLarge → ∃ front back : String, text = front ++ "e" ++ back ∧
        valueText (jsonOf v) = front ++ "e+" ++ back) ∧
      (x.isFinite = false → jsonOf v = .null ∧ valueText (jsonOf v) = "" ∧
        text ∈ [".inf", "-.inf", ".nan"]) := by
  cases h with
  | null => exact ⟨"", rfl, by simp [jsonOf, valueText], by simp⟩
  | bool b => exact ⟨_, rfl, by simp [jsonOf, valueText, Json.compact], by simp⟩
  | str s => exact ⟨s, rfl, by simp [jsonOf, valueText], by simp⟩
  | num n =>
    cases n with
    | int i =>
      exact ⟨Number.intText i, rfl,
        by simp [jsonOf, jsonOfNumber, valueText, Json.compact, Json.numberText], by simp⟩
    | float x =>
      refine ⟨numberText (.float x), rfl, ?_, ?_⟩
      · rw [valueText_fraction_iff]
        exact ⟨by rintro h _ ⟨⟩; exact h, fun h => h x rfl⟩
      · rintro _ ⟨⟩
        refine ⟨fun hlarge => ?_, fun hfinite => ?_⟩
        · rw [valueText_jsonOf_of_finite hlarge.isFinite]
          exact numberText_of_large hlarge
        · rw [jsonOf_of_not_finite hfinite]
          exact ⟨rfl, rfl, numberText_of_not_finite hfinite⟩

/-- A fraction that binary numbers only come near to. -/
theorem scalar_texts_sample :
    let v : Value := .num (.float (.finite false 7205759403792794 (-56)))
    v.IsScalar ∧ scalarText? v = some "0.1" ∧ valueText (jsonOf v) = "0.1" := by
  intro v
  obtain ⟨text, htext, hsame, -⟩ := scalar_texts (.num _ : v.IsScalar)
  have hpoint : scalarText? v = some "0.1" := by decide +kernel
  obtain rfl : "0.1" = text := Option.some.inj (hpoint.symm.trans htext)
  refine ⟨.num _, hpoint, hsame.mpr ?_⟩
  rintro _ ⟨⟩
  decide +kernel

/-- An infinity is a word as a variable and nothing as a matrix value. The number `10^16` bears a
plus sign only as a matrix value. -/
theorem texts_differ :
    let infinity : Value := .num (.float (.infinite false))
    let large : Value := .num (.float (.finite false 5000000000000000 1))
    (resolvePlain ".inf" = .float (.infinite false) ∧ infinity.IsScalar ∧
      scalarText? infinity = some ".inf" ∧ valueText (jsonOf infinity) = "") ∧
    resolvePlain "1e16" = .float (.finite false 5000000000000000 1) ∧ large.IsScalar ∧
      scalarText? large = some "1e16" ∧ valueText (jsonOf large) = "1e+16" := by
  refine ⟨⟨by decide +kernel, .num _, rfl, rfl⟩, by decide +kernel, .num _, by decide +kernel,
    by decide +kernel⟩

end Yaml

end MatrixFlow
