import MatrixFlow.Proofs.Template.Name

/-!
# Bodies of references

What the references of a well-formed template hold. A literal is recognised by its first and its
last character, so an expression that begins with one literal and ends with another is taken for a
single one too, whatever it does with them.

* `Template.literal?_eq_some`: a literal is anything between two quotation marks.
* `Template.IsLiteral`, `Template.IsMixed`: one literal, and what has further quotation marks
  inside.
* `Template.supported_iff`: a body that can be evaluated names something or is one of these.
* `Template.asReference`: a template of one reference.
* `Template.accepted_bodies`: the bodies of a well-formed template, and which of them are neither
  names nor single literals.
-/

namespace MatrixFlow.Template

/-! ## Literals -/

/-- The mark at both ends of a literal. -/
def quote : Char := '\x27'

/-- A text between quotation marks. -/
def quoted (cs : List Char) : List Char := quote :: (cs ++ [quote])

/-- A single literal: no quotation mark stands between the outer ones. -/
def IsLiteral (body : List Char) : Prop := ∃ cs, body = quoted cs ∧ quote ∉ cs

/-- The outer characters are quotation marks, and another one stands between them. -/
def IsMixed (body : List Char) : Prop := ∃ cs, body = quoted cs ∧ quote ∈ cs

section Literals

variable {body cs cs' : List Char}

theorem quoted_injective (h : quoted cs = quoted cs') : cs = cs' :=
  List.append_cancel_right (List.cons.inj h).2

theorem literal?_eq_some : literal? body = some cs ↔ body = quoted cs := by
  rw [literal?, Option.bind_eq_some_iff]
  simp only [Text.stripStart?_eq_some, Text.stripEnd?_eq_some]
  constructor
  · rintro ⟨rest, rfl, rfl⟩
    rfl
  · rintro rfl
    exact ⟨cs ++ [quote], rfl, rfl⟩

theorem isSome_literal?_iff : (literal? body).isSome = true ↔ IsLiteral body ∨ IsMixed body := by
  rw [Option.isSome_iff_exists]
  simp only [literal?_eq_some, IsLiteral, IsMixed, ← exists_or, ← and_or_left]
  exact exists_congr fun cs => (and_iff_left (Classical.em _).symm).symm

/-- Nothing but names and points is part of a reference by name. -/
theorem Dotted.mem (h : Dotted body) : ∀ c ∈ body, c = '.' ∨ isNameChar c = true := by
  obtain ⟨names, -, rfl, hnames⟩ := h
  exact forall_mem_intercalate (by simp) fun name hname c hc => .inr ((hnames name hname).2 c hc)

theorem Dotted.quote_not_mem (h : Dotted body) : quote ∉ body := fun hmem =>
  absurd (h.mem quote hmem) (by decide)

theorem Dotted.ne_nil (h : Dotted body) : body ≠ [] := by
  rintro rfl
  exact absurd (isReference_iff.mpr h) (by decide)

theorem supported_iff : Supported body ↔ Dotted body ∨ IsLiteral body ∨ IsMixed body := by
  rw [Supported, isSome_literal?_iff, isReference_iff, or_comm]
  refine and_iff_right_of_imp ?_
  rintro (h | ⟨cs, rfl, -⟩ | ⟨cs, rfl, -⟩)
  · exact h.ne_nil
  · exact List.cons_ne_nil _ _
  · exact List.cons_ne_nil _ _

theorem not_isMixed (h : Dotted body ∨ IsLiteral body) : ¬IsMixed body := by
  rintro ⟨cs, rfl, hcs⟩
  obtain h | ⟨cs', heq, hcs'⟩ := h
  · exact h.quote_not_mem List.mem_cons_self
  · exact hcs' (quoted_injective heq ▸ hcs)

/-- A text between quotation marks stands for what is between them. -/
theorem Scope.resolve?_quoted (scope : Scope) (cs : List Char) :
    scope.resolve? (quoted cs) = some (String.ofList cs) := by
  rw [resolve?, literal?_eq_some.mpr rfl]

theorem trim_quoted (cs : List Char) : Text.trim (quoted cs) = quoted cs := by
  have hquote : Text.isBlank quote = false := by decide
  simp [Text.trim, Text.trimStart, Text.trimEnd, quoted, hquote]

end Literals

/-! ## Templates of one reference -/

/-- The template that is a reference with this body. -/
def asReference (body : List Char) : String :=
  String.ofList (opening ++ ([' '] ++ body ++ [' '] ++ closing))

section Single

variable {cs : List Char}

/-- Where no reference is closed in a text, none is in the text between quotation marks. -/
theorem isBody_quoted (h : ¬closing <:+: cs) : IsBody ([' '] ++ quoted cs ++ [' ']) := by
  have hchars : [' '] ++ quoted cs ++ [' '] ++ closing.dropLast =
      ' ' :: quote :: (cs ++ [quote] ++ [' '] ++ ['\x7d']) := by
    simp [quoted, closing]
  rw [IsBody, hchars, List.infix_cons_iff, List.infix_cons_iff, List.infix_concat_iff,
    List.infix_concat_iff, List.infix_concat_iff]
  -- a closing neither begins with one of the characters in front nor ends with one of those behind
  rintro (hstart | hstart | hend | hend | hend | hin)
  · simp [closing] at hstart
  · simp [closing, quote] at hstart
  · obtain ⟨start, hstart⟩ := hend
    simpa [closing] using congrArg List.reverse hstart
  · obtain ⟨start, hstart⟩ := hend
    simpa [closing] using congrArg List.reverse hstart
  · obtain ⟨start, hstart⟩ := hend
    simpa [closing, quote] using congrArg List.reverse hstart
  · exact h hin

theorem segments_asReference_quoted (h : ¬closing <:+: cs) :
    segments (asReference (quoted cs)).toList = [.expr (quoted cs)] := by
  rw [asReference, String.toList_ofList, segments_single (isBody_quoted h),
    Text.trim_append (by decide) (by decide), trim_quoted]

theorem wellFormed_asReference_quoted (h : ¬closing <:+: cs) :
    WellFormed (asReference (quoted cs)) := by
  rw [wellFormed_iff, segments_asReference_quoted h, List.forall_mem_singleton]
  exact ⟨List.cons_ne_nil _ _, .inl (by rw [literal?_eq_some.mpr rfl]; rfl)⟩

theorem Scope.render_asReference_quoted (scope : Scope) (h : ¬closing <:+: cs) :
    scope.render (asReference (quoted cs)) = String.ofList cs := by
  rw [render_eq, segments_asReference_quoted h]
  simp [renderFrom, renderSegment, resolve?_quoted]

end Single

/-! ## Accepted bodies -/

/-- What the references of a well-formed template hold: names with points between them, in which no
other characters stand, or something between quotation marks, which stands for itself as it is
written. So a body is a name or a single literal unless a further quotation mark stands between the
outer ones. Every text with one is accepted as a body in this way, whatever it says, unless it
closes the reference, and is what the reference is replaced by. -/
theorem accepted_bodies {text : String} (h : WellFormed text) :
    (∀ body, .expr body ∈ segments text.toList →
      (Dotted body ∨ IsLiteral body ↔ ¬IsMixed body) ∧
      (Dotted body → ∀ c ∈ body, c = '.' ∨ isNameChar c = true) ∧
      ∀ cs, body = quoted cs → ∀ scope : Scope, scope.resolve? body = some (String.ofList cs)) ∧
    ∀ cs, quote ∈ cs → ¬closing <:+: cs →
      WellFormed (asReference (quoted cs)) ∧
      segments (asReference (quoted cs)).toList = [.expr (quoted cs)] ∧ IsMixed (quoted cs) ∧
      ∀ scope : Scope, scope.render (asReference (quoted cs)) = String.ofList cs := by
  refine ⟨fun body hbody => ⟨⟨not_isMixed, fun hmixed => ?_⟩, Dotted.mem, ?_⟩,
    fun cs hcs hclosing => ?_⟩
  · have hsupported : Supported body := wellFormed_iff.mp h _ hbody
    obtain hform | hform | hform := supported_iff.mp hsupported
    · exact .inl hform
    · exact .inr hform
    · exact absurd hform hmixed
  · rintro cs rfl scope
    exact scope.resolve?_quoted cs
  · exact ⟨wellFormed_asReference_quoted hclosing, segments_asReference_quoted hclosing,
      ⟨cs, rfl, hcs⟩, fun scope => scope.render_asReference_quoted hclosing⟩

/-- Two references, of which one is a name and the other a literal. -/
theorem accepted_bodies_sample :
    let text := "a $\x7b\x7b matrix.os \x7d\x7d b $\x7b\x7b 'it is' \x7d\x7d"
    WellFormed text ∧ ∀ body, .expr body ∈ segments text.toList → Dotted body ∨ IsLiteral body := by
  intro text
  have hcheck : check text = .ok () := by decide
  have hsegments : segments text.toList = [.text "a ".toList, .expr "matrix.os".toList,
    .text " b ".toList, .expr (quoted "it is".toList)] := by decide
  refine ⟨hcheck, fun body hbody => ((accepted_bodies hcheck).1 body hbody).1.mpr ?_⟩
  simp only [hsegments, List.mem_cons, List.not_mem_nil, or_false, reduceCtorEq, false_or,
    Segment.expr.injEq] at hbody
  rintro ⟨cs, rfl, hcs⟩
  obtain hbody | hbody := hbody
  · exact absurd (congrArg List.head? hbody) (by simp [quoted, quote])
  · rw [quoted_injective hbody] at hcs
    exact absurd hcs (by decide)

/-- A comparison of two literals is accepted, although it is neither a name nor a single literal,
and appears in the text with the quotation marks in its middle. -/
theorem accepts_comparison :
    let text := "$\x7b\x7b 'a' == 'b' \x7d\x7d"
    let body := "'a' == 'b'".toList
    WellFormed text ∧ segments text.toList = [.expr body] ∧ ¬Dotted body ∧ ¬IsLiteral body ∧
      ∀ scope : Scope, scope.render text = "a' == 'b" := by
  intro text body
  have hcheck : check text = .ok () := by decide
  have hmixed : IsMixed body := ⟨"a' == 'b".toList, by decide, by decide⟩
  refine ⟨hcheck, by decide, fun h => not_isMixed (.inl h) hmixed,
    fun h => not_isMixed (.inr h) hmixed, fun scope => ?_⟩
  exact @Scope.render_asReference_quoted "a' == 'b".toList scope (by decide)

end MatrixFlow.Template
