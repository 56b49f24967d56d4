import MatrixFlow.Proofs.Template.Scan
import MatrixFlow.Template.Render

/-!
# Substitution

* `Template.Scope.renderFrom`: a template with its references replaced, from its segments.
* `Template.Scope.render_eq`: rendering is that, although text without references is not cut.
* `Template.Scope.render_compositional`: a reference is replaced by its value, whatever stands
  around it, and the value is not looked at again.
-/

namespace MatrixFlow.Template.Scope

variable {scope : Scope}

/-- The text of segments, one after the other. -/
def renderFrom (scope : Scope) (segs : List Segment) : List Char :=
  segs.flatMap scope.renderSegment

theorem renderFrom_append (segs segs' : List Segment) :
    scope.renderFrom (segs ++ segs') = scope.renderFrom segs ++ scope.renderFrom segs' :=
  List.flatMap_append

theorem renderFrom_ofText (cs : List Char) : scope.renderFrom (Segment.ofText cs) = cs := by
  unfold Segment.ofText
  split
  · rename_i h
    exact (List.isEmpty_iff.mp h).symm
  · exact List.append_nil cs

/-- Text in which no reference opens is its own rendering. -/
theorem renderFrom_segments_of_no_opening {cs : List Char} (h : ¬opening <:+: cs) :
    scope.renderFrom (segments cs) = cs := by
  rw [segments_text h, renderFrom_ofText]

theorem render_of_no_opening {text : String} (h : ¬opening <:+: text.toList) :
    scope.render text = text :=
  if_neg fun hin => h ((Text.contains_eq_true opening_ne_nil).mp hin)

/-- Whether the text is cut or not makes no difference. -/
theorem render_eq (scope : Scope) (text : String) :
    scope.render text = String.ofList (scope.renderFrom (segments text.toList)) := by
  by_cases h : opening <:+: text.toList
  · exact if_pos ((Text.contains_eq_true opening_ne_nil).mpr h)
  · rw [render_of_no_opening h, renderFrom_segments_of_no_opening h, String.ofList_toList]

theorem renderFrom_append_reference {cs body : List Char}
    (h : ∀ cs', .text cs' ∈ segments cs → ¬opening <:+: cs') (hbody : IsBody body)
    (rest : List Char) :
    scope.renderFrom (segments (cs ++ opening ++ (body ++ closing ++ rest))) =
      scope.renderFrom (segments cs) ++ ((scope.resolve? (Text.trim body)).getD "").toList ++
        scope.renderFrom (segments rest) := by
  rw [segments_append_reference h hbody, renderFrom_append, List.append_assoc]
  rfl

theorem not_mem_of_isBlankText {w : List Char} (h : Text.isBlankText w = true) : '\x7d' ∉ w :=
  fun hmem => absurd (Text.isBlankText_eq_true.mp h _ hmem) (by decide)

/-- Behind a text in which no reference is left open, a reference in any blanks is replaced by its
value, or by nothing if it has none, and what stands before and after is rendered by itself. The
value is any text, and appears as it is. A text in which no reference opens stays as it is, which is
also what its segments say. -/
theorem render_compositional (scope : Scope) (before body rest pad pad' : String)
    (hbefore : ∀ cs, .text cs ∈ segments before.toList → ¬opening <:+: cs)
    (htrim : body.trimBlanks = body) (hbody : '\x7d' ∉ body.toList)
    (hpad : pad.isAllBlank = true) (hpad' : pad'.isAllBlank = true) :
    scope.render (before ++ String.ofList opening ++ pad ++ body ++ pad' ++
        String.ofList closing ++ rest) =
      scope.render before ++ (scope.resolve? body.toList).getD "" ++ scope.render rest ∧
    ∀ text : String,
      (¬opening <:+: text.toList → scope.render text = text) ∧
      scope.render text =
        String.ofList ((segments text.toList).flatMap scope.renderSegment) := by
  refine ⟨?_, fun text => ⟨render_of_no_opening, render_eq scope text⟩⟩
  have hpadded : IsBody (pad.toList ++ body.toList ++ pad'.toList) := by
    refine isBody_of_not_mem ?_
    simp [hbody, not_mem_of_isBlankText hpad, not_mem_of_isBlankText hpad']
  have hvalue : Text.trim (pad.toList ++ body.toList ++ pad'.toList) = body.toList := by
    rw [Text.trim_append hpad hpad', Text.trimBlanks_eq_self.mp htrim]
  have hchars : (before ++ String.ofList opening ++ pad ++ body ++ pad' ++ String.ofList closing ++
      rest).toList = before.toList ++ opening ++
        (pad.toList ++ body.toList ++ pad'.toList ++ closing ++ rest.toList) := by
    simp
  rw [render_eq, hchars, renderFrom_append_reference hbefore hpadded, hvalue, render_eq, render_eq,
    String.ofList_append, String.ofList_append, String.ofList_toList]

/-- A value with marks in it is copied, with a part of a mark on either side of the reference. -/
theorem render_compositional_sample :
    (Scope.mk ⟨[("a", .str "$\x7b\x7b x \x7d\x7d")]⟩ Env.empty "").render
      "$$\x7b\x7b matrix.a \x7d\x7d\x7d" = "$$\x7b\x7b x \x7d\x7d\x7d" := by
  have hbefore : ∀ cs, .text cs ∈ segments "$".toList → ¬opening <:+: cs := by
    intro cs hcs
    obtain rfl : cs = ['$'] := by simpa [segments, segmentsFrom, Segment.ofText] using hcs
    decide
  exact (render_compositional _ "$" "matrix.a" "\x7d" " " " " hbefore (by decide) (by decide)
    (by decide) (by decide)).1

end MatrixFlow.Template.Scope
