import Mathlib.Data.List.Chain
import MatrixFlow.Proofs.Template.Scan

/-!
# Pieces of templates

Cutting a template into segments loses nothing but the blanks around the bodies of references, and
no other segments of the same form are written as the template.

* `Template.Segment.WrittenAs`: the texts that a segment is written as.
* `Template.Canonical`: the form of the segments of a template.
* `Template.EndsOpen`: a template whose last reference is never closed.
* `Template.canonical_segments`, `Template.exists_writtenAs`: segments have that form, and are
  written as the template.
* `Template.segments_of_writtenAs`: what has that form is what its text is cut into.
* `Template.segments_lossless`: the segments of a template.
-/

namespace MatrixFlow.Template

open Text (trim isBlankText)

/-- The texts that a segment is written as: text as it is, and a reference with any blanks around
its body, between which and the end nothing closes. -/
inductive Segment.WrittenAs : Segment → List Char → Prop
  | text (cs : List Char) : WrittenAs (.text cs) cs
  | expr {pad body pad' : List Char} (hpad : isBlankText pad = true)
      (hpad' : isBlankText pad' = true) (hbody : IsBody (pad ++ body ++ pad')) :
      WrittenAs (.expr body) (opening ++ (pad ++ body ++ pad' ++ closing))

/-- The segment is text. -/
def Segment.IsText : Segment → Prop
  | .text _ => True
  | .expr _ => False

/-- The form of the segments of a template. -/
structure Canonical (segs : List Segment) : Prop where
  /-- No text is empty. -/
  text_ne_nil : ∀ cs, .text cs ∈ segs → cs ≠ []
  /-- What opens in a text is not closed there. -/
  text_unclosed : ∀ before rest, .text (before ++ opening ++ rest) ∈ segs → ¬closing <:+: rest
  /-- Of two neighbours one is a reference. -/
  apart : segs.IsChain fun s t => ¬(s.IsText ∧ t.IsText)
  /-- Nothing closes in a body, and there are no blanks around it. -/
  body : ∀ body, .expr body ∈ segs → ¬closing <:+: body ∧ trim body = body
  /-- What opens in a text opens in the last segment. -/
  open_last : ∀ before cs after, segs = before ++ .text cs :: after → opening <:+: cs → after = []

/-- A reference opens and is never closed. -/
def EndsOpen (cs : List Char) : Prop :=
  ∃ before rest, cs = before ++ opening ++ rest ∧ ¬closing <:+: rest

section Form

variable {segs : List Segment} {cs body before rest : List Char}

theorem canonical_nil : Canonical [] where
  text_ne_nil := nofun
  text_unclosed := nofun
  apart := .nil
  body := nofun
  open_last before cs after h := by simp at h

theorem canonical_singleton (hne : cs ≠ [])
    (hopen : ∀ before rest, cs = before ++ opening ++ rest → ¬closing <:+: rest) :
    Canonical [.text cs] where
  text_ne_nil cs' h := by
    cases List.mem_singleton.mp h
    exact hne
  text_unclosed before rest h := by
    cases List.mem_singleton.mp h
    exact hopen before rest rfl
  apart := .singleton _
  body body h := nomatch List.mem_singleton.mp h
  open_last before cs' after h _ := by
    have hlength := congrArg List.length h
    simp at hlength
    exact List.length_eq_zero_iff.mp (by omega)

theorem Canonical.expr_cons (h : Canonical segs) (hclosing : ¬closing <:+: body)
    (htrim : trim body = body) : Canonical (.expr body :: segs) where
  text_ne_nil cs hcs := h.text_ne_nil cs (by simpa using hcs)
  text_unclosed before rest hcs := h.text_unclosed before rest (by simpa using hcs)
  apart := List.isChain_cons.mpr ⟨fun _ _ h => h.1, h.apart⟩
  body body' hbody' := by
    obtain heq | hbody' := List.mem_cons.mp hbody'
    · cases heq
      exact ⟨hclosing, htrim⟩
    · exact h.body body' hbody'
  open_last before cs after heq hcs := by
    cases before with
    | nil => cases heq
    | cons first before => exact h.open_last before cs after (List.cons.inj heq).2 hcs

/-- Text in which nothing opens can stand before a reference. -/
theorem Canonical.text_cons (h : Canonical (.expr body :: segs)) (hne : cs ≠ [])
    (hcs : ¬opening <:+: cs) : Canonical (.text cs :: .expr body :: segs) where
  text_ne_nil cs' hcs' := by
    obtain heq | hcs' := List.mem_cons.mp hcs'
    · cases heq
      exact hne
    · exact h.text_ne_nil cs' hcs'
  text_unclosed before rest hcs' := by
    obtain heq | hcs' := List.mem_cons.mp hcs'
    · cases heq
      exact absurd ⟨before, rest, rfl⟩ hcs
    · exact h.text_unclosed before rest hcs'
  apart := List.isChain_cons_cons.mpr ⟨fun h => h.2, h.apart⟩
  body body' hbody' := h.body body' (by simpa using hbody')
  open_last before cs' after heq hopen := by
    cases before with
    | nil =>
      cases heq
      exact absurd hopen hcs
    | cons first before => exact h.open_last before cs' after (List.cons.inj heq).2 hopen

theorem Canonical.tail {seg : Segment} (h : Canonical (seg :: segs)) : Canonical segs where
  text_ne_nil cs hcs := h.text_ne_nil cs (List.mem_cons_of_mem _ hcs)
  text_unclosed before rest hcs := h.text_unclosed before rest (List.mem_cons_of_mem _ hcs)
  apart := (List.isChain_cons.mp h.apart).2
  body body' hbody' := h.body body' (List.mem_cons_of_mem _ hbody')
  open_last before cs after heq := h.open_last (seg :: before) cs after (congrArg _ heq)

/-- Text before a reference is one of the segments, unless there is none. -/
theorem Canonical.ofText_append (h : Canonical (.expr body :: segs)) (hcs : ¬opening <:+: cs) :
    Canonical (Segment.ofText cs ++ .expr body :: segs) := by
  unfold Segment.ofText
  split
  · exact h
  · rename_i hne
    exact h.text_cons (by simpa using hne) hcs

theorem canonical_ofText
    (hopen : ∀ before rest, cs = before ++ opening ++ rest → ¬closing <:+: rest) :
    Canonical (Segment.ofText cs) := by
  unfold Segment.ofText
  split
  · exact canonical_nil
  · rename_i hne
    exact canonical_singleton (by simpa using hne) hopen

end Form

/-! ## Places of openings -/

section Marks

variable {cs left before body rest before' rest' front : List Char} {turns : List Turn}

theorem IsBody.not_closing (h : IsBody body) : ¬closing <:+: body := fun hin =>
  h (hin.trans (List.prefix_append body _).isInfix)

theorem not_closing_trim (h : IsBody body) : ¬closing <:+: trim body := by
  obtain ⟨v, w, -, -, hbody⟩ := Text.exists_trim body
  exact fun hin => h.not_closing (hin.trans ⟨v, w, hbody.symm⟩)

/-- Two marks without a common character do not overlap: the one that ends later begins behind the
other one. -/
theorem suffix_of_disjoint {mark other mid : List Char} (hdisjoint : ∀ c ∈ mark, c ∉ other)
    (hother : other ≠ []) (h : before ++ mark = front ++ other ++ mid) : mark <:+ mid := by
  have hmark : mark <:+ front ++ other ++ mid := ⟨before, h⟩
  obtain hsuffix | ⟨start, rfl⟩ :=
    List.suffix_or_suffix_of_suffix hmark (List.suffix_append _ mid)
  · exact hsuffix
  · rcases List.eq_nil_or_concat' start with rfl | ⟨start, c, rfl⟩
    · exact List.suffix_rfl
    · -- the last character before `mid` would belong to both marks
      exfalso
      rw [← List.append_assoc] at h
      have hlast := congrArg List.getLast? (List.append_cancel_right h)
      rw [List.getLast?_append_of_ne_nil _ hother, ← List.append_assoc,
        List.getLast?_concat] at hlast
      exact hdisjoint c (by simp) (List.mem_of_getLast? hlast.symm)

/-- An opening stands before a closing or behind it. -/
theorem opening_before_or_behind
    (h : before ++ opening ++ rest = front ++ closing ++ rest') :
    closing <:+: rest ∨ ∃ mid, rest' = mid ++ opening ++ rest := by
  obtain ⟨mid, hmid, rfl⟩ | ⟨mid, hmid, rfl⟩ := List.append_eq_append_iff.mp h
  · have hclosing : closing <:+ mid :=
      suffix_of_disjoint (by simp [opening, closing]) opening_ne_nil hmid
    exact .inl (hclosing.isInfix.trans (List.prefix_append mid rest').isInfix)
  · obtain ⟨mid', rfl⟩ : opening <:+ mid :=
      suffix_of_disjoint (by simp [opening, closing]) closing_ne_nil hmid
    exact .inr ⟨mid', rfl⟩

theorem EndsOpen.append (h : EndsOpen rest) (front : List Char) : EndsOpen (front ++ rest) := by
  obtain ⟨before, rest', rfl, hrest⟩ := h
  exact ⟨front ++ before, rest', by simp, hrest⟩

/-- A reference is never closed if and only if it opens in what is left of the scan. -/
theorem endsOpen_iff (h : Scan cs turns left) : EndsOpen cs ↔ opening <:+: left := by
  induction h with
  | text h =>
    refine iff_of_false ?_ h
    rintro ⟨before, rest, rfl, -⟩
    exact h ⟨before, rest, rfl⟩
  | @unclosed before rest _ hrest =>
    exact iff_of_true ⟨before, rest, rfl, hrest⟩ ⟨before, rest, rfl⟩
  | @reference before body rest left turns _ _ _ ih =>
    have hassoc : before ++ opening ++ (body ++ closing ++ rest) =
        before ++ opening ++ body ++ closing ++ rest := by simp
    rw [← ih, hassoc]
    refine ⟨?_, fun h => h.append _⟩
    rintro ⟨before', rest', heq, hrest'⟩
    obtain hclosing | ⟨mid, rfl⟩ := opening_before_or_behind heq.symm
    · exact absurd hclosing hrest'
    · exact ⟨mid, rest', rfl, hrest'⟩

/-- Where nothing closes behind the first opening, nothing closes behind any. -/
theorem not_closing_of_unclosed (hbefore : ¬opening <:+: before) (hrest : ¬closing <:+: rest)
    (h : before ++ opening ++ rest = before' ++ opening ++ rest') : ¬closing <:+: rest' := by
  obtain ⟨mid, -, rfl⟩ | ⟨mid, hmid, rfl⟩ := List.append_eq_append_iff.mp h
  · exact fun hin => hrest (hin.trans (List.suffix_append mid rest').isInfix)
  · rcases List.eq_nil_or_concat' mid with rfl | ⟨mid, c, rfl⟩
    · exact hrest
    · -- the other opening would end before the first one does
      refine absurd ?_ (not_opening_append_dropLast hbefore)
      have hinit := congrArg List.dropLast hmid
      rw [List.dropLast_append_of_ne_nil opening_ne_nil, ← List.append_assoc,
        List.dropLast_concat] at hinit
      exact ⟨before', mid, hinit.symm⟩

end Marks

/-! ## The segments of a template -/

section Segments

variable {cs left : List Char} {turns : List Turn} {segs : List Segment}
  {pieces : List (List Char)}

theorem canonical_segments (cs : List Char) : Canonical (segments cs) := by
  obtain ⟨turns, left, h⟩ := exists_scan cs
  induction h with
  | text h =>
    rw [segments_text h]
    exact canonical_ofText fun before rest heq => absurd ⟨before, rest, heq.symm⟩ h
  | unclosed hbefore hrest =>
    rw [segments_unclosed hbefore hrest]
    exact canonical_ofText fun _ _ => not_closing_of_unclosed hbefore hrest
  | reference hbefore hbody _ ih =>
    rw [segments_reference hbefore hbody]
    exact (ih.expr_cons (not_closing_trim hbody) (Text.trim_trim _)).ofText_append hbefore

theorem exists_writtenAs (cs : List Char) :
    ∃ pieces, List.Forall₂ Segment.WrittenAs (segments cs) pieces ∧ pieces.flatten = cs := by
  have ofText : ∀ cs, ∃ pieces,
      List.Forall₂ Segment.WrittenAs (Segment.ofText cs) pieces ∧ pieces.flatten = cs := by
    intro cs
    unfold Segment.ofText
    split
    · rename_i h
      exact ⟨[], .nil, (List.isEmpty_iff.mp h).symm⟩
    · exact ⟨[cs], .cons (.text cs) .nil, List.flatten_singleton⟩
  obtain ⟨turns, left, h⟩ := exists_scan cs
  induction h with
  | text h =>
    rw [segments_text h]
    exact ofText _
  | unclosed hbefore hrest =>
    rw [segments_unclosed hbefore hrest]
    exact ofText _
  | @reference before body rest left turns hbefore hbody _ ih =>
    obtain ⟨first, hfirst, hfirsteq⟩ := ofText before
    obtain ⟨others, hothers, hotherseq⟩ := ih
    obtain ⟨pad, pad', hpad, hpad', heq⟩ := Text.exists_trim body
    rw [heq] at hbody
    refine ⟨first ++ (opening ++ (pad ++ trim body ++ pad' ++ closing)) :: others, ?_, ?_⟩
    · rw [segments_reference hbefore (heq ▸ hbody)]
      exact List.rel_append hfirst (.cons (.expr hpad hpad' hbody) hothers)
    · rw [List.flatten_append, List.flatten_cons, hfirsteq, hotherseq, ← heq]
      simp

/-- Text in which no reference is closed is not cut. -/
theorem segments_of_unclosed (hne : cs ≠ [])
    (hopen : ∀ before rest, cs = before ++ opening ++ rest → ¬closing <:+: rest) :
    segments cs = [.text cs] := by
  have hofText : Segment.ofText cs = [.text cs] := if_neg (by simpa using hne)
  obtain ⟨turns, left, h⟩ := exists_scan cs
  cases h with
  | text h => rw [segments_text h, hofText]
  | unclosed hbefore hrest => rw [segments_unclosed hbefore hrest, hofText]
  | @reference before body rest => exact absurd ⟨body, rest, rfl⟩ (hopen before _ rfl)

/-- A reference is cut off with the text before it. -/
theorem segments_writtenAs_expr {before body piece : List Char} (hbefore : ¬opening <:+: before)
    (hpiece : Segment.WrittenAs (.expr body) piece) (htrim : trim body = body) (rest : List Char) :
    segments (before ++ (piece ++ rest)) =
      Segment.ofText before ++ .expr body :: segments rest := by
  cases hpiece with
  | expr hpad hpad' hbody =>
    have hcut := segments_reference hbefore hbody rest
    rw [Text.trim_append hpad hpad', htrim] at hcut
    simpa using hcut

/-- What has the form of segments is what the text that it is written as is cut into. -/
theorem segments_of_writtenAs (h : Canonical segs)
    (hpieces : List.Forall₂ Segment.WrittenAs segs pieces) : segments pieces.flatten = segs := by
  have hnil : ¬opening <:+: [] := by decide
  induction hpieces with
  | nil => rfl
  | @cons seg piece segs pieces hseg hothers ih =>
    have ih := ih h.tail
    rw [List.flatten_cons]
    cases seg with
    | expr body =>
      have htrim := (h.body body List.mem_cons_self).2
      have hcut := segments_writtenAs_expr hnil hseg htrim pieces.flatten
      rwa [ih] at hcut
    | text =>
      cases hseg
      have hne : piece ≠ [] := h.text_ne_nil piece List.mem_cons_self
      cases hothers with
      | nil =>
        rw [List.flatten_nil, List.append_nil]
        refine segments_of_unclosed hne fun before rest heq => ?_
        exact h.text_unclosed before rest (heq ▸ List.mem_cons_self)
      | @cons next piece' segs pieces hnext _ =>
        -- no text follows, and nothing opens before the reference that does
        cases next with
        | text => exact absurd ⟨trivial, trivial⟩ (List.isChain_cons_cons.mp h.apart).1
        | expr body =>
          have hopen : ¬opening <:+: piece := fun hin =>
            absurd (h.open_last [] piece _ rfl hin) (List.cons_ne_nil _ _)
          have htrim := (h.tail.body body List.mem_cons_self).2
          have hcut := segments_writtenAs_expr hnil hnext htrim pieces.flatten
          rw [List.flatten_cons] at ih ⊢
          rw [segments_writtenAs_expr hopen hnext htrim, ← ih]
          rw [Segment.ofText, if_neg (by simpa using hne)]
          exact congrArg (List.cons _) hcut.symm

theorem getLast?_segments (h : Scan cs turns left) (hleft : left ≠ []) :
    (segments cs).getLast? = some (.text left) := by
  rw [segments_scan h, Segment.ofText, if_neg (by simpa using hleft), List.getLast?_concat]

theorem getLast?_segments_nil (h : Scan cs turns []) (cs' : List Char) :
    (segments cs).getLast? ≠ some (.text cs') := by
  rw [segments_scan h]
  rcases List.eq_nil_or_concat' turns with rfl | ⟨turns, t, rfl⟩
  · simp [Segment.ofText]
  · simp [Segment.ofText, Turn.segments]

theorem exists_last_open_iff (cs : List Char) :
    (∃ cs', (segments cs).getLast? = some (.text cs') ∧ opening <:+: cs') ↔ EndsOpen cs := by
  obtain ⟨turns, left, h⟩ := exists_scan cs
  rw [endsOpen_iff h]
  constructor
  · rintro ⟨cs', hlast, hopen⟩
    by_cases hleft : left = []
    · subst hleft
      exact absurd hlast (getLast?_segments_nil h cs')
    · rw [getLast?_segments h hleft] at hlast
      cases hlast
      exact hopen
  · intro hopen
    refine ⟨left, getLast?_segments h ?_, hopen⟩
    rintro rfl
    exact absurd hopen (by decide)

/-- The segments of a template, with the right blanks around bodies, are written as the template. No
text among them is empty or next to another one, and nothing closes in a body, around which there
are no blanks. What opens in a text opens in the last segment, and this is so if and only if a
reference of the template is never closed. No other list of segments is of this form and written as
the template. -/
theorem segments_lossless (cs : List Char) :
    (∃ pieces, List.Forall₂ Segment.WrittenAs (segments cs) pieces ∧ pieces.flatten = cs) ∧
    Canonical (segments cs) ∧
    ((∃ cs', (segments cs).getLast? = some (.text cs') ∧ opening <:+: cs') ↔ EndsOpen cs) ∧
    ∀ segs pieces, Canonical segs → List.Forall₂ Segment.WrittenAs segs pieces →
      pieces.flatten = cs → segs = segments cs := by
  refine ⟨exists_writtenAs cs, canonical_segments cs, exists_last_open_iff cs, ?_⟩
  rintro segs pieces hsegs hpieces rfl
  exact (segments_of_writtenAs hsegs hpieces).symm

/-- The first two closing marks close; behind them a reference opens that is never closed. -/
example : segments "a$\x7b\x7b b \x7d\x7d\x7d$\x7b\x7b c".toList =
    [.text ['a'], .expr ['b'], .text "\x7d$\x7b\x7b c".toList] := by decide

end Segments

end MatrixFlow.Template
