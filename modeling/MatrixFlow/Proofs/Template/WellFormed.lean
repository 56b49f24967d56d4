import MatrixFlow.Proofs.Template.Scan
import MatrixFlow.Proofs.Workflow.Check.Place

/-!
# Well-formed templates

The check of a template and its rendering cut it into pieces by themselves; here they agree.

* `Template.Supported`: the body of a reference that can be evaluated.
* `Template.Segment.Sound`: a piece in which no reference is left open, or a reference that can be
  evaluated.
* `Template.wellFormed_iff`: a template is well formed if all of its segments are sound.
* `Template.FirstBad`: the first turn of a scan whose reference cannot be evaluated, or the opening
  that is never closed.
* `Template.check_agrees`: the check and the segments go through the same scan, and the check
  reports its first bad reference.
-/

namespace MatrixFlow.Template

open Text (trim byteLength)

/-! ## Bodies -/

/-- The body of a reference is a literal, or names with points between them. -/
def Supported (body : List Char) : Prop :=
  body ≠ [] ∧ ((literal? body).isSome = true ∨ isReference body = true)

/-- Two names or more, with a point between each two of them. -/
def Dotted (body : List Char) : Prop :=
  ∃ names : List (List Char), 2 ≤ names.length ∧ body = ['.'].intercalate names ∧
    ∀ name ∈ names, name ≠ [] ∧ ∀ c ∈ name, isNameChar c = true

theorem isReference_iff {body : List Char} : isReference body = true ↔ Dotted body := by
  unfold isReference
  simp only [Text.splitOn_eq, Bool.and_eq_true, decide_eq_true_eq, List.all_eq_true,
    Bool.not_eq_true', List.isEmpty_eq_false_iff]
  constructor
  · rintro ⟨hlength, hnames⟩
    exact ⟨_, hlength, (List.intercalate_splitOn '.').symm, hnames⟩
  · rintro ⟨names, hlength, rfl, hnames⟩
    have hpoint : ∀ name ∈ names, '.' ∉ name := fun name hname hmem =>
      absurd ((hnames name hname).2 '.' hmem) (by decide)
    rw [List.splitOn_intercalate '.' hpoint (by rintro rfl; cases hlength)]
    exact ⟨hlength, hnames⟩

theorem bodyFlaw?_eq_none {body : List Char} :
    bodyFlaw? body = none ↔ Supported (trim body) := by
  unfold bodyFlaw? Supported
  simp only [List.isEmpty_iff, Bool.or_eq_true]
  split
  · rename_i h
    simp [h]
  · rename_i h
    split <;> simp_all

/-- What is wrong with a body that cannot be evaluated. -/
def flawOf (body : List Char) : Flaw :=
  if trim body = [] then .emptyBody else .unsupported (String.ofList (trim body))

theorem bodyFlaw?_eq_some {body : List Char} {flaw : Flaw} (h : bodyFlaw? body = some flaw) :
    ¬Supported (trim body) ∧ flaw = flawOf body := by
  refine ⟨fun hs => ?_, ?_⟩
  · rw [bodyFlaw?_eq_none.mpr hs] at h
    cases h
  · unfold bodyFlaw? at h
    simp only [List.isEmpty_iff] at h
    unfold flawOf
    split at h <;> rename_i hempty
    · rw [if_pos hempty]
      exact (Option.some.inj h).symm
    · rw [if_neg hempty]
      split at h <;> cases h
      rfl

/-! ## Segments -/

/-- Text in which no reference opens, or a reference that can be evaluated. -/
def Segment.Sound : Segment → Prop
  | .text cs => ¬opening <:+: cs
  | .expr body => Supported body

theorem Segment.forall_ofText {cs : List Char} :
    (∀ seg ∈ Segment.ofText cs, seg.Sound) ↔ ¬opening <:+: cs := by
  unfold ofText
  split
  · rename_i h
    rw [List.isEmpty_iff.mp h]
    simp [opening]
  · simp [Sound]

theorem checkFrom_eq_ok_iff {cs left : List Char} {turns : List Turn} (h : Scan cs turns left)
    (offset : Nat) :
    checkFrom offset none cs = .ok () ↔ ∀ seg ∈ segments cs, seg.Sound := by
  induction h generalizing offset with
  | text h => simp [checkFrom_text h, segments_text h, Segment.forall_ofText, h]
  | @unclosed before rest hbefore hrest =>
    rw [checkFrom_unclosed hbefore hrest, segments_unclosed hbefore hrest, Segment.forall_ofText]
    exact iff_of_false (by simp) fun h => h ⟨before, rest, rfl⟩
  | @reference before body rest left turns hbefore hbody _ ih =>
    rw [checkFrom_reference hbefore hbody, segments_reference hbefore hbody,
      List.forall_mem_append, List.forall_mem_cons, Segment.forall_ofText, Segment.Sound,
      ← bodyFlaw?_eq_none]
    -- no reference opens in the text before, so it is up to the body and the rest
    refine Iff.trans ?_ (and_iff_right hbefore).symm
    cases bodyFlaw? body with
    | none => simpa using ih _
    | some flaw => simp

/-- A template is well formed if all of its segments are sound: none is text in which a reference is
left open, and every reference can be evaluated. -/
theorem wellFormed_iff {text : String} :
    WellFormed text ↔ ∀ seg ∈ segments text.toList, seg.Sound :=
  have ⟨_, _, h⟩ := exists_scan text.toList
  checkFrom_eq_ok_iff h 0

theorem forall_sound_iff {segs : List Segment} : (∀ seg ∈ segs, seg.Sound) ↔
    (∀ cs, .text cs ∈ segs → ¬opening <:+: cs) ∧
      ∀ body, .expr body ∈ segs → body ≠ [] ∧ ((literal? body).isSome = true ∨ Dotted body) := by
  simp only [← isReference_iff]
  constructor
  · exact fun h => ⟨fun cs hcs => h _ hcs, fun body hbody => h _ hbody⟩
  · rintro ⟨htext, hexpr⟩ (cs | body) hseg
    · exact htext cs hseg
    · exact hexpr body hseg

/-! ## The first flaw -/

/-- The characters of a turn. -/
def Turn.chars (t : Turn) : List Char :=
  t.before ++ opening ++ (t.body ++ closing)

/-- Behind the turns `passed`, all of which can be evaluated, and the text `before` opens a reference
that cannot: its body has a flaw, or it is never closed. -/
inductive FirstBad : (turns : List Turn) → (left : List Char) →
    (passed : List Turn) → (before : List Char) → Flaw → Prop
  | body {passed others : List Turn} {bad : Turn} {left : List Char}
      (hpassed : ∀ t ∈ passed, Supported (trim t.body)) (hbad : ¬Supported (trim bad.body)) :
      FirstBad (passed ++ bad :: others) left passed bad.before (flawOf bad.body)
  | unclosed {turns : List Turn} {before rest : List Char}
      (hpassed : ∀ t ∈ turns, Supported (trim t.body)) (hbefore : ¬opening <:+: before)
      (hrest : ¬closing <:+: rest) :
      FirstBad turns (before ++ opening ++ rest) turns before .unclosed

theorem FirstBad.cons {turns passed : List Turn} {left before : List Char} {flaw : Flaw} {t : Turn}
    (h : FirstBad turns left passed before flaw) (ht : Supported (trim t.body)) :
    FirstBad (t :: turns) left (t :: passed) before flaw := by
  cases h with
  | body hpassed hbad => exact .body (List.forall_mem_cons.mpr ⟨ht, hpassed⟩) hbad
  | unclosed hpassed hbefore hrest =>
    exact .unclosed (List.forall_mem_cons.mpr ⟨ht, hpassed⟩) hbefore hrest

/-- What the check reports of a scan: the text before the reference passes, and the position is its
length. -/
theorem checkFrom_eq_error {cs left : List Char} {turns : List Turn} {e : TemplateError}
    (h : Scan cs turns left) {offset : Nat} (he : checkFrom offset none cs = .error e) :
    ∃ passed before rest, cs = passed.flatMap Turn.chars ++ before ++ opening ++ rest ∧
      e.position = offset + byteLength (passed.flatMap Turn.chars ++ before) ∧
      (∀ offset', checkFrom offset' none (passed.flatMap Turn.chars ++ before) = .ok ()) ∧
      FirstBad turns left passed before e.flaw := by
  induction h generalizing offset with
  | text h =>
    rw [checkFrom_text h] at he
    cases he
  | @unclosed before rest hbefore hrest =>
    rw [checkFrom_unclosed hbefore hrest] at he
    cases he
    exact ⟨[], before, rest, rfl, rfl, checkFrom_text hbefore, .unclosed (by simp) hbefore hrest⟩
  | @reference before body rest left turns hbefore hbody _ ih =>
    rw [checkFrom_reference hbefore hbody] at he
    cases hflaw : bodyFlaw? body with
    | some flaw =>
      rw [hflaw] at he
      cases he
      obtain ⟨hbad, rfl⟩ := bodyFlaw?_eq_some hflaw
      have hfirst : FirstBad (⟨before, body⟩ :: turns) left [] before (flawOf body) :=
        @FirstBad.body [] turns ⟨before, body⟩ left (by simp) hbad
      exact ⟨[], before, body ++ closing ++ rest, rfl, rfl, checkFrom_text hbefore, hfirst⟩
    | none =>
      rw [hflaw] at he
      obtain ⟨passed, before', rest', rfl, hposition, hok, hbad⟩ := ih he
      refine ⟨⟨before, body⟩ :: passed, before', rest', by simp [Turn.chars], ?_, ?_,
        hbad.cons (bodyFlaw?_eq_none.mp hflaw)⟩
      · rw [hposition]
        simp [Turn.chars, Text.byteLength_append]
        have : byteLength opening = 3 ∧ byteLength closing = 2 := by decide
        omega
      · intro offset'
        have hturn := checkFrom_reference hbefore hbody offset' (passed.flatMap Turn.chars ++ before')
        rw [hflaw] at hturn
        simpa [Turn.chars] using hturn.trans (hok _)

/-- A template passes its check if and only if no segment is text in which a reference opens, and
all others are literals or names with points between them. Check and segments go through the same
scan, which ends. If the check fails, then the scan passes references that can be evaluated, up to
the first one that cannot or that is never closed: the text before it passes, and the position is
the byte at which it opens. -/
theorem check_agrees (text : String) :
    (check text = .ok () ↔
      (∀ cs, .text cs ∈ segments text.toList → ¬opening <:+: cs) ∧
        ∀ body, .expr body ∈ segments text.toList →
          body ≠ [] ∧ ((literal? body).isSome = true ∨ Dotted body)) ∧
    ∃ turns left, Scan text.toList turns left ∧
      segments text.toList = turns.flatMap Turn.segments ++ Segment.ofText left ∧
      ∀ e, check text = .error e → ∃ passed before rest,
        text = String.ofList (passed.flatMap Turn.chars ++ before) ++ String.ofList opening ++ rest ∧
        e.position = (String.ofList (passed.flatMap Turn.chars ++ before)).utf8ByteSize ∧
        check (String.ofList (passed.flatMap Turn.chars ++ before)) = .ok () ∧
        FirstBad turns left passed before e.flaw := by
  obtain ⟨turns, left, hscan⟩ := exists_scan text.toList
  refine ⟨(checkFrom_eq_ok_iff hscan 0).trans forall_sound_iff, turns, left, hscan,
    segments_scan hscan, fun e he => ?_⟩
  obtain ⟨passed, before, rest, htext, hposition, hok, hbad⟩ := checkFrom_eq_error hscan he
  refine ⟨passed, before, String.ofList rest, ?_, ?_, ?_, hbad⟩
  · rw [← String.toList_inj, htext]
    simp
  · rw [Text.utf8ByteSize_ofList, hposition, Nat.zero_add]
  · rw [check, String.toList_ofList]
    exact hok 0

/-- The second of three references is the first that cannot be evaluated. The last one is never
closed. -/
theorem check_agrees_sample : ∃ before rest : String,
    "é $$\x7b\x7b a.b \x7d\x7d\x7d$\x7b\x7b 'x \x7d\x7d $\x7b\x7b" =
      before ++ String.ofList opening ++ rest ∧
    before.utf8ByteSize = 15 ∧ check before = .ok () := by
  have he : check "é $$\x7b\x7b a.b \x7d\x7d\x7d$\x7b\x7b 'x \x7d\x7d $\x7b\x7b" =
      .error ⟨.unsupported "'x", 15⟩ := by decide
  obtain ⟨-, turns, left, -, -, hflaw⟩ :=
    check_agrees "é $$\x7b\x7b a.b \x7d\x7d\x7d$\x7b\x7b 'x \x7d\x7d $\x7b\x7b"
  obtain ⟨passed, before, rest, htext, hposition, hok, -⟩ := hflaw _ he
  exact ⟨_, rest, htext, hposition.symm, hok⟩

end MatrixFlow.Template
