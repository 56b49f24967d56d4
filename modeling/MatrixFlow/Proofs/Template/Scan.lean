import MatrixFlow.Proofs.Text
import MatrixFlow.Template.Segment

/-!
# Scanning templates

A template is scanned reference by reference: up to the first opening, from there to the first
closing, and on with what follows.

* `Template.Scan`: the turns of a scan and the text that is left, in which no reference is closed.
* `Template.exists_scan`: the scan of every text ends. Proofs about templates are inductions on its
  scan.
* `Template.segments_reference`, `Template.checkFrom_reference`: what cutting and checking make of
  one turn. The lemmas beside them are about the text that is left.
* `Template.segments_scan`: the segments of a template are those of the turns of its scan.
* `Template.segments_append_reference`: a reference between two texts.
-/

namespace MatrixFlow.Template

open Text (cut? trim byteLength)

/-! ## Places of marks -/

/-- What can stand between an opening and the closing that follows it: no closing ends before. -/
def IsBody (body : List Char) : Prop :=
  ¬closing <:+: body ++ closing.dropLast

section Marks

variable {cs before body rest : List Char}

theorem opening_ne_nil : opening ≠ [] := by simp [opening]

theorem closing_ne_nil : closing ≠ [] := by simp [closing]

/-- An opening does not begin at the end of a text to which a part of an opening is added: its first
character stands nowhere else in it. -/
theorem not_opening_append_dropLast (h : ¬opening <:+: before) :
    ¬opening <:+: before ++ opening.dropLast := by
  have hsplit : before ++ opening.dropLast = before ++ ['$'] ++ ['\x7b'] := by simp [opening]
  rw [hsplit, List.infix_concat_iff, List.infix_concat_iff, not_or, not_or]
  refine ⟨?_, ?_, h⟩ <;> rintro ⟨start, hstart⟩ <;> simpa [opening] using congrArg List.reverse hstart

theorem cut?_opening (h : ¬opening <:+: before) :
    cut? opening (before ++ opening ++ rest) = some (before, rest) :=
  (Text.cut?_eq_some opening_ne_nil).mpr ⟨rfl, not_opening_append_dropLast h⟩

theorem cut?_closing (h : IsBody body) :
    cut? closing (body ++ closing ++ rest) = some (body, rest) :=
  (Text.cut?_eq_some closing_ne_nil).mpr ⟨rfl, h⟩

/-- Nothing closes in a text that has no mark of a closing in it. -/
theorem isBody_of_not_mem (h : '\x7d' ∉ body) : IsBody body := by
  intro hin
  have hcount := hin.sublist.count_le '\x7d'
  rw [List.count_append, List.count_eq_zero_of_not_mem h] at hcount
  exact absurd hcount (by decide)

end Marks

/-! ## Scans -/

/-- One turn of a scan: a reference with its body, and the text before it. -/
structure Turn where
  before : List Char
  body : List Char

/-- The turns of a scan, and the text that is left. -/
inductive Scan : List Char → List Turn → List Char → Prop
  /-- No reference opens. -/
  | text {cs : List Char} (h : ¬opening <:+: cs) : Scan cs [] cs
  /-- A reference opens and is never closed. -/
  | unclosed {before rest : List Char} (hbefore : ¬opening <:+: before)
      (hrest : ¬closing <:+: rest) :
      Scan (before ++ opening ++ rest) [] (before ++ opening ++ rest)
  /-- A reference opens and is closed. -/
  | reference {before body rest left : List Char} {turns : List Turn}
      (hbefore : ¬opening <:+: before) (hbody : IsBody body) (hrest : Scan rest turns left) :
      Scan (before ++ opening ++ (body ++ closing ++ rest)) (⟨before, body⟩ :: turns) left

/-- Every scan ends: a turn leaves a shorter text. -/
theorem exists_scan (cs : List Char) : ∃ turns left, Scan cs turns left := by
  induction hn : cs.length using Nat.strong_induction_on generalizing cs with
  | _ n ih =>
    subst hn
    cases hopen : cut? opening cs with
    | none => exact ⟨[], cs, .text ((Text.cut?_eq_none opening_ne_nil).mp hopen)⟩
    | some pair =>
      obtain ⟨before, after⟩ := pair
      obtain ⟨rfl, hfirst⟩ := (Text.cut?_eq_some opening_ne_nil).mp hopen
      have hbefore : ¬opening <:+: before := fun h =>
        hfirst (h.trans (List.prefix_append before _).isInfix)
      cases hclose : cut? closing after with
      | none => exact ⟨[], _, .unclosed hbefore ((Text.cut?_eq_none closing_ne_nil).mp hclose)⟩
      | some pair =>
        obtain ⟨body, rest⟩ := pair
        obtain ⟨rfl, hbody⟩ := (Text.cut?_eq_some closing_ne_nil).mp hclose
        obtain ⟨turns, left, hscan⟩ := ih rest.length (by simp [opening]; omega) rest rfl
        exact ⟨_, left, .reference hbefore hbody hscan⟩

/-! ## Segments -/

section Segments

variable {before body rest cs : List Char}

/-- Up to the first opening, all is text. -/
theorem segmentsFrom_none (acc cs : List Char) : segmentsFrom acc none cs =
    match cut? opening cs with
    | none => Segment.ofText (acc.reverse ++ cs)
    | some (before, rest) => segmentsFrom (before.reverse ++ acc) (some []) rest := by
  fun_induction cut? opening cs generalizing acc with
  | case1 hempty => cases hempty
  | case2 => rw [segmentsFrom, List.append_nil]
  | case3 c r rest hstrip =>
    rw [Text.stripStart?_eq_some.mp hstrip]
    rfl
  | case4 c r hstrip ih =>
    have hc : ∀ tail, c = '$' → r = '\x7b' :: '\x7b' :: tail → False := by
      rintro tail rfl rfl
      cases hstrip
    rw [segmentsFrom.eq_4 _ _ _ hc, ih]
    cases cut? opening r with
    | none => simp
    | some pair => simp

/-- From the opening to the first closing, all is body. -/
theorem segmentsFrom_some (acc body cs : List Char) : segmentsFrom acc (some body) cs =
    match cut? closing cs with
    | none => Segment.ofText (acc.reverse ++ opening ++ (body.reverse ++ cs))
    | some (body', rest) => Segment.ofText acc.reverse ++
        .expr (trim (body.reverse ++ body')) :: segments rest := by
  fun_induction cut? closing cs generalizing body with
  | case1 hempty => cases hempty
  | case2 => rw [segmentsFrom, List.append_nil]
  | case3 c r rest hstrip =>
    rw [Text.stripStart?_eq_some.mp hstrip]
    dsimp only
    rw [List.append_nil]
    rfl
  | case4 c r hstrip ih =>
    have hc : ∀ tail, c = '\x7d' → r = '\x7d' :: tail → False := by
      rintro tail rfl rfl
      cases hstrip
    rw [segmentsFrom.eq_6 _ _ _ _ hc, ih]
    cases cut? closing r with
    | none => simp
    | some pair => simp

theorem segments_text (h : ¬opening <:+: cs) : segments cs = Segment.ofText cs := by
  rw [segments, segmentsFrom_none, (Text.cut?_eq_none opening_ne_nil).mpr h]
  rfl

/-- An opening that is never closed is text, like all that follows it. -/
theorem segments_unclosed (hbefore : ¬opening <:+: before) (hrest : ¬closing <:+: rest) :
    segments (before ++ opening ++ rest) = Segment.ofText (before ++ opening ++ rest) := by
  rw [segments, segmentsFrom_none, cut?_opening hbefore]
  dsimp only
  rw [segmentsFrom_some, (Text.cut?_eq_none closing_ne_nil).mpr hrest]
  simp

theorem segments_reference (hbefore : ¬opening <:+: before) (hbody : IsBody body)
    (rest : List Char) : segments (before ++ opening ++ (body ++ closing ++ rest)) =
      Segment.ofText before ++ .expr (trim body) :: segments rest := by
  rw [segments, segmentsFrom_none, cut?_opening hbefore]
  dsimp only
  rw [segmentsFrom_some, cut?_closing hbody]
  simp

/-- A text that is a reference and nothing else. -/
theorem segments_single (hbody : IsBody body) :
    segments (opening ++ (body ++ closing)) = [.expr (trim body)] := by
  have hnil : ¬opening <:+: [] := by simp [opening]
  have hcut := segments_reference hnil hbody []
  rwa [List.nil_append, List.append_nil] at hcut

/-- The segments of one turn: the text before the reference, if there is any, and the reference. -/
def Turn.segments (t : Turn) : List Segment :=
  Segment.ofText t.before ++ [.expr (trim t.body)]

theorem segments_scan {turns : List Turn} {left : List Char} (h : Scan cs turns left) :
    segments cs = turns.flatMap Turn.segments ++ Segment.ofText left := by
  induction h with
  | text h => exact segments_text h
  | unclosed hbefore hrest => exact segments_unclosed hbefore hrest
  | reference hbefore hbody _ ih =>
    rw [segments_reference hbefore hbody, ih]
    simp [Turn.segments]

/-- A reference behind a text in which none is left open is cut out, whatever stands around it. -/
theorem segments_append_reference (h : ∀ cs', .text cs' ∈ segments cs → ¬opening <:+: cs')
    (hbody : IsBody body) (rest : List Char) :
    segments (cs ++ opening ++ (body ++ closing ++ rest)) =
      segments cs ++ .expr (trim body) :: segments rest := by
  obtain ⟨turns, left, hscan⟩ := exists_scan cs
  induction hscan with
  | text hcs => rw [segments_reference hcs hbody, segments_text hcs]
  | @unclosed before rest' hbefore hrest =>
    refine absurd ?_ (h (before ++ opening ++ rest') ?_)
    · exact ⟨before, rest', rfl⟩
    · rw [segments_unclosed hbefore hrest]
      simp [Segment.ofText, opening]
  | @reference before body' rest' left turns hbefore hbody' _ ih =>
    rw [segments_reference hbefore hbody'] at h
    have ih := ih fun cs' hcs' => h cs' (by simp [hcs'])
    have hassoc : before ++ opening ++ (body' ++ closing ++ rest') ++ opening ++
        (body ++ closing ++ rest) = before ++ opening ++ (body' ++ closing ++
          (rest' ++ opening ++ (body ++ closing ++ rest))) := by simp
    rw [hassoc, segments_reference hbefore hbody', segments_reference hbefore hbody', ih]
    simp

end Segments

/-! ## The check -/

section Check

variable {before body rest cs : List Char}

theorem checkFrom_none (offset : Nat) (cs : List Char) : checkFrom offset none cs =
    match cut? opening cs with
    | none => .ok ()
    | some (before, rest) =>
      checkFrom (offset + byteLength before + 3) (some (offset + byteLength before, [])) rest := by
  fun_induction cut? opening cs generalizing offset with
  | case1 hempty => cases hempty
  | case2 => rfl
  | case3 c r rest hstrip =>
    rw [Text.stripStart?_eq_some.mp hstrip]
    rfl
  | case4 c r hstrip ih =>
    have hc : ∀ tail, c = '$' → r = '\x7b' :: '\x7b' :: tail → False := by
      rintro tail rfl rfl
      cases hstrip
    rw [checkFrom.eq_4 _ _ _ hc, ih]
    cases cut? opening r with
    | none => rfl
    | some pair => simp [Text.byteLength_cons, Nat.add_assoc]

theorem checkFrom_some (offset position : Nat) (body cs : List Char) :
    checkFrom offset (some (position, body)) cs =
      match cut? closing cs with
      | none => .error ⟨.unclosed, position⟩
      | some (body', rest) =>
        match bodyFlaw? (body.reverse ++ body') with
        | some flaw => .error ⟨flaw, position⟩
        | none => checkFrom (offset + byteLength body' + 2) none rest := by
  fun_induction cut? closing cs generalizing offset body with
  | case1 hempty => cases hempty
  | case2 => rfl
  | case3 c r rest hstrip =>
    rw [Text.stripStart?_eq_some.mp hstrip]
    dsimp only
    rw [List.append_nil]
    rfl
  | case4 c r hstrip ih =>
    have hc : ∀ tail, c = '\x7d' → r = '\x7d' :: tail → False := by
      rintro tail rfl rfl
      cases hstrip
    rw [checkFrom.eq_6 _ _ _ _ _ hc, ih]
    cases cut? closing r with
    | none => rfl
    | some pair => simp [Text.byteLength_cons, Nat.add_assoc]

theorem checkFrom_text (h : ¬opening <:+: cs) (offset : Nat) :
    checkFrom offset none cs = .ok () := by
  rw [checkFrom_none, (Text.cut?_eq_none opening_ne_nil).mpr h]

theorem checkFrom_unclosed (hbefore : ¬opening <:+: before) (hrest : ¬closing <:+: rest)
    (offset : Nat) : checkFrom offset none (before ++ opening ++ rest) =
      .error ⟨.unclosed, offset + byteLength before⟩ := by
  rw [checkFrom_none, cut?_opening hbefore]
  dsimp only
  rw [checkFrom_some, (Text.cut?_eq_none closing_ne_nil).mpr hrest]

theorem checkFrom_reference (hbefore : ¬opening <:+: before) (hbody : IsBody body)
    (offset : Nat) (rest : List Char) :
    checkFrom offset none (before ++ opening ++ (body ++ closing ++ rest)) =
      match bodyFlaw? body with
      | some flaw => .error ⟨flaw, offset + byteLength before⟩
      | none => checkFrom (offset + byteLength before + 3 + byteLength body + 2) none rest := by
  rw [checkFrom_none, cut?_opening hbefore]
  dsimp only
  rw [checkFrom_some, cut?_closing hbody]
  rfl

end Check

end MatrixFlow.Template
