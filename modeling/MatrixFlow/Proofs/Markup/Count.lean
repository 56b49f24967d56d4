import Mathlib.Algebra.Ring.Nat
import MatrixFlow.Proofs.Markup.Document

/-!
# How often an element is written

* `Markup.occurrences`: how often a piece begins in a text.
* `Markup.Element.Proper`: an element that can be written, with attributes in all its tags.
* `Markup.occurrences_document`: in a document, a bracket, a name and a blank stand together as
  often as there are elements of this name, however the values and the texts read.
-/

namespace MatrixFlow.Markup

/-- How often a piece begins in a text. -/
def occurrences (piece : List Char) : List Char → Nat
  | [] => 0
  | c :: r => (if piece <+: c :: r then 1 else 0) + occurrences piece r

/-- What is written where an element with attributes begins. -/
def beginning (name : String) : List Char :=
  '<' :: (name.toList ++ [' '])

/-- Whether a tag begins an element of a name. -/
def Tag.isStart (name : String) : Tag → Bool
  | opening own _ | single own _ => own == name
  | closing _ => false

@[simp] theorem Tag.isStart_opening (name own : String) (attrs : Attributes) :
    (opening own attrs).isStart name = (own == name) := rfl

@[simp] theorem Tag.isStart_single (name own : String) (attrs : Attributes) :
    (single own attrs).isStart name = (own == name) := rfl

@[simp] theorem Tag.isStart_closing (name own : String) : (closing own).isStart name = false := rfl

/-- There are attributes in a tag, unless it can have none. -/
def Tag.Described : Tag → Prop
  | opening _ attrs | single _ attrs => attrs ≠ []
  | closing _ => True

section Occurrences

variable {name : String} {cs tail : List Char}

theorem occurrences_append {c : Char} (h : c ∉ cs) (piece rest : List Char) :
    occurrences (c :: piece) (cs ++ rest) = occurrences (c :: piece) rest := by
  induction cs with
  | nil => rfl
  | cons d cs ih =>
    obtain ⟨hd, hcs⟩ := not_or.mp (List.mem_cons.not.mp h)
    have hfirst : ¬c :: piece <+: d :: (cs ++ rest) := fun hpre =>
      hd (List.cons_prefix_cons.mp hpre).1
    rw [List.cons_append, occurrences, ih hcs, if_neg hfirst, Nat.zero_add]

/-- A name ends where there is no letter. -/
theorem name_prefix_iff {name own rest : List Char} {c : Char}
    (hname : ∀ d ∈ name, d.isAlpha = true) (hown : ∀ d ∈ own, d.isAlpha = true)
    (hc : c.isAlpha = false) :
    name ++ [' '] <+: own ++ c :: rest ↔ own = name ∧ c = ' ' := by
  induction own generalizing name with
  | nil =>
    cases name with
    | nil => simp [List.cons_prefix_cons, eq_comm]
    | cons d name =>
      have hd : d ≠ c := fun hdc => by simp [← hdc, hname d List.mem_cons_self] at hc
      simp [List.cons_prefix_cons, hd]
  | cons o own ih =>
    obtain ⟨ho, hown⟩ := List.forall_mem_cons.mp hown
    cases name with
    | nil =>
      have hblank : ' ' ≠ o := fun hblank => by simp [← hblank] at ho
      simp [List.cons_prefix_cons, hblank]
    | cons d name =>
      simp [List.cons_prefix_cons, ih (List.forall_mem_cons.mp hname).2 hown, eq_comm, and_assoc]

theorem Tag.prefix_iff {t : Tag} (hname : isName name.toList = true) (h : t.Proper)
    (hattrs : t.Described) (rest : List Char) :
    name.toList ++ [' '] <+: t.chars ++ '>' :: rest ↔ t.isStart name = true := by
  have halpha := (isName_iff.mp hname).2
  have hblank : ∀ {own : String} (cs : List Char), isName own.toList = true →
      (name.toList ++ [' '] <+: own.toList ++ ' ' :: cs ↔ (own == name) = true) := fun cs hown => by
    rw [name_prefix_iff halpha (isName_iff.mp hown).2 (by decide), beq_iff_eq, String.toList_inj,
      and_iff_left rfl]
  cases t with
  | opening own attrs =>
    obtain ⟨a, attrs, rfl⟩ := List.exists_cons_of_ne_nil hattrs
    simpa [chars, attrChars] using hblank _ h.1
  | single own attrs =>
    obtain ⟨a, attrs, rfl⟩ := List.exists_cons_of_ne_nil hattrs
    simpa [chars, attrChars] using hblank _ h.1
  | closing own =>
    obtain ⟨c, cs, hcs⟩ := List.exists_cons_of_ne_nil (isName_iff.mp hname).1
    have hc : c ≠ '/' := fun hc => by simpa [hc] using halpha c (hcs ▸ List.mem_cons_self)
    simp [chars, hcs, List.cons_prefix_cons, hc]

/-- An element begins nowhere but in a tag. -/
theorem occurrences_marksChars {marks : List Mark} (hname : isName name.toList = true)
    (h : ∀ m ∈ marks, m.Proper ∧ m.tag.Described) (htail : '<' ∉ tail) :
    occurrences (beginning name) (marksChars marks ++ tail) =
      marks.countP fun m => m.tag.isStart name := by
  induction marks with
  | nil =>
    simpa [marksChars, beginning, occurrences] using
      occurrences_append htail (name.toList ++ [' ']) []
  | cons m marks ih =>
    obtain ⟨⟨hm, hattrs⟩, hmarks⟩ := List.forall_mem_cons.mp h
    have hbody : '<' ∉ m.tag.chars ++ ['>'] :=
      List.not_mem_append (hm.tag.not_mem_chars (.inl rfl)) (by decide)
    have hcut : marksChars (m :: marks) ++ tail =
        m.lead ++ '<' :: (m.tag.chars ++ ['>'] ++ (marksChars marks ++ tail)) := by
      simp [marksChars, Mark.chars]
    rw [hcut, beginning, occurrences_append hm.lead.less, occurrences, occurrences_append hbody,
      ← beginning, ih hmarks, List.countP_cons, Nat.add_comm, beginning]
    simp only [List.cons_prefix_cons, true_and, List.append_assoc, List.singleton_append,
      Tag.prefix_iff hname hm.tag hattrs]

end Occurrences

namespace Element

/-- An element that can be written, with attributes in every element. -/
def Proper (e : Element) : Prop :=
  ∀ m ∈ e.marks, m.Proper ∧ m.tag.Described

theorem proper_mk {lead foot : List Char} {name : String} {attrs : Attributes}
    {children : List Element} (hlead : IsWritten lead) (hname : isName name.toList = true)
    (hattrs : attrs.Proper) (hne : attrs ≠ []) (hchildren : ∀ e ∈ children, e.Proper)
    (hfoot : IsWritten foot) : (mk lead name attrs children foot).Proper := by
  have hinside : ∀ m ∈ marksOf children, m.Proper ∧ m.tag.Described := by
    simpa [marksOf_eq, List.mem_flatMap] using fun m e he hm => hchildren e he m hm
  intro m hm
  unfold marks at hm
  split at hm
  · obtain rfl := List.mem_singleton.mp hm
    exact ⟨⟨hlead, hname, hattrs⟩, hne⟩
  · rw [List.mem_cons, List.mem_append, List.mem_singleton] at hm
    obtain rfl | hm | rfl := hm
    · exact ⟨⟨hlead, hname, hattrs⟩, hne⟩
    · exact hinside m hm
    · exact ⟨⟨hfoot, hname⟩, trivial⟩

theorem proper_single {lead : List Char} {name : String} {attrs : Attributes}
    (hlead : IsWritten lead) (hname : isName name.toList = true) (hattrs : attrs.Proper)
    (hne : attrs ≠ []) : (mk lead name attrs [] []).Proper :=
  proper_mk hlead hname hattrs hne (by simp) (isWritten_of_plain (by simp))

theorem countIn_eq_sum (name : String) (es : List Element) :
    countIn name es = (es.map (count name)).sum := by
  induction es with
  | nil => rfl
  | cons e es ih => rw [countIn, ih, List.map_cons, List.sum_cons]

mutual

theorem countP_marks (name : String) (e : Element) :
    (e.marks.countP fun m => m.tag.isStart name) = e.count name := by
  obtain ⟨lead, own, attrs, children, foot⟩ := e
  unfold marks count
  split
  · rename_i hempty
    rw [Bool.and_eq_true, List.isEmpty_iff] at hempty
    simp [hempty.1, countIn, List.countP_singleton]
  · simp [countP_marksOf name children, List.countP_cons, Nat.add_comm]

theorem countP_marksOf (name : String) (es : List Element) :
    ((marksOf es).countP fun m => m.tag.isStart name) = countIn name es := by
  cases es with
  | nil => rfl
  | cons e es =>
    rw [marksOf, List.countP_append, countP_marks name e, countP_marksOf name es, countIn]

end

end Element

/-- There are as many elements of a name in a document as there are places that look like it. -/
theorem occurrences_document {name : String} {root : Element} {tail : List Char}
    (hname : isName name.toList = true) (h : ∀ m ∈ root.marks, m.Proper ∧ m.tag.Described)
    (htail : '<' ∉ tail) :
    occurrences (beginning name) (declaration ++ (root.chars ++ tail)) =
      root.count name := by
  obtain ⟨c, cs, hcs⟩ := List.exists_cons_of_ne_nil (isName_iff.mp hname).1
  have hc : c ≠ '?' := fun hc => by
    simpa [hc] using (isName_iff.mp hname).2 c (hcs ▸ List.mem_cons_self)
  have hline : declaration = '<' :: '?' :: declaration.drop 2 := by decide
  have hrest : '<' ∉ '?' :: declaration.drop 2 := by decide
  rw [hline, List.cons_append, beginning, occurrences, occurrences_append hrest, ← beginning,
    Element.chars, occurrences_marksChars hname h htail, Element.countP_marks, beginning, hcs]
  simp [List.cons_prefix_cons, hc]

end MatrixFlow.Markup
