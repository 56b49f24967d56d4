import MatrixFlow.Proofs.Lists
import MatrixFlow.Proofs.Markup.Element
import MatrixFlow.Proofs.Text

/-!
# Documents

How a document is read, which is one element behind a first line.

* `Markup.document?`: the element that a document consists of. There is one if every tag is well
  formed, whatever is opened is closed in its place, and references are those of XML. Which
  characters a document may have at all is not looked at.
* `Markup.Element.take_marks`, `Markup.document?_marks`: the tags of an element are read back as the
  element.
-/

namespace MatrixFlow.Markup

/-! ## Reading tags -/

/-- A name; only letters are used for names here. -/
def isName (cs : List Char) : Bool :=
  !cs.isEmpty && cs.all Char.isAlpha

/-- An attribute, from what stands before its value and from the value. -/
def attribute? : (key value : List Char) → Option (String × List Char)
  | ' ' :: key, value =>
    match Text.stripEnd? ['='] key with
    | some key =>
      if isName key && (decode value).isSome then some (String.ofList key, value) else none
    | none => none
  | _, _ => none

/-- Attributes, from the pieces between quotes. None is given twice. -/
def attributes? : List (List Char) → Option Attributes
  | [[]] => some []
  | key :: value :: rest =>
    match attribute? key value, attributes? rest with
    | some a, some others => if others.any (·.1 == a.1) then none else some (a :: others)
    | _, _ => none
  | _ => none

/-- A name with attributes. -/
def start? (cs : List Char) : Option (String × Attributes) :=
  let name := cs.takeWhile Char.isAlpha
  match attributes? (Text.splitOn '\x22' (cs.dropWhile Char.isAlpha)) with
  | some attrs => if isName name then some (String.ofList name, attrs) else none
  | none => none

/-- A tag, from what stands between its brackets. -/
def tag? (cs : List Char) : Option Tag :=
  match cs with
  | '/' :: name => if isName name then some (.closing (String.ofList name)) else none
  | cs =>
    match Text.stripEnd? " /".toList cs with
    | some cs => (start? cs).map fun (name, attrs) => .single name attrs
    | none => (start? cs).map fun (name, attrs) => .opening name attrs

/-- A tag with the text before it, from all that stands before its closing bracket. -/
def mark? (cs : List Char) : Option Mark :=
  match Text.cut? ['<'] cs with
  | some (lead, body) => if (decode lead).isSome then (tag? body).map (Mark.mk lead) else none
  | none => none

/-! ## Reading documents -/

/-- An element that has been opened: the text before it, its name, its attributes, and the elements
before it in the same place, the last one first. -/
structure Frame where
  lead : List Char
  name : String
  attrs : Attributes
  before : List Element

/-- How far a document has been read: the elements that are open, the innermost first, and the
elements that have been read inside this one, the last one first. -/
structure Reading where
  stack : List Frame
  done : List Element

/-- Reads a tag. What is closed must be what was opened last. -/
def Reading.take (r : Reading) (m : Mark) : Option Reading :=
  match m.tag, r.stack with
  | .opening name attrs, stack => some ⟨⟨m.lead, name, attrs, r.done⟩ :: stack, []⟩
  | .single name attrs, stack => some ⟨stack, .mk m.lead name attrs [] [] :: r.done⟩
  | .closing name, frame :: stack =>
    if frame.name = name then
      some ⟨stack, .mk frame.lead name frame.attrs r.done.reverse m.lead :: frame.before⟩
    else none
  | .closing _, [] => none

/-- What may stand around the element of a document. -/
def isSpace (c : Char) : Bool :=
  c == ' ' || c == '\n' || c == '\r' || c == '\t'

/-- The first line of a document. -/
def declaration : List Char :=
  "<?xml version=\x221.0\x22 encoding=\x22UTF-8\x22?>".toList

/-- The element of which a document consists. -/
def document? (text : String) : Option Element := do
  let rest ← Text.stripStart? declaration text.toList
  let pieces := Text.splitOn '>' rest
  let marks ← pieces.dropLast.mapM mark?
  match ← marks.foldlM Reading.take ⟨[], []⟩ with
  | ⟨[], [root]⟩ => if (root.lead ++ pieces.getLastD []).all isSpace then some root else none
  | _ => none

/-! ## Tags are read as they are written -/

/-- A text that can be written anywhere: its references are those of XML, and there is no bracket
and no quote in it. -/
structure IsWritten (cs : List Char) : Prop where
  decodes : (decode cs).isSome = true
  less : '<' ∉ cs
  greater : '>' ∉ cs
  quote : '\x22' ∉ cs

@[simp] theorem isWritten_written (s : String) : IsWritten (written s) where
  decodes := by rw [decode_written]; rfl
  less := not_mem_written (by simp) s
  greater := not_mem_written (by simp) s
  quote := not_mem_written (by simp) s

/-- Text without special characters is written as it is. -/
theorem isWritten_of_plain {cs : List Char} (h : ∀ c ∈ cs, c ∉ ['&', '<', '>', '\x22', '\r']) :
    IsWritten cs where
  decodes := by
    have hplain : ∀ c ∈ cs, c ≠ '&' ∧ c ≠ '<' ∧ c ≠ '\r' := fun c hc => by
      have := h c hc
      simp_all
    have hdecode := decode_append hplain []
    rw [List.append_nil] at hdecode
    rw [hdecode]
    rfl
  less hmem := h _ hmem (by simp)
  greater hmem := h _ hmem (by simp)
  quote hmem := h _ hmem (by simp)

/-- Attributes with names of which none is given twice. -/
structure Attributes.Proper (attrs : Attributes) : Prop where
  nodup : (attrs.map Prod.fst).Nodup
  name : ∀ a ∈ attrs, isName a.1.toList = true
  value : ∀ a ∈ attrs, IsWritten a.2

@[simp] theorem Attributes.proper_nil : Attributes.Proper [] := ⟨.nil, nofun, nofun⟩

@[simp] theorem Attributes.proper_cons {a : String × List Char} {attrs : Attributes} :
    Attributes.Proper (a :: attrs) ↔
      isName a.1.toList = true ∧ IsWritten a.2 ∧ a.1 ∉ attrs.map Prod.fst ∧ attrs.Proper := by
  constructor
  · rintro ⟨hnodup, hname, hvalue⟩
    obtain ⟨hnot, hnodup⟩ := List.nodup_cons.mp hnodup
    obtain ⟨hname, hnames⟩ := List.forall_mem_cons.mp hname
    obtain ⟨hvalue, hvalues⟩ := List.forall_mem_cons.mp hvalue
    exact ⟨hname, hvalue, hnot, hnodup, hnames, hvalues⟩
  · rintro ⟨hname, hvalue, hnot, hnodup, hnames, hvalues⟩
    exact ⟨List.nodup_cons.mpr ⟨hnot, hnodup⟩, List.forall_mem_cons.mpr ⟨hname, hnames⟩,
      List.forall_mem_cons.mpr ⟨hvalue, hvalues⟩⟩

/-- A tag that can be written. -/
def Tag.Proper : Tag → Prop
  | opening name attrs | single name attrs => isName name.toList = true ∧ attrs.Proper
  | closing name => isName name.toList = true

/-- A tag that can be written behind a text that can. -/
structure Mark.Proper (m : Mark) : Prop where
  lead : IsWritten m.lead
  tag : m.tag.Proper

section Tags

variable {name cs rest : List Char} {attrs : Attributes}

theorem isName_iff : isName cs = true ↔ cs ≠ [] ∧ ∀ c ∈ cs, c.isAlpha = true := by
  simp [isName]

theorem not_mem_of_isName {c : Char} (h : isName cs = true) (hc : c.isAlpha = false) : c ∉ cs :=
  fun hmem => by simp [(isName_iff.mp h).2 c hmem] at hc

theorem stripEnd?_append (cs ending : List Char) :
    Text.stripEnd? ending (cs ++ ending) = some cs :=
  Text.stripEnd?_eq_some.mpr rfl

theorem stripEnd?_eq_none {ending : List Char} (h : ¬ending <:+ cs) :
    Text.stripEnd? ending cs = none := by
  rw [Text.stripEnd?, Option.map_eq_none_iff, Text.stripStart?_eq_none, List.reverse_prefix]
  exact h

theorem splitOn_append {sep : Char} (h : sep ∉ cs) (rest : List Char) :
    Text.splitOn sep (cs ++ sep :: rest) = cs :: Text.splitOn sep rest := by
  induction cs with
  | nil => simp [Text.splitOn]
  | cons c cs ih =>
    obtain ⟨hc, hcs⟩ := not_or.mp (List.mem_cons.not.mp h)
    rw [List.cons_append, Text.splitOn, if_neg (Ne.symm hc), ih hcs]

theorem splitOn_of_not_mem {sep : Char} (h : sep ∉ cs) : Text.splitOn sep cs = [cs] := by
  induction cs with
  | nil => rfl
  | cons c cs ih =>
    obtain ⟨hc, hcs⟩ := not_or.mp (List.mem_cons.not.mp h)
    rw [Text.splitOn, if_neg (Ne.symm hc), ih hcs]

theorem attribute?_eq {a : String × List Char} (hname : isName a.1.toList = true)
    (hvalue : IsWritten a.2) : attribute? (' ' :: (a.1.toList ++ ['='])) a.2 = some a := by
  simp [attribute?, stripEnd?_append, hname, hvalue.decodes]

theorem attributes?_eq (h : attrs.Proper) :
    attributes? (Text.splitOn '\x22' (attrs.flatMap attrChars)) = some attrs := by
  induction attrs with
  | nil => rfl
  | cons a attrs ih =>
    obtain ⟨hname, hvalue, hnot, hattrs⟩ := Attributes.proper_cons.mp h
    have hkey : '\x22' ∉ ' ' :: (a.1.toList ++ ['=']) := by
      simpa using not_mem_of_isName hname (by decide)
    have hcut : (a :: attrs).flatMap attrChars = ' ' :: (a.1.toList ++ ['=']) ++ '\x22' ::
        (a.2 ++ '\x22' :: attrs.flatMap attrChars) := by simp [attrChars]
    have hfresh : attrs.any (·.1 == a.1) = false := by
      rw [List.any_eq_false]
      rintro b hb heq
      exact hnot (eq_of_beq heq ▸ List.mem_map_of_mem hb)
    rw [hcut, splitOn_append hkey, splitOn_append hvalue.quote, attributes?,
      attribute?_eq hname hvalue, ih hattrs]
    exact if_neg (Bool.not_eq_true _ ▸ hfresh)

theorem start?_eq {name : String} (hname : isName name.toList = true) (h : attrs.Proper) :
    start? (name.toList ++ attrs.flatMap attrChars) = some (name, attrs) := by
  have halpha := (isName_iff.mp hname).2
  have hstop : (attrs.flatMap attrChars).takeWhile Char.isAlpha = [] ∧
      (attrs.flatMap attrChars).dropWhile Char.isAlpha = attrs.flatMap attrChars := by
    cases attrs with
    | nil => exact ⟨rfl, rfl⟩
    | cons a attrs => simp [attrChars]
  rw [start?, List.takeWhile_append_of_pos halpha, List.dropWhile_append_of_pos halpha, hstop.1,
    hstop.2, List.append_nil, attributes?_eq h]
  simp [hname]

/-- A name with attributes does not end as an element with nothing inside it does. -/
theorem stripEnd?_start (hname : isName name = true) :
    Text.stripEnd? " /".toList (name ++ attrs.flatMap attrChars) = none := by
  refine stripEnd?_eq_none fun hend => ?_
  have hlast : (name ++ attrs.flatMap attrChars).getLast? = some '/' := by
    obtain ⟨start, hstart⟩ := hend
    simp [← hstart]
  rcases List.eq_nil_or_concat attrs with rfl | ⟨attrs, a, rfl⟩
  · rw [List.flatMap_nil, List.append_nil] at hlast
    exact not_mem_of_isName hname (by decide) (List.mem_of_getLast? hlast)
  · have hquote : name ++ (attrs.concat a).flatMap attrChars = name ++ attrs.flatMap attrChars ++
        ' ' :: (a.1.toList ++ '=' :: '\x22' :: a.2) ++ ['\x22'] := by simp [attrChars]
    rw [hquote, List.getLast?_concat] at hlast
    cases hlast

/-- A name begins with a letter. -/
theorem tag?_start (hname : isName name = true) (rest : List Char) : tag? (name ++ rest) =
    match Text.stripEnd? " /".toList (name ++ rest) with
    | some cs => (start? cs).map fun (name, attrs) => .single name attrs
    | none => (start? (name ++ rest)).map fun (name, attrs) => .opening name attrs := by
  refine tag?.eq_2 _ fun cs hcs => ?_
  cases name with
  | nil => cases hname
  | cons c name =>
    cases hcs
    exact not_mem_of_isName hname (by decide) List.mem_cons_self

theorem tag?_chars {t : Tag} (h : t.Proper) : tag? t.chars = some t := by
  cases t with
  | opening name attrs =>
    obtain ⟨hname, hattrs⟩ := h
    rw [Tag.chars, tag?_start hname, stripEnd?_start hname]
    simp [start?_eq hname hattrs]
  | single name attrs =>
    obtain ⟨hname, hattrs⟩ := h
    rw [Tag.chars, List.append_assoc, tag?_start hname, ← List.append_assoc, stripEnd?_append]
    simp [start?_eq hname hattrs]
  | closing name => simp [Tag.chars, tag?, show isName name.toList = true from h]

theorem mark?_chars {m : Mark} (h : m.Proper) : mark? m.chars = some m := by
  have hcut : Text.cut? ['<'] m.chars = some (m.lead, m.tag.chars) := by
    refine (Text.cut?_eq_some (by simp)).mpr ⟨by simp [Mark.chars], ?_⟩
    simpa [List.singleton_infix_iff] using h.lead.less
  simp [mark?, hcut, h.lead.decodes, tag?_chars h.tag]

section Brackets

variable {c : Char} (hc : c = '<' ∨ c = '>')
include hc

theorem IsWritten.not_mem (h : IsWritten cs) : c ∉ cs := by
  rcases hc with rfl | rfl
  exacts [h.less, h.greater]

theorem not_mem_name (h : isName cs = true) : c ∉ cs :=
  not_mem_of_isName h (by rcases hc with rfl | rfl <;> decide)

theorem not_mem_attrs (h : attrs.Proper) : c ∉ attrs.flatMap attrChars := by
  rw [List.mem_flatMap]
  rintro ⟨a, ha, hmem⟩
  have hkey := not_mem_name hc (h.name a ha)
  have hvalue := (h.value a ha).not_mem hc
  rcases hc with rfl | rfl <;> simp [attrChars, hkey, hvalue] at hmem

/-- There is no bracket in a tag. -/
theorem Tag.Proper.not_mem_chars {t : Tag} (h : t.Proper) : c ∉ t.chars := by
  cases t with
  | opening name attrs =>
    exact List.not_mem_append (not_mem_name hc h.1) (not_mem_attrs hc h.2)
  | single name attrs =>
    refine List.not_mem_append (List.not_mem_append (not_mem_name hc h.1) (not_mem_attrs hc h.2)) ?_
    rcases hc with rfl | rfl <;> decide
  | closing name =>
    exact List.not_mem_cons_of_ne_of_not_mem (by rcases hc with rfl | rfl <;> decide)
      (not_mem_name hc h)

end Brackets

theorem Mark.Proper.not_mem_chars {m : Mark} (h : m.Proper) : '>' ∉ m.chars := by
  simpa [Mark.chars, h.lead.greater] using h.tag.not_mem_chars (.inr rfl)

/-- The pieces between closing brackets are the tags. -/
theorem splitOn_marksChars {marks : List Mark} {tail : List Char} (h : ∀ m ∈ marks, m.Proper)
    (htail : '>' ∉ tail) :
    Text.splitOn '>' (marksChars marks ++ tail) = marks.map Mark.chars ++ [tail] := by
  induction marks with
  | nil => exact splitOn_of_not_mem htail
  | cons m marks ih =>
    obtain ⟨hm, hmarks⟩ := List.forall_mem_cons.mp h
    have hcut : marksChars (m :: marks) ++ tail = m.chars ++ '>' :: (marksChars marks ++ tail) := by
      simp [marksChars]
    rw [hcut, splitOn_append hm.not_mem_chars, ih hmarks, List.map_cons, List.cons_append]

end Tags

/-! ## Documents are read as they are written -/

namespace Element

mutual

/-- Reading the tags of an element adds the element to what has been read. -/
theorem take_marks (e : Element) (r : Reading) (rest : List Mark) :
    (e.marks ++ rest).foldlM Reading.take r = rest.foldlM Reading.take ⟨r.stack, e :: r.done⟩ := by
  obtain ⟨lead, name, attrs, children, foot⟩ := e
  unfold marks
  split
  · rename_i hempty
    rw [Bool.and_eq_true, List.isEmpty_iff, List.isEmpty_iff] at hempty
    obtain ⟨rfl, rfl⟩ := hempty
    rfl
  · rw [List.cons_append, List.append_assoc]
    refine (take_marksOf children ⟨⟨lead, name, attrs, r.done⟩ :: r.stack, []⟩ _).trans ?_
    simp [Reading.take]

theorem take_marksOf (es : List Element) (r : Reading) (rest : List Mark) :
    (marksOf es ++ rest).foldlM Reading.take r =
      rest.foldlM Reading.take ⟨r.stack, es.reverse ++ r.done⟩ := by
  cases es with
  | nil => rfl
  | cons e es =>
    rw [marksOf, List.append_assoc, take_marks e, take_marksOf es]
    simp

end

end Element

/-- The tags of an element, written behind the first line of a document, are read back as the
element. -/
theorem document?_marks {root : Element} {tail : List Char} (h : ∀ m ∈ root.marks, m.Proper)
    (hlead : root.lead.all isSpace = true) (htail : tail.all isSpace = true) :
    document? (String.ofList (declaration ++ (root.chars ++ tail))) = some root := by
  have hgreater : '>' ∉ tail := fun hmem => by
    simpa [isSpace] using List.all_eq_true.mp htail _ hmem
  have hmarks : (root.marks.map Mark.chars).mapM mark? = some root.marks := by
    have hread : ∀ m ∈ root.marks, (mark? ∘ Mark.chars) m = some (id m) := fun m hm =>
      mark?_chars (h m hm)
    rw [List.mapM_map, mapM_eq_some_map hread, List.map_id]
  have htake := Element.take_marks root ⟨[], []⟩ []
  rw [List.append_nil] at htake
  have hall : (root.lead ++ tail).all isSpace = true := by rw [List.all_append, hlead, htail]; rfl
  simp only [document?, Element.chars, String.toList_ofList, Text.stripStart?_append,
    splitOn_marksChars h hgreater, List.dropLast_concat, List.getLastD_concat, hmarks, htake,
    Option.bind_eq_bind, Option.bind_some, List.foldlM_nil, Option.pure_def, hall, if_true]

end MatrixFlow.Markup
