import MatrixFlow.Proofs.Markup.Escape

/-!
# Texts and elements

The part of XML that reports are written in.

* `Markup.lineEnds`: a text as it is read, with line feeds only.
* `Markup.decode`: what a text stands for that was written with references.
* `Markup.decode_written`: a text is read back as it was before it was escaped.
* `Markup.Element`: an element, with all texts as they are written. `Element.attr?` and
  `Element.content?` are what its texts stand for.
* `Markup.Mark`: a tag with the text before it. `Element.marks` are those of an element, in order,
  and `Element.chars` is the text that they make.
-/

namespace MatrixFlow.Markup

/-! ## Reading -/

/-- A text with a line feed in the place of every line ending. -/
def lineEnds : List Char → List Char
  | [] => []
  | '\r' :: '\n' :: r => '\n' :: lineEnds r
  | '\r' :: r => '\n' :: lineEnds r
  | c :: r => c :: lineEnds r

/-- What a text stands for. Line endings are read before references are. -/
def decode (cs : List Char) : Option (List Char) :=
  resolve (lineEnds cs)

/-- The value of an attribute whose text stands for something: there are blanks in the place of
line feeds and tabs. -/
def spaced (cs : List Char) : List Char :=
  cs.map fun c => if c = '\n' ∨ c = '\t' then ' ' else c

/-- A text as it is read in an attribute. -/
def valueText (s : String) : String :=
  String.ofList (spaced (lineEnds s.toList))

/-- A text as it is read in an element. -/
def bodyText (s : String) : String :=
  String.ofList (lineEnds s.toList)

/-! ## Texts -/

section Texts

variable {cs rest : List Char}

theorem lineEnds_append (h : '\r' ∉ cs) (rest : List Char) :
    lineEnds (cs ++ rest) = cs ++ lineEnds rest := by
  induction cs with
  | nil => rfl
  | cons c cs ih =>
    obtain ⟨hc, hcs⟩ : '\r' ≠ c ∧ '\r' ∉ cs := by simpa using h
    rw [List.cons_append, lineEnds.eq_4 _ _ (by simp [Ne.symm hc]) (Ne.symm hc), ih hcs,
      List.cons_append]

/-- Line endings are read alike before and after a text is escaped. The text must not be cut in the
middle of one. -/
theorem lineEnds_escape (cs : List Char) (hrest : rest.head? ≠ some '\n') :
    lineEnds (cs.flatMap escapeChar ++ rest) =
      (lineEnds cs).flatMap escapeChar ++ lineEnds rest := by
  fun_induction lineEnds cs with
  | case1 => rfl
  | case2 r ih =>
    rw [List.flatMap_cons, List.flatMap_cons, escapeChar_return, escapeChar_newline,
      List.flatMap_cons, escapeChar_newline, List.append_assoc _ _ (lineEnds rest), ← ih]
    rfl
  | case3 r hr ih =>
    have hnot : ∀ r', r.flatMap escapeChar ++ rest ≠ '\n' :: r' := fun r' h => by
      cases r with
      | nil => simp [show rest = '\n' :: r' from h] at hrest
      | cons c r =>
        obtain ⟨d, ds, hd⟩ := List.exists_cons_of_ne_nil (escapeChar_ne_nil c)
        rw [List.flatMap_cons, hd] at h
        cases h
        have hmem : '\n' ∈ escapeChar c := hd ▸ List.mem_cons_self
        exact hr r (by rw [(mem_escapeChar (.inr rfl)).mp hmem])
    rw [List.flatMap_cons, escapeChar_return, List.append_assoc, List.singleton_append,
      lineEnds.eq_3 _ hnot, ih, List.flatMap_cons, escapeChar_newline, List.append_assoc,
      List.singleton_append]
  | case4 c r _ hreturn ih =>
    have hc : '\r' ∉ escapeChar c := fun h => hreturn ((mem_escapeChar (.inl rfl)).mp h)
    rw [List.flatMap_cons, List.append_assoc, lineEnds_append hc, ih, List.flatMap_cons,
      List.append_assoc]

/-- A text that was escaped is read back, with a line feed in the place of every line ending. -/
theorem decode_escape_append (cs : List Char) (hrest : rest.head? ≠ some '\n') :
    decode (cs.flatMap escapeChar ++ rest) = (decode rest).map (lineEnds cs ++ ·) := by
  rw [decode, lineEnds_escape cs hrest, resolve_escape, decode]

theorem decode_written (s : String) : decode (written s) = some (lineEnds s.toList) := by
  have h : decode (s.toList.flatMap escapeChar ++ []) = (decode []).map (lineEnds s.toList ++ ·) :=
    decode_escape_append s.toList (by simp)
  simpa [written, show decode [] = some [] from rfl] using h

/-- Text without special characters needs no references. -/
theorem decode_append (h : ∀ c ∈ cs, c ≠ '&' ∧ c ≠ '<' ∧ c ≠ '\r') (rest : List Char) :
    decode (cs ++ rest) = (decode rest).map (cs ++ ·) := by
  have hreturn : '\r' ∉ cs := fun hmem => (h _ hmem).2.2 rfl
  rw [decode, lineEnds_append hreturn, decode]
  clear hreturn
  induction cs with
  | nil => simp
  | cons c cs ih =>
    obtain ⟨⟨hand, hless, -⟩, hcs⟩ := List.forall_mem_cons.mp h
    rw [List.cons_append, resolve_cons hand hless, ih hcs, Option.map_map]
    rfl

end Texts

/-! ## Elements and tags -/

/-- The attributes of an element, each with its value as it is written. -/
abbrev Attributes := List (String × List Char)

/-- An element with the text before it, the elements inside it, and the text behind the last of
these. -/
inductive Element where
  | mk (lead : List Char) (name : String) (attrs : Attributes) (children : List Element)
    (foot : List Char)

/-- What stands between two brackets. -/
inductive Tag where
  | opening (name : String) (attrs : Attributes)
  /-- An element with nothing inside it. -/
  | single (name : String) (attrs : Attributes)
  | closing (name : String)

/-- A tag and the text before it. -/
structure Mark where
  lead : List Char
  tag : Tag

namespace Element

def lead : Element → List Char
  | mk lead .. => lead

def name : Element → String
  | mk _ name .. => name

def attrs : Element → Attributes
  | mk _ _ attrs .. => attrs

def children : Element → List Element
  | mk _ _ _ children _ => children

def foot : Element → List Char
  | mk _ _ _ _ foot => foot

/-- The value of an attribute. -/
def attr? (e : Element) (key : String) : Option String :=
  (e.attrs.lookup key).bind fun value => (decode value).map fun cs => String.ofList (spaced cs)

/-- The text in an element, behind all elements inside it. -/
def content? (e : Element) : Option String :=
  (decode e.foot).map String.ofList

mutual

/-- The tags of an element. -/
def marks : Element → List Mark
  | mk lead name attrs children foot =>
    if children.isEmpty && foot.isEmpty then [⟨lead, .single name attrs⟩]
    else ⟨lead, .opening name attrs⟩ :: (marksOf children ++ [⟨foot, .closing name⟩])

/-- The tags of elements in a row. -/
def marksOf : List Element → List Mark
  | [] => []
  | e :: rest => marks e ++ marksOf rest

end

mutual

/-- How many elements have a name: the element itself, and those inside it. -/
def count (name : String) : Element → Nat
  | mk _ own _ children _ => (if own = name then 1 else 0) + countIn name children

/-- How many elements have a name among some and inside them. -/
def countIn (name : String) : List Element → Nat
  | [] => 0
  | e :: rest => count name e + countIn name rest

end

/-- The value of an attribute is read back as it was written, but for blanks and line endings. -/
theorem attr?_eq {e : Element} {key s : String} (h : e.attrs.lookup key = some (written s)) :
    e.attr? key = some (valueText s) := by
  rw [attr?, h, Option.bind_some, decode_written, Option.map_some, valueText]

/-- The text in an element is read back as it was written, but for line endings. -/
theorem content?_eq {e : Element} {s : String} (h : e.foot = written s) :
    e.content? = some (bodyText s) := by
  rw [content?, h, decode_written, Option.map_some, bodyText]

end Element

/-! ## Writing -/

/-- An attribute. -/
def attrChars (a : String × List Char) : List Char :=
  ' ' :: (a.1.toList ++ '=' :: '\x22' :: (a.2 ++ ['\x22']))

/-- What stands between the brackets of a tag. -/
def Tag.chars : Tag → List Char
  | opening name attrs => name.toList ++ attrs.flatMap attrChars
  | single name attrs => name.toList ++ attrs.flatMap attrChars ++ " /".toList
  | closing name => '/' :: name.toList

/-- The text before a tag, and the tag without its closing bracket. -/
def Mark.chars (m : Mark) : List Char :=
  m.lead ++ '<' :: m.tag.chars

/-- The text of tags, each with the text before it. -/
def marksChars (marks : List Mark) : List Char :=
  marks.flatMap fun m => m.chars ++ ['>']

namespace Element

/-- An element with everything in it. -/
def chars (e : Element) : List Char :=
  marksChars e.marks

theorem chars_single (lead : List Char) (name : String) (attrs : Attributes) :
    (mk lead name attrs [] []).chars =
      lead ++ '<' :: (name.toList ++ attrs.flatMap attrChars ++ " />".toList) := by
  simp [chars, marks, marksChars, Mark.chars, Tag.chars]

theorem marksOf_eq (es : List Element) : marksOf es = es.flatMap marks := by
  induction es with
  | nil => rfl
  | cons e es ih => rw [marksOf, ih, List.flatMap_cons]

theorem marksChars_marksOf (es : List Element) : marksChars (marksOf es) = es.flatMap chars := by
  rw [marksOf_eq, marksChars, List.flatMap_assoc]
  rfl

theorem chars_of_not_isEmpty {children : List Element} {foot : List Char}
    (h : ¬(children.isEmpty && foot.isEmpty) = true) (lead : List Char) (name : String)
    (attrs : Attributes) :
    (mk lead name attrs children foot).chars =
      lead ++ '<' :: (name.toList ++ attrs.flatMap attrChars ++ '>' :: (children.flatMap chars ++
        (foot ++ '<' :: '/' :: (name.toList ++ ['>'])))) := by
  rw [chars, marks, if_neg h, ← marksChars_marksOf]
  simp [marksChars, Mark.chars, Tag.chars]

theorem chars_mk (lead : List Char) (name : String) (attrs : Attributes) (children : List Element)
    (c : Char) (foot : List Char) :
    (mk lead name attrs children (c :: foot)).chars =
      lead ++ '<' :: (name.toList ++ attrs.flatMap attrChars ++ '>' :: (children.flatMap chars ++
        c :: (foot ++ '<' :: '/' :: (name.toList ++ ['>'])))) :=
  chars_of_not_isEmpty (by simp) lead name attrs

end Element

end MatrixFlow.Markup
