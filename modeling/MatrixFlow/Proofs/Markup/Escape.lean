import Mathlib.Data.List.Basic
import MatrixFlow.Report.Junit

/-!
# Escaped texts

Special characters are replaced one kind after the other, each time in the whole text. So every pass
also meets what the passes before it have put in.

* `Markup.replacement`: what stands for a character if all passes are made at once.
* `Markup.InOrder`: no pass replaces anything that an earlier one has put in.
* `Markup.foldl_replaceChar`: passes in such an order do the same as all at once.
* `Markup.escapeChar`, `Markup.toList_escape`: an escaped text, character by character.
* `Markup.resolve`, `Markup.resolve_escape`: references are read back as the characters that they
  stand for.
* `Markup.escape_reversible`: what an escaped text looks like, and what it says.
-/

namespace MatrixFlow.Markup

/-! ## Passes -/

section Passes

variable {table : List (Char × String)} {c : Char} {cs : List Char}

/-- What stands for a character when all characters of a table are replaced at once. -/
def replacement (table : List (Char × String)) (c : Char) : List Char :=
  match table.lookup c with
  | some text => text.toList
  | none => [c]

/-- No character is replaced that an earlier pass has put in. -/
def InOrder (table : List (Char × String)) : Prop :=
  table.Pairwise fun earlier later => later.1 ∉ earlier.2.toList

instance (table : List (Char × String)) : Decidable (InOrder table) :=
  inferInstanceAs (Decidable (table.Pairwise _))

theorem replacement_of_not_mem (h : ∀ p ∈ table, p.1 ≠ c) : replacement table c = [c] := by
  have hnone : table.lookup c = none :=
    List.lookup_eq_none_iff.mpr fun p hp => bne_iff_ne.mpr (h p hp).symm
  rw [replacement, hnone]

theorem replacement_cons_self (text : String) (table : List (Char × String)) :
    replacement ((c, text) :: table) c = text.toList := by
  rw [replacement, List.lookup_cons_self]

theorem replacement_cons_of_ne {d : Char} (h : d ≠ c) (text : String) :
    replacement ((c, text) :: table) d = replacement table d := by
  rw [replacement, replacement, List.lookup_cons, beq_false_of_ne h]

/-- A text without characters of the table stays as it is. -/
theorem flatMap_replacement_eq_self (h : ∀ p ∈ table, p.1 ∉ cs) :
    cs.flatMap (replacement table) = cs := by
  have hself : ∀ c ∈ cs, replacement table c = [c] := fun c hc =>
    replacement_of_not_mem fun p hp heq => h p hp (heq ▸ hc)
  rw [List.flatMap_congr hself, List.flatMap_singleton']

/-- If no character is replaced that an earlier pass has put in, then the passes together replace
every character of the text once. -/
theorem foldl_replaceChar (h : InOrder table) (s : String) :
    (table.foldl (fun s (c, text) => replaceChar c text s) s).toList =
      s.toList.flatMap (replacement table) := by
  induction table generalizing s with
  | nil => exact (List.flatMap_singleton' _).symm
  | cons p table ih =>
    obtain ⟨c, text⟩ := p
    obtain ⟨hlater, htable⟩ := List.pairwise_cons.mp h
    have hpass : (replaceChar c text s).toList =
        s.toList.flatMap fun d => if d = c then text.toList else [d] := String.toList_ofList
    rw [List.foldl_cons, ih htable, hpass, List.flatMap_assoc]
    refine List.flatMap_congr fun d _ => ?_
    split
    · rename_i hd
      rw [flatMap_replacement_eq_self hlater, hd, replacement_cons_self]
    · rename_i hd
      rw [List.flatMap_singleton, replacement_cons_of_ne hd]

/-- If ampersands came last, then those of references would be replaced, too. -/
example : ¬InOrder references.reverse ∧
    references.reverse.foldl (fun s (c, text) => replaceChar c text s) "<" = "&amp;lt;" := by decide

end Passes

/-! ## Characters -/

/-- A character, or the reference that stands for it. -/
def escapeChar : Char → List Char
  | '&' => "&amp;".toList
  | '<' => "&lt;".toList
  | '>' => "&gt;".toList
  | '\x22' => "&quot;".toList
  | '\x27' => "&apos;".toList
  | c => [c]

/-- A text with characters in the place of references. There is nothing if an ampersand begins no
reference, or if a tag begins. -/
def resolve : List Char → Option (List Char)
  | [] => some []
  | '&' :: 'a' :: 'm' :: 'p' :: ';' :: r => (resolve r).map ('&' :: ·)
  | '&' :: 'l' :: 't' :: ';' :: r => (resolve r).map ('<' :: ·)
  | '&' :: 'g' :: 't' :: ';' :: r => (resolve r).map ('>' :: ·)
  | '&' :: 'q' :: 'u' :: 'o' :: 't' :: ';' :: r => (resolve r).map ('\x22' :: ·)
  | '&' :: 'a' :: 'p' :: 'o' :: 's' :: ';' :: r => (resolve r).map ('\x27' :: ·)
  | c :: r => if c = '&' ∨ c = '<' then none else (resolve r).map (c :: ·)

section Characters

variable {c : Char}

theorem escapeChar_eq_self (h : c ∉ ['&', '<', '>', '\x22', '\x27']) : escapeChar c = [c] := by
  unfold escapeChar
  split <;> simp_all

theorem escapeChar_return : escapeChar '\r' = ['\r'] := rfl

theorem escapeChar_newline : escapeChar '\n' = ['\n'] := rfl

theorem replacement_references (c : Char) : replacement references c = escapeChar c := by
  by_cases hc : c ∈ ['&', '<', '>', '\x22', '\x27']
  · simp only [List.mem_cons, List.not_mem_nil, or_false] at hc
    obtain rfl | rfl | rfl | rfl | rfl := hc <;> rfl
  · rw [escapeChar_eq_self hc]
    refine replacement_of_not_mem fun p hp heq => hc ?_
    rw [← heq]
    exact List.mem_map_of_mem (f := Prod.fst) hp

/-- A line ending stands for itself, and nothing else is escaped by one. -/
theorem mem_escapeChar {d : Char} (hd : d = '\r' ∨ d = '\n') : d ∈ escapeChar c ↔ c = d := by
  by_cases hc : c ∈ ['&', '<', '>', '\x22', '\x27']
  · simp only [List.mem_cons, List.not_mem_nil, or_false] at hc
    obtain rfl | rfl | rfl | rfl | rfl := hc <;> rcases hd with rfl | rfl <;> decide
  · rw [escapeChar_eq_self hc, List.mem_singleton, eq_comm]

/-- There is no bracket and no quote in what stands for a character. -/
theorem not_mem_escapeChar {d : Char} (hd : d ∈ ['<', '>', '\x22', '\x27']) :
    d ∉ escapeChar c := by
  by_cases hc : c ∈ ['&', '<', '>', '\x22', '\x27']
  · simp only [List.mem_cons, List.not_mem_nil, or_false] at hc hd
    obtain rfl | rfl | rfl | rfl | rfl := hc <;> obtain rfl | rfl | rfl | rfl := hd <;> decide
  · rw [escapeChar_eq_self hc, List.mem_singleton]
    rintro rfl
    grind

theorem escapeChar_ne_nil (c : Char) : escapeChar c ≠ [] := by
  unfold escapeChar
  split <;> simp

/-- The references to the entities that every document knows. -/
def entityReferences : List String :=
  ["&amp;", "&lt;", "&gt;", "&quot;", "&apos;"]

/-- An ampersand in what stands for a character begins it, and the whole of it is a reference. -/
theorem escapeChar_of_and {before after : List Char} (h : escapeChar c = before ++ '&' :: after) :
    ∃ reference ∈ entityReferences, '&' :: after = reference.toList := by
  by_cases hc : c ∈ ['&', '<', '>', '\x22', '\x27']
  · have hone : (escapeChar c).count '&' = 1 ∧ (escapeChar c).head? = some '&' ∧
        String.ofList (escapeChar c) ∈ entityReferences := by
      simp only [List.mem_cons, List.not_mem_nil, or_false] at hc
      obtain rfl | rfl | rfl | rfl | rfl := hc <;> decide
    obtain ⟨hcount, hhead, hmem⟩ := hone
    cases before with
    | nil => exact ⟨_, hmem, by simpa using h.symm⟩
    | cons b before =>
      -- there would be an ampersand in front, too
      rw [h] at hcount hhead
      obtain rfl : b = '&' := by simpa using hhead
      simp at hcount
  · rw [escapeChar_eq_self hc] at h
    cases before with
    | nil =>
      obtain ⟨rfl, -⟩ := List.cons.inj h
      simp at hc
    | cons b before => simp at h

theorem resolve_cons (hand : c ≠ '&') (hless : c ≠ '<') (r : List Char) :
    resolve (c :: r) = (resolve r).map (c :: ·) := by
  rw [resolve.eq_7 _ _ (by simp [hand]) (by simp [hand]) (by simp [hand]) (by simp [hand])
    (by simp [hand])]
  simp [hand, hless]

/-- A character is read back, whether it was written as a reference or not. -/
theorem resolve_escapeChar (c : Char) (r : List Char) :
    resolve (escapeChar c ++ r) = (resolve r).map (c :: ·) := by
  by_cases hc : c ∈ ['&', '<', '>', '\x22', '\x27']
  · simp only [List.mem_cons, List.not_mem_nil, or_false] at hc
    obtain rfl | rfl | rfl | rfl | rfl := hc <;> rfl
  · rw [escapeChar_eq_self hc, List.singleton_append, resolve_cons (by grind) (by grind)]

end Characters

/-! ## Texts -/

/-- A text as it is written. -/
def written (s : String) : List Char :=
  s.toList.flatMap escapeChar

section Texts

variable {c : Char} {cs before after : List Char}

/-- The passes escape every character of the text once. -/
theorem toList_escape (s : String) : (escape s).toList = written s := by
  have hpasses : (escape s).toList = s.toList.flatMap (replacement references) :=
    foldl_replaceChar (by decide) s
  rw [hpasses, funext replacement_references, written]

theorem not_mem_written (hc : c ∈ ['<', '>', '\x22', '\x27']) (s : String) : c ∉ written s := by
  intro hmem
  obtain ⟨d, -, hd⟩ := List.mem_flatMap.mp hmem
  exact not_mem_escapeChar hc hd

/-- Every ampersand in an escaped text begins a reference. -/
theorem exists_reference (h : cs.flatMap escapeChar = before ++ '&' :: after) :
    ∃ reference ∈ entityReferences, reference.toList <+: '&' :: after := by
  induction cs generalizing before with
  | nil => simp at h
  | cons c cs ih =>
    rw [List.flatMap_cons] at h
    obtain ⟨mid, -, hmid⟩ | ⟨mid, hmid, hafter⟩ := List.append_eq_append_iff.mp h
    · -- the ampersand belongs to a later character
      exact ih hmid
    · cases mid with
      | nil => exact @ih [] hafter.symm
      | cons d mid =>
        obtain ⟨rfl, rfl⟩ := List.cons.inj hafter
        obtain ⟨reference, hmem, hreference⟩ := escapeChar_of_and hmid
        refine ⟨reference, hmem, cs.flatMap escapeChar, ?_⟩
        rw [← hreference]
        rfl

theorem resolve_escape (cs rest : List Char) :
    resolve (cs.flatMap escapeChar ++ rest) = (resolve rest).map (cs ++ ·) := by
  induction cs with
  | nil => simp
  | cons c cs ih =>
    rw [List.flatMap_cons, List.append_assoc, resolve_escapeChar, ih, Option.map_map]
    rfl

theorem resolve_written (s : String) : resolve (written s) = some s.toList := by
  have h := resolve_escape s.toList []
  rw [List.append_nil] at h
  simpa [written, resolve] using h

theorem escape_append (s t : String) : escape (s ++ t) = escape s ++ escape t := by
  rw [← String.toList_inj, String.toList_append]
  simp only [toList_escape, written, String.toList_append, List.flatMap_append]

theorem escape_injective : Function.Injective escape := by
  intro s t h
  have hwritten : written s = written t := by rw [← toList_escape, ← toList_escape, h]
  have hread := congrArg resolve hwritten
  rw [resolve_written, resolve_written] at hread
  exact String.toList_inj.mp (Option.some.inj hread)

/-- In an escaped text there is no bracket and no quote, and every ampersand begins a reference to
one of the entities that every document knows. With characters in the place of the references it is
the text that was escaped. Texts that follow one another can be escaped one by one, different texts
stay different, and all passes over the text do the same as one over its characters. -/
theorem escape_reversible (s : String) :
    (∀ c ∈ ['<', '>', '\x22', '\x27'], c ∉ (escape s).toList) ∧
    (∀ before after, (escape s).toList = before ++ '&' :: after →
      ∃ reference ∈ entityReferences, reference.toList <+: '&' :: after) ∧
    resolve (escape s).toList = some s.toList ∧
    (∀ t, escape (s ++ t) = escape s ++ escape t) ∧
    (∀ t, escape s = escape t → s = t) ∧
    escape s = String.ofList (s.toList.flatMap escapeChar) := by
  refine ⟨fun c hc => ?_, fun before after h => ?_, ?_, escape_append s,
    fun t h => escape_injective h, ?_⟩
  · rw [toList_escape]
    exact not_mem_written hc s
  · rw [toList_escape] at h
    exact exists_reference h
  · rw [toList_escape, resolve_written]
  · rw [← String.toList_inj, toList_escape, String.toList_ofList, written]

/-- A reference in a text is text itself. -/
theorem escape_reversible_sample :
    (escape "'<' is &lt;").toList = "&apos;&lt;&apos; is ".toList ++ '&' :: "amp;lt;".toList ∧
    (∃ reference ∈ entityReferences, reference.toList <+: '&' :: "amp;lt;".toList) ∧
    resolve "&apos;&lt;&apos; is &amp;lt;".toList = some "'<' is &lt;".toList := by
  have htext : (escape "'<' is &lt;").toList =
      "&apos;&lt;&apos; is ".toList ++ '&' :: "amp;lt;".toList := by decide
  obtain ⟨-, hreference, hresolve, -⟩ := escape_reversible "'<' is &lt;"
  refine ⟨htext, hreference _ _ htext, ?_⟩
  rw [htext] at hresolve
  exact hresolve

end Texts

end MatrixFlow.Markup
