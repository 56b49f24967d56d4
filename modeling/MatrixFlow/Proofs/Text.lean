import Mathlib.Data.List.Infix
import MatrixFlow.Text.Lines

/-!
# Texts

* `stripStart?_eq_some`, `stripEnd?_eq_some`, `cut?_eq_some`, `cut?_eq_none`: a text as a beginning
  and a rest, as a rest and an ending, and as what stands before and after the first place of a
  piece.
* `splitOn_eq`: the pieces between separators are those of the library's `List.splitOn`.
* `trim_append`, `exists_trim`: blanks around a text do not count, and no others are dropped.
* `lines_append_newline`: the lines of a text, one by one.
* `linesFrom_append_newline`: the lines of two texts with a line feed between them.
-/

namespace MatrixFlow.Text

theorem toNat_of_isAlphanum {c : Char} (h : c.isAlphanum = true) :
    48 ≤ c.toNat ∧ c.toNat ≤ 122 := by
  delta Char.isAlphanum Char.isAlpha Char.isUpper Char.isLower Char.isDigit at h
  simp [UInt32.le_iff_toNat_le] at h
  omega

/-! ## Beginnings and places -/

section Pieces

variable {start piece cs before after rest : List Char}

theorem stripStart?_eq_some : stripStart? start cs = some rest ↔ cs = start ++ rest := by
  fun_induction stripStart? start cs with
  | case1 cs => simp
  | case2 => simp
  | case3 start a cs ih => simp [ih]
  | case4 a start c cs hne => simp [Ne.symm hne]

theorem stripStart?_eq_none : stripStart? start cs = none ↔ ¬start <+: cs := by
  rw [Option.eq_none_iff_forall_ne_some]
  simp only [ne_eq, stripStart?_eq_some]
  exact ⟨fun h ⟨rest, hrest⟩ => h rest hrest.symm, fun h rest hrest => h ⟨rest, hrest.symm⟩⟩

theorem stripStart?_append (start rest : List Char) :
    stripStart? start (start ++ rest) = some rest :=
  stripStart?_eq_some.mpr rfl

theorem cut?_eq_none (h : piece ≠ []) : cut? piece cs = none ↔ ¬piece <:+: cs := by
  fun_induction cut? piece cs with
  | case1 hempty => exact absurd (List.isEmpty_iff.mp hempty) h
  | case2 => simp [h]
  | case3 c r rest hstrip =>
    have hprefix : piece <+: c :: r := ⟨rest, (stripStart?_eq_some.mp hstrip).symm⟩
    exact iff_of_false nofun (not_not_intro hprefix.isInfix)
  | case4 c r hstrip ih =>
    rw [Option.map_eq_none_iff, ih, List.infix_cons_iff, not_or]
    exact (and_iff_right (stripStart?_eq_none.mp hstrip)).symm

/-- If a piece occurs where a text goes on with it, and also further in front, then the second
place ends before the first one does. -/
theorem prefix_append_dropLast (h : piece <+: cs ++ (piece ++ rest)) (hcs : cs ≠ []) :
    piece <+: cs ++ piece.dropLast := by
  refine List.prefix_of_prefix_length_le h ?_ ?_
  · exact List.prefix_append_right_inj cs |>.mpr
      ((List.dropLast_prefix piece).trans (List.prefix_append piece rest))
  · have := List.length_pos_iff.mpr hcs
    rw [List.length_append, List.length_dropLast]
    omega

/-- The place that is found is the first one: the piece does not end before it ends there. -/
theorem cut?_eq_some (h : piece ≠ []) : cut? piece cs = some (before, after) ↔
    cs = before ++ piece ++ after ∧ ¬piece <:+: before ++ piece.dropLast := by
  have hlast : ¬piece <:+: piece.dropLast := fun hin => by
    have := hin.length_le
    have := List.length_pos_iff.mpr h
    rw [List.length_dropLast] at *
    omega
  fun_induction cut? piece cs generalizing before with
  | case1 hempty => exact absurd (List.isEmpty_iff.mp hempty) h
  | case2 => simp [h]
  | case3 c r rest hstrip =>
    have hcs : c :: r = piece ++ rest := stripStart?_eq_some.mp hstrip
    constructor
    · rintro ⟨⟩
      exact ⟨hcs, hlast⟩
    · rintro ⟨heq, hfirst⟩
      cases before with
      | nil =>
        rw [hcs, List.nil_append] at heq
        rw [List.append_cancel_left heq]
      | cons b before =>
        have hprefix : piece <+: b :: before ++ (piece ++ after) := by
          rw [← List.append_assoc, ← heq, hcs]
          exact List.prefix_append piece rest
        exact absurd (prefix_append_dropLast hprefix (by simp)).isInfix hfirst
  | case4 c r hstrip ih =>
    have hstart := stripStart?_eq_none.mp hstrip
    rw [Option.map_eq_some_iff]
    constructor
    · rintro ⟨⟨tail, after'⟩, htail, ⟨⟩⟩
      obtain ⟨rfl, hfirst⟩ := ih.mp htail
      refine ⟨rfl, fun hin => ?_⟩
      rw [List.cons_append, List.infix_cons_iff] at hin
      refine hin.elim (fun hprefix => hstart ?_) hfirst
      refine hprefix.trans (List.prefix_cons_inj c |>.mpr ?_)
      rw [List.append_assoc]
      exact List.prefix_append_right_inj tail |>.mpr
        ((List.dropLast_prefix piece).trans (List.prefix_append piece _))
    · rintro ⟨heq, hfirst⟩
      cases before with
      | nil => exact absurd ⟨after, heq.symm⟩ hstart
      | cons b before =>
        cases heq
        refine ⟨(before, after), ih.mpr ⟨rfl, fun hin => hfirst ?_⟩, rfl⟩
        exact List.infix_cons_iff.mpr (.inr hin)

theorem contains_eq_true (h : piece ≠ []) : contains piece cs = true ↔ piece <:+: cs := by
  rw [contains, Option.isSome_iff_ne_none, ne_eq, cut?_eq_none h, not_not]

theorem stripEnd?_eq_some {ending : List Char} :
    stripEnd? ending cs = some rest ↔ cs = rest ++ ending := by
  rw [stripEnd?, Option.map_eq_some_iff]
  simp only [stripStart?_eq_some]
  constructor
  · rintro ⟨back, hback, rfl⟩
    simpa using congrArg List.reverse hback
  · rintro rfl
    exact ⟨rest.reverse, List.reverse_append, List.reverse_reverse rest⟩

end Pieces

/-! ## Separators -/

section Separators

variable {sep : Char} {cs piece : List Char}

theorem splitOn_eq (sep : Char) (cs : List Char) : splitOn sep cs = cs.splitOn sep := by
  induction cs with
  | nil => rfl
  | cons c cs ih =>
    rw [splitOn, List.splitOn_cons_eq_if_modifyHead, ih]
    simp only [beq_iff_eq]
    split
    · rfl
    · cases h : List.splitOn sep cs with
      | nil => exact absurd h (List.splitOn_ne_nil sep cs)
      | cons piece pieces => rfl

/-- Pieces consist of characters of the text other than the separator. -/
theorem mem_of_mem_splitOn (h : piece ∈ splitOn sep cs) : ∀ c ∈ piece, c ≠ sep ∧ c ∈ cs := by
  induction cs generalizing piece with
  | nil => simp_all [splitOn]
  | cons c cs ih =>
    have later : ∀ {l}, l ∈ splitOn sep cs → ∀ x ∈ l, x ≠ sep ∧ x ∈ c :: cs := fun hl x hx =>
      (ih hl x hx).imp_right (List.mem_cons_of_mem c)
    rw [splitOn] at h
    split at h
    · obtain rfl | h := List.mem_cons.mp h
      · simp
      · exact later h
    · rename_i hc
      split at h
      · obtain rfl := List.mem_singleton.mp h
        simpa using hc
      · rename_i first pieces hsplit
        rw [hsplit] at later
        obtain rfl | h := List.mem_cons.mp h
        · rw [List.forall_mem_cons]
          exact ⟨⟨hc, List.mem_cons_self⟩, later List.mem_cons_self⟩
        · exact later (List.mem_cons_of_mem _ h)

end Separators

/-! ## Blanks -/

section Blanks

variable {v w cs : List Char}

theorem isBlankText_eq_true : isBlankText cs = true ↔ ∀ c ∈ cs, isBlank c = true :=
  List.all_eq_true

theorem trimStart_append (h : isBlankText v = true) : trimStart (v ++ cs) = trimStart cs :=
  List.dropWhile_append_of_pos (isBlankText_eq_true.mp h)

theorem trimEnd_append (h : isBlankText w = true) : trimEnd (cs ++ w) = trimEnd cs := by
  have hrev : ∀ c ∈ w.reverse, isBlank c = true := fun c hc =>
    isBlankText_eq_true.mp h c (List.mem_reverse.mp hc)
  rw [trimEnd, trimEnd, List.reverse_append, List.dropWhile_append_of_pos hrev]

theorem trimStart_of_isBlankText (h : isBlankText cs = true) : trimStart cs = [] := by
  have happend : trimStart (cs ++ []) = trimStart [] := trimStart_append h
  rwa [List.append_nil] at happend

/-- Blanks around a text do not count. -/
theorem trim_append (hv : isBlankText v = true) (hw : isBlankText w = true) :
    trim (v ++ cs ++ w) = trim cs := by
  rw [trim, trim, List.append_assoc, trimStart_append hv, trimStart, List.dropWhile_append]
  split
  · rename_i hempty
    rw [trimStart, List.isEmpty_iff.mp hempty]
    exact congrArg trimEnd (trimStart_of_isBlankText hw)
  · exact trimEnd_append hw

theorem exists_trimStart (cs : List Char) : ∃ v, isBlankText v = true ∧ cs = v ++ trimStart cs :=
  ⟨cs.takeWhile isBlank, List.all_takeWhile, List.takeWhile_append_dropWhile.symm⟩

theorem exists_trimEnd (cs : List Char) : ∃ w, isBlankText w = true ∧ cs = trimEnd cs ++ w := by
  obtain ⟨w, hw, hcs⟩ := exists_trimStart cs.reverse
  refine ⟨w.reverse, by simpa [isBlankText] using hw, ?_⟩
  rw [trimEnd, ← List.reverse_append, ← trimStart, ← hcs, List.reverse_reverse]

/-- Nothing but blanks is dropped. -/
theorem exists_trim (cs : List Char) :
    ∃ v w, isBlankText v = true ∧ isBlankText w = true ∧ cs = v ++ trim cs ++ w := by
  obtain ⟨v, hv, hstart⟩ := exists_trimStart cs
  obtain ⟨w, hw, hend⟩ := exists_trimEnd (trimStart cs)
  exact ⟨v, w, hv, hw, by rw [trim, List.append_assoc, ← hend, ← hstart]⟩

theorem trim_trim (cs : List Char) : trim (trim cs) = trim cs := by
  obtain ⟨v, w, hv, hw, hcs⟩ := exists_trim cs
  conv => rhs; rw [hcs, trim_append hv hw]

theorem trim_eq_nil : trim cs = [] ↔ isBlankText cs = true := by
  constructor
  · intro h
    obtain ⟨v, w, hv, hw, hcs⟩ := exists_trim cs
    rw [hcs, h, List.append_nil, isBlankText, List.all_append, Bool.and_eq_true]
    exact ⟨hv, hw⟩
  · intro h
    rw [trim, trimStart_of_isBlankText h]
    rfl

/-- A text without blanks stays as it is. -/
theorem trim_of_no_blank (h : ∀ c ∈ cs, isBlank c = false) : trim cs = cs := by
  obtain ⟨v, w, hv, hw, hcs⟩ := exists_trim cs
  have hnil : ∀ u, isBlankText u = true → u ⊆ cs → u = [] := by
    intro u hu hsub
    refine List.eq_nil_iff_forall_not_mem.mpr fun c hc => ?_
    have hblank := isBlankText_eq_true.mp hu c hc
    rw [h c (hsub hc)] at hblank
    cases hblank
  have hv' : v = [] := hnil v hv fun c hc => by rw [hcs]; simp [hc]
  have hw' : w = [] := hnil w hw fun c hc => by rw [hcs]; simp [hc]
  rw [hv', hw', List.nil_append, List.append_nil] at hcs
  exact hcs.symm

theorem trim_subset (cs : List Char) : trim cs ⊆ cs := by
  obtain ⟨v, w, -, -, hcs⟩ := exists_trim cs
  intro c hc
  rw [hcs]
  simp [hc]

theorem trimStart_prefix (h : v <+: cs) : trimStart v <+: trimStart cs := by
  obtain ⟨w, rfl⟩ := h
  unfold trimStart
  rw [List.dropWhile_append]
  split
  · rename_i hempty
    rw [List.isEmpty_iff.mp hempty]
    exact List.nil_prefix
  · exact List.prefix_append _ w

theorem trimEnd_eq_self (h : trim cs = cs) : trimEnd cs = cs := by
  obtain ⟨w, hw, hcs⟩ := exists_trimEnd (trimStart cs)
  calc trimEnd cs = trimEnd (trim cs) := by rw [h]
    _ = trimEnd (trimEnd (trimStart cs) ++ w) := (trimEnd_append hw).symm
    _ = cs := by rw [← hcs, ← trim, h]

/-- A text that ends with a trimmed one has no blanks at its end. -/
theorem trimEnd_append_self (h : trim cs = cs) (hne : cs ≠ []) (v : List Char) :
    trimEnd (v ++ cs) = v ++ cs := by
  have hlast : cs.reverse.dropWhile isBlank = cs.reverse :=
    List.reverse_eq_iff.mp (trimEnd_eq_self h)
  rw [trimEnd, List.reverse_append, List.dropWhile_append, hlast, if_neg (by simpa using hne)]
  simp

/-- The last character of a trimmed text is no blank. -/
theorem isBlank_getLast? (h : trim cs = cs) {c : Char} (hc : cs.getLast? = some c) :
    isBlank c = false := by
  have hlast : cs.reverse.dropWhile isBlank = cs.reverse :=
    List.reverse_eq_iff.mp (trimEnd_eq_self h)
  have := List.head?_dropWhile_not isBlank cs.reverse
  rwa [hlast, List.head?_reverse, hc] at this

theorem trimBlanks_eq_self {s : String} : s.trimBlanks = s ↔ trim s.toList = s.toList := by
  rw [← String.toList_inj, String.trimBlanks, String.toList_ofList]

end Blanks

/-! ## Lines -/

section Lines

variable {line acc cs rest : List Char}

/-- A line without the carriage return at its end. -/
def withoutReturn (line : List Char) : List Char :=
  (dropReturn line.reverse).reverse

theorem linesFrom_append (h : '\n' ∉ line) (acc rest : List Char) :
    linesFrom acc (line ++ rest) = linesFrom (line.reverse ++ acc) rest := by
  induction line generalizing acc with
  | nil => rfl
  | cons c line ih =>
    obtain ⟨hc, hline⟩ := not_or.mp (List.mem_cons.not.mp h)
    rw [List.cons_append, linesFrom.eq_3 _ _ _ (Ne.symm hc), ih hline]
    simp

theorem lines_append_newline (h : '\n' ∉ line) (rest : List Char) :
    lines (line ++ '\n' :: rest) = withoutReturn line :: lines rest := by
  rw [lines, linesFrom_append h, List.append_nil]
  rfl

/-- The last line, which no line feed ends. -/
theorem lines_of_not_mem (h : '\n' ∉ line) (hne : line ≠ []) : lines line = [line] := by
  have := linesFrom_append h [] []
  rw [List.append_nil, List.append_nil] at this
  rw [lines, this]
  simp [linesFrom, hne]

theorem withoutReturn_eq_self (h : line.getLast? ≠ some '\r') : withoutReturn line = line := by
  rw [withoutReturn, dropReturn.eq_2, List.reverse_reverse]
  intro r hr
  rw [← List.head?_reverse, hr] at h
  exact h rfl

/-- A line feed between two texts ends the last line of the first one, or else it is the end of an
empty line. -/
theorem linesFrom_append_newline (h : (acc.reverse ++ cs).getLast? ≠ some '\r')
    (rest : List Char) : ∃ blank, (blank = [] ∨ blank = [[]]) ∧
      linesFrom acc (cs ++ '\n' :: rest) = linesFrom acc cs ++ blank ++ lines rest := by
  fun_induction linesFrom acc cs with
  | case1 acc hempty =>
    obtain rfl := List.isEmpty_iff.mp hempty
    exact ⟨[[]], .inr rfl, rfl⟩
  | case2 acc hne =>
    have hline : withoutReturn acc.reverse = acc.reverse :=
      withoutReturn_eq_self (by simpa using h)
    rw [withoutReturn, List.reverse_reverse] at hline
    refine ⟨[], .inl rfl, ?_⟩
    rw [List.nil_append, linesFrom, hline]
    rfl
  | case3 acc r ih =>
    have hlast : ([].reverse ++ r).getLast? ≠ some '\r' := by
      rw [List.getLast?_append, List.getLast?_cons] at h
      cases hr : r.getLast? with
      | none => simp [hr]
      | some c => simpa [hr] using h
    obtain ⟨blank, hblank, hlines⟩ := ih hlast
    exact ⟨blank, hblank, by rw [List.cons_append, linesFrom, hlines]; rfl⟩
  | case4 acc c r hc ih =>
    obtain ⟨blank, hblank, hlines⟩ := ih (by simpa using h)
    exact ⟨blank, hblank, by rw [List.cons_append, linesFrom.eq_3 _ _ _ hc, hlines]⟩

theorem dropReturn_suffix (cs : List Char) : dropReturn cs <:+ cs := by
  fun_cases dropReturn cs with
  | case1 r => exact List.suffix_cons '\r' r
  | case2 => exact List.suffix_rfl

theorem withoutReturn_prefix (line : List Char) : withoutReturn line <+: line := by
  rw [withoutReturn, ← List.reverse_suffix, List.reverse_reverse]
  exact dropReturn_suffix line.reverse

theorem not_mem_of_mem_linesFrom (h : line ∈ linesFrom acc cs) (hacc : '\n' ∉ acc) :
    '\n' ∉ line := by
  fun_induction linesFrom acc cs with
  | case1 => simp at h
  | case2 acc =>
    obtain rfl := List.mem_singleton.mp h
    simpa using hacc
  | case3 acc r ih =>
    obtain rfl | h := List.mem_cons.mp h
    · exact fun hn => hacc ((dropReturn_suffix acc).subset (List.mem_reverse.mp hn))
    · exact ih h (by simp)
  | case4 acc c r hc ih => exact ih h (by simp [hacc, Ne.symm hc])

/-- No line feed is part of a line. -/
theorem not_mem_of_mem_lines (h : line ∈ lines cs) : '\n' ∉ line :=
  not_mem_of_mem_linesFrom h (by simp)

end Lines

/-! ## Bytes -/

section Bytes

/-- The count goes on from any number of bytes before. -/
theorem foldl_utf8Size (n : Nat) (cs : List Char) :
    cs.foldl (fun n c => n + c.utf8Size) n = n + byteLength cs := by
  induction cs generalizing n with
  | nil => rfl
  | cons c cs ih =>
    rw [List.foldl_cons, ih, byteLength.eq_def (c :: cs), List.foldl_cons, ih]
    omega

theorem byteLength_cons (c : Char) (cs : List Char) :
    byteLength (c :: cs) = c.utf8Size + byteLength cs := by
  rw [byteLength, List.foldl_cons, foldl_utf8Size, Nat.zero_add]

theorem byteLength_append (cs rest : List Char) :
    byteLength (cs ++ rest) = byteLength cs + byteLength rest := by
  rw [byteLength.eq_def (cs ++ rest), List.foldl_append, foldl_utf8Size, ← byteLength]

theorem utf8ByteSize_ofList (cs : List Char) :
    (String.ofList cs).utf8ByteSize = byteLength cs := by
  induction cs with
  | nil => rfl
  | cons c cs ih =>
    rw [String.ofList_cons, String.utf8ByteSize_append, String.utf8ByteSize_singleton, ih,
      byteLength_cons]

end Bytes

end MatrixFlow.Text
