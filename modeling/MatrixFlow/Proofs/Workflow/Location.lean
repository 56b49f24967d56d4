import MatrixFlow.Proofs.Lists
import MatrixFlow.Proofs.Text
import MatrixFlow.Workflow.Rejection

/-!
# The place of a rejection

A rejection that is found after a text has been read is put at the first line that begins with a
key, and quotes the lines around it.

* `Rejection.IsLead`, `Rejection.IsIndent`: blanks and list markers, and all of them that a line
  begins with.
* `Rejection.BeginsWith`: a line in which a key follows behind these.
* `Rejection.isIndent_iff`: what is looked at of a line is what follows its indentation.
* `Rejection.findKey?_of_beginsWith`, `Rejection.findKey?_eq_none`: the search goes through the
  lines in order.
* `Rejection.linesAround`, `Rejection.withExcerpt_eq`: an excerpt quotes the lines around a line, in
  order, and nothing else of the rejection changes.
* `Rejection.locate_first`: where a rejection is put.
-/

namespace MatrixFlow

theorem Text.startsWith_iff {start cs : List Char} :
    startsWith start cs = true ↔ start <+: cs := by
  rw [startsWith, Option.isSome_iff_ne_none, ne_eq, stripStart?_eq_none, not_not]

namespace Rejection

open Text (isBlankText isBlank trimStart byteLength)

/-! ## Indentation -/

/-- The sign of an item of a list. -/
def marker : List Char := ['-', ' ']

/-- Any number of list markers. -/
def markers (n : Nat) : List Char := (List.replicate n marker).flatten

/-- Blanks, and list markers behind them. -/
def IsLead (lead : List Char) : Prop :=
  ∃ blanks n, isBlankText blanks = true ∧ lead = blanks ++ markers n

/-- All blanks that a line begins with, and all list markers behind them. -/
def IsIndent (lead line : List Char) : Prop :=
  IsLead lead ∧ lead <+: line ∧ ∀ lead', IsLead lead' → lead' <+: line → lead' <+: lead

/-- The line goes on with a key and a colon behind its indentation. -/
def BeginsWith (key line : List Char) : Prop :=
  ∃ lead, IsIndent lead line ∧ lead ++ key ++ [':'] <+: line

section Indentation

variable {key lead line rest cs : List Char} {n : Nat}

theorem markers_succ (n : Nat) : markers (n + 1) = '-' :: ' ' :: markers n := rfl

theorem afterMarkers_markers (n : Nat) (rest : List Char) :
    afterMarkers (markers n ++ rest) = afterMarkers rest := by
  induction n with
  | zero => rfl
  | succ n ih => rw [markers_succ, List.cons_append, List.cons_append, afterMarkers, ih]

theorem exists_markers (cs : List Char) : ∃ n, cs = markers n ++ afterMarkers cs := by
  fun_induction afterMarkers cs with
  | case1 r ih =>
    obtain ⟨n, hr⟩ := ih
    exact ⟨n + 1, by rw [markers_succ, List.cons_append, List.cons_append, ← hr]⟩
  | case2 cs => exact ⟨0, rfl⟩

theorem afterMarkers_eq_self (h : ¬marker <+: cs) : afterMarkers cs = cs := by
  fun_cases afterMarkers cs with
  | case1 r => exact absurd ⟨r, rfl⟩ h
  | case2 => rfl

/-- No blank is left in front of a marker. -/
theorem trimStart_markers (n : Nat) (rest : List Char) :
    trimStart (markers (n + 1) ++ rest) = markers (n + 1) ++ rest := rfl

theorem exists_lead (line : List Char) : ∃ lead, IsLead lead ∧ line = lead ++ lineContent line := by
  obtain ⟨blanks, hblanks, hline⟩ := Text.exists_trimStart line
  obtain ⟨n, hcontent⟩ := exists_markers (trimStart line)
  exact ⟨blanks ++ markers n, ⟨blanks, n, hblanks, rfl⟩, by
    rw [List.append_assoc, lineContent, ← hcontent, ← hline]⟩

/-- What is left of a line that begins with blanks and markers. -/
theorem lineContent_append (h : IsLead lead) (rest : List Char) :
    lineContent (lead ++ rest) = afterMarkers rest ∨
      lineContent (lead ++ rest) = afterMarkers (trimStart rest) := by
  obtain ⟨blanks, n, hblanks, rfl⟩ := h
  rw [List.append_assoc, lineContent, Text.trimStart_append hblanks]
  cases n with
  | zero => exact .inr rfl
  | succ n => exact .inl (by rw [trimStart_markers, afterMarkers_markers])

theorem lineContent_suffix (h : IsLead lead) (rest : List Char) :
    lineContent (lead ++ rest) <:+ rest := by
  have hmarkers : ∀ cs, afterMarkers cs <:+ cs := fun cs =>
    have ⟨n, hcs⟩ := exists_markers cs
    ⟨markers n, hcs.symm⟩
  obtain heq | heq := lineContent_append h rest
  · exact heq ▸ hmarkers rest
  · exact heq ▸ (hmarkers _).trans (List.dropWhile_suffix isBlank)

/-- What a line holds is what follows its indentation. -/
theorem isIndent_iff : IsIndent lead line ↔ line = lead ++ lineContent line := by
  obtain ⟨longest, hlongest, hline⟩ := exists_lead line
  constructor
  · rintro ⟨hlead, ⟨rest, rfl⟩, hmax⟩
    obtain ⟨mid, rfl⟩ := hmax longest hlongest ⟨_, hline.symm⟩
    obtain ⟨front, hrest⟩ := lineContent_suffix hlead rest
    -- what is held is `mid ++ rest`, and ends `rest`
    rw [List.append_assoc] at hline
    have hheld := List.append_cancel_left hline
    rw [← List.append_assoc] at hheld
    rw [← hheld, ← List.append_assoc] at hrest
    have hlength := congrArg List.length hrest
    simp only [List.length_append] at hlength
    obtain rfl : mid = [] := List.length_eq_zero_iff.mp (by omega)
    rw [← hheld, List.nil_append]
  · intro h
    obtain rfl : lead = longest := List.append_cancel_right (h.symm.trans hline)
    refine ⟨hlongest, ⟨_, hline.symm⟩, ?_⟩
    rintro lead' hlead' ⟨rest, rfl⟩
    obtain ⟨mid, hmid⟩ := lineContent_suffix hlead' rest
    have hsplit : lead' ++ mid ++ lineContent (lead' ++ rest) =
        lead ++ lineContent (lead' ++ rest) := by
      rw [List.append_assoc, hmid, ← h]
    exact ⟨mid, List.append_cancel_right hsplit⟩

theorem beginsWith_iff : BeginsWith key line ↔ key ++ [':'] <+: lineContent line := by
  have hbegins : ∀ lead, IsIndent lead line →
      (lead ++ key ++ [':'] <+: line ↔ key ++ [':'] <+: lineContent line) := by
    intro lead hlead
    conv_lhs => rw [isIndent_iff.mp hlead, List.append_assoc]
    exact List.prefix_append_right_inj lead
  obtain ⟨lead, -, hline⟩ := exists_lead line
  have hlead := isIndent_iff.mpr hline
  exact ⟨fun ⟨lead', hlead', hkey⟩ => (hbegins lead' hlead').mp hkey,
    fun hkey => ⟨lead, hlead, (hbegins lead hlead).mpr hkey⟩⟩

/-- Behind any blanks and markers, a key that begins with neither follows the indentation. -/
theorem isIndent_of_plain (hblank : ∀ c ∈ key.head?, isBlank c = false) (hmarker : ¬marker <+: key)
    (hlead : IsLead lead) (h : lead ++ key ++ [':'] <+: line) : IsIndent lead line := by
  obtain ⟨rest, rfl⟩ := h
  have hheld : afterMarkers (key ++ [':'] ++ rest) = key ++ [':'] ++ rest := by
    -- the colon is no part of a marker
    refine afterMarkers_eq_self fun hin => hmarker ?_
    rcases key with _ | ⟨c, _ | ⟨d, key⟩⟩
    · simp [marker] at hin
    · simp [marker] at hin
    · simpa [marker] using hin
  have htrim : trimStart (key ++ [':'] ++ rest) = key ++ [':'] ++ rest := by
    cases key with
    | nil => rfl
    | cons c key => exact List.dropWhile_cons_of_neg (by simp [hblank c rfl])
  rw [isIndent_iff, List.append_assoc lead, List.append_assoc lead]
  obtain heq | heq := lineContent_append hlead (key ++ [':'] ++ rest)
  · rw [heq, hheld]
  · rw [heq, htrim, hheld]

end Indentation

/-! ## The search -/

section Search

variable {key line : List Char} {number : Nat} {lines : List (List Char)}

theorem findKey?_eq_none : findKey? key number lines = none ↔
    ∀ line ∈ lines, ¬BeginsWith key line := by
  induction lines generalizing number with
  | nil => simp [findKey?]
  | cons line lines ih =>
    rw [findKey?, List.forall_mem_cons, beginsWith_iff, ← Text.startsWith_iff]
    split <;> rename_i h
    · simp [h]
    · simp [h, ih]

/-- The first line that begins with the key is found, with the column behind its indentation. -/
theorem findKey?_of_beginsWith (h : ∃ line ∈ lines, BeginsWith key line) (number : Nat) :
    ∃ before line after lead, lines = before ++ line :: after ∧
      (∀ l ∈ before, ¬BeginsWith key l) ∧ IsIndent lead line ∧ lead ++ key ++ [':'] <+: line ∧
      findKey? key number lines = some (number + before.length, byteLength lead + 1) := by
  induction lines generalizing number with
  | nil => simp at h
  | cons line lines ih =>
    by_cases hline : BeginsWith key line
    · obtain ⟨lead, hlead, hkey⟩ := hline
      refine ⟨[], line, lines, lead, rfl, nofun, hlead, hkey, ?_⟩
      have hstart := Text.startsWith_iff.mpr (beginsWith_iff.mp ⟨lead, hlead, hkey⟩)
      have hbytes := congrArg byteLength (isIndent_iff.mp hlead)
      rw [Text.byteLength_append] at hbytes
      rw [findKey?, if_pos hstart, hbytes, Nat.add_sub_cancel]
      rfl
    · obtain ⟨before, line', after, lead, rfl, hbefore, hlead, hkey, hfind⟩ :=
        ih (by simpa [hline] using h) (number + 1)
      refine ⟨line :: before, line', after, lead, rfl,
        List.forall_mem_cons.mpr ⟨hline, hbefore⟩, hlead, hkey, ?_⟩
      have hstart : ¬Text.startsWith (key ++ [':']) (lineContent line) = true := by
        rwa [Text.startsWith_iff, ← beginsWith_iff]
      rw [findKey?, if_neg hstart, hfind, List.length_cons]
      congr 2
      omega

end Search

/-! ## Excerpts -/

/-- The lines of a text that are at most `window` lines away from the given one, with their
numbers, which count from one. -/
def linesAround (source : String) (line window : Nat) : List (String × Nat) :=
  (source.textLines.zipIdx 1).filter fun (_, number) =>
    line ≤ number + window ∧ number ≤ line + window

/-- The lines around a line are a piece of the text. -/
theorem linesAround_eq_zipIdx (source : String) (line window : Nat) :
    linesAround source line window =
      ((source.textLines.take (min (line + window) source.textLines.length)).drop
        (line - (window + 1))).zipIdx (1 + (line - (window + 1))) := by
  rw [← filter_zipIdx]
  refine List.filter_congr fun p hp => ?_
  have hlow := List.le_snd_of_mem_zipIdx hp
  have hhigh := (List.mem_zipIdx hp).2.1
  exact decide_eq_decide.mpr (by omega)

/-- An excerpt quotes the lines around the place of the rejection, in order. -/
theorem withExcerpt_eq {r : Rejection} (h : r.line ≠ 0) (source : String) (window : Nat) :
    r.withExcerpt source window = { r with
      excerpt := "".intercalate ((linesAround source r.line window).map fun (text, number) =>
        excerptLine r.line r.column number text) } := by
  rw [withExcerpt, if_neg h, linesAround_eq_zipIdx, Nat.add_comm 1, List.zipIdx_succ,
    List.map_map]
  rfl

/-! ## The rejection -/

section Locate

variable {r : Rejection} {source key : String} {line column : Nat}

theorem locate_of_find (h : findKey? key.toList 1 (Text.lines source.toList) = some (line, column))
    (hline : line ≠ 0) : r.locate source key = { r with
      line := line
      column := column
      excerpt := "".intercalate ((linesAround source line 2).map fun (text, number) =>
        excerptLine line column number text) } := by
  rw [locate, h]
  exact withExcerpt_eq hline source 2

theorem locate_of_none (h : findKey? key.toList 1 (Text.lines source.toList) = none) :
    r.locate source key = r := by
  rw [locate, h]

/-- The bytes of a text behind its beginning. -/
theorem extract_behind (front back : String) : (front ++ back).toByteArray.extract
    front.utf8ByteSize (front ++ back).utf8ByteSize = back.toByteArray := by
  rw [String.toByteArray_append, String.utf8ByteSize_append]
  exact ByteArray.extract_append_eq_right rfl rfl

/-- If a line begins with the key, behind all of its leading blanks and all list markers behind
these, then the rejection is put at the first such line. The column is that of the byte at which the
key begins, so what stands before it are those blanks and markers, and from it on the line goes on
with the key and a colon; the excerpt quotes the lines up to two lines away. Nothing else of the
rejection changes, and without such a line nothing does. If the key begins with neither a blank nor
a marker, then any blanks and markers before it are all of them. -/
theorem locate_first (r : Rejection) (source key : String) :
    ((∃ line ∈ source.textLines, BeginsWith key.toList line.toList) →
      ∃ (before after : List String) (lead rest : String),
        let line := lead ++ (key ++ ":" ++ rest)
        let column := lead.utf8ByteSize + 1
        source.textLines = before ++ line :: after ∧
        (∀ l ∈ before, ¬BeginsWith key.toList l.toList) ∧
        IsIndent lead.toList line.toList ∧
        line.toByteArray.extract (column - 1) line.utf8ByteSize = (key ++ ":" ++ rest).toByteArray ∧
        r.locate source key = { r with
          line := before.length + 1
          column := column
          excerpt := "".intercalate ((linesAround source (before.length + 1) 2).map
            fun (text, number) => excerptLine (before.length + 1) column number text) }) ∧
    ((∀ line ∈ source.textLines, ¬BeginsWith key.toList line.toList) →
      r.locate source key = r) ∧
    ((∀ c ∈ key.toList.head?, isBlank c = false) → ¬marker <+: key.toList →
      ∀ lead line, IsLead lead → lead ++ key.toList ++ [':'] <+: line → IsIndent lead line) := by
  refine ⟨fun h => ?_, fun h => ?_, fun hblank hmarker _ _ => isIndent_of_plain hblank hmarker⟩
  · have hchars : ∃ line ∈ Text.lines source.toList, BeginsWith key.toList line := by
      simpa [String.textLines] using h
    obtain ⟨before, line, after, lead, hlines, hbefore, hlead, ⟨rest, hline⟩, hfind⟩ :=
      findKey?_of_beginsWith hchars 1
    have htext : String.ofList lead ++ (key ++ ":" ++ String.ofList rest) = String.ofList line := by
      rw [← String.toList_inj, ← hline]
      simp
    refine ⟨before.map String.ofList, after.map String.ofList, String.ofList lead,
      String.ofList rest, ?_, ?_, ?_, extract_behind _ _, ?_⟩
    · rw [htext, String.textLines, hlines, List.map_append, List.map_cons]
    · simpa using hbefore
    · rwa [htext, String.toList_ofList, String.toList_ofList]
    · rw [List.length_map, Text.utf8ByteSize_ofList, Nat.add_comm before.length]
      exact locate_of_find hfind (by omega)
  · refine locate_of_none (findKey?_eq_none.mpr ?_)
    simpa [String.textLines] using h

/-- The key of an item stands behind the marker of the item, and behind a wide blank. -/
example : ((Rejection.malformed "m").locate "a:\n\u3000- - b: 1\nb:" "b").line = 2 ∧
    ((Rejection.malformed "m").locate "a:\n\u3000- - b: 1\nb:" "b").column = 8 := by decide

end Locate

end Rejection

end MatrixFlow
