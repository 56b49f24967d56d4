import Mathlib.Data.String.Defs
import MatrixFlow.Proofs.Workflow.Location

/-!
# Excerpts

A rejection quotes the lines around its place. Lines are counted from one in what is shown, and from
zero where they are cut out of the text.

* `Rejection.rows`: what is shown for one line.
* `Rejection.windowNumbers`, `Rejection.linesAround_eq`: the lines around a line, by their numbers.
* `Rejection.withExcerpt_eq_join`: an excerpt has the rows of these lines, and no others.
* `Rejection.withExcerpt_window`: which lines an excerpt shows, and how.
-/

namespace MatrixFlow

/-! ## Texts and lists -/

/-- Texts with nothing between them. -/
theorem intercalate_empty (texts : List String) : "".intercalate texts = String.join texts := by
  induction texts with
  | nil => rfl
  | cons text texts ih =>
    cases texts with
    | nil => simp
    | cons next texts => simp only [String.intercalate_cons_cons, ih, String.join_cons,
        String.append_empty]

theorem join_flatMap {α : Type} (f : α → List String) (l : List α) :
    String.join (l.flatMap f) = String.join (l.map fun a => String.join (f a)) := by
  induction l with
  | nil => rfl
  | cons a l ih => rw [List.flatMap_cons, String.join_append, List.map_cons, String.join_cons, ih]

theorem join_eq_empty {texts : List String} (h : ∀ text ∈ texts, text ≠ "") :
    String.join texts = "" ↔ texts = [] := by
  cases texts with
  | nil => simp
  | cons text texts =>
    refine iff_of_false (fun hjoin => ?_) (List.cons_ne_nil text texts)
    rw [String.join_cons, String.append_eq_empty_iff] at hjoin
    exact h text List.mem_cons_self hjoin.1

theorem pushn_empty (c : Char) (n : Nat) : "".pushn c n = String.ofList (List.replicate n c) := by
  induction n with
  | zero => rfl
  | succ n ih =>
    have hpush : "".pushn c (n + 1) = ("".pushn c n).push c := rfl
    rw [hpush, ih, ← String.toList_inj, List.replicate_succ']
    simp

/-- A piece of a list, by the numbers of its elements. -/
theorem zipIdx_drop_take {α : Type} (l : List α) {high : Nat} (h : high ≤ l.length) (low : Nat)
    (a : α) : ((l.take high).drop low).zipIdx (1 + low) =
      (List.range' (1 + low) (high - low)).map fun number => (l.getD (number - 1) a, number) := by
  apply List.ext_getElem
  · simp [Nat.min_eq_left h]
  · intro i hleft hright
    have hi : low + i < l.length := by
      simp at hright
      omega
    have hposition : 1 + low + i - 1 = low + i := by omega
    simp [hposition, List.getElem?_eq_getElem hi]

namespace Rejection

/-! ## Rows -/

/-- What is shown for a line: the line behind its number, with a sign in front if it is the line of
the rejection, and then a caret below its column, if that is known. -/
def rows (line column number : Nat) (text : String) : List String :=
  let marker := if number = line then ">" else " "
  let caret := "       | " ++ String.ofList (List.replicate (column - 1) ' ') ++ "^"
  (marker ++ " " ++ (toString number).leftpad 4 ' ' ++ " | " ++ text) ::
    if number = line ∧ 0 < column then [caret] else []

/-- Numbers are aligned at the right of four places. -/
theorem padded_eq (n : Nat) : padded n = (toString n).leftpad 4 ' ' := by
  have hleftpad : (toString n).leftpad 4 ' ' =
      String.ofList ((toString n).toList.leftpad 4 ' ') := rfl
  rw [hleftpad, ← String.toList_inj, padded, pushn_empty]
  simp [List.leftpad, ← String.length_toList]

theorem excerptLine_eq (line column number : Nat) (text : String) :
    excerptLine line column number text =
      String.join ((rows line column number text).map (· ++ "\n")) := by
  rw [excerptLine, rows, padded_eq, pushn_empty]
  by_cases h : number = line ∧ 0 < column
  · simp only [if_pos h, List.map_cons, List.map_nil, String.join_cons, String.join_nil,
      String.append_empty, String.append_assoc]
    rfl
  · simp only [if_neg h, List.map_cons, List.map_nil, String.join_cons, String.join_nil,
      String.append_empty, String.append_assoc]

/-! ## The window -/

section Window

variable {r : Rejection} {line : Nat}

/-- The numbers of the lines from `window` lines above a line to `window` lines below it, in a text of
`count` lines. -/
def windowNumbers (line window count : Nat) : List Nat :=
  let first := max 1 (line - window)
  let last := min (line + window) count
  List.range' first (last + 1 - first)

theorem linesAround_eq (source : String) (line window : Nat) :
    linesAround source line window =
      (windowNumbers line window source.textLines.length).map fun number =>
        (source.textLines.getD (number - 1) "", number) := by
  have hfirst : max 1 (line - window) = 1 + (line - (window + 1)) := by omega
  have hcount : min (line + window) source.textLines.length + 1 - max 1 (line - window) =
      min (line + window) source.textLines.length - (line - (window + 1)) := by omega
  rw [linesAround_eq_zipIdx, zipIdx_drop_take _ (Nat.min_le_right _ _) _ "", ← hcount, ← hfirst]
  rfl

theorem withExcerpt_eq_join (h : r.line ≠ 0) (source : String) (window : Nat) :
    r.withExcerpt source window = { r with
      excerpt := String.join
        ((windowNumbers r.line window source.textLines.length).flatMap fun number =>
          (rows r.line r.column number (source.textLines.getD (number - 1) "")).map
            (· ++ "\n")) } := by
  rw [withExcerpt_eq h, linesAround_eq, intercalate_empty, join_flatMap, List.map_map]
  simp only [Function.comp_def, excerptLine_eq]

theorem windowNumbers_eq_nil (h : line ≠ 0) {window count : Nat} :
    windowNumbers line window count = [] ↔ count < max 1 (line - window) := by
  rw [windowNumbers, List.range'_eq_nil_iff]
  omega

/-- An excerpt shows the lines from `window` lines above the line of the rejection to `window` lines
below it, as far as there are such lines, and each of them once and in order: behind a sign, if it
is the line of the rejection, and its number at the right of four places. Below the line of the
rejection a caret stands in its column, if that is known. Nothing is shown if and only if the window
begins behind the last line. Nothing else of the rejection changes, and nothing at all does if its
line is not known. -/
theorem withExcerpt_window (r : Rejection) (source : String) (window : Nat) :
    (r.line = 0 → r.withExcerpt source window = r) ∧
    (1 ≤ r.line →
      let lines := source.textLines
      let numbers := windowNumbers r.line window lines.length
      ∃ excerpt, r.withExcerpt source window = { r with excerpt := excerpt } ∧
        excerpt = String.join ((numbers.flatMap fun number =>
          rows r.line r.column number (lines.getD (number - 1) "")).map (· ++ "\n")) ∧
        (excerpt = "" ↔ lines.length < max 1 (r.line - window))) := by
  refine ⟨fun h => by rw [withExcerpt, if_pos h], fun h => ⟨_, withExcerpt_eq_join (by omega) _ _,
    ?_, ?_⟩⟩
  · rw [List.map_flatMap]
  · rw [join_eq_empty, List.flatMap_eq_nil_iff, ← windowNumbers_eq_nil (by omega),
      List.eq_nil_iff_forall_not_mem]
    · exact forall₂_congr fun number _ => by simp [rows]
    · intro text htext
      obtain ⟨number, -, hmem⟩ := List.mem_flatMap.mp htext
      obtain ⟨row, -, rfl⟩ := List.mem_map.mp hmem
      exact fun hempty => by simp at hempty

/-- The line after the last one, and a line that is not known. -/
theorem withExcerpt_window_sample :
    let r := malformed "m"
    r.line = 0 ∧ r.withExcerpt "a:\r\n  b: 1\n" 1 = r ∧
    1 ≤ (r.placedAt 3 2).line ∧
      ((r.placedAt 3 2).withExcerpt "a:\r\n  b: 1\n" 1).excerpt = "     2 |   b: 1\n" := by
  intro r
  obtain ⟨excerpt, hexcerpt, htext, -⟩ :=
    (withExcerpt_window (r.placedAt 3 2) "a:\r\n  b: 1\n" 1).2 (by decide)
  refine ⟨rfl, (withExcerpt_window r _ 1).1 rfl, by decide, ?_⟩
  rw [hexcerpt]
  exact htext.trans (by decide)

/-- The first line, with a caret below it. -/
example : (((malformed "m").placedAt 1 3).withExcerpt "a: [\nb: 1\nc: 2" 1).excerpt =
    ">    1 | a: [\n       |   ^\n     2 | b: 1\n" := by decide

end Window

end Rejection

end MatrixFlow
