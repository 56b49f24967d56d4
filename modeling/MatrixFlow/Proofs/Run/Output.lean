import MatrixFlow.Run.Command

/-!
# Outputs one behind the other

* `CommandOutput.joinTexts`: texts on lines of their own.
* `CommandOutput.joinTexts_append`: joining texts is appending them one by one, however they are
  grouped.
* `CommandOutput.textOf_foldl_append`, `CommandOutput.lastOf_foldl_append`: what any number of
  outputs comes to, for anything that is appended and for anything that the last one decides.
* `CommandOutput.append_laws`: outputs may be grouped at will, and what they come to.
-/

namespace MatrixFlow.CommandOutput

/-! ## Texts -/

section Texts

variable {a b : String} {texts : List String}

/-- The texts that are not empty, on lines of their own. -/
def joinTexts (texts : List String) : String :=
  "\n".intercalate (texts.filter (· ≠ ""))

theorem appendText_empty (a : String) : appendText a "" = a := rfl

theorem empty_appendText (b : String) : appendText "" b = b := by
  unfold appendText
  split
  · exact (String.isEmpty_iff.mp ‹_›).symm
  · rfl

theorem appendText_of_ne (ha : a ≠ "") (hb : b ≠ "") : appendText a b = a ++ "\n" ++ b := by
  rw [appendText, if_neg (mt String.isEmpty_iff.mp hb), if_neg (mt String.isEmpty_iff.mp ha)]

/-- Nothing is put between two texts if one of them is empty. -/
theorem appendText_cases (a b : String) :
    b = "" ∧ appendText a b = a ∨ a = "" ∧ appendText a b = b ∨
      appendText a b = a ++ "\n" ++ b := by
  by_cases hb : b = ""
  · exact .inl ⟨hb, hb ▸ appendText_empty a⟩
  · by_cases ha : a = ""
    · exact .inr (.inl ⟨ha, ha ▸ empty_appendText b⟩)
    · exact .inr (.inr (appendText_of_ne ha hb))

theorem joinTexts_singleton (a : String) : joinTexts [a] = a := by
  by_cases h : a = ""
  · simp [joinTexts, h]
  · simp [joinTexts, h]

theorem joinTexts_eq_empty : joinTexts texts = "" ↔ texts.filter (· ≠ "") = [] := by
  have hne : ∀ a ∈ texts.filter (· ≠ ""), a ≠ "" := fun a ha => by
    simpa using (List.mem_filter.mp ha).2
  rw [joinTexts]
  generalize texts.filter (· ≠ "") = kept at hne
  cases kept with
  | nil => simp
  | cons a kept =>
    refine iff_of_false ?_ (List.cons_ne_nil a kept)
    have ha := hne a List.mem_cons_self
    cases kept with
    | nil => simpa using ha
    | cons b kept => simp [ha]

/-- Texts can be joined in groups. -/
theorem joinTexts_append (texts more : List String) :
    joinTexts (texts ++ more) = appendText (joinTexts texts) (joinTexts more) := by
  have hboth : joinTexts (texts ++ more) =
      "\n".intercalate (texts.filter (· ≠ "") ++ more.filter (· ≠ "")) := by
    rw [joinTexts, List.filter_append]
  by_cases hmore : more.filter (· ≠ "") = []
  · rw [hboth, hmore, List.append_nil, joinTexts_eq_empty.mpr hmore, appendText_empty, joinTexts]
  · by_cases htexts : texts.filter (· ≠ "") = []
    · rw [hboth, htexts, List.nil_append, joinTexts_eq_empty.mpr htexts, empty_appendText, joinTexts]
    · rw [hboth, String.intercalate_append_of_ne_nil htexts hmore,
        appendText_of_ne (mt joinTexts_eq_empty.mp htexts) (mt joinTexts_eq_empty.mp hmore)]
      rfl

/-- Appending to joined texts joins one more. -/
theorem appendText_joinTexts (texts : List String) (b : String) :
    appendText (joinTexts texts) b = joinTexts (texts ++ [b]) := by
  rw [joinTexts_append, joinTexts_singleton]

theorem joinTexts_cons (a : String) (texts : List String) :
    joinTexts (a :: texts) = appendText a (joinTexts texts) := by
  rw [← List.singleton_append, joinTexts_append, joinTexts_singleton]

theorem appendText_assoc (a b c : String) :
    appendText (appendText a b) c = appendText a (appendText b c) := by
  have hpair : ∀ a b, appendText a b = joinTexts [a, b] := fun a b => by
    rw [joinTexts_cons, joinTexts_singleton]
  calc appendText (appendText a b) c = joinTexts ([a, b] ++ [c]) := by
        rw [hpair a b, appendText_joinTexts]
    _ = joinTexts ([a] ++ [b, c]) := rfl
    _ = appendText a (appendText b c) := by rw [hpair b c, List.singleton_append, joinTexts_cons]

end Texts

/-! ## Outputs -/

section Outputs

theorem append_assoc (a b c : CommandOutput) : (a.append b).append c = a.append (b.append c) := by
  simp only [append, appendText_assoc]

theorem empty_append (a : CommandOutput) : empty.append a = a := by
  simp only [append, empty, empty_appendText]

/-- Outputs appended to the first of them. -/
theorem foldl_append_empty (first : CommandOutput) (rest : List CommandOutput) :
    (first :: rest).foldl append empty = rest.foldl append first := by
  rw [List.foldl_cons, empty_append]

/-- What is appended with every output is joined over all of them. -/
theorem textOf_foldl_append {textOf : CommandOutput → String}
    (h : ∀ a b, textOf (append a b) = appendText (textOf a) (textOf b)) (first : CommandOutput)
    (rest : List CommandOutput) :
    textOf (rest.foldl append first) = joinTexts ((first :: rest).map textOf) := by
  induction rest generalizing first with
  | nil => exact (joinTexts_singleton _).symm
  | cons next rest ih =>
    rw [List.foldl_cons, ih, List.map_cons, List.map_cons, List.map_cons, joinTexts_cons, h,
      joinTexts_cons, joinTexts_cons, appendText_assoc]

/-- What each output decides anew is decided by the last one. -/
theorem lastOf_foldl_append {α : Type} {lastOf : CommandOutput → α}
    (h : ∀ a b, lastOf (append a b) = lastOf b) (first : CommandOutput)
    (rest : List CommandOutput) :
    lastOf (rest.foldl append first) = lastOf ((first :: rest).getLast (List.cons_ne_nil _ _)) := by
  induction rest generalizing first with
  | nil => rfl
  | cons next rest ih =>
    rw [List.foldl_cons, ih, List.getLast_cons (List.cons_ne_nil next rest)]
    cases rest with
    | nil => exact h first next
    | cons other rest => rfl

/-- Outputs that follow one another may be appended in any groups, and nothing comes of an empty one
in front of others. All of them together have the texts that are not empty, in order and on lines of
their own, and end as the last of them did. -/
theorem append_laws :
    (∀ a b c : CommandOutput, (a.append b).append c = a.append (b.append c)) ∧
    (∀ a : CommandOutput, empty.append a = a) ∧
    ∀ (first : CommandOutput) (rest : List CommandOutput),
      let outputs := first :: rest
      let last := outputs.getLast (List.cons_ne_nil first rest)
      let joined := rest.foldl append first
      outputs.foldl append empty = joined ∧
        joined.stdout = "\n".intercalate ((outputs.map (·.stdout)).filter (· ≠ "")) ∧
        joined.stderr = "\n".intercalate ((outputs.map (·.stderr)).filter (· ≠ "")) ∧
        joined.exitCode = last.exitCode ∧ joined.timedOut = last.timedOut := by
  refine ⟨append_assoc, empty_append, fun first rest => ⟨foldl_append_empty first rest, ?_, ?_, ?_,
    ?_⟩⟩
  · exact textOf_foldl_append (fun _ _ => rfl) first rest
  · exact textOf_foldl_append (fun _ _ => rfl) first rest
  · exact lastOf_foldl_append (fun _ _ => rfl) first rest
  · exact lastOf_foldl_append (fun _ _ => rfl) first rest

/-- An empty output behind another one takes its end away, so it is neutral in front only. -/
example : (⟨some 1, "", "boom", false⟩ : CommandOutput).append empty =
    ⟨none, "", "boom", false⟩ := rfl

end Outputs

end MatrixFlow.CommandOutput
