import MatrixFlow.Proofs.Run.Directories
import MatrixFlow.Proofs.Run.Export
import MatrixFlow.Proofs.Run.Output

/-!
# Outputs one after the other

What a step passes on is found line by line. So it does not matter if outputs are joined first, as
those of the commands of a step are, or taken one at a time, as those of several steps are.

* `EndsPlain`: a text that can be followed by a line feed without a change of its last line.
* `Exports.ofOutput_append`: what is passed on by texts on lines of their own.
* `CommandOutput.ofOutput_append`: the same for the outputs of commands.
* `StepEnv.joined_outputs`: what later steps see.
-/

namespace MatrixFlow

/-- The text does not end with a carriage return, which a line feed behind it would take away. -/
def EndsPlain (s : String) : Prop :=
  s.toList.getLast? ≠ some '\r'

instance (s : String) : Decidable (EndsPlain s) :=
  inferInstanceAs (Decidable (s.toList.getLast? ≠ some '\r'))

/-! ## Texts -/

namespace Exports

variable {a : String}

@[simp] theorem empty_append (e : Exports) : empty.append e = e := rfl

theorem append_assoc (d e f : Exports) : (d.append e).append f = d.append (e.append f) := by
  simp [append]

theorem ofLines_append (lines lines' : List (List Char)) :
    ofLines (lines ++ lines') = (ofLines lines).append (ofLines lines') := by
  induction lines with
  | nil => rfl
  | cons line lines ih => rw [List.cons_append, ofLines, ofLines, ih, append_assoc]

theorem ofOutput_append (ha : EndsPlain a) (b : String) :
    ofOutput (a ++ "\n" ++ b) = (ofOutput a).append (ofOutput b) := by
  have hplain : ([].reverse ++ a.toList).getLast? ≠ some '\r' := ha
  obtain ⟨blank, hblank, hlines⟩ := Text.linesFrom_append_newline hplain b.toList
  have hnothing : ofLines blank = empty := by
    obtain rfl | rfl := hblank <;> rfl
  have htext : (a ++ "\n" ++ b).toList = a.toList ++ '\n' :: b.toList := by simp
  rw [ofOutput, htext, Text.lines, hlines, ofLines_append, ofLines_append, hnothing, append_empty]
  rfl

end Exports

/-! ## Outputs of commands -/

namespace CommandOutput

variable {a b : String}

theorem endsPlain_appendText (ha : EndsPlain a) (hb : EndsPlain b) : EndsPlain (appendText a b) := by
  obtain ⟨-, h⟩ | ⟨-, h⟩ | h := appendText_cases a b
  · rwa [h]
  · rwa [h]
  · rw [h, EndsPlain, String.toList_append, List.getLast?_append]
    cases hlast : b.toList.getLast? with
    | none => simp
    | some c => simpa [EndsPlain, hlast] using hb

/-- What is passed on by the output of two commands. -/
theorem ofOutput_append {x : CommandOutput} (hx : EndsPlain x.stdout) (y : CommandOutput) :
    Exports.ofOutput (x.append y).stdout =
      (Exports.ofOutput x.stdout).append (Exports.ofOutput y.stdout) := by
  have hempty : Exports.ofOutput "" = Exports.empty := rfl
  have hstdout : (x.append y).stdout = appendText x.stdout y.stdout := rfl
  rw [hstdout]
  obtain ⟨hy, h⟩ | ⟨hx, h⟩ | h := appendText_cases x.stdout y.stdout
  · rw [h, hy, hempty, Exports.append_empty]
  · rw [h, hx, hempty, Exports.empty_append]
  · rw [h, Exports.ofOutput_append hx]

end CommandOutput

/-! ## What later steps see -/

namespace StepEnv

theorem apply_empty (e : StepEnv) : e.apply Exports.empty = e := by
  simp [apply, Exports.empty, Env.extend]

theorem apply_append (e : StepEnv) (x y : Exports) : e.apply (x.append y) = (e.apply x).apply y := by
  simp only [apply, Exports.append, Env.extend_append, List.append_assoc]

/-- Takes on what the output of a command passes on. -/
def applyOutput (e : StepEnv) (output : CommandOutput) : StepEnv :=
  e.apply (Exports.ofOutput output.stdout)

theorem applyOutput_append (e : StepEnv) {x : CommandOutput} (hx : EndsPlain x.stdout)
    (y : CommandOutput) : e.applyOutput (x.append y) = (e.applyOutput x).applyOutput y := by
  rw [applyOutput, CommandOutput.ofOutput_append hx, apply_append]
  rfl

/-- What has been joined so far ends plainly, as long as there is one more output to come. -/
theorem foldl_applyOutput (e : StepEnv) {x : CommandOutput} {outputs : List CommandOutput}
    (h : ∀ o ∈ (x :: outputs).dropLast, EndsPlain o.stdout) :
    outputs.foldl applyOutput (e.applyOutput x) =
      e.applyOutput (outputs.foldl CommandOutput.append x) := by
  induction outputs generalizing x with
  | nil => rfl
  | cons y outputs ih =>
    obtain ⟨hx, hrest⟩ := List.forall_mem_cons.mp h
    rw [List.foldl_cons, List.foldl_cons, ← applyOutput_append e hx]
    refine ih fun o ho => ?_
    cases outputs with
    | nil => cases ho
    | cons z outputs =>
      obtain ⟨hy, hrest⟩ := List.forall_mem_cons.mp hrest
      obtain rfl | ho := List.mem_cons.mp ho
      · exact CommandOutput.endsPlain_appendText hx hy
      · exact hrest o ho

/-- Any number of outputs, one at a time or joined. -/
theorem foldl_apply_outputs (e : StepEnv) {outputs : List CommandOutput}
    (h : ∀ o ∈ outputs.dropLast, EndsPlain o.stdout) :
    outputs.foldl applyOutput e =
      e.applyOutput (outputs.foldl CommandOutput.append CommandOutput.empty) := by
  have hall : ∀ o ∈ (CommandOutput.empty :: outputs).dropLast, EndsPlain o.stdout := by
    cases outputs with
    | nil => exact fun o ho => nomatch ho
    | cons y outputs => exact List.forall_mem_cons.mpr ⟨nofun, h⟩
  have hnothing : e.applyOutput CommandOutput.empty = e := e.apply_empty
  have hjoined := foldl_applyOutput e hall
  rwa [hnothing] at hjoined

/-- A text and another one on the lines behind it pass on what the first does and then what the
second does, and so do the outputs of two commands of a step. So in every environment it is the same
for all later steps if the two are taken one at a time or joined, and the same holds of any number
of outputs. Only the carriage return before a line feed belongs to no line, so no text but the last
one may end with one. -/
theorem joined_outputs {a : String} (ha : EndsPlain a) (b : String) :
    Exports.ofOutput (a ++ "\n" ++ b) = (Exports.ofOutput a).append (Exports.ofOutput b) ∧
    (∀ x y : CommandOutput, x.stdout = a → y.stdout = b →
      Exports.ofOutput (x.append y).stdout =
        (Exports.ofOutput a).append (Exports.ofOutput b)) ∧
    (∀ e : StepEnv,
      let apart := (e.apply (Exports.ofOutput a)).apply (Exports.ofOutput b)
      let joined := e.apply (Exports.ofOutput (a ++ "\n" ++ b))
      apart.current = joined.current ∧ ∀ step i, apart.forStep step i = joined.forStep step i) ∧
    ∀ (e : StepEnv) (outputs : List CommandOutput),
      (∀ o ∈ outputs.dropLast, EndsPlain o.stdout) →
      let apart := outputs.foldl (fun e o => e.apply (Exports.ofOutput o.stdout)) e
      let joined := e.apply
        (Exports.ofOutput (outputs.foldl CommandOutput.append CommandOutput.empty).stdout)
      apart.current = joined.current ∧ ∀ step i, apart.forStep step i = joined.forStep step i := by
  refine ⟨Exports.ofOutput_append ha b, ?_, fun e => ?_, fun e outputs h => ?_⟩
  · rintro x y rfl rfl
    exact CommandOutput.ofOutput_append ha y
  · rw [Exports.ofOutput_append ha, apply_append]
    exact ⟨rfl, fun _ _ => rfl⟩
  · intro apart joined
    have hsame : apart = joined := e.foldl_apply_outputs h
    rw [hsame]
    exact ⟨rfl, fun _ _ => rfl⟩

/-- The second text sets a variable anew and adds a directory in front. -/
theorem joined_outputs_sample :
    let a := "::set-env name=A::1\n::add-path::/a\n"
    let b := "::add-path::/b\n::set-env name=A::2"
    EndsPlain a ∧
    Exports.ofOutput (a ++ "\n" ++ b) = ⟨[("A", "1"), ("A", "2")], ["/a", "/b"]⟩ ∧
    ((start Sample.layeredInst).apply (Exports.ofOutput (a ++ "\n" ++ b))).current.get? "A" =
      some "2" := by
  intro a b
  have ha : EndsPlain a := by decide
  obtain ⟨htexts, -, hseen, -⟩ := joined_outputs ha b
  refine ⟨ha, htexts.trans (by decide), ?_⟩
  rw [← (hseen (start Sample.layeredInst)).1]
  decide

end StepEnv

end MatrixFlow
