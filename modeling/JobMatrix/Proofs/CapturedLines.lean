import JobMatrix.Proofs.MaskedLines
import JobMatrix.Run.ShellRunner

/-!
The text that is kept of a stream, beside the lines that are told of it. A line break is put before a line unless
nothing is collected yet, and that is so at the first line and at each empty line after it: the empty lines in front
leave nothing. The text is the lines put together exactly if they do not begin with an empty line among others.
-/
namespace JobMatrix
open Text

namespace Capture
variable {collected line : String} {lines : List String}

@[simp] theorem append_empty (line : String) : append "" line = line := by
  rw [append, if_pos rfl, String.empty_append]

theorem append_of_ne (hc : collected ≠ "") (line : String) : append collected line = collected ++ "\n" ++ line := by
  rw [append, if_neg hc]

theorem foldl_append (hc : collected ≠ "") (lines : List String) :
    lines.foldl append collected = joinWith "\n" (collected :: lines) := by
  induction lines generalizing collected with
  | nil => rfl
  | cons line rest ih =>
    have hne : collected ++ "\n" ++ line ≠ "" := by simp [hc]
    rw [List.foldl_cons, append_of_ne hc, ih hne]
    cases rest with
    | nil => rfl
    | cons next later =>
      rw [joinWith, joinWith, joinWith]
      simp only [String.append_assoc]

theorem collect_cons_empty (lines : List String) : collect ("" :: lines) = collect lines := by
  rw [collect, List.foldl_cons, append_empty, ← collect]

theorem collect_cons_of_ne (hl : line ≠ "") (lines : List String) :
    collect (line :: lines) = joinWith "\n" (line :: lines) := by
  rw [collect, List.foldl_cons, append_empty]
  exact foldl_append hl lines

theorem collect_eq_joinWith_dropWhile (lines : List String) :
    collect lines = joinWith "\n" (lines.dropWhile (· = "")) := by
  induction lines with
  | nil => rfl
  | cons line rest ih =>
    by_cases hl : line = ""
    · subst hl
      rw [collect_cons_empty, ih, List.dropWhile_cons_of_pos (by simp)]
    · rw [collect_cons_of_ne hl, List.dropWhile_cons_of_neg (by simpa using hl)]

theorem length_joinWith_empty (next : String) (later : List String) :
    (joinWith "\n" ("" :: next :: later)).length = (joinWith "\n" (next :: later)).length + 1 := by
  have hone : "\n".length = 1 := rfl
  rw [joinWith, String.empty_append, String.length_append, hone, Nat.add_comm]

theorem length_collect_le (lines : List String) : (collect lines).length ≤ (joinWith "\n" lines).length := by
  induction lines with
  | nil => exact Nat.le_refl _
  | cons line rest ih =>
    by_cases hl : line = ""
    · subst hl
      rw [collect_cons_empty]
      cases rest with
      | nil => exact Nat.le_refl _
      | cons next later =>
        rw [length_joinWith_empty]
        omega
    · exact Nat.le_of_eq (congrArg String.length (collect_cons_of_ne hl rest))

theorem collect_eq_joinWith_iff (lines : List String) :
    collect lines = joinWith "\n" lines ↔ (lines.head? = some "" → lines.length = 1) := by
  cases lines with
  | nil => simp [collect, joinWith]
  | cons line rest =>
    by_cases hl : line = ""
    · subst hl
      cases rest with
      | nil => simp [collect, joinWith]
      | cons next later =>
        -- the line break behind the empty line is in what is joined, and nothing is collected for it
        have hne : collect ("" :: next :: later) ≠ joinWith "\n" ("" :: next :: later) := by
          intro h
          have hlength := congrArg String.length h
          have hshort := length_collect_le (next :: later)
          rw [collect_cons_empty, length_joinWith_empty] at hlength
          omega
        simp [hne]
    · have heq : collect (line :: rest) = joinWith "\n" (line :: rest) := collect_cons_of_ne hl rest
      simp [heq, hl]

end Capture

def Script.Outcome.stream (o : Script.Outcome) : Bool → List Char
  | false => o.output
  | true => o.errors

namespace ShellOutput

def text (o : ShellOutput) : Bool → String
  | false => o.output
  | true => o.errors

theorem filter_outputLines (stream isError : Bool) (lines : List String) :
    (lines.map (OutputLine.mk · stream)).filter (·.isError == isError) =
      if stream = isError then lines.map (OutputLine.mk · stream) else [] := by
  by_cases h : stream = isError
  · subst h
    rw [if_pos rfl, List.filter_eq_self]
    intro line hl
    obtain ⟨text, -, rfl⟩ := List.mem_map.mp hl
    simp
  · rw [if_neg h, List.filter_eq_nil_iff]
    intro line hl
    obtain ⟨text, -, rfl⟩ := List.mem_map.mp hl
    simpa using h

theorem told_reply (o : Script.Outcome) (isError : Bool) :
    (ofOutcome o).reply.told isError = Capture.linesOf (o.stream isError) := by
  rw [Reply.told, reply, List.filter_append, filter_outputLines, filter_outputLines]
  cases isError with
  | false =>
    rw [if_pos rfl, if_neg (by decide), List.append_nil, List.map_map]
    exact List.map_id _
  | true =>
    rw [if_neg (by decide), if_pos rfl, List.nil_append, List.map_map]
    exact List.map_id _

theorem text_ofOutcome (o : Script.Outcome) (isError : Bool) :
    (ofOutcome o).text isError = Capture.collect (Capture.linesOf (o.stream isError)) := by
  cases isError with
  | false => rfl
  | true => rfl

end ShellOutput

/-- The text of lines is all of them from the first one on that is not empty, put together: the empty lines in front
are lost. So it is all the lines put together exactly if they do not begin with an empty line that others follow. When
a stream has these lines, each one is told once and in order, and the text is what the reply has of the stream. -/
theorem captured_lines (lines : List String) :
    Capture.collect lines = joinWith "\n" (lines.dropWhile (· = "")) ∧
      (Capture.collect lines = joinWith "\n" lines ↔ (lines.head? = some "" → lines.length = 1)) ∧
      ∀ (o : Script.Outcome) (isError : Bool), Capture.linesOf (o.stream isError) = lines →
        (ShellOutput.ofOutcome o).reply.told isError = lines ∧
        (ShellOutput.ofOutcome o).text isError = Capture.collect lines ∧
        (ShellOutput.ofOutcome o).reply.ending =
          .exited (o.exitCode.map Int.ofNat) ((ShellOutput.ofOutcome o).text true) := by
  refine ⟨Capture.collect_eq_joinWith_dropWhile lines, Capture.collect_eq_joinWith_iff lines, ?_⟩
  rintro o isError rfl
  exact ⟨ShellOutput.told_reply o isError, ShellOutput.text_ofOutcome o isError, rfl⟩

theorem not_captures_every_line : ¬ ∀ (o : Script.Outcome) (isError : Bool),
    (ShellOutput.ofOutcome o).text isError = joinWith "\n" ((ShellOutput.ofOutcome o).reply.told isError) := by
  intro h
  have hlines := h ⟨['\n', 'a', '\n'], [], some 0⟩ false
  exact absurd hlines (by decide)

end JobMatrix
