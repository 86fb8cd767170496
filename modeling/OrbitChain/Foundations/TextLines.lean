import Mathlib.Data.List.Basic
import Mathlib.Tactic.SplitIfs
import Mathlib.Tactic.TypeStar

/-!
# Text as lines

A text over any symbols is cut at its newlines: `lines` lists what stands before each newline,
without one return at its end, and what is left after the last newline if that is not empty. A text
written line by line (`unlines`) is cut back into its lines when none of them contains a newline or
ends in a return (`lines_unlines`).
-/

set_option autoImplicit false
set_option relaxedAutoImplicit false

namespace OrbitChain.Foundations

variable {α : Type*}

/-- The text with some lines, each ended by a newline. -/
def unlines (newline : α) (ls : List (List α)) : List α := ls.flatMap fun line ↦ line ++ [newline]

theorem unlines_cons (newline : α) (line : List α) (ls : List (List α)) :
    unlines newline (line :: ls) = line ++ newline :: unlines newline ls := by
  simp [unlines]

theorem unlines_append (newline : α) (ls ls' : List (List α)) :
    unlines newline (ls ++ ls') = unlines newline ls ++ unlines newline ls' :=
  List.flatMap_append

variable [DecidableEq α]

/-- A line without the return at its end, if it has one. -/
def stripReturn (ret : α) (line : List α) : List α :=
  if line.getLast? = some ret then line.dropLast else line

/-- The lines of a text that continues a line. -/
def linesFrom (newline ret : α) (line : List α) : List α → List (List α)
  | [] => if line = [] then [] else [line]
  | c :: rest =>
    if c = newline then stripReturn ret line :: linesFrom newline ret [] rest
    else linesFrom newline ret (line ++ [c]) rest

/-- The lines of a text. -/
def lines (newline ret : α) (text : List α) : List (List α) := linesFrom newline ret [] text

/-- A line that survives being written and cut out again. -/
structure IsLine (newline ret : α) (line : List α) : Prop where
  newline_notMem : newline ∉ line
  getLast_ne : line.getLast? ≠ some ret

variable {newline ret : α}

theorem linesFrom_append {start line rest : List α} (h : newline ∉ line) :
    linesFrom newline ret start (line ++ newline :: rest) =
      stripReturn ret (start ++ line) :: lines newline ret rest := by
  induction line generalizing start with
  | nil => simp [linesFrom, lines]
  | cons c line ih =>
    obtain ⟨hc, hline⟩ := not_or.mp (mt List.mem_cons.mpr h)
    rw [List.cons_append, linesFrom, if_neg (Ne.symm hc), ih hline, List.append_assoc,
      List.singleton_append]

/-- A line that starts a text is cut off it, without a return. -/
theorem lines_append {line rest : List α} (h : newline ∉ line) :
    lines newline ret (line ++ newline :: rest) =
      stripReturn ret line :: lines newline ret rest :=
  linesFrom_append h

/-- Lines written one after the other are cut back into the lines without returns. -/
theorem lines_unlines_stripReturn {ls : List (List α)} (h : ∀ line ∈ ls, newline ∉ line) :
    lines newline ret (unlines newline ls) = ls.map (stripReturn ret) := by
  induction ls with
  | nil => rfl
  | cons line ls ih =>
    obtain ⟨hline, hls⟩ := List.forall_mem_cons.mp h
    rw [unlines_cons, lines_append hline, ih hls, List.map_cons]

theorem stripReturn_eq_self_iff {line : List α} :
    stripReturn ret line = line ↔ line.getLast? ≠ some ret := by
  unfold stripReturn
  split_ifs with h
  · refine iff_of_false (fun hsame ↦ ?_) (not_not.mpr h)
    have hlength := congrArg List.length hsame
    rw [List.length_dropLast] at hlength
    cases line with
    | nil => simp at h
    | cons c rest => simp at hlength
  · exact iff_of_true rfl h

/-- A return is only cut off the part after a symbol that is none. -/
theorem stripReturn_append_cons {c : α} (h : c ≠ ret) (start rest : List α) :
    stripReturn ret (start ++ c :: rest) = start ++ c :: stripReturn ret rest := by
  cases rest with
  | nil => simp [stripReturn, h]
  | cons d rest =>
    have hlast : (start ++ c :: d :: rest).getLast? = (d :: rest).getLast? := by
      rw [List.getLast?_append_cons, List.getLast?_cons_cons]
    unfold stripReturn
    rw [hlast]
    split_ifs
    · rw [List.dropLast_append_cons, List.dropLast_cons_cons]
    · rfl

/-- Lines written one after the other are cut back into the lines. -/
theorem lines_unlines {ls : List (List α)} (h : ∀ line ∈ ls, IsLine newline ret line) :
    lines newline ret (unlines newline ls) = ls := by
  rw [lines_unlines_stripReturn fun line hline ↦ (h line hline).newline_notMem]
  conv_rhs => rw [← List.map_id ls]
  exact List.map_congr_left fun line hline ↦ stripReturn_eq_self_iff.mpr (h line hline).getLast_ne

theorem stripReturn_subset (line : List α) : stripReturn ret line ⊆ line := by
  unfold stripReturn
  split_ifs
  · exact List.dropLast_subset line
  · exact List.Subset.refl _

/-- No line that is cut out of a text has a newline. -/
theorem newline_notMem_of_mem_linesFrom {start text line : List α} (hstart : newline ∉ start)
    (h : line ∈ linesFrom newline ret start text) : newline ∉ line := by
  induction text generalizing start with
  | nil =>
    rw [linesFrom] at h
    split_ifs at h
    · simp at h
    · rwa [List.mem_singleton.mp h]
  | cons c rest ih =>
    rw [linesFrom] at h
    split_ifs at h with hc
    · rcases List.mem_cons.mp h with rfl | hrest
      · exact fun hmem ↦ hstart (stripReturn_subset _ hmem)
      · exact ih (by simp) hrest
    · refine ih ?_ h
      rw [List.mem_append, List.mem_singleton, not_or]
      exact ⟨hstart, Ne.symm hc⟩

theorem newline_notMem_of_mem_lines {text line : List α} (h : line ∈ lines newline ret text) :
    newline ∉ line :=
  newline_notMem_of_mem_linesFrom (by simp) h

end OrbitChain.Foundations
