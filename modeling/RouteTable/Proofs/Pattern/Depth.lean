import Mathlib.Data.List.MinMax
import RouteTable.Proofs.Pattern.Reading
/-!
# Depth of what has been read

A token makes no open group less deep, as long as what it closes counts as a part of the group
around it.
-/

namespace RouteTable.Pattern

namespace Nested

theorem le_joinedDepth {depths : List Nat} {depth : Nat} (h : depth ∈ depths) :
    depth ≤ joinedDepth depths := by
  unfold joinedDepth
  split
  · simp at h
  · exact Nat.le_of_eq (List.mem_singleton.1 h)
  · exact Nat.le_succ_of_le (List.le_max_of_le' 0 h (Nat.le_refl _))

theorem joinedDepth_mono {depths depths' : List Nat} (hlength : depths.length ≤ depths'.length)
    (h : ∀ depth ∈ depths, ∃ depth' ∈ depths', depth ≤ depth') :
    joinedDepth depths ≤ joinedDepth depths' := by
  match depths with
  | [] => exact Nat.zero_le _
  | [depth] =>
      obtain ⟨depth', hmem, hle⟩ := h depth (by simp)
      exact Nat.le_trans hle (le_joinedDepth hmem)
  | d :: e :: depths =>
      match depths' with
      | [] | [_] => simp at hlength
      | d' :: e' :: depths' =>
          refine Nat.succ_le_succ (foldr_max_le fun depth hdepth => ?_)
          obtain ⟨depth', hmem, hle⟩ := h depth hdepth
          exact List.le_max_of_le' 0 hmem hle

theorem depth_join_mono {α β : Type} {combine combine' : List α → β}
    {pieces pieces' : List (Nested α)}
    (hlength : pieces.length ≤ pieces'.length)
    (h : ∀ piece ∈ pieces, ∃ piece' ∈ pieces', piece.depth ≤ piece'.depth) :
    (join combine pieces).depth ≤ (join combine' pieces').depth := by
  refine joinedDepth_mono (by simpa using hlength) ?_
  rw [List.forall_mem_map]
  intro piece hpiece
  obtain ⟨piece', hmem, hle⟩ := h piece hpiece
  exact ⟨_, List.mem_map_of_mem hmem, hle⟩

end Nested

namespace OpenGroup

theorem depth_branch_mono {g g' : OpenGroup} (hlength : g.allParts.length ≤ g'.allParts.length)
    (h : ∀ part ∈ g.allParts, ∃ part' ∈ g'.allParts, part.depth ≤ part'.depth) :
    g.branch.depth ≤ g'.branch.depth :=
  Nested.depth_join_mono (by simpa using hlength) (by simpa using h)

theorem depth_value_mono {g g' : OpenGroup} (hbranch : g.branch.depth ≤ g'.branch.depth)
    (hbranches : g'.branches = g.branches) : g.value.depth ≤ g'.value.depth := by
  refine Nested.depth_join_mono (by simp [hbranches]) ?_
  simp only [List.mem_reverse, List.forall_mem_cons, hbranches]
  exact ⟨⟨_, List.mem_cons_self, hbranch⟩,
    fun piece hpiece => ⟨piece, List.mem_cons_of_mem _ hpiece, Nat.le_refl _⟩⟩

theorem depth_push (part : Nested Program) (g : OpenGroup) :
    g.value.depth ≤ (g.push part).value.depth := by
  refine depth_value_mono (depth_branch_mono ?_ ?_) rfl
  · rw [allParts_push]
    simp
  · intro part' hpart
    exact ⟨part', by rw [allParts_push]; exact List.mem_cons_of_mem _ hpart, Nat.le_refl _⟩

theorem depth_le_push (part : Nested Program) (g : OpenGroup) :
    part.depth ≤ (g.push part).value.depth := by
  have hpart : part.depth ≤ (g.push part).branch.depth :=
    Nested.le_joinedDepth (by simp [allParts_push])
  exact Nat.le_trans hpart (Nested.le_joinedDepth (by simp))

theorem depth_nextBranch (g : OpenGroup) : g.value.depth ≤ g.nextBranch.value.depth := by
  refine Nested.depth_join_mono (by simp [nextBranch]) fun piece hpiece => ?_
  have hmem : piece ∈ g.nextBranch.branches := List.mem_reverse.1 hpiece
  exact ⟨piece, List.mem_reverse.2 (List.mem_cons_of_mem _ hmem), Nat.le_refl _⟩

theorem depth_switch (mode : Mode) (g : OpenGroup) :
    g.value.depth ≤ (g.switch mode).value.depth := by
  refine depth_value_mono (depth_branch_mono ?_ ?_) rfl
  · simp [switch, allParts]
  · intro part hpart
    exact ⟨part, List.mem_cons_of_mem _ hpart, Nat.le_refl _⟩

theorem depth_quantify {quantifier : Quantifier} {marked : Bool} {g g' : OpenGroup}
    (h : g.quantify quantifier marked = some g') : g.value.depth ≤ g'.value.depth := by
  obtain ⟨part, hlast, rfl⟩ := Option.map_eq_some_iff.1 h
  refine depth_value_mono (depth_branch_mono ?_ ?_) rfl
  · simp [allParts, hlast]
  · simp only [allParts, hlast, Option.toList_some, List.cons_append, List.nil_append,
      List.forall_mem_cons]
    exact ⟨⟨_, List.mem_cons_self, Nat.le_succ _⟩,
      fun part hpart => ⟨part, List.mem_cons_of_mem _ hpart, Nat.le_refl _⟩⟩

end OpenGroup

namespace Reading

/-- Every group that is open before a token has a place in one that is open after it. -/
theorem depth_next {s s' : Reading} {token : Token} (h : s.next token = some s') :
    ∀ g ∈ s.current :: s.outer, ∃ g' ∈ s'.current :: s'.outer, g.value.depth ≤ g'.value.depth := by
  have hkeep {current : OpenGroup} (hcurrent : s.current.value.depth ≤ current.value.depth) :
      ∀ g ∈ s.current :: s.outer, ∃ g' ∈ current :: s.outer, g.value.depth ≤ g'.value.depth := by
    rw [List.forall_mem_cons]
    exact ⟨⟨_, List.mem_cons_self, hcurrent⟩,
      fun g hg => ⟨g, List.mem_cons_of_mem _ hg, Nat.le_refl _⟩⟩
  cases token with
  | openGroup kind mode =>
      simp only [next, enter] at h
      split at h
      · simp at h
      · cases h
        exact fun g hg => ⟨g, List.mem_cons_of_mem _ hg, Nat.le_refl _⟩
  | closeGroup =>
      simp only [next, leave] at h
      split at h
      · simp at h
      · rename_i parent outer houter
        cases h
        rw [houter, List.forall_mem_cons, List.forall_mem_cons]
        refine ⟨⟨_, List.mem_cons_self, ?_⟩, ⟨_, List.mem_cons_self, ?_⟩, fun g hg => ?_⟩
        · exact Nat.le_trans (Nat.le_succ _)
            (OpenGroup.depth_le_push (s.current.value.around (Program.group _)) parent)
        · exact OpenGroup.depth_push _ parent
        · exact ⟨g, List.mem_cons_of_mem _ hg, Nat.le_refl _⟩
  | switch mode =>
      cases h
      exact hkeep (OpenGroup.depth_switch mode _)
  | bar =>
      cases h
      exact hkeep (OpenGroup.depth_nextBranch _)
  | quantifier quantifier marked =>
      obtain ⟨g, hg, heq⟩ := Option.map_eq_some_iff.1 h
      cases heq
      exact hkeep (OpenGroup.depth_quantify hg)
  | atom part =>
      cases h
      exact hkeep (OpenGroup.depth_push part _)

end Reading

end RouteTable.Pattern
