import RouteTable.Proofs.Pattern.Reading
/-!
# Sizes of anchored pieces

What pieces take between anchors is the sum of what each of them takes, and a constant for the
anchors.  Main statement: `fits_anchoredProgram_iff`.
-/

namespace RouteTable.Pattern

theorem Memory.sum_le {ms : List Memory} {n : Nat}
    (h : ∀ m ∈ ms, m.forward ≤ n ∧ m.backward ≤ n) :
    ms.sum.forward ≤ n * ms.length ∧ ms.sum.backward ≤ n * ms.length := by
  induction ms with
  | nil => exact ⟨Nat.zero_le _, Nat.zero_le _⟩
  | cons m ms ih =>
      rw [List.forall_mem_cons] at h
      obtain ⟨hforward, hbackward⟩ := ih h.2
      rw [List.sum_cons, List.length_cons, Nat.mul_succ, forward_add, backward_add]
      omega

theorem Memory.sum_replicate_append (n : Nat) (m : Memory) (ms : List Memory) :
    (List.replicate n m ++ ms).sum = .times n m + ms.sum := by
  induction n with
  | zero => simp [times, Memory.ext_iff]
  | succ n ih =>
      rw [List.replicate_succ, List.cons_append, List.sum_cons, ih, Memory.ext_iff]
      simp only [times, forward_add, backward_add, Nat.succ_mul]
      omega

theorem CharSet.memory_single (c : Char) : (single c).memory = .both (32 * c.utf8Size) := by
  have hintervals : (single c).intervals = [(c.toNat, c.toNat)] := rfl
  simp [memory, hintervals]

namespace Piece

def memory (piece : Piece) : Memory := piece.part.value.memory

theorem memory_literal (c : Char) : (literal c).memory = .both (32 * c.utf8Size) :=
  CharSet.memory_single c

theorem memory_dot : dot.memory = ⟨424, 1000⟩ := by decide +kernel

theorem memory_segment : segment.memory = ⟨464, 1040⟩ := by decide +kernel

theorem memory_star : star.memory = ⟨464, 1040⟩ := by decide +kernel

theorem memory_dotStar : dotStar.memory = ⟨464, 1040⟩ := by decide +kernel

theorem memory_optionalSlash : optionalSlash.memory = .both 104 := by decide +kernel

end Piece

theorem memory_anchoredProgram (pieces : List Piece) :
    (anchoredProgram pieces).memory = .both 64 + (pieces.map Piece.memory).sum := by
  have hmemory : (anchoredProgram pieces).memory =
      .state + ((pieces.map Piece.memory).sum + (.state + 0)) := by
    simp only [anchoredProgram, Program.concat, List.map_cons, List.map_map]
    rfl
  rw [hmemory, Memory.ext_iff]
  simp only [Memory.state, Memory.forward_add, Memory.backward_add, Memory.forward_both,
    Memory.backward_both, Memory.forward_zero, Memory.backward_zero]
  omega

/-- The anchors take a place at each end, and so does the whole pattern. -/
theorem fits_anchoredProgram_iff {pieces : List Piece} :
    (anchoredProgram pieces).fits = true ↔
      (pieces.map Piece.memory).sum.forward + 192 ≤ Program.maxMemory ∧
        (pieces.map Piece.memory).sum.backward + 128 ≤ Program.maxMemory := by
  have halone : (anchoredProgram pieces).alone = (anchoredProgram pieces).memory := by
    refine if_neg fun hzero => ?_
    have hforward := congrArg Memory.forward hzero
    simp [memory_anchoredProgram] at hforward
  rw [Program.fits, Program.total, halone, memory_anchoredProgram, Bool.and_eq_true,
    decide_eq_true_iff, decide_eq_true_iff]
  simp only [Memory.state, Memory.forward_add, Memory.backward_add, Memory.forward_both,
    Memory.backward_both]
  omega

end RouteTable.Pattern
