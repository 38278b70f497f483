import RouteTable.Proofs.Pattern.Size
import RouteTable.Proofs.Wildcard.Language
/-!
# Sizes of matchers

A path whose pattern takes too much memory is refused although its pattern text is well formed.
Main statement: `compile_eq_error_iff`, and this is the only refusal that the pattern text has no
part in.  Short paths are never too large: `fits_of_length_le`.
-/

namespace RouteTable.Wildcard

open RouteTable.Pattern
open RouteTable.Template

section

variable {x : Except TemplateError Matcher} {path : String} {m : Matcher} {e : TemplateError}

theorem bind_checkSize_eq_ok_iff :
    (x >>= checkSize) = .ok m ↔ x = .ok m ∧ m.fits = true := by
  rw [bind_eq_ok_iff]
  constructor
  · rintro ⟨m', hm', hsize⟩
    unfold checkSize at hsize
    split at hsize
    · cases hsize
      exact ⟨hm', ‹_›⟩
    · cases hsize
  · rintro ⟨hm, hfits⟩
    exact ⟨m, hm, if_pos hfits⟩

theorem bind_checkSize_eq_error_iff :
    (x >>= checkSize) = .error e ↔ x = .error e ∨ ∃ m, x = .ok m ∧ m.fits = false ∧
      e = .invalidPattern m.fragment PatternError.tooLarge.message := by
  rw [bind_eq_error_iff]
  refine or_congr_right (exists_congr fun m => and_congr_right fun _ => ?_)
  unfold checkSize
  cases m.fits <;> simp [eq_comm]

theorem compile_eq_bind (path : String) : compile path = (matcher path >>= checkSize) := by
  cases hfragment : fragment path <;> rw [compile, matcher, hfragment] <;> rfl

theorem compile_eq_ok_iff : compile path = .ok m ↔ matcher path = .ok m ∧ m.fits = true := by
  rw [compile_eq_bind, bind_checkSize_eq_ok_iff]

theorem compile_eq_error_iff :
    compile path = .error e ↔ fragment path = .error e ∨
      ∃ m, matcher path = .ok m ∧ m.fits = false ∧
        e = .invalidPattern m.fragment PatternError.tooLarge.message := by
  rw [compile_eq_bind, bind_checkSize_eq_error_iff, matcher_eq_error_iff]

end

theorem length_read_le (path : List Char) : (PathToken.read path).length ≤ path.length := by
  induction path using PathToken.read.induct with
  | case1 => simp [PathToken.read]
  | case2 cs ih =>
      rw [PathToken.read]
      simp only [List.length_cons]
      omega
  | case3 cs hne ih =>
      rw [PathToken.read]
      · simpa using ih
      · exact hne
  | case4 cs ih =>
      rw [PathToken.read]
      simpa using ih
  | case5 cs ih =>
      have hname := (List.dropWhile_sublist (fun c => decide (c ≠ '}')) (l := cs)).length_le
      rw [PathToken.read]
      rw [List.length_drop] at ih
      simp only [List.length_cons]
      omega
  | case6 c cs _ hstar hquestion hopen ih =>
      rw [PathToken.read]
      · simpa using ih
      all_goals assumption

theorem length_body_le (ts : List PathToken) : (body ts).length ≤ ts.length := by
  unfold body
  split
  · exact Nat.le_succ _
  · exact Nat.le_refl _

theorem memory_piece_le (t : PathToken) :
    t.piece.memory.forward ≤ 1040 ∧ t.piece.memory.backward ≤ 1040 := by
  cases t with
  | literal c =>
      have hsize := c.utf8Size_le_four
      simp only [PathToken.piece, Piece.memory_literal, Memory.forward_both, Memory.backward_both]
      omega
  | segment _ => simp [PathToken.piece, Piece.memory_segment]
  | star => simp [PathToken.piece, Piece.memory_star]
  | doubleStar => simp [PathToken.piece, Piece.memory_dotStar]
  | question => simp [PathToken.piece, Piece.memory_dot]

theorem mem_pieces {ts : List PathToken} {piece : Piece} (h : piece ∈ pieces ts) :
    piece = .optionalSlash ∨ ∃ t ∈ body ts, t.piece = piece := by
  simp only [pieces, List.mem_append, List.mem_singleton, List.mem_map] at h
  rcases h with (h | h) | h
  · exact .inl h
  · exact .inr h
  · split at h
    · simp at h
    · exact .inl (by simpa using h)

theorem length_pieces_le (ts : List PathToken) : (pieces ts).length ≤ ts.length + 2 := by
  have hbody := length_body_le ts
  rw [pieces, List.length_append, List.length_append, List.length_map, List.length_singleton]
  split <;> simp <;> omega

/-- A path of ten thousand characters is never too large. -/
theorem fits_of_length_le {path : String} {m : Matcher} (hm : matcher path = .ok m)
    (hlength : path.toList.length ≤ 10000) : m.fits = true := by
  obtain ⟨text, htext⟩ := exists_fragment_of_matcher hm
  obtain ⟨m', hm', hprogram⟩ := matcher_of_fragment htext
  obtain rfl : m = m' := Except.ok.inj (hm.symm.trans hm')
  have hpieces (memory : Memory)
      (h : memory ∈ (pieces (PathToken.read path.toList)).map Piece.memory) :
      memory.forward ≤ 1040 ∧ memory.backward ≤ 1040 := by
    obtain ⟨piece, hpiece, rfl⟩ := List.mem_map.1 h
    rcases mem_pieces hpiece with rfl | ⟨t, -, rfl⟩
    · simp [Piece.memory_optionalSlash]
    · exact memory_piece_le t
  have hcount := length_pieces_le (PathToken.read path.toList)
  have htokens := length_read_le path.toList
  obtain ⟨hforward, hbackward⟩ := Memory.sum_le hpieces
  rw [List.length_map] at hforward hbackward
  rw [Matcher.fits, hprogram, fits_anchoredProgram_iff, Program.maxMemory]
  omega

theorem exists_compile_of_fragment {path text : String} (h : fragment path = .ok text)
    (hlength : path.toList.length ≤ 10000) : ∃ m, compile path = .ok m := by
  obtain ⟨m, hm, -⟩ := matcher_of_fragment h
  exact ⟨m, compile_eq_ok_iff.2 ⟨hm, fits_of_length_le hm hlength⟩⟩

/-- The path has pattern text, but its pattern takes too much memory. -/
def IsTooLarge (path : String) : Prop := ∃ m, matcher path = .ok m ∧ m.fits = false

def questions (n : Nat) : String := String.ofList ('/' :: List.replicate n '?')

theorem isBody_questions (n : Nat) : IsBody (questions n).toList := by
  simp [IsBody, questions]

theorem sentinel_not_mem_questions (n : Nat) : sentinel ∉ (questions n).toList := by
  simp [questions, sentinel]

theorem read_questions (n : Nat) :
    PathToken.read (questions n).toList = .literal '/' :: List.replicate n .question := by
  have hread : PathToken.read (List.replicate n '?') = List.replicate n .question := by
    induction n with
    | zero => simp [PathToken.read]
    | succ n ih => rw [List.replicate_succ, PathToken.read, ih, List.replicate_succ]
  rw [questions, String.toList_ofList, PathToken.read]
  · rw [hread]
  all_goals simp

theorem fits_questions_iff {n : Nat} :
    (anchoredProgram (pieces (PathToken.read (questions n).toList))).fits = true ↔
      1000 * n + 336 ≤ Program.maxMemory := by
  have hend : endsInSlash (List.replicate n .question) = false := by
    simp [endsInSlash, List.getLast?_replicate]
  have hpieces : pieces (PathToken.read (questions n).toList) =
      .optionalSlash :: (List.replicate n .dot ++ [.optionalSlash]) := by
    rw [read_questions]
    simp [pieces, body, hend, PathToken.piece]
  rw [hpieces, fits_anchoredProgram_iff]
  simp [Piece.memory_optionalSlash, Piece.memory_dot, Memory.sum_replicate_append, Memory.times,
    Program.maxMemory]
  omega

/-- A question mark takes a thousand bytes. -/
theorem isTooLarge_questions {n : Nat} (h : Program.maxMemory < 1000 * n + 336) :
    IsTooLarge (questions n) := by
  obtain ⟨segs, hsegs, -⟩ := Parses.of_isBody false (isBody_questions n)
  obtain ⟨m, hm, hprogram⟩ := matcher_of_fragment
    (fragment_eq_ok_iff.2 ⟨⟨segs, segments_eq_ok_iff.2 hsegs⟩, sentinel_not_mem_questions n, rfl⟩)
  refine ⟨m, hm, ?_⟩
  rw [Matcher.fits, hprogram, ← Bool.not_eq_true, fits_questions_iff]
  exact Nat.not_le.2 h

end RouteTable.Wildcard
