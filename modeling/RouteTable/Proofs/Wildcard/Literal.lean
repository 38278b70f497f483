import RouteTable.Proofs.Wildcard.Request
import RouteTable.Proofs.Wildcard.Size
/-!
# Texts that match themselves

Where nothing is protected, escaping treats every character by itself, and what it writes for
a character is a piece of pattern text that stands for this character.  Main statement:
`escape_matches_itself`, an escaped text is the pattern of the text and of nothing else.
-/

namespace RouteTable.Wildcard

open RouteTable.Pattern
open RouteTable.Template
open RouteTable.Text

theorem escapeUncovered_isCovered_nil (offset : Nat) (cs : List Char) :
    escapeUncovered (isCovered []) offset cs = cs.flatMap PathToken.escapeLiteral := by
  induction cs generalizing offset with
  | nil => rfl
  | cons c cs ih =>
      have hcovered : isCovered [] offset = false := rfl
      rw [escapeUncovered, ih, hcovered, List.flatMap_cons, PathToken.escapeLiteral,
        Bool.not_false, Bool.and_true]
      split <;> rfl

theorem toList_escape_nil (s : String) :
    (escape [] s).toList = s.toList.flatMap PathToken.escapeLiteral := by
  rw [escape, escapeOutside, String.toList_ofList, List.map_nil, escapeFrom_eq (by simp),
    escapeUncovered_isCovered_nil]

/-- The text without the backslashes that escape: of each of them and the character behind it,
the character is kept. -/
def unescape : List Char → List Char
  | [] => []
  | '\\' :: c :: cs => c :: unescape cs
  | c :: cs => c :: unescape cs

theorem unescape_escapeLiteral_append (c : Char) (cs : List Char) :
    unescape (PathToken.escapeLiteral c ++ cs) = c :: unescape cs := by
  unfold PathToken.escapeLiteral
  split
  · rfl
  · rename_i hc
    rw [List.singleton_append, unescape]
    rintro _ _ rfl
    exact absurd (by decide) hc

theorem unescape_flatMap_escapeLiteral (cs : List Char) :
    unescape (cs.flatMap PathToken.escapeLiteral) = cs := by
  induction cs with
  | nil => rfl
  | cons c cs ih => rw [List.flatMap_cons, unescape_escapeLiteral_append, ih]

theorem unescape_escape_nil (s : String) : unescape (escape [] s).toList = s.toList := by
  rw [toList_escape_nil, unescape_flatMap_escapeLiteral]

theorem escape_nil_injective : Function.Injective (escape []) := by
  intro s t h
  have hunescape := congrArg (fun text => unescape text.toList) h
  simpa only [unescape_escape_nil, String.toList_inj] using hunescape

theorem read?_anchored_escape_nil (s : String) :
    Program.read? (anchored (escape [] s).toList) =
      some (anchoredProgram (s.toList.map Piece.literal)) := by
  have htext : (s.toList.map Piece.literal).flatMap (·.text) =
      s.toList.flatMap PathToken.escapeLiteral := List.flatMap_map ..
  rw [toList_escape_nil, ← htext, read?_anchored]

theorem matchesAll_literal_iff {cs w : List Char} :
    MatchesAll ((cs.map Piece.literal).map Piece.regex) none w none ↔ w = cs := by
  have hpieces : cs.map Piece.literal = (cs.map PathToken.literal).map PathToken.piece := by
    rw [List.map_map]
    rfl
  rw [hpieces, matchesAll_piece_iff, spells_map_literal]

theorem fits_literal_iff {s : String} :
    (anchoredProgram (s.toList.map Piece.literal)).fits = true ↔
      32 * s.utf8ByteSize + 192 ≤ Program.maxMemory := by
  have hsum (cs : List Char) :
      ((cs.map Piece.literal).map Piece.memory).sum = .both (32 * width cs) := by
    induction cs with
    | nil => rfl
    | cons c cs ih =>
        rw [List.map_cons, List.map_cons, List.sum_cons, ih, Piece.memory_literal, width_cons,
          Nat.mul_add]
        rfl
  rw [fits_anchoredProgram_iff, hsum, width_toList, Memory.forward_both, Memory.backward_both]
  omega

theorem matcherOfFragment_escape_nil (s : String) :
    ∃ m : Matcher, (∀ p : String, m.accepts p = true ↔ p = s) ∧
      matcherOfFragment (escape [] s) =
        if 32 * s.utf8ByteSize + 192 ≤ Program.maxMemory then .ok m
        else .error (.invalidPattern (escape [] s) PatternError.tooLarge.message) := by
  obtain ⟨m, hm, hprogram⟩ := readFragment_of_read? (read?_anchored_escape_nil s)
  have hsize : m.fits = true ↔ 32 * s.utf8ByteSize + 192 ≤ Program.maxMemory := by
    rw [Matcher.fits, hprogram, fits_literal_iff]
  refine ⟨m, fun p => ?_, ?_⟩
  · rw [Matcher.accepts, Matcher.regex, hprogram, regex_anchoredProgram, anchoredRegex,
      occursIn_anchored_iff, matches_concat_iff, matchesAll_literal_iff, String.toList_inj]
  · rw [matcherOfFragment, hm, ok_bind, checkSize, fragment_of_readFragment hm]
    simp only [hsize]

/-- An escaped text can be read as a pattern, whatever the text is, and this pattern matches the
text and nothing else, but one of a text that is too long is refused.  The text can be read off its
escaped form again, so no two texts have the same. -/
theorem escape_matches_itself (s : String) :
    (∃ m : Matcher, (∀ p : String, m.accepts p = true ↔ p = s) ∧
      matcherOfFragment (escape [] s) =
        if 32 * s.utf8ByteSize + 192 ≤ Program.maxMemory then .ok m
        else .error (.invalidPattern (escape [] s) PatternError.tooLarge.message)) ∧
    unescape (escape [] s).toList = s.toList ∧
    Function.Injective (escape []) :=
  ⟨matcherOfFragment_escape_nil s, unescape_escape_nil s, escape_nil_injective⟩

/-- Of a character of one byte, no four hundred thousand are taken. -/
theorem not_matcherOfFragment_escape_long :
    ¬ ∃ m, matcherOfFragment (escape [] (String.ofList (List.replicate 400000 'a'))) = .ok m := by
  have hsize : (String.ofList (List.replicate 400000 'a')).utf8ByteSize = 400000 := by
    rw [← width_toList, String.toList_ofList]
    exact width_replicate rfl 400000
  rintro ⟨m, hm⟩
  obtain ⟨_, -, hmatcher⟩ := matcherOfFragment_escape_nil
    (String.ofList (List.replicate 400000 'a'))
  rw [hsize, if_neg (by decide)] at hmatcher
  cases hmatcher.symm.trans hm

end RouteTable.Wildcard
