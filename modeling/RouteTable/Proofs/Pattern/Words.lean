import RouteTable.Pattern.Occurrence
/-!
# Words of simple patterns

What repeated and optional characters match, and what a pattern matches between
anchors: `occursIn_anchored_iff`, the whole text and nothing less.
-/

namespace RouteTable.Pattern

namespace Matches

variable {isLazy : Bool} {set : CharSet} {before after : Option Char} {w : List Char}

theorem star_atom_iff :
    Matches (.star isLazy (.atom set)) before w after ↔ ∀ c ∈ w, set.contains c = true := by
  induction w generalizing before with
  | nil => exact ⟨fun _ => by simp, fun _ => .stop⟩
  | cons c w ih =>
      rw [star_cons_iff, List.forall_mem_cons]
      constructor
      · rintro ⟨u, v, rfl, hc, hrest⟩
        obtain ⟨d, heq, hd⟩ := atom_iff.1 hc
        cases heq
        exact ⟨hd, ih.1 hrest⟩
      · rintro ⟨hc, hw⟩
        exact ⟨[], w, rfl, .atom hc, ih.2 hw⟩

theorem plus_atom_iff :
    Matches (.plus isLazy (.atom set)) before w after ↔
      w ≠ [] ∧ ∀ c ∈ w, set.contains c = true := by
  cases w with
  | nil => simp [nil_iff, Regex.nullable]
  | cons c w => simp only [plus_cons_iff, star_atom_iff, ne_eq, reduceCtorEq, not_false_eq_true,
      true_and]

theorem opt_single_iff {c : Char} :
    Matches (.opt isLazy (.atom (.single c))) before w after ↔ w = [] ∨ w = [c] := by
  cases isLazy <;> simp [Regex.opt, alt_iff, or_comm]

end Matches

theorem occursIn_anchored_iff {r : Regex} {text : List Char} :
    (Regex.concat [.look .textStart, r, .look .textEnd]).occursIn text = true ↔
      Matches r none text none := by
  simp only [Regex.occursIn_iff, matches_concat_iff, MatchesAll]
  constructor
  · rintro ⟨front, _, rest, rfl, _, _, rfl, hstart, w, _, rfl, hw, _, _, rfl, hstop, rfl⟩
    obtain ⟨rfl, hfront⟩ := Matches.look_iff.1 hstart
    obtain ⟨rfl, hrest⟩ := Matches.look_iff.1 hstop
    obtain rfl : front = [] := by simpa [Look.holds] using hfront
    obtain rfl : rest = [] := by simpa [Look.holds] using hrest
    simpa using hw
  · intro h
    refine ⟨[], text, [], by simp, [], text, rfl, ?_, text, [], by simp, ?_, [], [], rfl, ?_, rfl⟩
    all_goals simp [h, Look.holds]

end RouteTable.Pattern
