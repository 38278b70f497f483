import RouteTable.Pattern.Escape
import RouteTable.Pattern.Matcher
/-!
# Reading pattern text in pieces

A piece is text that is read as one part of a pattern, whatever the text before
it and after it.  Main statement: `read?_anchored`, pieces one after the other
between anchors are read as their parts one after the other.
-/

namespace RouteTable.Pattern

open RouteTable.Text

/-! ## Pushing parts -/

namespace OpenGroup

def pushAll (parts : List (Nested Program)) (g : OpenGroup) : OpenGroup :=
  parts.foldl (fun g part => g.push part) g

theorem allParts_push (part : Nested Program) (g : OpenGroup) :
    (g.push part).allParts = part :: g.allParts := rfl

@[simp] theorem mode_pushAll (parts : List (Nested Program)) (g : OpenGroup) :
    (g.pushAll parts).mode = g.mode := by
  induction parts generalizing g with
  | nil => rfl
  | cons part parts ih => exact ih _

@[simp] theorem captures_pushAll (parts : List (Nested Program)) (g : OpenGroup) :
    (g.pushAll parts).captures = g.captures := by
  induction parts generalizing g with
  | nil => rfl
  | cons part parts ih => exact ih _

@[simp] theorem branches_pushAll (parts : List (Nested Program)) (g : OpenGroup) :
    (g.pushAll parts).branches = g.branches := by
  induction parts generalizing g with
  | nil => rfl
  | cons part parts ih => exact ih _

theorem allParts_pushAll (parts : List (Nested Program)) (g : OpenGroup) :
    (g.pushAll parts).allParts = parts.reverse ++ g.allParts := by
  induction parts generalizing g with
  | nil => rfl
  | cons part parts ih =>
      rw [pushAll, List.foldl_cons, ← pushAll, ih, allParts_push]
      simp

theorem value_pushAll_new (mode : Mode) (parts : List (Nested Program)) :
    ((new mode).pushAll parts).value = .join .choice [.join .concat parts] := by
  have hbranches : ((new mode).pushAll parts).branches = [] := branches_pushAll ..
  have hparts : ((new mode).pushAll parts).allParts = parts.reverse := by
    rw [allParts_pushAll]
    exact List.append_nil _
  rw [value, branch, hbranches, hparts, List.reverse_reverse]
  rfl

end OpenGroup

namespace Reading

def push (part : Nested Program) (s : Reading) : Reading :=
  { s with current := s.current.push part }

def pushAll (parts : List (Nested Program)) (s : Reading) : Reading :=
  { s with current := s.current.pushAll parts }

/-! ## One token after the other -/

theorem run_of_skip_eq_nil {s : Reading} {cs : List Char} (h : s.current.mode.skip cs = []) :
    s.run cs = some s := by
  rw [run, if_pos h]

theorem run_nil (s : Reading) : s.run [] = some s := run_of_skip_eq_nil (Mode.skip_nil _)

/-- A run goes on behind the first token. -/
theorem run_of_first {s : Reading} {token : Token} {cs rest : List Char}
    (h : Token.next? s.current.mode (s.current.mode.skip cs) = some (token, rest)) :
    s.run cs = (s.next token).bind fun s => s.run rest := by
  have hne : s.current.mode.skip cs ≠ [] := by
    intro hnil
    rw [hnil] at h
    simp [Token.next?] at h
  rw [run, if_neg hne]
  split
  · rename_i hnone
    rw [h] at hnone
    cases hnone
  · rename_i hsome
    rw [h] at hsome
    cases hsome
    cases s.next token <;> rfl

theorem run_of_next? {s s' : Reading} {token : Token} {cs rest : List Char}
    (hmode : s.current.mode = .default) (htoken : Token.next? .default cs = some (token, rest))
    (hnext : s.next token = some s') : s.run cs = s'.run rest := by
  have hfirst : Token.next? s.current.mode (s.current.mode.skip cs) = some (token, rest) := by
    rw [hmode]
    exact htoken
  rw [run_of_first hfirst, hnext, Option.bind_some]

theorem run_atom {s : Reading} {part : Nested Program} {cs rest : List Char}
    (hmode : s.current.mode = .default)
    (htoken : Token.next? .default cs = some (.atom part, rest)) :
    s.run cs = (s.push part).run rest :=
  run_of_next? hmode htoken rfl

/-- A quantifier applies to the part that has just been pushed, and prefers many
rounds unless a question mark follows. -/
theorem run_quantifier {s : Reading} {quantifier : Quantifier} {part : Nested Program}
    {cs rest : List Char} (hmode : s.current.mode = .default)
    (htoken : Token.next? .default cs = some (quantified quantifier rest))
    (hrest : rest.head? ≠ some '?') :
    (s.push part).run cs = (s.push (part.around (quantifier.apply false))).run rest := by
  have hquantified : quantified quantifier rest = (.quantifier quantifier false, rest) := by
    unfold quantified Quantifier.preference
    split
    · rename_i heq
      split at heq
      · simp at hrest
      · cases heq
        rfl
  rw [hquantified] at htoken
  have hswapped : (s.push part).current.mode.swapped = false := by
    change s.current.mode.swapped = false
    rw [hmode]
    rfl
  refine run_of_next? hmode htoken ?_
  simp only [next, OpenGroup.quantify, hswapped]
  rfl

end Reading

/-! ## Tokens -/

theorem next?_of_not_special {c : Char} (hc : specialCharacters.contains c = false)
    (cs : List Char) :
    Token.next? .default (c :: cs) = some (.atom (.leaf (.atom (.single c))), cs) := by
  unfold Token.next?
  split
  case h_14 =>
    rename_i heq
    cases heq
    rfl
  all_goals
    rename_i heq
    cases heq
  all_goals exact absurd hc (by decide)

theorem next?_of_special {c : Char} (hc : specialCharacters.contains c = true) (cs : List Char) :
    Token.next? .default ('\\' :: c :: cs) = some (.atom (.leaf (.atom (.single c))), cs) := by
  simp only [specialCharacters, List.contains_iff_mem, List.mem_cons, List.not_mem_nil,
    or_false] at hc
  rcases hc with rfl | rfl | rfl | rfl | rfl | rfl | rfl | rfl | rfl | rfl | rfl | rfl | rfl |
    rfl | rfl
  all_goals rfl

theorem openSet_caret (cs : List Char) :
    openSet .default ('^' :: '/' :: cs) = (⟨true, [], none⟩, '/' :: cs) := by
  have hspan : Mode.default.span (· = '-') ('/' :: cs) = ([], '/' :: cs) := by
    rw [Mode.span]
    rfl
  have hmembers : firstMembers .default ('/' :: cs) = ([], '/' :: cs) := by
    rw [firstMembers, hspan]
    rfl
  have hopen : openSet .default ('^' :: '/' :: cs) =
      (⟨true, (firstMembers .default ('/' :: cs)).1.map
          fun c => .leaf (Mode.default.character c), none⟩,
        (firstMembers .default ('/' :: cs)).2) := rfl
  rw [hopen, hmembers]
  rfl

theorem next?_class (cs : List Char) :
    Token.next? .default ("[^/]".toList ++ cs) =
      some (.atom ⟨.atom (.compl (.single '/')), 1⟩, cs) := by
  have hset : set? .default ('^' :: '/' :: ']' :: cs) = some (⟨.compl (.single '/'), 1⟩, cs) := by
    rw [set?, openSet_caret]
    rfl
  change (set? .default ('^' :: '/' :: ']' :: cs)).map _ = _
  rw [hset]
  rfl

/-! ## Pieces -/

/-- A text that is read as a part of a pattern.  As it does not begin with a
question mark, it can stand behind a quantifier. -/
structure Piece where
  text : List Char
  part : Nested Program
  depth_le : part.depth ≤ 2
  head?_ne : text ≠ [] ∧ text.head? ≠ some '?'
  run_append : ∀ (s : Reading) (rest : List Char), s.current.mode = .default →
    rest.head? ≠ some '?' → s.run (text ++ rest) = (s.push part).run rest

namespace Piece

def regex (piece : Piece) : Regex := piece.part.value.regex.get

def literal (c : Char) : Piece where
  text := if specialCharacters.contains c then ['\\', c] else [c]
  part := .leaf (.atom (.single c))
  depth_le := Nat.zero_le _
  head?_ne := by
    split
    · simp
    · rename_i hc
      refine ⟨by simp, ?_⟩
      rintro heq
      cases heq
      exact hc (by decide)
  run_append s rest hmode _ := by
    split
    · rename_i hc
      exact Reading.run_atom hmode (next?_of_special hc rest)
    · rename_i hc
      exact Reading.run_atom hmode (next?_of_not_special (by simpa using hc) rest)

def segment : Piece where
  text := "[^/]+".toList
  part := ⟨Quantifier.plus.apply false (.atom (.compl (.single '/'))), 2⟩
  depth_le := Nat.le_refl _
  head?_ne := by simp
  run_append s rest hmode hrest := by
    have hclass := Reading.run_atom hmode (next?_class ('+' :: rest))
    exact hclass.trans (Reading.run_quantifier hmode rfl hrest)

def star : Piece where
  text := "[^/]*".toList
  part := ⟨Quantifier.star.apply false (.atom (.compl (.single '/'))), 2⟩
  depth_le := Nat.le_refl _
  head?_ne := by simp
  run_append s rest hmode hrest := by
    have hclass := Reading.run_atom hmode (next?_class ('*' :: rest))
    exact hclass.trans (Reading.run_quantifier hmode rfl hrest)

def dot : Piece where
  text := ".".toList
  part := .leaf (.atom .anyButNewline)
  depth_le := Nat.zero_le _
  head?_ne := by simp
  run_append s rest hmode _ := Reading.run_atom hmode rfl

def dotStar : Piece where
  text := ".*".toList
  part := ⟨Quantifier.star.apply false (.atom .anyButNewline), 1⟩
  depth_le := Nat.le_succ _
  head?_ne := by simp
  run_append s rest hmode hrest := by
    have hdot : s.run (".*".toList ++ rest) = _ := Reading.run_atom hmode rfl
    exact hdot.trans (Reading.run_quantifier hmode rfl hrest)

def optionalSlash : Piece where
  text := "/?".toList
  part := ⟨Quantifier.opt.apply false (.atom (.single '/')), 1⟩
  depth_le := Nat.le_succ _
  head?_ne := by simp
  run_append s rest hmode hrest := by
    have hslash : s.run ("/?".toList ++ rest) = _ := Reading.run_atom hmode rfl
    exact hslash.trans (Reading.run_quantifier hmode rfl hrest)

end Piece

/-! ## Whole patterns -/

theorem head?_flatMap_text_ne (pieces : List Piece) {rest : List Char}
    (hrest : rest.head? ≠ some '?') : (pieces.flatMap (·.text) ++ rest).head? ≠ some '?' := by
  cases pieces with
  | nil => exact hrest
  | cons piece pieces =>
      obtain ⟨hne, hhead⟩ := piece.head?_ne
      obtain ⟨c, cs, htext⟩ := List.exists_cons_of_ne_nil hne
      rw [htext] at hhead
      simpa [htext] using hhead

theorem Reading.run_pieces (pieces : List Piece) {s : Reading} {rest : List Char}
    (hmode : s.current.mode = .default) (hrest : rest.head? ≠ some '?') :
    s.run (pieces.flatMap (·.text) ++ rest) = (s.pushAll (pieces.map (·.part))).run rest := by
  induction pieces generalizing s with
  | nil => rfl
  | cons piece pieces ih =>
      have hhead := head?_flatMap_text_ne pieces hrest
      rw [List.flatMap_cons, List.append_assoc, piece.run_append s _ hmode hhead]
      exact ih hmode

theorem foldr_max_le {depths : List Nat} {n : Nat} (h : ∀ depth ∈ depths, depth ≤ n) :
    depths.foldr max 0 ≤ n := by
  induction depths with
  | nil => exact Nat.zero_le _
  | cons depth depths ih =>
      rw [List.forall_mem_cons] at h
      exact Nat.max_le.2 ⟨h.1, ih h.2⟩

theorem joinedDepth_le {depths : List Nat} {n : Nat} (h : ∀ depth ∈ depths, depth ≤ n) :
    Nested.joinedDepth depths ≤ n + 1 := by
  unfold Nested.joinedDepth
  split
  · exact Nat.zero_le _
  · exact Nat.le_succ_of_le (h _ (by simp))
  · exact Nat.succ_le_succ (foldr_max_le h)

def anchoredProgram (pieces : List Piece) : Program :=
  .concat [.look .textStart, .concat (pieces.map (·.part.value)), .look .textEnd]

def anchoredRegex (pieces : List Piece) : Regex :=
  .concat [.look .textStart, .concat (pieces.map Piece.regex), .look .textEnd]

theorem regex_anchoredProgram (pieces : List Piece) :
    (anchoredProgram pieces).regex.get = anchoredRegex pieces := by
  simp only [anchoredProgram, Program.regex_concat, List.map_cons, List.map_nil, List.map_map]
  rfl

namespace Reading

def inGroup : Reading :=
  ⟨.new .default, [(OpenGroup.new .default).push (.leaf (.look .textStart))], []⟩

theorem run_opening (cs : List Char) :
    begin.run ("^(?:".toList ++ cs) = inGroup.run cs := by
  have hstart : begin.run ("^(?:".toList ++ cs) = _ := run_atom rfl rfl
  exact hstart.trans (run_of_next? rfl rfl rfl)

theorem run_closing (parts : List (Nested Program)) :
    (inGroup.pushAll parts).run ")$".toList =
      some (begin.pushAll [.leaf (.look .textStart),
        (Nested.join Program.choice [.join .concat parts]).around (Program.group false),
        .leaf (.look .textEnd)]) := by
  have hmode : (inGroup.pushAll parts).current.mode = .default := OpenGroup.mode_pushAll ..
  have hcaptures : (inGroup.pushAll parts).current.captures = false :=
    OpenGroup.captures_pushAll ..
  have hvalue : (inGroup.pushAll parts).current.value = _ :=
    OpenGroup.value_pushAll_new .default parts
  have hleave : (inGroup.pushAll parts).next .closeGroup =
      some (begin.pushAll [.leaf (.look .textStart),
        (Nested.join Program.choice [.join .concat parts]).around (Program.group false)]) := by
    rw [next, leave, hvalue, hcaptures]
    rfl
  have hclose : (inGroup.pushAll parts).run ")$".toList = _ := run_of_next? hmode rfl hleave
  rw [hclose]
  exact (run_atom rfl rfl).trans (run_nil _)

end Reading

theorem read?_anchored (pieces : List Piece) :
    Program.read? (anchored (pieces.flatMap (·.text))) = some (anchoredProgram pieces) := by
  let parts := pieces.map (·.part)
  let group := (Nested.join Program.choice [.join .concat parts]).around (Program.group false)
  let outer := [.leaf (.look .textStart), group, .leaf (.look .textEnd)]
  have hparts : Nested.joinedDepth (parts.map (·.depth)) ≤ 3 := by
    refine joinedDepth_le ?_
    simp only [parts, List.map_map, List.forall_mem_map]
    exact fun piece _ => piece.depth_le
  have hgroup : group.depth ≤ 4 := Nat.succ_le_succ hparts
  have hdepth : Nested.joinedDepth (outer.map (·.depth)) ≤ 5 := by
    refine joinedDepth_le ?_
    simpa [outer, Nested.leaf] using hgroup
  have hvalue : (Reading.begin.pushAll outer).current.value = _ :=
    OpenGroup.value_pushAll_new .default outer
  have hprogram : group.value = .concat (pieces.map (·.part.value)) := by
    simp [group, parts, Program.group, Function.comp_def]
  rw [Program.read?, anchored, List.append_assoc, Reading.run_opening,
    Reading.run_pieces pieces rfl (by simp), Reading.run_closing, Option.bind_some]
  rw [Reading.finish, hvalue, if_pos]
  · simp [anchoredProgram, outer, hprogram, Nested.leaf]
  · exact ⟨rfl, Nat.le_trans hdepth (by decide)⟩

end RouteTable.Pattern
