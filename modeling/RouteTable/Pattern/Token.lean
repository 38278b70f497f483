import RouteTable.Pattern.Bracket
import RouteTable.Pattern.Quantifier
/-!
# Tokens of a pattern text

The pieces that the written form of a pattern consists of: brackets of groups,
bars, quantifiers, and atoms that stand for themselves.
-/

namespace RouteTable.Pattern

open RouteTable.Text

inductive GroupKind where
  | plain
  | numbered
  | named (name : List Char)
  deriving DecidableEq, Repr

def GroupKind.name? : GroupKind → Option (List Char)
  | plain | numbered => none
  | named name => some name

inductive Token where
  | openGroup (kind : GroupKind) (mode : Mode)
  | closeGroup
  | switch (mode : Mode)
  | bar
  | quantifier (quantifier : Quantifier) (marked : Bool)
  | atom (part : Nested Program)

/-- Names of groups begin with a letter or a low line, and go on with letters,
numbers, low lines, dots and brackets. -/
def isGroupName : List Char → Bool
  | [] => false
  | c :: cs =>
      (c = '_' || isAlphabetic c) &&
        cs.all fun d => d = '_' || d = '.' || d = '[' || d = ']' || isAlphabetic d || isNumeric d

def groupName? (cs : List Char) : Option (List Char × List Char) :=
  let name := cs.takeWhile (· ≠ '>')
  match cs.drop name.length with
  | '>' :: rest => if isGroupName name then some (name, rest) else none
  | _ => none

/-- The mode after the letters up to a colon or a closing bracket, where the text
goes on.  A dash, which `seen` must not hold yet, turns from switching on to
switching off; no letter comes twice, and a letter follows the dash. -/
def switches? (mode : Mode) (on : Bool) (seen : List Char) :
    List Char → Option (Mode × List Char)
  | [] => none
  | c :: cs =>
      if c = ':' ∨ c = ')' then
        if seen.head? = some '-' then none else some (mode, c :: cs)
      else if seen.contains c then none
      else if c = '-' then switches? mode false (c :: seen) cs
      else
        match mode.switch? on c with
        | none => none
        | some mode => switches? mode on (c :: seen) cs

def switched? (mode : Mode) (on : Bool) (seen cs : List Char) : Option (Token × List Char) :=
  match switches? mode on seen cs with
  | some (inner, ':' :: rest) => some (.openGroup .plain inner, rest)
  | some (inner, ')' :: rest) => some (.switch inner, rest)
  | _ => none

def opening? (mode : Mode) : List Char → Option (Token × List Char)
  | '?' :: 'P' :: '<' :: cs =>
      (groupName? cs).map fun (name, rest) => (.openGroup (.named name) mode, rest)
  | '?' :: '<' :: cs =>
      (groupName? cs).map fun (name, rest) => (.openGroup (.named name) mode, rest)
  | '?' :: ')' :: _ => none
  | '?' :: cs => switched? mode true [] cs
  | cs => some (.openGroup .numbered mode, cs)

def Meaning.program (mode : Mode) : Meaning → Program
  | .character c => .atom (mode.character c)
  | .characters set => .atom set
  | .place condition => .look condition

def quantified (quantifier : Quantifier) (cs : List Char) : Token × List Char :=
  let (marked, rest) := Quantifier.preference cs
  (.quantifier quantifier marked, rest)

/-- The first token of a text, and the text after it. -/
def Token.next? (mode : Mode) : List Char → Option (Token × List Char)
  | [] => none
  | '(' :: cs => opening? mode (mode.skip cs)
  | ')' :: cs => some (.closeGroup, cs)
  | '|' :: cs => some (.bar, cs)
  | '*' :: cs => some (quantified .star cs)
  | '+' :: cs => some (quantified .plus cs)
  | '?' :: cs => some (quantified .opt cs)
  | '{' :: cs =>
      (Quantifier.count? mode cs).map fun (count, rest) => quantified count (mode.skip rest)
  | '.' :: cs => mode.dot?.map fun set => (.atom (.leaf (.atom set)), cs)
  | '^' :: cs => some (.atom (.leaf (.look mode.start)), cs)
  | '$' :: cs => some (.atom (.leaf (.look mode.stop)), cs)
  | '[' :: cs => (set? mode cs).map fun (set, rest) => (.atom ⟨.atom set.value, set.depth⟩, rest)
  | '\\' :: cs =>
      (afterBackslash? mode cs).map fun (meaning, rest) =>
        (.atom (.leaf (meaning.program mode)), rest)
  | c :: cs => some (.atom (.leaf (.atom (mode.character c))), cs)

theorem suffix_of_groupName? {cs rest name : List Char}
    (h : groupName? cs = some (name, rest)) : rest <:+ cs := by
  unfold groupName? at h
  simp only at h
  split at h
  · rename_i hdrop
    split at h
    · cases h
      exact (List.suffix_cons _ _).trans (hdrop ▸ List.drop_suffix _ _)
    · simp at h
  · simp at h

theorem suffix_of_switches? {mode inner : Mode} {on : Bool} {seen cs rest : List Char}
    (h : switches? mode on seen cs = some (inner, rest)) : rest <:+ cs := by
  fun_induction switches? mode on seen cs with
  | case1 | case2 | case4 | case6 => simp at h
  | case3 =>
      cases h
      exact List.suffix_refl _
  | case5 =>
      rename_i ih
      exact (ih h).trans (List.suffix_cons _ _)
  | case7 =>
      rename_i ih
      exact (ih h).trans (List.suffix_cons _ _)

theorem suffix_of_switched? {mode : Mode} {on : Bool} {seen cs rest : List Char} {token : Token}
    (h : switched? mode on seen cs = some (token, rest)) : rest <:+ cs := by
  unfold switched? at h
  split at h
  iterate 2
    · rename_i hswitches
      cases h
      exact (List.suffix_cons _ _).trans (suffix_of_switches? hswitches)
  · simp at h

theorem suffix_of_opening? {mode : Mode} {cs rest : List Char} {token : Token}
    (h : opening? mode cs = some (token, rest)) : rest <:+ cs := by
  unfold opening? at h
  split at h
  · simp only [Option.map_eq_some_iff, Prod.exists] at h
    obtain ⟨_, _, hname, heq⟩ := h
    cases heq
    exact (suffix_of_groupName? hname).trans (List.suffix_append ['?', 'P', '<'] _)
  · simp only [Option.map_eq_some_iff, Prod.exists] at h
    obtain ⟨_, _, hname, heq⟩ := h
    cases heq
    exact (suffix_of_groupName? hname).trans (List.suffix_append ['?', '<'] _)
  · simp at h
  · exact (suffix_of_switched? h).trans (List.suffix_cons _ _)
  · cases h
    exact List.suffix_refl _

theorem suffix_quantified (quantifier : Quantifier) (cs : List Char) :
    (quantified quantifier cs).2 <:+ cs := Quantifier.suffix_preference cs

theorem Token.behind_of_next? {mode : Mode} {cs rest : List Char} {token : Token}
    (h : Token.next? mode cs = some (token, rest)) : Behind rest cs := by
  unfold Token.next? at h
  split at h
  case h_1 => simp at h
  case h_2 cs => exact behind_cons _ ((suffix_of_opening? h).trans (mode.suffix_skip cs))
  case h_5 | h_6 | h_7 =>
    cases h
    exact behind_cons _ (Quantifier.suffix_preference _)
  case h_8 cs =>
    simp only [Option.map_eq_some_iff, Prod.exists] at h
    obtain ⟨count, tail, hcount, heq⟩ := h
    have hrest := suffix_quantified count (mode.skip tail)
    rw [heq] at hrest
    exact behind_cons _ <| hrest.trans <|
      (mode.suffix_skip tail).trans (Quantifier.suffix_of_count? hcount)
  case h_9 =>
    simp only [Option.map_eq_some_iff] at h
    obtain ⟨_, _, heq⟩ := h
    cases heq
    exact behind_cons _ (List.suffix_refl _)
  case h_12 =>
    simp only [Option.map_eq_some_iff, Prod.exists] at h
    obtain ⟨_, _, hset, heq⟩ := h
    cases heq
    exact behind_cons _ (suffix_of_set? hset)
  case h_13 =>
    simp only [Option.map_eq_some_iff, Prod.exists] at h
    obtain ⟨_, _, hatom, heq⟩ := h
    cases heq
    exact behind_cons _ (behind_of_afterBackslash? hatom).suffix
  all_goals cases h
  all_goals exact behind_cons _ (List.suffix_refl _)

theorem Token.length_of_next? {mode : Mode} {cs rest : List Char} {token : Token}
    (h : Token.next? mode cs = some (token, rest)) : rest.length < cs.length :=
  (Token.behind_of_next? h).length_lt

end RouteTable.Pattern
