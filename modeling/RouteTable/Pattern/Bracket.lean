import RouteTable.Pattern.Backslash
import RouteTable.Pattern.Nested
/-!
# Bracketed sets

The sets of characters that are written in brackets: characters, ranges, classes
and further bracketed sets, with operations between them.
-/

namespace RouteTable.Pattern

open RouteTable.Text

inductive SetOp where
  | inter
  | diff
  | symmDiff
  deriving DecidableEq, Repr

def SetOp.apply : SetOp → CharSet → CharSet → CharSet
  | inter => .inter
  | diff => .diff
  | symmDiff => .symmDiff

/-- A bracketed set that is still open: its members since the last operation,
last one first, and the operation with its left side. -/
structure OpenSet where
  negated : Bool
  members : List (Nested CharSet)
  pending : Option (SetOp × Nested CharSet)
  deriving Repr

namespace OpenSet

def value (s : OpenSet) : Nested CharSet :=
  let members := Nested.join .unions s.members.reverse
  match s.pending with
  | none => members
  | some (op, left) => .between op.apply left members

def close? (mode : Mode) (s : OpenSet) : Option (Nested CharSet) := do
  let set ← mode.class? s.negated s.value.value
  return s.value.around fun _ => set

def add (member : Nested CharSet) (s : OpenSet) : OpenSet :=
  { s with members := member :: s.members }

def operate (op : SetOp) (s : OpenSet) : OpenSet :=
  { s with members := [], pending := some (op, s.value) }

end OpenSet

def negation : List Char → Bool × List Char
  | '^' :: cs => (true, cs)
  | cs => (false, cs)

def afterDashes : List Char × List Char → List Char × List Char
  | ([], ']' :: cs) => ([']'], cs)
  | (dashes, cs) => (dashes, cs)

/-- The members that stand first in a bracketed set and mean nothing else there. -/
def firstMembers (mode : Mode) (cs : List Char) : List Char × List Char :=
  afterDashes (mode.span (· = '-') cs)

def openSet (mode : Mode) (cs : List Char) : OpenSet × List Char :=
  let (negated, cs) := negation (mode.skip cs)
  let (members, cs) := firstMembers mode (mode.skip cs)
  (⟨negated, members.map fun c => .leaf (mode.character c), none⟩, cs)

def asciiClass? : List Char → Option (Bool × CharSet × List Char)
  | ':' :: cs =>
      let (negated, text) := negation cs
      let name := text.takeWhile (· ≠ ':')
      match text.drop name.length with
      | ':' :: ']' :: rest =>
          (CharSet.asciiClass? (String.ofList name)).map fun set => (negated, set, rest)
      | _ => none
  | _ => none

def memberStart? (mode : Mode) : List Char → Option (Meaning × List Char)
  | [] => none
  | '\\' :: cs => afterBackslash? mode cs
  | c :: cs => some (.character c, cs)

def Meaning.member? (mode : Mode) : Meaning → Option CharSet
  | .character c => mode.member? c
  | .characters set => some set
  | .place _ => none

def Meaning.range? (mode : Mode) : Meaning → Meaning → Option CharSet
  | .character low, .character high => mode.range? low high
  | _, _ => none

/-- A member of a bracketed set, where the text goes on behind its first character or class.  A dash
before a closing bracket or before another dash makes no range. -/
def memberFrom? (mode : Mode) (low : Meaning) : List Char → Option (CharSet × List Char)
  | '-' :: rest =>
      if mode.peek? rest = some ']' ∨ mode.peek? rest = some '-' then
        (low.member? mode).bind fun set => some (set, '-' :: rest)
      else
        (memberStart? mode (mode.skip rest)).bind fun (high, rest) =>
          (low.range? mode high).bind fun set => some (set, rest)
  | rest => (low.member? mode).bind fun set => some (set, rest)

def member? (mode : Mode) (cs : List Char) : Option (CharSet × List Char) :=
  (memberStart? mode cs).bind fun (low, rest) => memberFrom? mode low (mode.skip rest)

/-- The rest of a bracketed set, up to the bracket that closes it.  `outer`
holds the sets around the current one.  Each round reads at least one of the
characters that `fuel` counts. -/
def bracketed? (mode : Mode) (fuel : Nat) (current : OpenSet) (outer : List OpenSet)
    (cs : List Char) : Option (Nested CharSet × List Char) :=
  match fuel with
  | 0 => none
  | fuel + 1 =>
      match mode.skip cs with
      | '[' :: cs =>
          match asciiClass? cs with
          | some (negated, set, rest) =>
              match mode.class? negated (mode.widen set) with
              | some set => bracketed? mode fuel (current.add (.leaf set)) outer rest
              | none => none
          | none =>
              bracketed? mode fuel (openSet mode cs).1 (current :: outer) (openSet mode cs).2
      | ']' :: cs =>
          match current.close? mode, outer with
          | none, _ => none
          | some set, [] => some (set, cs)
          | some set, parent :: outer => bracketed? mode fuel (parent.add set) outer cs
      | '&' :: '&' :: cs => bracketed? mode fuel (current.operate .inter) outer cs
      | '-' :: '-' :: cs => bracketed? mode fuel (current.operate .diff) outer cs
      | '~' :: '~' :: cs => bracketed? mode fuel (current.operate .symmDiff) outer cs
      | cs =>
          match member? mode cs with
          | some (set, rest) => bracketed? mode fuel (current.add (.leaf set)) outer rest
          | none => none

def set? (mode : Mode) (cs : List Char) : Option (Nested CharSet × List Char) :=
  bracketed? mode cs.length (openSet mode cs).1 [] (openSet mode cs).2

theorem suffix_negation (cs : List Char) : (negation cs).2 <:+ cs := by
  unfold negation
  split
  · exact List.suffix_cons _ _
  · exact List.suffix_refl _

theorem suffix_afterDashes (p : List Char × List Char) : (afterDashes p).2 <:+ p.2 := by
  unfold afterDashes
  split
  · exact List.suffix_cons _ _
  · exact List.suffix_refl _

theorem suffix_firstMembers (mode : Mode) (cs : List Char) : (firstMembers mode cs).2 <:+ cs := by
  exact (suffix_afterDashes _).trans (mode.suffix_span _ cs)

theorem suffix_openSet (mode : Mode) (cs : List Char) : (openSet mode cs).2 <:+ cs :=
  (suffix_firstMembers _ _).trans <| (mode.suffix_skip _).trans <|
    (suffix_negation _).trans (mode.suffix_skip cs)

theorem suffix_of_asciiClass? {cs rest : List Char} {negated : Bool} {set : CharSet}
    (h : asciiClass? cs = some (negated, set, rest)) : rest <:+ cs := by
  unfold asciiClass? at h
  split at h
  · rename_i cs
    simp only at h
    split at h
    · rename_i hdrop
      simp only [Option.map_eq_some_iff] at h
      obtain ⟨_, _, heq⟩ := h
      cases heq
      have hrest : rest <:+ (negation cs).2 :=
        (behind_cons _ (List.suffix_cons _ _)).suffix.trans (hdrop ▸ List.drop_suffix _ _)
      exact hrest.trans ((suffix_negation cs).trans (List.suffix_cons _ _))
    · simp at h
  · simp at h

theorem behind_of_memberStart? {mode : Mode} {cs rest : List Char} {meaning : Meaning}
    (h : memberStart? mode cs = some (meaning, rest)) : Behind rest cs := by
  unfold memberStart? at h
  split at h
  · simp at h
  · exact (behind_of_afterBackslash? h).trans_suffix (List.suffix_cons _ _)
  · cases h
    exact behind_cons _ (List.suffix_refl _)

theorem suffix_of_memberFrom? {mode : Mode} {low : Meaning} {cs rest : List Char} {set : CharSet}
    (h : memberFrom? mode low cs = some (set, rest)) : rest <:+ cs := by
  unfold memberFrom? at h
  split at h
  · split at h
    · obtain ⟨_, _, heq⟩ := Option.bind_eq_some_iff.1 h
      cases heq
      exact List.suffix_refl _
    · obtain ⟨⟨_, _⟩, hhigh, h⟩ := Option.bind_eq_some_iff.1 h
      obtain ⟨_, _, heq⟩ := Option.bind_eq_some_iff.1 h
      cases heq
      exact (behind_of_memberStart? hhigh).suffix.trans <|
        (mode.suffix_skip _).trans (List.suffix_cons _ _)
  · obtain ⟨_, _, heq⟩ := Option.bind_eq_some_iff.1 h
    cases heq
    exact List.suffix_refl _

theorem behind_of_member? {mode : Mode} {cs rest : List Char} {set : CharSet}
    (h : member? mode cs = some (set, rest)) : Behind rest cs := by
  obtain ⟨⟨_, tail⟩, hlow, hset⟩ := Option.bind_eq_some_iff.1 h
  exact (behind_of_memberStart? hlow).of_suffix <|
    (suffix_of_memberFrom? hset).trans (mode.suffix_skip tail)

theorem behind_of_bracketed? {mode : Mode} {fuel : Nat} {current : OpenSet}
    {outer : List OpenSet} {cs rest : List Char} {set : Nested CharSet}
    (h : bracketed? mode fuel current outer cs = some (set, rest)) :
    Behind rest (mode.skip cs) := by
  induction fuel generalizing current outer cs with
  | zero => simp [bracketed?] at h
  | succ fuel ih =>
      have hrest {current : OpenSet} {outer : List OpenSet} {cs : List Char}
          (h : bracketed? mode fuel current outer cs = some (set, rest)) : rest <:+ cs :=
        ((ih h).trans_suffix (mode.suffix_skip cs)).suffix
      unfold bracketed? at h
      split at h
      · rename_i tail heq
        rw [heq]
        split at h
        · rename_i hclass
          split at h
          · exact behind_cons _ ((hrest h).trans (suffix_of_asciiClass? hclass))
          · simp at h
        · exact behind_cons _ ((hrest h).trans (suffix_openSet mode tail))
      · rename_i heq
        rw [heq]
        split at h
        · simp at h
        · cases h
          exact behind_cons _ (List.suffix_refl _)
        · exact behind_cons _ (hrest h)
      all_goals
        rename_i heq
      iterate 3
        · rw [heq]
          exact behind_cons _ ((hrest h).trans (List.suffix_cons _ _))
      · split at h
        · rename_i hmember
          exact (behind_of_member? hmember).of_suffix (hrest h)
        · simp at h

theorem suffix_of_bracketed? {mode : Mode} {fuel : Nat} {current : OpenSet}
    {outer : List OpenSet} {cs rest : List Char} {set : Nested CharSet}
    (h : bracketed? mode fuel current outer cs = some (set, rest)) : rest <:+ cs :=
  (behind_of_bracketed? h).suffix.trans (mode.suffix_skip cs)

theorem suffix_of_set? {mode : Mode} {cs rest : List Char} {set : Nested CharSet}
    (h : set? mode cs = some (set, rest)) : rest <:+ cs :=
  (suffix_of_bracketed? h).trans (suffix_openSet mode cs)

end RouteTable.Pattern
