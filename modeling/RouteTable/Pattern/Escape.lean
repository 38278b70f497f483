import RouteTable.Pattern.Span
/-!
# Escaping

A backslash takes its meaning in patterns from every special character outside
some protected spans.  The spans of each protected pattern are read along with
the text, and those that have ended are dropped on the way.
-/

namespace RouteTable.Pattern

open RouteTable.Text

def specialCharacters : List Char :=
  ['\\', '[', '.', ']', '{', '}', '(', ')', '*', '+', '-', '?', '^', '$', '|']

/-- The spans of one protected pattern that have not been passed yet. -/
abbrev Cursor := List Span

def Cursor.covers (offset : Nat) (cursor : Cursor) : Bool :=
  cursor.head?.any (·.covers offset)

def Cursor.isBehind (offset : Nat) (cursor : Cursor) : Bool :=
  cursor.head?.any (·.stop ≤ offset)

def Cursor.advance (offset : Nat) (cursor : Cursor) : Cursor :=
  if cursor.isBehind offset then cursor.tail else cursor

/-- What one round over the cursors leaves: whether a cursor covers the offset, whether
one has moved, and the cursors. -/
structure Round where
  covered : Bool
  moved : Bool
  cursors : List Cursor

/-- Moves every cursor that is behind by one span.  The first one that then covers the
offset ends the round and leaves those after it where they are. -/
def Cursor.round (offset : Nat) : List Cursor → Round
  | [] => ⟨false, false, []⟩
  | cursor :: cursors =>
      let behind := cursor.isBehind offset
      let cursor := cursor.advance offset
      if cursor.covers offset then ⟨true, behind, cursor :: cursors⟩
      else
        let rest := Cursor.round offset cursors
        ⟨rest.covered, behind || rest.moved, cursor :: rest.cursors⟩

def spansLeft (cursors : List Cursor) : Nat := cursors.flatten.length

theorem Cursor.length_advance (offset : Nat) (cursor : Cursor) :
    (cursor.advance offset).length + (cursor.isBehind offset).toNat = cursor.length := by
  cases cursor with
  | nil => rfl
  | cons s cursor =>
      by_cases hstop : s.stop ≤ offset <;> simp [advance, isBehind, hstop]

theorem spansLeft_round (offset : Nat) (cursors : List Cursor) :
    spansLeft (Cursor.round offset cursors).cursors + (Cursor.round offset cursors).moved.toNat ≤
      spansLeft cursors := by
  induction cursors with
  | nil => exact Nat.le_refl _
  | cons cursor cursors ih =>
      have hcursor := cursor.length_advance offset
      have hor : ∀ a b : Bool, (a || b).toNat ≤ a.toNat + b.toNat := by decide
      have hmoved := hor (cursor.isBehind offset) (Cursor.round offset cursors).moved
      simp only [spansLeft, List.flatten_cons, List.length_append] at ih ⊢
      rw [Cursor.round]
      split
      · simp only [List.flatten_cons, List.length_append]
        omega
      · simp only [List.flatten_cons, List.length_append]
        omega

/-- Whether one of the cursors covers the offset, with the cursors moved on as far as was
needed to tell.  Rounds go on until one ends with such a cursor or moves none. -/
def protectedAt (offset : Nat) (cursors : List Cursor) : Bool × List Cursor :=
  let next := Cursor.round offset cursors
  if next.covered then (true, next.cursors)
  else if next.moved then protectedAt offset next.cursors
  else (false, next.cursors)
termination_by spansLeft cursors
decreasing_by
  rename_i hmoved
  have hspans := spansLeft_round offset cursors
  rw [hmoved, Bool.toNat_true] at hspans
  exact hspans

def escapeFrom (offset : Nat) (cursors : List Cursor) : List Char → List Char
  | [] => []
  | c :: cs =>
      if specialCharacters.contains c then
        let (covered, cursors) := protectedAt offset cursors
        let rest := escapeFrom (offset + c.utf8Size) cursors cs
        if covered then c :: rest else '\\' :: c :: rest
      else c :: escapeFrom (offset + c.utf8Size) cursors cs

def escapeOutside (protectedSpans : List (List Span)) (text : String) : String :=
  String.ofList (escapeFrom 0 protectedSpans text.toList)

/-- The text with a backslash in front of every special character outside the
occurrences of the protected patterns. -/
def escape (protectedPatterns : List Regex) (text : String) : String :=
  escapeOutside (protectedPatterns.map (·.spans text)) text

end RouteTable.Pattern
