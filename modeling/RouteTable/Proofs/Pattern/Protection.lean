import RouteTable.Proofs.Pattern.Coverage
/-!
# Protected characters

Escaping asks the cursors about one special character after the other, in rounds that move
them on as far as is needed.  Main statement: `escapeOutside_marks_unprotected`, what comes
of it is what the spans say by themselves, whatever their order and whatever has been asked
before.
-/

namespace RouteTable.Pattern

open RouteTable.Text

/-- Whether a span of one of the patterns holds the offset. -/
def IsProtected (protectedSpans : List (List Span)) (offset : Nat) : Prop :=
  ∃ spans ∈ protectedSpans, ∃ s ∈ spans, s.start ≤ offset ∧ offset < s.stop

instance (protectedSpans : List (List Span)) (offset : Nat) :
    Decidable (IsProtected protectedSpans offset) :=
  inferInstanceAs (Decidable
    (∃ spans ∈ protectedSpans, ∃ s ∈ spans, s.start ≤ offset ∧ offset < s.stop))

def charOffsets (offset : Nat) : List Char → List (Nat × Char)
  | [] => []
  | c :: cs => (offset, c) :: charOffsets (offset + c.utf8Size) cs

def mark (protectedSpans : List (List Span)) (offset : Nat) (c : Char) : List Char :=
  if c ∈ specialCharacters ∧ ¬IsProtected protectedSpans offset then ['\\', c] else [c]

/-- The text with a backslash in front of every special character that is not protected. -/
def markUnprotected (protectedSpans : List (List Span)) (text : String) : String :=
  String.ofList ((charOffsets 0 text.toList).flatMap fun place =>
    mark protectedSpans place.1 place.2)

/-- After `n` rounds that move a cursor and do not find the offset covered, there is one that
finds it covered or moves none; the answer is what it finds. -/
inductive SettlesAfter (offset : Nat) : Nat → List Cursor → Bool × List Cursor → Prop where
  | covered {cursors : List Cursor} (hcovered : (Cursor.round offset cursors).covered = true) :
      SettlesAfter offset 0 cursors (true, (Cursor.round offset cursors).cursors)
  | settled {cursors : List Cursor} (hcovered : (Cursor.round offset cursors).covered = false)
      (hmoved : (Cursor.round offset cursors).moved = false) :
      SettlesAfter offset 0 cursors (false, (Cursor.round offset cursors).cursors)
  | again {cursors : List Cursor} {n : Nat} {answer : Bool × List Cursor}
      (hcovered : (Cursor.round offset cursors).covered = false)
      (hmoved : (Cursor.round offset cursors).moved = true)
      (hrest : SettlesAfter offset n (Cursor.round offset cursors).cursors answer) :
      SettlesAfter offset (n + 1) cursors answer

def afterQueries (cursors : List Cursor) (queries : List Nat) : List Cursor :=
  queries.foldl (fun cursors offset => (protectedAt offset cursors).2) cursors

theorem isCovered_eq_true_iff {protectedSpans : List (List Span)} {offset : Nat} :
    isCovered protectedSpans offset = true ↔ IsProtected protectedSpans offset := by
  simp only [isCovered, IsProtected, List.any_eq_true, Span.covers, Bool.and_eq_true,
    decide_eq_true_eq]

theorem isProtected_perm {protectedSpans other : List (List Span)}
    (h : other.Perm protectedSpans) (offset : Nat) :
    IsProtected other offset ↔ IsProtected protectedSpans offset := by
  simp only [IsProtected, h.mem_iff]

theorem escapeUncovered_eq_flatMap (protectedSpans : List (List Span)) (offset : Nat)
    (cs : List Char) :
    escapeUncovered (isCovered protectedSpans) offset cs =
      (charOffsets offset cs).flatMap fun place => mark protectedSpans place.1 place.2 := by
  induction cs generalizing offset with
  | nil => rfl
  | cons c cs ih =>
      have hmark : (specialCharacters.contains c && !isCovered protectedSpans offset) = true ↔
          c ∈ specialCharacters ∧ ¬IsProtected protectedSpans offset := by
        rw [← isCovered_eq_true_iff]
        simp
      rw [escapeUncovered, charOffsets, List.flatMap_cons, ih, mark]
      by_cases hc : c ∈ specialCharacters ∧ ¬IsProtected protectedSpans offset
      · rw [if_pos hc, if_pos (hmark.2 hc)]
        rfl
      · rw [if_neg hc, if_neg (fun h => hc (hmark.1 h))]
        rfl

theorem exists_settlesAfter (offset : Nat) (cursors : List Cursor) :
    ∃ n ≤ spansLeft cursors, SettlesAfter offset n cursors (protectedAt offset cursors) := by
  fun_induction protectedAt offset cursors with
  | case1 cursors next hcovered => exact ⟨0, Nat.zero_le _, .covered hcovered⟩
  | case2 cursors next hcovered hmoved ih =>
      obtain ⟨n, hn, hrest⟩ := ih
      have hspans : spansLeft next.cursors + next.moved.toNat ≤ spansLeft cursors :=
        spansLeft_round offset cursors
      rw [hmoved, Bool.toNat_true] at hspans
      exact ⟨n + 1, by omega, .again (by simpa using hcovered) hmoved hrest⟩
  | case3 cursors next hcovered hmoved =>
      exact ⟨0, Nat.zero_le _, .settled (by simpa using hcovered) (by simpa using hmoved)⟩

theorem increasing_afterQueries {cursors : List Cursor}
    (h : ∀ cursor ∈ cursors, Increasing cursor) (queries : List Nat) :
    ∀ cursor ∈ afterQueries cursors queries, Increasing cursor := by
  induction queries generalizing cursors with
  | nil => exact h
  | cons offset queries ih => exact ih (increasing_protectedAt h offset)

/-- No question makes a cursor pass a span that matters further on, not even one that was
answered before the cursor was looked at. -/
theorem isCovered_afterQueries (cursors : List Cursor) {queries : List Nat} {offset : Nat}
    (h : ∀ query ∈ queries, query ≤ offset) :
    isCovered (afterQueries cursors queries) offset = isCovered cursors offset := by
  induction queries generalizing cursors with
  | nil => rfl
  | cons query queries ih =>
      have hquery := h query List.mem_cons_self
      have hqueries := fun q hq => h q (List.mem_cons_of_mem _ hq)
      have hrest := ih (protectedAt query cursors).2 hqueries
      rw [isCovered_protectedAt cursors hquery] at hrest
      exact hrest

theorem protectedAt_afterQueries {cursors : List Cursor}
    (h : ∀ cursor ∈ cursors, Increasing cursor) {queries : List Nat} {offset : Nat}
    (hqueries : ∀ query ∈ queries, query ≤ offset) :
    (protectedAt offset (afterQueries cursors queries)).1 = true ↔ IsProtected cursors offset := by
  rw [protectedAt_fst (increasing_afterQueries h queries), isCovered_afterQueries cursors hqueries,
    isCovered_eq_true_iff]

theorem escapeOutside_eq {protectedSpans : List (List Span)}
    (h : ∀ spans ∈ protectedSpans, Increasing spans) (text : String) :
    escapeOutside protectedSpans text = markUnprotected protectedSpans text := by
  rw [escapeOutside, markUnprotected, escapeFrom_eq h, escapeUncovered_eq_flatMap]

theorem escapeOutside_perm {protectedSpans other : List (List Span)}
    (h : ∀ spans ∈ protectedSpans, Increasing spans) (hperm : other.Perm protectedSpans)
    (text : String) : escapeOutside other text = escapeOutside protectedSpans text := by
  have hother : ∀ spans ∈ other, Increasing spans := fun spans hspans =>
    h spans (hperm.mem_iff.1 hspans)
  rw [escapeOutside_eq hother, escapeOutside_eq h, markUnprotected, markUnprotected]
  simp only [mark, isProtected_perm hperm]

/-- For protected spans of each pattern that lie one after the other, escaping puts a backslash
in front of exactly the special characters that no span holds, and the order of the patterns
makes no difference.  Every question to the cursors is answered after no more rounds than there
are spans left, and whatever has been asked before, the answer is whether a span holds the
offset.  The occurrences of patterns are such spans. -/
theorem escapeOutside_marks_unprotected (protectedSpans : List (List Span)) (text : String)
    (h : ∀ spans ∈ protectedSpans, Increasing spans) :
    escapeOutside protectedSpans text = markUnprotected protectedSpans text ∧
    (∀ other, other.Perm protectedSpans →
      escapeOutside other text = escapeOutside protectedSpans text) ∧
    (∀ offset cursors, ∃ n ≤ spansLeft cursors,
      SettlesAfter offset n cursors (protectedAt offset cursors)) ∧
    (∀ queries offset, (∀ query ∈ queries, query ≤ offset) →
      ((protectedAt offset (afterQueries protectedSpans queries)).1 = true ↔
        IsProtected protectedSpans offset)) ∧
    ∀ patterns : List Regex,
      escape patterns text = markUnprotected (patterns.map (·.spans text)) text := by
  refine ⟨escapeOutside_eq h text, ?_, exists_settlesAfter, ?_, ?_⟩
  · intro other hperm
    exact escapeOutside_perm h hperm text
  · intro queries offset hqueries
    exact protectedAt_afterQueries h hqueries
  · intro patterns
    apply escapeOutside_eq
    rw [List.forall_mem_map]
    intro r _
    exact r.increasing_spans text

def overlappingSpans : List (List Span) :=
  [[⟨0, 0⟩, ⟨0, 1⟩, ⟨1, 3⟩], [⟨1, 2⟩, ⟨5, 5⟩, ⟨6, 7⟩]]

/-- The dot lies in two spans, and the span at the star is empty.  The answer for the dot comes
from the first pattern and leaves the second one where it is; its last span is found all the
same. -/
theorem escapeOutside_overlappingSpans :
    (∀ spans ∈ overlappingSpans, Increasing spans) ∧
      escapeOutside overlappingSpans "(.)é*?+" = "(.)é\\*?\\+" ∧
      (protectedAt 6 (afterQueries overlappingSpans [0, 1, 5])).1 = true := by
  have h : ∀ spans ∈ overlappingSpans, Increasing spans := by
    intro spans hspans
    simp only [overlappingSpans, List.mem_cons, List.not_mem_nil, or_false] at hspans
    rcases hspans with rfl | rfl
    · exact ⟨by decide, by decide⟩
    · exact ⟨by decide, by decide⟩
  obtain ⟨hescape, -, -, hquery, -⟩ :=
    escapeOutside_marks_unprotected overlappingSpans "(.)é*?+" h
  refine ⟨h, ?_, ?_⟩
  · rw [hescape]
    decide
  · exact (hquery [0, 1, 5] 6 (by decide)).2 (by decide)

end RouteTable.Pattern
