import RouteTable.Proofs.Pattern.Reading
import RouteTable.Proofs.Pattern.Words
import RouteTable.Proofs.Template.Fault
import RouteTable.Proofs.Template.Resolve
import RouteTable.Proofs.Wildcard.Sweep
/-!
# The language of a resolved path

The matcher of a path accepts a slash or none, a text for every token of the
path, and again a slash or none unless the path ends in one: `matcher_language`.
-/

namespace RouteTable.Wildcard

open RouteTable.Pattern
open RouteTable.Template
open RouteTable.Text

/-- The texts that a token stands for. -/
def PathToken.Stands : PathToken → List Char → Prop
  | literal c, w => w = [c]
  | segment _, w => w ≠ [] ∧ '/' ∉ w
  | star, w => '/' ∉ w
  | doubleStar, w => '\n' ∉ w
  | question, w => ∃ c, w = [c] ∧ c ≠ '\n'

def Spells : List PathToken → List Char → Prop
  | [], w => w = []
  | t :: ts, w => ∃ u v, w = u ++ v ∧ t.Stands u ∧ Spells ts v

def body : List PathToken → List PathToken
  | .literal '/' :: ts => ts
  | ts => ts

def endsInSlash (ts : List PathToken) : Bool := ts.getLast? = some (.literal '/')

def PathToken.piece : PathToken → Piece
  | .literal c => .literal c
  | .segment _ => .segment
  | .star => .star
  | .doubleStar => .dotStar
  | .question => .dot

@[simp] theorem text_piece (t : PathToken) : t.piece.text = t.fragment := by
  cases t <;> rfl

def pieces (ts : List PathToken) : List Piece :=
  [.optionalSlash] ++ (body ts).map PathToken.piece ++
    if endsInSlash (body ts) then [] else [.optionalSlash]

theorem head?_fragment_append {t : PathToken} {cs : List Char} :
    (t.fragment ++ cs).head? = some '/' ↔ t = .literal '/' := by
  cases t with
  | literal c =>
      by_cases hc : c = '/'
      · simp [hc, PathToken.fragment, PathToken.escapeLiteral, specialCharacters]
      · change ((if specialCharacters.contains c then ['\\', c] else [c]) ++ cs).head? = _ ↔ _
        split <;> simp [hc]
  | _ => simp [PathToken.fragment]

theorem getLast?_append_fragment {t : PathToken} {cs : List Char} :
    (cs ++ t.fragment).getLast? = some '/' ↔ t = .literal '/' := by
  cases t with
  | literal c =>
      by_cases hc : c = '/'
      · simp [hc, PathToken.fragment, PathToken.escapeLiteral, specialCharacters]
      · change (cs ++ if specialCharacters.contains c then ['\\', c] else [c]).getLast? = _ ↔ _
        split <;> simp [hc]
  | _ => simp [PathToken.fragment]

theorem withoutLeadingSlash_of_head?_ne {cs : List Char} (h : cs.head? ≠ some '/') :
    withoutLeadingSlash cs = cs := by
  unfold withoutLeadingSlash
  split
  · exact absurd rfl h
  · rfl

theorem body_of_head?_ne {ts : List PathToken} (h : ts.head? ≠ some (.literal '/')) :
    body ts = ts := by
  unfold body
  split
  · exact absurd rfl h
  · rfl

/-- Where only a slash is written with a slash at the beginning, it is a token that is left
out. -/
theorem withoutLeadingSlash_flatMap_of {write : PathToken → List Char}
    (hslash : write (.literal '/') = ['/'])
    (hhead : ∀ t cs, (write t ++ cs).head? = some '/' → t = .literal '/') (ts : List PathToken) :
    withoutLeadingSlash (ts.flatMap write) = (body ts).flatMap write := by
  cases ts with
  | nil => rfl
  | cons t ts =>
      by_cases ht : t = .literal '/'
      · rw [ht, List.flatMap_cons, hslash]
        rfl
      · rw [body_of_head?_ne (by simpa using ht), withoutLeadingSlash_of_head?_ne]
        rw [List.flatMap_cons]
        exact fun hwritten => ht (hhead t _ hwritten)

theorem withoutLeadingSlash_flatMap (ts : List PathToken) :
    withoutLeadingSlash (ts.flatMap PathToken.fragment) =
      (body ts).flatMap PathToken.fragment :=
  withoutLeadingSlash_flatMap_of rfl (fun _ _ => head?_fragment_append.1) ts

theorem getLast?_flatMap_fragment {ts : List PathToken} :
    (ts.flatMap PathToken.fragment).getLast? = some '/' ↔ endsInSlash ts = true := by
  rw [endsInSlash, decide_eq_true_iff]
  cases hlast : ts.getLast? with
  | none => simp [List.getLast?_eq_none_iff.1 hlast]
  | some t =>
      obtain ⟨ts, rfl⟩ := List.getLast?_eq_some_iff.1 hlast
      rw [List.flatMap_append, List.flatMap_singleton, getLast?_append_fragment, Option.some_inj]

theorem withOptionalSlashes_flatMap (ts : List PathToken) :
    withOptionalSlashes (ts.flatMap PathToken.fragment) = (pieces ts).flatMap (·.text) := by
  have hlast (cs : List Char) :
      ("/?".toList ++ cs).getLast? = some '/' ↔ cs.getLast? = some '/' := by
    cases cs <;> simp
  simp only [withOptionalSlashes, withoutLeadingSlash_flatMap, hlast, getLast?_flatMap_fragment]
  unfold pieces
  split
  all_goals simp [List.flatMap_append, List.flatMap_map, Piece.optionalSlash]

theorem forall_compl_single_iff {c : Char} {w : List Char} :
    (∀ d ∈ w, (CharSet.compl (.single c)).contains d = true) ↔ c ∉ w := by
  simp only [CharSet.contains, CharSet.contains_single, Bool.not_eq_eq_eq_not, Bool.not_true,
    decide_eq_false_iff_not]
  exact ⟨fun h hc => h c hc rfl, fun h d hd heq => h (heq ▸ hd)⟩

theorem matches_piece_iff {t : PathToken} {before after : Option Char} {w : List Char} :
    Matches t.piece.regex before w after ↔ t.Stands w := by
  cases t with
  | literal c =>
      change Matches (.atom (.single c)) before w after ↔ w = [c]
      simp
  | segment _ =>
      change Matches (.plus false (.atom (.compl (.single '/')))) before w after ↔ _
      rw [Matches.plus_atom_iff, forall_compl_single_iff]
      rfl
  | star =>
      change Matches (.star false (.atom (.compl (.single '/')))) before w after ↔ _
      rw [Matches.star_atom_iff, forall_compl_single_iff]
      rfl
  | doubleStar =>
      change Matches (.star false (.atom (.compl (.single '\n')))) before w after ↔ _
      rw [Matches.star_atom_iff, forall_compl_single_iff]
      rfl
  | question =>
      change Matches (.atom .anyButNewline) before w after ↔ ∃ c, w = [c] ∧ c ≠ '\n'
      simp

theorem matchesAll_piece_iff {ts : List PathToken} {before after : Option Char} {w : List Char} :
    MatchesAll ((ts.map PathToken.piece).map Piece.regex) before w after ↔ Spells ts w := by
  induction ts generalizing before w with
  | nil => rfl
  | cons t ts ih => simp only [List.map_cons, MatchesAll, Spells, matches_piece_iff, ih]

theorem matchesAll_optionalSlash_iff {before after : Option Char} {w : List Char} :
    MatchesAll [Piece.optionalSlash.regex] before w after ↔ w = [] ∨ w = ['/'] := by
  have hslash {before after : Option Char} {w : List Char} :
      Matches Piece.optionalSlash.regex before w after ↔ w = [] ∨ w = ['/'] := by
    change Matches (.opt false (.atom (.single '/'))) before w after ↔ _
    exact Matches.opt_single_iff
  simp [MatchesAll, hslash]

theorem matchesAll_pieces_iff {ts : List PathToken} {q : List Char} :
    MatchesAll ((pieces ts).map Piece.regex) none q none ↔
      ∃ s₀ w s₁, q = s₀ ++ w ++ s₁ ∧ (s₀ = [] ∨ s₀ = ['/']) ∧ Spells (body ts) w ∧
        (s₁ = [] ∨ s₁ = ['/'] ∧ endsInSlash (body ts) = false) := by
  have hend {before : Option Char} {w : List Char} :
      MatchesAll ((if endsInSlash (body ts) then [] else [Piece.optionalSlash]).map
          Piece.regex) before w none ↔
        w = [] ∨ w = ['/'] ∧ endsInSlash (body ts) = false := by
    split
    · simp [MatchesAll, *]
    · simp_all [matchesAll_optionalSlash_iff]
  rw [pieces, List.map_append, List.map_append, matchesAll_append]
  simp only [matchesAll_append, List.map_singleton, matchesAll_optionalSlash_iff,
    matchesAll_piece_iff, hend]
  constructor
  · rintro ⟨_, s₁, rfl, ⟨s₀, w, rfl, h₀, hw⟩, h₁⟩
    exact ⟨s₀, w, s₁, rfl, h₀, hw, h₁⟩
  · rintro ⟨s₀, w, s₁, rfl, h₀, hw, h₁⟩
    exact ⟨s₀ ++ w, s₁, rfl, ⟨s₀, w, rfl, h₀, hw⟩, h₁⟩

theorem accepts_iff_of_program_eq {m : Matcher} {ts : List PathToken}
    (hprogram : m.program = anchoredProgram (pieces ts)) (q : String) :
    m.accepts q = true ↔
      ∃ s₀ w s₁, q.toList = s₀ ++ w ++ s₁ ∧ (s₀ = [] ∨ s₀ = ['/']) ∧ Spells (body ts) w ∧
        (s₁ = [] ∨ s₁ = ['/'] ∧ endsInSlash (body ts) = false) := by
  rw [Matcher.accepts, Matcher.regex, hprogram, regex_anchoredProgram, anchoredRegex,
    occursIn_anchored_iff, matches_concat_iff, matchesAll_pieces_iff]

theorem ofFragment?_of_read? {fragment : String} {program : Program}
    (h : Program.read? (anchored fragment.toList) = some program) :
    ∃ m, Matcher.ofFragment? fragment = some m ∧ m.program = program := by
  unfold Matcher.ofFragment?
  split
  · rename_i hnone
    simp [h] at hnone
  · rename_i program' hsome
    exact ⟨_, rfl, Option.some.inj (hsome.symm.trans h)⟩

theorem readFragment_of_read? {fragment : String} {program : Program}
    (h : Program.read? (anchored fragment.toList) = some program) :
    ∃ m, readFragment fragment = .ok m ∧ m.program = program := by
  obtain ⟨m, hm, hprogram⟩ := ofFragment?_of_read? h
  exact ⟨m, by rw [readFragment, hm], hprogram⟩

theorem fragment_eq_ok_iff {path text : String} :
    fragment path = .ok text ↔
      (∃ segs, segments false path = .ok segs) ∧ sentinel ∉ path.toList ∧
        String.ofList (withOptionalSlashes (sweep path).toList) = text := by
  simp only [fragment, bind_eq_ok_iff, ← offsetOf?_eq_none_iff]
  cases offsetOf? sentinel path.toList with
  | none => simp [pure, Except.pure]
  | some offset => simp

/-- The errors of a path tell what is wrong with its braces, or where the sentinel
is. -/
theorem fragment_eq_error {path : String} {e : TemplateError} (h : fragment path = .error e) :
    ∃ fault, e = .malformed path fault ∧
      fault.kind ∈ [.unclosedVariable, .emptyVariable, .nestedBrace, .unmatchedBrace,
        .reservedCharacter] := by
  rcases bind_eq_error_iff.1 h with hbraces | ⟨segs, -, hsentinel⟩
  · obtain ⟨fault, hfault, rfl⟩ := segments_eq_error hbraces
    have hkind := kind_of_segmentsFrom_false hfault
    simp only [List.mem_cons, List.not_mem_nil, or_false] at hkind
    refine ⟨fault, rfl, ?_⟩
    rcases hkind with hkind | hkind | hkind | hkind <;> simp [hkind]
  · split at hsentinel
    · cases hsentinel
      exact ⟨_, rfl, by simp⟩
    · cases hsentinel

/-- The pattern text of a path can always be read. -/
theorem matcher_of_fragment {path text : String} (h : fragment path = .ok text) :
    ∃ m, matcher path = .ok m ∧
      m.program = anchoredProgram (pieces (PathToken.read path.toList)) := by
  let ts := PathToken.read path.toList
  obtain ⟨⟨segs, hbraces⟩, hsentinel, htext⟩ := fragment_eq_ok_iff.1 h
  have hreads : Reads path.toList ts := reads_read (segments_eq_ok_iff.1 hbraces) hsentinel
  rw [toList_sweep hreads, withOptionalSlashes_flatMap] at htext
  have hread : Program.read? (anchored text.toList) = some (anchoredProgram (pieces ts)) := by
    rw [← htext, String.toList_ofList, read?_anchored]
  obtain ⟨m, hm, hprogram⟩ := readFragment_of_read? hread
  refine ⟨m, ?_, hprogram⟩
  rw [matcher, h]
  exact hm

theorem matcher_eq_error_iff {path : String} {e : TemplateError} :
    matcher path = .error e ↔ fragment path = .error e := by
  cases hfragment : fragment path with
  | error e' =>
      rw [matcher, hfragment]
      change Except.error e' = Except.error e ↔ _
      rw [Except.error.injEq, Except.error.injEq]
  | ok text =>
      obtain ⟨m, hm, -⟩ := matcher_of_fragment hfragment
      simp [hm]

theorem exists_fragment_of_matcher {path : String} {m : Matcher} (h : matcher path = .ok m) :
    ∃ text, fragment path = .ok text := by
  obtain ⟨text, htext, -⟩ := bind_eq_ok_iff.1 h
  exact ⟨text, htext⟩

/-- A path has a matcher if and only if its braces are well formed and it does not
hold the sentinel.  What the matcher accepts follows from the tokens of the path. -/
theorem matcher_language (path : String) :
    ((∃ m, matcher path = .ok m) ↔
      (∃ segs, segments false path = .ok segs) ∧ sentinel ∉ path.toList) ∧
    (∀ text message, matcher path ≠ .error (.invalidPattern text message)) ∧
    ∀ m, matcher path = .ok m → ∀ q : String,
      m.accepts q = true ↔
        ∃ s₀ w s₁, q.toList = s₀ ++ w ++ s₁ ∧ (s₀ = [] ∨ s₀ = ['/']) ∧
          Spells (body (PathToken.read path.toList)) w ∧
          (s₁ = [] ∨ s₁ = ['/'] ∧ endsInSlash (body (PathToken.read path.toList)) = false) := by
  refine ⟨⟨?_, ?_⟩, ?_, ?_⟩
  · rintro ⟨m, hm⟩
    obtain ⟨text, htext⟩ := exists_fragment_of_matcher hm
    obtain ⟨hbraces, hsentinel, -⟩ := fragment_eq_ok_iff.1 htext
    exact ⟨hbraces, hsentinel⟩
  · rintro ⟨hbraces, hsentinel⟩
    obtain ⟨m, hm, -⟩ := matcher_of_fragment (fragment_eq_ok_iff.2 ⟨hbraces, hsentinel, rfl⟩)
    exact ⟨m, hm⟩
  · intro text message herror
    obtain ⟨fault, heq, -⟩ := fragment_eq_error (matcher_eq_error_iff.1 herror)
    cases heq
  · intro m hm q
    obtain ⟨text, htext⟩ := exists_fragment_of_matcher hm
    obtain ⟨m', hm', hprogram⟩ := matcher_of_fragment htext
    obtain rfl : m = m' := Except.ok.inj (hm.symm.trans hm')
    exact accepts_iff_of_program_eq hprogram q

/-- A dot stands for itself, two stars for several parts of a path, and the slash at
the end can be added. -/
theorem matcher_language_versioned :
    ∃ m, matcher "/v1.\x7bid\x7d/**" = .ok m ∧ m.accepts "v1.7/a/b/" = true := by
  have hbraces : ∃ segs, segments false "/v1.\x7bid\x7d/**" = .ok segs := by
    simp [segments, segmentsFrom, closing, pathVariable, offsetOf?, consLiteral, Except.map,
      mapError_ok, bind, Except.bind, pure, Except.pure]
  have hread : body (PathToken.read "/v1.\x7bid\x7d/**".toList) =
      [.literal 'v', .literal '1', .literal '.', .segment "id".toList, .literal '/',
        .doubleStar] := by
    simp [PathToken.read, body]
  have hvariable : (PathToken.segment "id".toList).Stands ['7'] := by simp [PathToken.Stands]
  have hstars : PathToken.doubleStar.Stands "a/b".toList := by simp [PathToken.Stands]
  obtain ⟨hcompiles, -, haccepts⟩ := matcher_language "/v1.\x7bid\x7d/**"
  obtain ⟨m, hm⟩ := hcompiles.2 ⟨hbraces, by decide⟩
  refine ⟨m, hm, (haccepts m hm _).2 ⟨[], "v1.7/a/b".toList, ['/'], rfl, .inl rfl, ?_, ?_⟩⟩
  · rw [hread]
    exact ⟨['v'], _, rfl, rfl, ['1'], _, rfl, rfl, ['.'], _, rfl, rfl, ['7'], _, rfl, hvariable,
      ['/'], _, rfl, rfl, "a/b".toList, _, rfl, hstars, rfl⟩
  · rw [hread]
    exact .inr ⟨rfl, rfl⟩

end RouteTable.Wildcard
