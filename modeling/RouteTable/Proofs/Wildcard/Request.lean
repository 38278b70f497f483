import RouteTable.Proofs.Wildcard.Language
/-!
# Requests of a path

What a path serves follows from its tokens, and so does the path itself: the tokens
are written one after the other.  Main statement: `slash_tolerance`, a slash at
either end of a request can be added, and the slash that a path ends in is needed.
-/

namespace RouteTable.Wildcard

open RouteTable.Pattern
open RouteTable.Template

namespace PathToken

def text : PathToken → List Char
  | literal c => [c]
  | segment name => '{' :: (name ++ ['}'])
  | star => ['*']
  | doubleStar => ['*', '*']
  | question => ['?']

theorem text_ne_nil (t : PathToken) : t.text ≠ [] := by
  cases t <;> simp [text]

theorem getLast?_append_text {t : PathToken} {cs : List Char} :
    (cs ++ t.text).getLast? = some '/' ↔ t = .literal '/' := by
  cases t with
  | segment name =>
      rw [text, ← List.cons_append, ← List.append_assoc, List.getLast?_concat]
      simp
  | _ => simp [text]

end PathToken

section

variable {path : List Char} {ts : List PathToken}

theorem Reads.text_eq (h : Reads path ts) : ts.flatMap PathToken.text = path := by
  induction h with
  | nil => rfl
  | literal _ _ ih | segment _ _ _ ih | doubleStar _ ih | star _ _ ih | question _ ih =>
      simp [PathToken.text, ih]

theorem Reads.read_eq (h : Reads path ts) : PathToken.read path = ts := by
  induction h with
  | nil => rw [PathToken.read]
  | literal hc _ ih =>
      rw [PathToken.read, ih]
      · exact fun _ heq _ => hc.ne_star heq
      · exact hc.ne_star
      · exact hc.ne_question
      · exact hc.ne_open
  | segment _ hbody _ ih =>
      rw [PathToken.read, takeWhile_body hbody.2, dropWhile_body hbody.2, ih]
  | doubleStar _ ih | question _ ih => rw [PathToken.read, ih]
  | star hstar _ ih =>
      rw [PathToken.read, ih]
      rintro cs rfl
      exact hstar rfl

theorem Reads.tail {t : PathToken} (h : Reads path (t :: ts)) :
    Reads (ts.flatMap PathToken.text) ts := by
  cases h with
  | literal _ hcs | segment _ _ hcs | doubleStar hcs | star _ hcs | question hcs =>
      rwa [hcs.text_eq]

theorem Reads.isTemplate (h : Reads path ts) : IsTemplate false path := by
  induction h with
  | nil => exact .nil
  | literal hc _ ih =>
      exact ih.append_body (w := [_]) (by simp [IsBody, Ne.symm hc.ne_open, Ne.symm hc.ne_close])
  | segment hname hbody _ ih =>
      obtain ⟨segments, hsegments⟩ := ih
      exact ⟨_, .pathVariable hname hbody hsegments⟩
  | doubleStar _ ih => exact ih.append_body (w := ['*', '*']) (by simp [IsBody])
  | star _ _ ih => exact ih.append_body (w := ['*']) (by simp [IsBody])
  | question _ ih => exact ih.append_body (w := ['?']) (by simp [IsBody])

theorem endsInSlash_iff :
    endsInSlash ts = true ↔ (ts.flatMap PathToken.text).getLast? = some '/' := by
  rw [endsInSlash, decide_eq_true_iff]
  cases hlast : ts.getLast? with
  | none => simp [List.getLast?_eq_none_iff.1 hlast]
  | some t =>
      obtain ⟨ts, rfl⟩ := List.getLast?_eq_some_iff.1 hlast
      rw [List.flatMap_append, List.flatMap_singleton, PathToken.getLast?_append_text,
        Option.some_inj]

theorem endsInSlash_body_iff :
    endsInSlash (body ts) = true ↔ endsInSlash ts = true ∧ ts ≠ [.literal '/'] := by
  by_cases hhead : ts.head? = some (.literal '/')
  · obtain ⟨rest, rfl⟩ := List.head?_eq_some_iff.1 hhead
    cases rest with
    | nil => simp [body, endsInSlash]
    | cons t rest => simp [body, endsInSlash]
  · rw [body_of_head?_ne hhead, iff_self_and]
    rintro - rfl
    exact hhead rfl

theorem Reads.endsInSlash_body_iff (h : Reads path ts) :
    endsInSlash (body ts) = true ↔ path.getLast? = some '/' ∧ path ≠ ['/'] := by
  rw [Wildcard.endsInSlash_body_iff, endsInSlash_iff, ← h.text_eq]
  refine and_congr_right fun _ => not_congr ⟨?_, fun hslash => ?_⟩
  · rintro rfl
    rfl
  · have hread := h.read_eq
    rw [← h.text_eq, hslash] at hread
    rw [← hread]
    simp [PathToken.read]

end

theorem spells_append {ts ts' : List PathToken} {w : List Char} :
    Spells (ts ++ ts') w ↔ ∃ u v, w = u ++ v ∧ Spells ts u ∧ Spells ts' v := by
  induction ts generalizing w with
  | nil =>
      constructor
      · exact fun h => ⟨[], w, rfl, rfl, h⟩
      · rintro ⟨_, v, rfl, rfl, hv⟩
        exact hv
  | cons t ts ih =>
      simp only [List.cons_append, Spells, ih]
      constructor
      · rintro ⟨u, _, rfl, hu, v, z, rfl, hv, hz⟩
        exact ⟨u ++ v, z, by simp, ⟨u, v, rfl, hu, hv⟩, hz⟩
      · rintro ⟨_, z, rfl, ⟨u, v, rfl, hu, hv⟩, hz⟩
        exact ⟨u, v ++ z, by simp, hu, v, z, rfl, hv, hz⟩

theorem spells_map_literal {cs w : List Char} : Spells (cs.map .literal) w ↔ w = cs := by
  induction cs generalizing w with
  | nil => rfl
  | cons c cs ih => simp [Spells, PathToken.Stands, ih]

theorem Spells.getLast?_eq {ts : List PathToken} {w : List Char} (h : Spells ts w)
    (hslash : endsInSlash ts = true) : w.getLast? = some '/' := by
  rw [endsInSlash, decide_eq_true_iff, List.getLast?_eq_some_iff] at hslash
  obtain ⟨front, rfl⟩ := hslash
  obtain ⟨u, _, rfl, -, _, _, rfl, rfl, rfl⟩ := spells_append.1 h
  simp

/-- The requests of a path with these tokens: a slash or none, a text for each token, and
again a slash or none unless the last token is one. -/
def Serves (ts : List PathToken) (q : List Char) : Prop :=
  ∃ s₀ w s₁, q = s₀ ++ w ++ s₁ ∧ (s₀ = [] ∨ s₀ = ['/']) ∧ Spells (body ts) w ∧
    (s₁ = [] ∨ s₁ = ['/'] ∧ endsInSlash (body ts) = false)

section

variable {path : String} {m : Matcher}

theorem exists_fragment (hbraces : IsTemplate false path.toList)
    (hsentinel : sentinel ∉ path.toList) : ∃ text, fragment path = .ok text := by
  obtain ⟨segs, hsegs⟩ := hbraces
  exact ⟨_, fragment_eq_ok_iff.2 ⟨⟨segs, segments_eq_ok_iff.2 hsegs⟩, hsentinel, rfl⟩⟩

theorem exists_fragment_of_isBody (path : String) (hbody : IsBody path.toList)
    (hsentinel : sentinel ∉ path.toList) : ∃ text, fragment path = .ok text :=
  exists_fragment (by simpa using IsTemplate.nil.append_body hbody) hsentinel

theorem reads_of_matcher (h : matcher path = .ok m) :
    Reads path.toList (PathToken.read path.toList) ∧ sentinel ∉ path.toList := by
  obtain ⟨text, htext⟩ := exists_fragment_of_matcher h
  obtain ⟨⟨segs, hbraces⟩, hsentinel, -⟩ := fragment_eq_ok_iff.1 htext
  exact ⟨reads_read (segments_eq_ok_iff.1 hbraces) hsentinel, hsentinel⟩

theorem accepts_iff_serves (h : matcher path = .ok m) (q : String) :
    m.accepts q = true ↔ Serves (PathToken.read path.toList) q.toList := by
  obtain ⟨text, htext⟩ := exists_fragment_of_matcher h
  obtain ⟨m', hm, hprogram⟩ := matcher_of_fragment htext
  obtain rfl : m = m' := Except.ok.inj (h.symm.trans hm)
  exact accepts_iff_of_program_eq hprogram q

end

section

variable {ts : List PathToken} {q : List Char}

theorem Serves.cons_slash (h : Serves ts q) (hq : q.head? ≠ some '/') : Serves ts ('/' :: q) := by
  obtain ⟨s₀, w, s₁, rfl, h₀, hw, h₁⟩ := h
  rcases h₀ with rfl | rfl
  · exact ⟨['/'], w, s₁, rfl, .inr rfl, hw, h₁⟩
  · simp at hq

theorem Serves.append_slash (h : Serves ts q) (hq : q.getLast? ≠ some '/')
    (hts : endsInSlash (body ts) = false) : Serves ts (q ++ ['/']) := by
  obtain ⟨s₀, w, s₁, rfl, h₀, hw, h₁⟩ := h
  rcases h₁ with rfl | ⟨rfl, -⟩
  · exact ⟨s₀, w, ['/'], by simp, h₀, hw, .inr ⟨rfl, hts⟩⟩
  · simp at hq

theorem Serves.getLast?_eq (h : Serves ts q) (hts : endsInSlash (body ts) = true) :
    q.getLast? = some '/' := by
  obtain ⟨s₀, w, s₁, rfl, -, hw, rfl | ⟨-, hnot⟩⟩ := h
  · rw [List.append_nil, List.getLast?_append, hw.getLast?_eq hts]
    rfl
  · simp [hts] at hnot

end

/-- A request can be written with the slash in front or without it, and with one at the
end or without it.  Where the path ends in a slash that it does not begin with, all of
its requests end in one. -/
theorem slash_tolerance {path text : String} (h : fragment path = .ok text) :
    ∃ m, matcher path = .ok m ∧
      (∀ q : String, q.toList.head? ≠ some '/' → m.accepts q = true →
        m.accepts ("/" ++ q) = true) ∧
      (path.toList.getLast? ≠ some '/' → ∀ q : String, q.toList.getLast? ≠ some '/' →
        m.accepts q = true → m.accepts (q ++ "/") = true) ∧
      (path.toList.getLast? = some '/' → path ≠ "/" → ∀ q : String,
        m.accepts q = true → q.toList.getLast? = some '/') := by
  obtain ⟨m, hm, -⟩ := matcher_of_fragment h
  have hbody := (reads_of_matcher hm).1.endsInSlash_body_iff
  refine ⟨m, hm, ?_⟩
  simp only [accepts_iff_serves hm, String.toList_append]
  refine ⟨fun q hq hserves => hserves.cons_slash hq, fun hpath q hq hserves => ?_,
    fun hpath hroot q hserves => hserves.getLast?_eq (hbody.2 ⟨hpath, ?_⟩)⟩
  · refine hserves.append_slash hq ?_
    rw [Bool.eq_false_iff, ne_eq, hbody]
    exact fun hslash => hpath hslash.1
  · exact fun heq => hroot (String.toList_injective heq)

/-- The only slash of the root is the one that can be left out. -/
theorem root_accepts_empty :
    "/".toList.getLast? = some '/' ∧
      ∃ m, matcher "/" = .ok m ∧ m.accepts "" = true ∧ "".toList.getLast? ≠ some '/' := by
  have hread : PathToken.read "/".toList = [.literal '/'] := by simp [PathToken.read]
  obtain ⟨text, htext⟩ := exists_fragment_of_isBody "/" (by simp [IsBody]) (by decide)
  obtain ⟨m, hm, -⟩ := matcher_of_fragment htext
  refine ⟨rfl, m, hm, (accepts_iff_serves hm _).2 ?_, by decide⟩
  rw [hread]
  exact ⟨[], [], [], rfl, .inl rfl, rfl, .inl rfl⟩

theorem slash_tolerance_docs :
    (∃ m, matcher "/docs/*" = .ok m ∧ m.accepts "docs/a" = true ∧ m.accepts "/docs/a" = true ∧
      m.accepts "docs/a/" = true) ∧
    ∃ m, matcher "/docs/*/" = .ok m ∧ m.accepts "docs/a" = false := by
  constructor
  · obtain ⟨text, htext⟩ := exists_fragment_of_isBody "/docs/*" (by simp [IsBody]) (by decide)
    obtain ⟨m, hm, hfront, hback, -⟩ := slash_tolerance htext
    have hread : PathToken.read "/docs/*".toList = "/docs/".toList.map .literal ++ [.star] := by
      simp [PathToken.read]
    have hserves : m.accepts "docs/a" = true := by
      rw [accepts_iff_serves hm, hread]
      exact ⟨[], _, [], rfl, .inl rfl, spells_append.2 ⟨"docs/".toList, ['a'], rfl,
        spells_map_literal.2 rfl, ['a'], [], rfl, by simp [PathToken.Stands], rfl⟩, .inl rfl⟩
    exact ⟨m, hm, hserves, hfront _ (by decide) hserves, hback (by decide) _ (by decide) hserves⟩
  · obtain ⟨text, htext⟩ := exists_fragment_of_isBody "/docs/*/" (by simp [IsBody]) (by decide)
    obtain ⟨m, hm, -, -, hend⟩ := slash_tolerance htext
    refine ⟨m, hm, Bool.eq_false_iff.2 fun hserves => ?_⟩
    exact absurd (hend (by decide) (by decide) _ hserves) (by decide)

end RouteTable.Wildcard
