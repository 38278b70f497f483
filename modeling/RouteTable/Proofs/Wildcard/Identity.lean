import RouteTable.Proofs.Wildcard.Request
/-!
# Identity of pattern texts

Two paths have the same pattern text if and only if they differ in the names of their
variables and in the slash at the beginning only.  The pattern text can be read back token by
token, names aside: `readFragment_flatMap`.  Main statement: `fragment_eq_iff_nameless_eq`.
-/

namespace RouteTable.Wildcard

open RouteTable.Pattern
open RouteTable.Template

def PathToken.nameless : PathToken → PathToken
  | segment _ => segment ['x']
  | t => t

/-- The path with one name for all its variables, and without a slash that it begins with. -/
def nameless (path : String) : List Char :=
  withoutLeadingSlash (pathVariablePattern.replaceAll "\x7bx\x7d" path).toList

section

variable {path : List Char} {ts ts' : List PathToken}

theorem body_map_nameless (ts : List PathToken) :
    body (ts.map PathToken.nameless) = (body ts).map PathToken.nameless := by
  cases ts with
  | nil => rfl
  | cons t ts =>
      by_cases ht : t = .literal '/'
      · subst ht
        rfl
      · have hnameless : t.nameless ≠ .literal '/' := by cases t <;> simp_all [PathToken.nameless]
        rw [body_of_head?_ne (by simpa using hnameless), body_of_head?_ne (by simpa using ht)]

theorem head?_flatMap_text_nameless (ts : List PathToken) :
    ((ts.map PathToken.nameless).flatMap PathToken.text).head? =
      (ts.flatMap PathToken.text).head? := by
  cases ts with
  | nil => rfl
  | cons t ts => cases t <;> rfl

theorem Reads.map_nameless (h : Reads path ts) :
    Reads ((ts.map PathToken.nameless).flatMap PathToken.text) (ts.map PathToken.nameless) := by
  induction h with
  | nil => exact .nil
  | literal hc _ ih => exact .literal hc ih
  | segment _ _ _ ih =>
      exact .segment (List.cons_ne_nil 'x' []) (by simp [IsBody]) ih
  | doubleStar _ ih => exact .doubleStar ih
  | star hstar hcs ih =>
      rw [← hcs.text_eq, ← head?_flatMap_text_nameless] at hstar
      exact .star hstar ih
  | question _ ih => exact .question ih

theorem Reads.body (h : Reads path ts) :
    Reads ((Wildcard.body ts).flatMap PathToken.text) (Wildcard.body ts) := by
  by_cases hhead : ts.head? = some (.literal '/')
  · obtain ⟨rest, rfl⟩ := List.head?_eq_some_iff.1 hhead
    exact h.tail
  · rw [body_of_head?_ne hhead, h.text_eq]
    exact h

theorem Reads.flatMap_text_injective {path' : List Char} (h : Reads path ts) (h' : Reads path' ts')
    (htext : ts.flatMap PathToken.text = ts'.flatMap PathToken.text) : ts = ts' := by
  rw [← h.read_eq, ← h'.read_eq, ← h.text_eq, ← h'.text_eq, htext]

theorem PathToken.head?_text_append {t : PathToken} {cs : List Char} :
    (t.text ++ cs).head? = some '/' ↔ t = .literal '/' := by
  cases t <;> simp [text]

theorem nameless_eq_flatMap {path : String} (h : Reads path.toList ts) :
    nameless path = ((Wildcard.body ts).map PathToken.nameless).flatMap PathToken.text := by
  have hreplaced : replaceBy findVariable "\x7bx\x7d".toList (ts.flatMap PathToken.text) =
      ts.flatMap fun t => t.nameless.text := by
    refine startsWith_findVariable.replaceBy_flatMap fun t ht => ?_
    have hwell := h.isWellFormed t ht
    cases t with
    | literal c => exact .inl ⟨by simpa [PathToken.text] using Ne.symm hwell.ne_open, rfl⟩
    | segment name =>
        exact .inr ⟨by simp [PathToken.text], findVariable_append hwell.1 hwell.2, rfl⟩
    | star | doubleStar | question => exact .inl ⟨by simp [PathToken.text], rfl⟩
  rw [h.text_eq] at hreplaced
  rw [nameless, finds_variable.toList_replaceAll, hreplaced, ← List.flatMap_map,
    withoutLeadingSlash_flatMap_of rfl (fun _ _ => PathToken.head?_text_append.1),
    body_map_nameless]

theorem nameless_eq_iff {path path' : String} (h : Reads path.toList ts)
    (h' : Reads path'.toList ts') :
    nameless path = nameless path' ↔
      (Wildcard.body ts).map PathToken.nameless = (Wildcard.body ts').map PathToken.nameless := by
  rw [nameless_eq_flatMap h, nameless_eq_flatMap h']
  exact ⟨h.body.map_nameless.flatMap_text_injective h'.body.map_nameless, fun heq => by rw [heq]⟩

/-- The tokens with this pattern text.  A star belongs to the dot or to the class before it. -/
def PathToken.readFragment : List Char → List PathToken
  | [] => []
  | '\\' :: c :: cs => literal c :: readFragment cs
  | '[' :: '^' :: '/' :: ']' :: '+' :: cs => segment ['x'] :: readFragment cs
  | '[' :: '^' :: '/' :: ']' :: '*' :: cs => star :: readFragment cs
  | '.' :: '*' :: cs => doubleStar :: readFragment cs
  | '.' :: cs => question :: readFragment cs
  | c :: cs => literal c :: readFragment cs

theorem PathToken.readFragment_append (t : PathToken) {cs : List Char}
    (hcs : cs.head? ≠ some '*') :
    readFragment (t.fragment ++ cs) = t.nameless :: readFragment cs := by
  cases t with
  | literal c =>
      by_cases hc : specialCharacters.contains c
      · rw [fragment, escapeLiteral, if_pos hc]
        rfl
      · rw [fragment, escapeLiteral, if_neg hc, List.singleton_append, readFragment]
        · rfl
        all_goals
          intros
          simp_all [specialCharacters]
  | question =>
      change readFragment ('.' :: cs) = _
      rw [readFragment]
      · rfl
      · rintro cs' rfl
        exact hcs rfl
  | segment _ | star | doubleStar => rfl

theorem head?_flatMap_fragment_ne_star (ts : List PathToken) :
    (ts.flatMap PathToken.fragment).head? ≠ some '*' := by
  cases ts with
  | nil => simp
  | cons t ts =>
      cases t with
      | literal c =>
          rw [List.flatMap_cons, PathToken.fragment, head?_append_escapeLiteral,
            PathToken.escapeLiteral]
          split
          · simp
          · rename_i hc
            rintro heq
            cases heq
            exact hc (by decide)
      | _ => simp [PathToken.fragment]

theorem readFragment_flatMap (ts : List PathToken) :
    PathToken.readFragment (ts.flatMap PathToken.fragment) = ts.map PathToken.nameless := by
  induction ts with
  | nil => rfl
  | cons t ts ih =>
      rw [List.flatMap_cons, t.readFragment_append (head?_flatMap_fragment_ne_star ts), ih,
        List.map_cons]

theorem flatMap_fragment_eq_iff :
    ts.flatMap PathToken.fragment = ts'.flatMap PathToken.fragment ↔
      ts.map PathToken.nameless = ts'.map PathToken.nameless := by
  constructor
  · intro h
    rw [← readFragment_flatMap, h, readFragment_flatMap]
  · intro h
    have hnameless (ts : List PathToken) :
        (ts.map PathToken.nameless).flatMap PathToken.fragment =
          ts.flatMap PathToken.fragment := by
      rw [List.flatMap_map]
      congr 1
      funext t
      cases t <;> rfl
    rw [← hnameless ts, h, hnameless ts']

end

/-- The slashes that are put around a text can be told from it: its own slash at the end is
followed by no question mark. -/
theorem withOptionalSlashes_eq_iff {xs ys : List Char} :
    withOptionalSlashes xs = withOptionalSlashes ys ↔
      withoutLeadingSlash xs = withoutLeadingSlash ys := by
  constructor
  · intro h
    simp only [withOptionalSlashes] at h
    split at h <;> split at h
    · exact List.append_cancel_left h
    · rename_i hlast _
      rw [h, List.getLast?_append] at hlast
      cases hlast
    · rename_i hlast
      rw [← h, List.getLast?_append] at hlast
      cases hlast
    · exact List.append_cancel_left (List.append_cancel_right h)
  · intro h
    rw [withOptionalSlashes, withOptionalSlashes, h]

theorem fragment_of_matcher {path : String} {m : Matcher} (h : matcher path = .ok m) :
    fragment path = .ok m.fragment := by
  obtain ⟨text, htext, hm⟩ := bind_eq_ok_iff.1 h
  rw [htext, fragment_of_readFragment hm]

/-- Paths with pattern texts have the same one, and the same matcher, exactly if they are the
same path but for the names of their variables and for a slash at the beginning. -/
theorem fragment_eq_iff_nameless_eq {path path' text text' : String}
    (h : fragment path = .ok text) (h' : fragment path' = .ok text') :
    (text = text' ↔ nameless path = nameless path') ∧
    ∃ m m', matcher path = .ok m ∧ matcher path' = .ok m' ∧
      m.fragment = text ∧ m'.fragment = text' ∧
      (m = m' ↔ nameless path = nameless path') := by
  obtain ⟨m, hm, -⟩ := matcher_of_fragment h
  obtain ⟨m', hm', -⟩ := matcher_of_fragment h'
  have hfragment : m.fragment = text := Except.ok.inj ((fragment_of_matcher hm).symm.trans h)
  have hfragment' : m'.fragment = text' := Except.ok.inj ((fragment_of_matcher hm').symm.trans h')
  have hreads := (reads_of_matcher hm).1
  have hreads' := (reads_of_matcher hm').1
  have htext : text = text' ↔ nameless path = nameless path' := by
    obtain ⟨-, -, rfl⟩ := fragment_eq_ok_iff.1 h
    obtain ⟨-, -, rfl⟩ := fragment_eq_ok_iff.1 h'
    rw [String.ofList_inj, withOptionalSlashes_eq_iff, toList_sweep hreads, toList_sweep hreads',
      withoutLeadingSlash_flatMap, withoutLeadingSlash_flatMap, flatMap_fragment_eq_iff,
      nameless_eq_iff hreads hreads']
  refine ⟨htext, m, m', hm, hm', hfragment, hfragment', ?_⟩
  rw [← Matcher.fragment_inj, hfragment, hfragment', htext]

/-- Names and the first slash do not count, but a question mark with a star is not the same as
two stars. -/
theorem fragment_eq_iff_nameless_eq_items :
    ∃ text, fragment "/\x7bid\x7d/**" = .ok text ∧ fragment "\x7bn*\x7d/**" = .ok text ∧
      ∃ text', fragment "\x7bid\x7d/?*" = .ok text' ∧ text' ≠ text := by
  have hplain : IsPlain '/' := ⟨by decide, by decide, by decide, by decide, by decide⟩
  have hstars : Reads "/**".toList [.literal '/', .doubleStar] := .literal hplain (.doubleStar .nil)
  have hquestion : Reads "/?*".toList [.literal '/', .question, .star] :=
    .literal hplain (.question (.star (by simp) .nil))
  have hid : Reads "/\x7bid\x7d/**".toList [.literal '/', .segment "id".toList, .literal '/',
      .doubleStar] :=
    .literal hplain (.segment (List.cons_ne_nil 'i' ['d']) (by simp [IsBody]) hstars)
  have hn : Reads "\x7bn*\x7d/**".toList [.segment "n*".toList, .literal '/', .doubleStar] :=
    .segment (List.cons_ne_nil 'n' ['*']) (by simp [IsBody]) hstars
  have hid' : Reads "\x7bid\x7d/?*".toList [.segment "id".toList, .literal '/', .question,
      .star] :=
    .segment (List.cons_ne_nil 'i' ['d']) (by simp [IsBody]) hquestion
  obtain ⟨text, htext⟩ := exists_fragment hid.isTemplate (by decide)
  obtain ⟨same, hsame⟩ := exists_fragment hn.isTemplate (by decide)
  obtain ⟨text', htext'⟩ := exists_fragment hid'.isTemplate (by decide)
  have hnames : text = same := by
    refine (fragment_eq_iff_nameless_eq htext hsame).1.2 ?_
    rw [nameless_eq_iff hid hn]
    rfl
  refine ⟨text, htext, hnames ▸ hsame, text', htext', fun heq => ?_⟩
  have hnameless := (fragment_eq_iff_nameless_eq htext' htext).1.1 heq
  rw [nameless_eq_iff hid' hid] at hnameless
  exact absurd hnameless (by decide)

end RouteTable.Wildcard
