import RouteTable.Proofs.Template.Join
/-!
# Where a scan stops

A template that cannot be read consists of a part that can be read and, after it, a
malformed token.  Main statements: `segmentsFrom_eq_error_iff`, the fault of a scan is
that of the first malformed token, with the offset at which it shows;
`StopsAt.front_eq`, there is only one place at which a scan can stop.
-/

namespace RouteTable.Template

open RouteTable.Text

/-! ## Malformed tokens -/

/-- The texts that begin with a malformed token, with the kind of its fault and the number
of bytes before the place at which the fault shows. -/
inductive Malformed (placeholders : Bool) : List Char → FaultKind → Nat → Prop where
  | unmatchedBrace (rest : List Char) : Malformed placeholders ('}' :: rest) .unmatchedBrace 0
  | unclosedPlaceholder {rest : List Char} (hplaceholders : placeholders = true)
      (hrest : '}' ∉ rest) :
      Malformed placeholders ('$' :: '{' :: rest) .unclosedPlaceholder 0
  | unclosedVariable {rest : List Char} (hrest : '}' ∉ rest) :
      Malformed placeholders ('{' :: rest) .unclosedVariable 0
  | nestedInPlaceholder {front back : List Char} (rest : List Char)
      (hplaceholders : placeholders = true) (hfront : IsBody front) (hback : '}' ∉ back) :
      Malformed placeholders ('$' :: '{' :: (front ++ '{' :: back ++ '}' :: rest))
        .nestedBrace (2 + width front)
  | nestedInVariable {front back : List Char} (rest : List Char)
      (hfront : IsBody front) (hback : '}' ∉ back) :
      Malformed placeholders ('{' :: (front ++ '{' :: back ++ '}' :: rest))
        .nestedBrace (1 + width front)
  | emptyPlaceholderKey {body : List Char} (rest : List Char)
      (hplaceholders : placeholders = true) (hbody : IsBody body)
      (hkey : body = [] ∨ body.head? = some ':') :
      Malformed placeholders ('$' :: '{' :: (body ++ '}' :: rest)) .emptyPlaceholderKey 0
  | emptyVariable (rest : List Char) :
      Malformed placeholders ('{' :: '}' :: rest) .emptyVariable 0

/-- Whether no placeholder begins with the last character of the front. -/
def Unopened (placeholders : Bool) (front back : List Char) : Prop :=
  ¬(placeholders = true ∧ front.getLast? = some '$' ∧ back.head? = some '{')

section

variable {placeholders : Bool} {c : Char} {front back : List Char}

theorem isLiteral_and_unopened_iff :
    IsLiteral placeholders c (front ++ back) ∧ Unopened placeholders front back ↔
      IsLiteral placeholders c front ∧ Unopened placeholders (c :: front) back := by
  cases front with
  | nil => simp [IsLiteral, Unopened, and_assoc]
  | cons d front => simp [IsLiteral, Unopened, List.getLast?_cons_of_ne_nil]

theorem unopened_close_iff (token : List Char) :
    Unopened placeholders (token ++ '}' :: front) back ↔ Unopened placeholders front back := by
  cases front with
  | nil => simp [Unopened]
  | cons d front => simp [Unopened, List.getLast?_cons]

end

/-! ## Tokens -/

section

variable {placeholders : Bool} {start : Nat} {front back body rest : List Char}

theorem keyAndDefault_fst_eq_nil_iff :
    (keyAndDefault body).1 = [] ↔ body = [] ∨ body.head? = some ':' := by
  cases body with
  | nil => simp [keyAndDefault]
  | cons c body =>
      by_cases hc : c = ':' <;> simp [keyAndDefault, hc]

theorem pathVariable_append (h : '{' ∉ front) :
    pathVariable start (front ++ '{' :: back) = .error ⟨.nestedBrace, start + 1 + width front⟩ := by
  rw [pathVariable, offsetOf?_append h]

theorem placeholder_append (h : '{' ∉ front) :
    placeholder start (front ++ '{' :: back) = .error ⟨.nestedBrace, start + 2 + width front⟩ := by
  rw [placeholder, offsetOf?_append h]

theorem placeholder_of_key_eq_nil (h : '{' ∉ body) (hkey : (keyAndDefault body).1 = []) :
    placeholder start body = .error ⟨.emptyPlaceholderKey, start⟩ := by
  rw [placeholder, (offsetOf?_eq_none_iff _ _).2 h]
  dsimp only
  rw [if_pos hkey]

end

/-! ## Fronts that can be read -/

section

variable {placeholders : Bool} {front back : List Char} {segments : List Segment}

theorem width_pathVariable (body rest : List Char) :
    width ('{' :: (body ++ '}' :: rest)) = width body + 2 + width rest := by
  rw [width_cons, width_append, width_cons, show '{'.utf8Size = 1 from rfl,
    show '}'.utf8Size = 1 from rfl]
  omega

theorem width_placeholder (body rest : List Char) :
    width ('$' :: '{' :: (body ++ '}' :: rest)) = width body + 3 + width rest := by
  rw [width_cons, width_pathVariable, show '$'.utf8Size = 1 from rfl]
  omega

def Segment.prepend : Segment → List Segment → List Segment
  | .literal text, segments => text.foldr consLiteral segments
  | segment, segments => segment :: segments

theorem foldr_prepend_consLiteral (c : Char) (segments rests : List Segment) :
    (consLiteral c segments).foldr Segment.prepend rests =
      consLiteral c (segments.foldr Segment.prepend rests) := by
  cases segments with
  | nil => rfl
  | cons segment segments => cases segment <;> rfl

/-- A front that can be read is gone through in any case, and all that is left to do is
to read what comes after it. -/
theorem Parses.segmentsFrom_append (h : Parses placeholders front segments)
    (hopen : Unopened placeholders front back) (start : Nat) :
    segmentsFrom placeholders start (front ++ back) =
      (segmentsFrom placeholders (start + width front) back).map fun rests =>
        segments.foldr Segment.prepend rests := by
  induction h generalizing start with
  | nil =>
      rw [List.nil_append, width_nil, Nat.add_zero]
      exact (congrFun Except.map_id _).symm
  | @literal c front _ hc _ ih =>
      obtain ⟨hc, hopen⟩ := isLiteral_and_unopened_iff.2 ⟨hc, hopen⟩
      rw [List.cons_append, segmentsFrom_cons_of_isLiteral hc, ih hopen, map_map, width_cons,
        Nat.add_assoc]
      simp only [foldr_prepend_consLiteral]
  | @pathVariable name front _ hname hbody _ ih =>
      have hread : Template.pathVariable start name = .ok (.pathVariable name) :=
        pathVariable_eq_ok_iff.2 ⟨hname, hbody.1, rfl⟩
      rw [List.cons_append, List.append_assoc, List.cons_append, segmentsFrom_open hbody.2, hread,
        ok_bind, width_pathVariable, ← Nat.add_assoc start, ← Nat.add_assoc start,
        ih ((unopened_close_iff ('{' :: name)).1 hopen), map_map]
      rfl
  | @placeholder body front _ hplaceholders hbody hkey _ ih =>
      subst hplaceholders
      have hread := (@placeholder_eq_ok_iff start body _).2 ⟨hbody.1, hkey, rfl⟩
      rw [List.cons_append, List.cons_append, List.append_assoc, List.cons_append,
        segmentsFrom_placeholder hbody.2, hread, ok_bind, width_placeholder,
        ← Nat.add_assoc start, ← Nat.add_assoc start,
        ih ((unopened_close_iff ('$' :: '{' :: body)).1 hopen), map_map]
      rfl

theorem IsTemplate.of_append (h : IsTemplate placeholders (front ++ back))
    (hfront : IsTemplate placeholders front) (hopen : Unopened placeholders front back) :
    IsTemplate placeholders back := by
  obtain ⟨segments, h⟩ := h
  obtain ⟨_, hfront⟩ := hfront
  rw [← @segmentsFrom_eq_ok_iff _ 0, hfront.segmentsFrom_append hopen, map_eq_ok_iff] at h
  obtain ⟨rests, hrests, -⟩ := h
  exact ⟨rests, segmentsFrom_eq_ok_iff.1 hrests⟩

end

/-! ## Malformed tokens and the scan -/

section

variable {placeholders : Bool} {front back cs : List Char}

theorem Malformed.segmentsFrom_eq {kind : FaultKind} {n : Nat}
    (h : Malformed placeholders cs kind n) (start : Nat) :
    segmentsFrom placeholders start cs = .error ⟨kind, start + n⟩ := by
  cases h with
  | unmatchedBrace rest => rw [segmentsFrom, Nat.add_zero]
  | unclosedPlaceholder hplaceholders hrest =>
      subst hplaceholders
      exact segmentsFrom_placeholder_of_not_mem hrest
  | unclosedVariable hrest => exact segmentsFrom_open_of_not_mem hrest
  | @nestedInPlaceholder front back rest hplaceholders hfront hback =>
      subst hplaceholders
      have hbody : '}' ∉ front ++ '{' :: back := by simp [hfront.2, hback]
      rw [segmentsFrom_placeholder hbody, placeholder_append hfront.1, error_bind, Nat.add_assoc]
  | @nestedInVariable front back rest hfront hback =>
      have hbody : '}' ∉ front ++ '{' :: back := by simp [hfront.2, hback]
      rw [segmentsFrom_open hbody, pathVariable_append hfront.1, error_bind, Nat.add_assoc]
  | emptyPlaceholderKey rest hplaceholders hbody hkey =>
      subst hplaceholders
      rw [segmentsFrom_placeholder hbody.2,
        placeholder_of_key_eq_nil hbody.1 (keyAndDefault_fst_eq_nil_iff.2 hkey), error_bind,
        Nat.add_zero]
  | emptyVariable rest => exact @segmentsFrom_open placeholders start [] rest List.not_mem_nil

theorem name_or_malformed {body : List Char} (rest : List Char) (hbody : '}' ∉ body) :
    body ≠ [] ∧ IsBody body ∨
      ∃ kind n, Malformed placeholders ('{' :: (body ++ '}' :: rest)) kind n := by
  by_cases hopen : '{' ∈ body
  · obtain ⟨front, back, rfl, hfront⟩ := List.eq_append_cons_of_mem hopen
    simp only [List.mem_append, List.mem_cons, not_or] at hbody
    exact .inr ⟨_, _, .nestedInVariable rest ⟨hfront, hbody.1⟩ hbody.2.2⟩
  · by_cases hempty : body = []
    · subst hempty
      exact .inr ⟨_, _, .emptyVariable rest⟩
    · exact .inl ⟨hempty, hopen, hbody⟩

theorem key_or_malformed {body : List Char} (rest : List Char) (hbody : '}' ∉ body) :
    IsBody body ∧ (keyAndDefault body).1 ≠ [] ∨
      ∃ kind n, Malformed true ('$' :: '{' :: (body ++ '}' :: rest)) kind n := by
  by_cases hopen : '{' ∈ body
  · obtain ⟨front, back, rfl, hfront⟩ := List.eq_append_cons_of_mem hopen
    simp only [List.mem_append, List.mem_cons, not_or] at hbody
    exact .inr ⟨_, _, .nestedInPlaceholder rest rfl ⟨hfront, hbody.1⟩ hbody.2.2⟩
  · by_cases hkey : (keyAndDefault body).1 = []
    · have hempty := keyAndDefault_fst_eq_nil_iff.1 hkey
      exact .inr ⟨_, _, .emptyPlaceholderKey rest rfl ⟨hopen, hbody⟩ hempty⟩
    · exact .inl ⟨⟨hopen, hbody⟩, hkey⟩

/-- Every text consists of a front that can be read and, unless this is all, a malformed
token with what comes after it. -/
theorem exists_front (placeholders : Bool) (cs : List Char) :
    ∃ front back, cs = front ++ back ∧ IsTemplate placeholders front ∧
      Unopened placeholders front back ∧
      (back = [] ∨ ∃ kind n, Malformed placeholders back kind n) := by
  -- The induction is on the length, since a token takes more than one character.
  induction hn : cs.length using Nat.strongRecOn generalizing cs with
  | ind n ih =>
      subst hn
      have hmalformed {kind n} (h : Malformed placeholders cs kind n) :
          ∃ front back, cs = front ++ back ∧ IsTemplate placeholders front ∧
            Unopened placeholders front back ∧
            (back = [] ∨ ∃ kind n, Malformed placeholders back kind n) :=
        ⟨[], cs, rfl, .nil, by simp [Unopened], .inr ⟨kind, n, h⟩⟩
      cases cs with
      | nil => exact ⟨[], [], rfl, .nil, by simp [Unopened], .inl rfl⟩
      | cons c cs =>
          rcases first_cases placeholders c cs with hc | rfl | rfl | ⟨rfl, rfl, cs, rfl⟩
          · obtain ⟨front, back, rfl, ⟨_, hfront⟩, hopen, hback⟩ := ih _ (by simp) cs rfl
            obtain ⟨hc, hopen⟩ := isLiteral_and_unopened_iff.1 ⟨hc, hopen⟩
            exact ⟨c :: front, back, rfl, ⟨_, .literal hc hfront⟩, hopen, hback⟩
          · exact hmalformed (.unmatchedBrace cs)
          · by_cases hclose : '}' ∈ cs
            · obtain ⟨body, rest, rfl, hbody⟩ := List.eq_append_cons_of_mem hclose
              rcases name_or_malformed rest hbody with ⟨hname, hbody⟩ | ⟨kind, n, h⟩
              · obtain ⟨front, back, rfl, ⟨_, hfront⟩, hopen, hback⟩ :=
                  ih rest.length (by simp; omega) rest rfl
                exact ⟨'{' :: (body ++ '}' :: front), back, by simp,
                  ⟨_, .pathVariable hname hbody hfront⟩,
                  (unopened_close_iff ('{' :: body)).2 hopen, hback⟩
              · exact hmalformed h
            · exact hmalformed (.unclosedVariable hclose)
          · by_cases hclose : '}' ∈ cs
            · obtain ⟨body, rest, rfl, hbody⟩ := List.eq_append_cons_of_mem hclose
              rcases key_or_malformed rest hbody with ⟨hbody, hkey⟩ | ⟨kind, n, h⟩
              · obtain ⟨front, back, rfl, ⟨_, hfront⟩, hopen, hback⟩ :=
                  ih rest.length (by simp; omega) rest rfl
                exact ⟨'$' :: '{' :: (body ++ '}' :: front), back, by simp,
                  ⟨_, .placeholder rfl hbody hkey hfront⟩,
                  (unopened_close_iff ('$' :: '{' :: body)).2 hopen, hback⟩
              · exact hmalformed h
            · exact hmalformed (.unclosedPlaceholder rfl hclose)

theorem segmentsFrom_eq_error_iff {start : Nat} {fault : Fault} :
    segmentsFrom placeholders start cs = .error fault ↔
      ∃ front back n, cs = front ++ back ∧ IsTemplate placeholders front ∧
        Unopened placeholders front back ∧ Malformed placeholders back fault.kind n ∧
        fault.offset = start + width front + n := by
  constructor
  · intro h
    obtain ⟨front, back, rfl, ⟨_, hfront⟩, hopen, rfl | ⟨kind, n, hback⟩⟩ :=
      exists_front placeholders cs
    · rw [List.append_nil, segmentsFrom_eq_ok_iff.2 hfront] at h
      cases h
    · rw [hfront.segmentsFrom_append hopen, map_eq_error_iff, hback.segmentsFrom_eq,
        Except.error.injEq] at h
      subst h
      exact ⟨front, back, n, rfl, ⟨_, hfront⟩, hopen, hback, rfl⟩
  · rintro ⟨front, back, n, rfl, ⟨_, hfront⟩, hopen, hback, hoffset⟩
    rw [hfront.segmentsFrom_append hopen, map_eq_error_iff, hback.segmentsFrom_eq, ← hoffset]

theorem kind_of_segmentsFrom_false {start : Nat} {fault : Fault}
    (h : segmentsFrom false start cs = .error fault) :
    fault.kind ∈ [.unclosedVariable, .emptyVariable, .nestedBrace, .unmatchedBrace] := by
  obtain ⟨front, back, n, -, -, -, hback, -⟩ := segmentsFrom_eq_error_iff.1 h
  generalize fault.kind = kind at hback
  cases hback with
  | unclosedPlaceholder hplaceholders | nestedInPlaceholder _ hplaceholders
  | emptyPlaceholderKey _ hplaceholders => cases hplaceholders
  | _ => simp

theorem append_close_inj {body body' rest rest' : List Char} (hbody : '}' ∉ body)
    (hbody' : '}' ∉ body') (h : body ++ '}' :: rest = body' ++ '}' :: rest') : body = body' := by
  have hclosing := @closing_append body rest hbody
  rw [h, closing_append hbody', Option.some_inj, Prod.mk.injEq] at hclosing
  exact hclosing.1.symm

theorem Malformed.not_isLiteral {kind : FaultKind} {n : Nat} {c : Char}
    (h : Malformed placeholders (c :: cs) kind n) : ¬IsLiteral placeholders c cs := by
  rintro ⟨hopen, hclose, hdollar⟩
  cases h with
  | unmatchedBrace => exact hclose rfl
  | unclosedVariable | nestedInVariable | emptyVariable => exact hopen rfl
  | unclosedPlaceholder hplaceholders | nestedInPlaceholder _ hplaceholders
  | emptyPlaceholderKey _ hplaceholders => exact hdollar ⟨hplaceholders, rfl, rfl⟩

theorem Malformed.not_name {kind : FaultKind} {n : Nat} {body rest : List Char}
    (h : Malformed placeholders ('{' :: (body ++ '}' :: rest)) kind n) :
    ¬(body ≠ [] ∧ IsBody body) := by
  rintro ⟨hname, hopen, hclose⟩
  generalize htext : body ++ '}' :: rest = text at h
  cases h with
  | unclosedVariable hrest => simp [← htext] at hrest
  | nestedInVariable rest hfront hback =>
      obtain rfl := append_close_inj hclose (by simp [hfront.2, hback]) htext
      simp at hopen
  | emptyVariable rest =>
      exact hname (@append_close_inj body [] _ rest hclose List.not_mem_nil htext)

theorem Malformed.not_key {kind : FaultKind} {n : Nat} {body rest : List Char}
    (h : Malformed true ('$' :: '{' :: (body ++ '}' :: rest)) kind n) :
    ¬(IsBody body ∧ (keyAndDefault body).1 ≠ []) := by
  rintro ⟨⟨hopen, hclose⟩, hkey⟩
  generalize htext : body ++ '}' :: rest = text at h
  cases h with
  | unclosedPlaceholder _ hrest => simp [← htext] at hrest
  | nestedInPlaceholder rest _ hfront hback =>
      obtain rfl := append_close_inj hclose (by simp [hfront.2, hback]) htext
      simp at hopen
  | emptyPlaceholderKey rest _ hbody hempty =>
      obtain rfl := append_close_inj hclose hbody.2 htext
      exact hkey (keyAndDefault_fst_eq_nil_iff.2 hempty)

theorem Malformed.eq_nil_of_isTemplate {kind : FaultKind} {n : Nat}
    (h : Malformed placeholders (front ++ back) kind n) (hfront : IsTemplate placeholders front)
    (hopen : Unopened placeholders front back) : front = [] := by
  obtain ⟨segments, hfront⟩ := hfront
  cases hfront with
  | nil => rfl
  | literal hc _ =>
      exact absurd (isLiteral_and_unopened_iff.2 ⟨hc, hopen⟩).1 h.not_isLiteral
  | pathVariable hname hbody _ =>
      rw [List.cons_append, List.append_assoc] at h
      exact absurd ⟨hname, hbody⟩ h.not_name
  | placeholder hplaceholders hbody hkey _ =>
      subst hplaceholders
      rw [List.cons_append, List.cons_append, List.append_assoc] at h
      exact absurd ⟨hbody, hkey⟩ h.not_key

theorem eq_nil_of_isTemplate_append {middle : List Char} {kind : FaultKind} {n : Nat}
    (hfront : IsTemplate placeholders front) (hopen : Unopened placeholders front (middle ++ back))
    (hback : Malformed placeholders (middle ++ back) kind n)
    (hlonger : IsTemplate placeholders (front ++ middle))
    (hopens : Unopened placeholders (front ++ middle) back) : middle = [] := by
  cases middle with
  | nil => rfl
  | cons d middle =>
      have hmiddle : IsTemplate placeholders (d :: middle) := hlonger.of_append hfront hopen
      exact hback.eq_nil_of_isTemplate hmiddle
        (by simpa [Unopened, List.getLast?_cons] using hopens)

end

/-! ## Templates that cannot be read -/

/-- The template has a front that can be read, with the first malformed token after it. -/
structure StopsAt (placeholders : Bool) (template front back : String) (fault : Fault) :
    Prop where
  text : template = front ++ back
  readable : ∃ segs, segments placeholders front = .ok segs
  unopened : Unopened placeholders front.toList back.toList
  malformed : ∃ n, fault.offset = front.utf8ByteSize + n ∧
    Malformed placeholders back.toList fault.kind n

section

variable {placeholders : Bool} {template front back front' back' : String}
  {fault fault' : Fault}

theorem exists_segments_iff :
    (∃ segs, segments placeholders template = .ok segs) ↔ IsTemplate placeholders template.toList :=
  exists_congr fun _ => segments_eq_ok_iff

theorem exists_stopsAt_iff :
    (∃ front back, StopsAt placeholders template front back fault) ↔
      segmentsFrom placeholders 0 template.toList = .error fault := by
  rw [segmentsFrom_eq_error_iff]
  constructor
  · rintro ⟨front, back, rfl, hfront, hopen, n, hoffset, hback⟩
    exact ⟨front.toList, back.toList, n, String.toList_append, exists_segments_iff.1 hfront,
      hopen, hback, by rw [hoffset, width_toList, Nat.zero_add]⟩
  · rintro ⟨front, back, n, htext, hfront, hopen, hback, hoffset⟩
    refine ⟨String.ofList front, String.ofList back, ?_, ?_, ?_, n, ?_, ?_⟩
    · rw [← String.ofList_append, ← htext, String.ofList_toList]
    · rwa [exists_segments_iff, String.toList_ofList]
    · rwa [String.toList_ofList, String.toList_ofList]
    · rw [hoffset, ← width_toList, String.toList_ofList, Nat.zero_add]
    · rwa [String.toList_ofList]

theorem segments_eq_error_iff {e : TemplateError} :
    segments placeholders template = .error e ↔
      ∃ front back fault, StopsAt placeholders template front back fault ∧
        e = .malformed template fault := by
  constructor
  · intro h
    obtain ⟨fault, hfault, rfl⟩ := segments_eq_error h
    obtain ⟨front, back, hstops⟩ := exists_stopsAt_iff.2 hfault
    exact ⟨front, back, fault, hstops, rfl⟩
  · rintro ⟨front, back, fault, hstops, rfl⟩
    rw [segments, exists_stopsAt_iff.1 ⟨front, back, hstops⟩]
    rfl

theorem StopsAt.fault_eq (h : StopsAt placeholders template front back fault)
    (h' : StopsAt placeholders template front' back' fault') : fault = fault' := by
  have hfault := exists_stopsAt_iff.1 ⟨front, back, h⟩
  rw [exists_stopsAt_iff.1 ⟨front', back', h'⟩] at hfault
  exact (Except.error.inj hfault).symm

theorem StopsAt.front_eq_of_append {middle : List Char}
    (h : StopsAt placeholders template front back fault)
    (h' : StopsAt placeholders template front' back' fault')
    (hfront : front'.toList = front.toList ++ middle)
    (hback : back.toList = middle ++ back'.toList) :
    front = front' := by
  obtain ⟨n, -, hmalformed⟩ := h.malformed
  have hreadable := exists_segments_iff.1 h'.readable
  have hopen := h.unopened
  have hopens := h'.unopened
  rw [hfront] at hreadable hopens
  rw [hback] at hmalformed hopen
  have hmiddle := eq_nil_of_isTemplate_append (exists_segments_iff.1 h.readable) hopen hmalformed
    hreadable hopens
  rw [hmiddle, List.append_nil] at hfront
  exact (String.toList_injective hfront).symm

theorem StopsAt.front_eq (h : StopsAt placeholders template front back fault)
    (h' : StopsAt placeholders template front' back' fault') : front = front' := by
  have htext : front.toList ++ back.toList = front'.toList ++ back'.toList := by
    rw [← String.toList_append, ← String.toList_append, ← h.text, ← h'.text]
  rcases List.append_eq_append_iff.1 htext with ⟨middle, hfront, hback⟩ | ⟨middle, hfront, hback⟩
  · exact h.front_eq_of_append h' hfront hback
  · exact (h'.front_eq_of_append h hfront hback).symm

theorem Malformed.exists_append {cs : List Char} {kind : FaultKind} {n : Nat}
    (h : Malformed placeholders cs kind n) : ∃ xs c ys, cs = xs ++ c :: ys ∧ n = width xs := by
  cases h with
  | @nestedInPlaceholder front back rest =>
      refine ⟨'$' :: '{' :: front, '{', back ++ '}' :: rest, by simp, ?_⟩
      rw [width_cons, width_cons, ← Nat.add_assoc]
      rfl
  | @nestedInVariable front back rest =>
      exact ⟨'{' :: front, '{', back ++ '}' :: rest, by simp, rfl⟩
  | _ => exact ⟨[], _, _, rfl, rfl⟩

theorem StopsAt.exists_append (h : StopsAt placeholders template front back fault) :
    ∃ before c after, template = before ++ String.singleton c ++ after ∧
      fault.offset = before.utf8ByteSize := by
  obtain ⟨n, hoffset, hback⟩ := h.malformed
  obtain ⟨xs, c, ys, hcs, rfl⟩ := hback.exists_append
  refine ⟨front ++ String.ofList xs, c, String.ofList ys, ?_, ?_⟩
  · rw [h.text]
    apply String.toList_injective
    simp [hcs]
  · rw [hoffset, String.utf8ByteSize_append, ← width_toList (String.ofList xs),
      String.toList_ofList]

theorem StopsAt.offset_valid (h : StopsAt placeholders template front back fault) :
    fault.offset < template.utf8ByteSize ∧ String.Pos.Raw.IsValid template ⟨fault.offset⟩ := by
  obtain ⟨before, c, after, rfl, hoffset⟩ := h.exists_append
  have hpos := c.utf8Size_pos
  constructor
  · simp only [String.utf8ByteSize_append, String.utf8ByteSize_singleton, hoffset]
    omega
  · rw [String.append_assoc, hoffset]
    exact String.Pos.Raw.isValid_iff_exists_append.2 ⟨before, _, rfl, rfl⟩

end

end RouteTable.Template
