import RouteTable.Template.Segment
/-!
# The grammar of templates

The rules by which a text is put together from literal characters, path variables
and placeholders.  Main statement: `segmentsFrom_eq_ok_iff`, the scanner reads
exactly the texts of the grammar, whatever the offset it counts from.
-/

namespace RouteTable.Template

open RouteTable.Text

/-! ## Closing braces -/

theorem closing_append {body rest : List Char} (hbody : '}' ∉ body) :
    closing (body ++ '}' :: rest) = some (body, rest) := by
  induction body with
  | nil => simp [closing]
  | cons c body ih =>
      simp only [List.mem_cons, not_or] at hbody
      simp [closing, Ne.symm hbody.1, ih hbody.2]

theorem closing_eq_some_iff {cs body rest : List Char} :
    closing cs = some (body, rest) ↔ cs = body ++ '}' :: rest ∧ '}' ∉ body := by
  constructor
  · intro h
    induction cs generalizing body with
    | nil => simp [closing] at h
    | cons c cs ih =>
        by_cases hc : c = '}'
        · simp only [closing, hc, ↓reduceIte, Option.some.injEq, Prod.mk.injEq] at h
          simp [hc, ← h.1, ← h.2]
        · simp only [closing, if_neg hc, Option.map_eq_some_iff, Prod.exists, Prod.mk.injEq] at h
          obtain ⟨body', _, hclosing, rfl, rfl⟩ := h
          obtain ⟨rfl, hbody⟩ := ih hclosing
          simp [Ne.symm hc, hbody]
  · rintro ⟨rfl, hbody⟩
    exact closing_append hbody

theorem closing_eq_none_iff {cs : List Char} : closing cs = none ↔ '}' ∉ cs := by
  induction cs with
  | nil => simp [closing]
  | cons c cs ih =>
      by_cases hc : c = '}'
      · simp [closing, hc]
      · simp [closing, hc, ih, Ne.symm hc]

/-! ## Rules -/

/-- Whether `c` stands for itself where `cs` comes after it. -/
def IsLiteral (placeholders : Bool) (c : Char) (cs : List Char) : Prop :=
  c ≠ '{' ∧ c ≠ '}' ∧ ¬(placeholders = true ∧ c = '$' ∧ cs.head? = some '{')

def IsBody (body : List Char) : Prop := '{' ∉ body ∧ '}' ∉ body

/-- The texts of the grammar, with the segments that they consist of. -/
inductive Parses (placeholders : Bool) : List Char → List Segment → Prop where
  | nil : Parses placeholders [] []
  | literal {c : Char} {cs : List Char} {segments : List Segment}
      (hc : IsLiteral placeholders c cs) (hcs : Parses placeholders cs segments) :
      Parses placeholders (c :: cs) (consLiteral c segments)
  | pathVariable {name cs : List Char} {segments : List Segment}
      (hname : name ≠ []) (hbody : IsBody name) (hcs : Parses placeholders cs segments) :
      Parses placeholders ('{' :: (name ++ '}' :: cs)) (.pathVariable name :: segments)
  | placeholder {body cs : List Char} {segments : List Segment}
      (hplaceholders : placeholders = true) (hbody : IsBody body)
      (hkey : (keyAndDefault body).1 ≠ []) (hcs : Parses placeholders cs segments) :
      Parses placeholders ('$' :: '{' :: (body ++ '}' :: cs))
        (.placeholder (keyAndDefault body).1 (keyAndDefault body).2 :: segments)

theorem first_cases (placeholders : Bool) (c : Char) (cs : List Char) :
    IsLiteral placeholders c cs ∨ c = '}' ∨ c = '{' ∨
      placeholders = true ∧ c = '$' ∧ ∃ rest, cs = '{' :: rest := by
  unfold IsLiteral
  rw [← List.head?_eq_some_iff]
  grind

/-! ## Tokens -/

theorem pathVariable_eq_ok_iff {start : Nat} {body : List Char} {segment : Segment} :
    pathVariable start body = .ok segment ↔
      body ≠ [] ∧ '{' ∉ body ∧ segment = .pathVariable body := by
  unfold pathVariable
  cases h : offsetOf? '{' body with
  | none =>
      rw [offsetOf?_eq_none_iff] at h
      by_cases hbody : body = []
      · simp [hbody]
      · simp [hbody, h, eq_comm]
  | some n =>
      obtain ⟨front, back, rfl, -, -⟩ := offsetOf?_eq_some h
      simp

theorem placeholder_eq_ok_iff {start : Nat} {body : List Char} {segment : Segment} :
    placeholder start body = .ok segment ↔
      '{' ∉ body ∧ (keyAndDefault body).1 ≠ [] ∧
        segment = .placeholder (keyAndDefault body).1 (keyAndDefault body).2 := by
  unfold placeholder
  cases h : offsetOf? '{' body with
  | none =>
      rw [offsetOf?_eq_none_iff] at h
      by_cases hkey : (keyAndDefault body).1 = []
      · simp [hkey]
      · simp [hkey, h, eq_comm]
  | some n =>
      obtain ⟨front, back, rfl, -, -⟩ := offsetOf?_eq_some h
      simp

/-! ## The scanner -/

theorem segmentsFrom_cons_of_isLiteral {placeholders : Bool} {start : Nat} {c : Char}
    {cs : List Char} (hc : IsLiteral placeholders c cs) :
    segmentsFrom placeholders start (c :: cs) =
      (segmentsFrom placeholders (start + c.utf8Size) cs).map (consLiteral c) := by
  obtain ⟨hopen, hclose, hdollar⟩ := hc
  by_cases h : c = '$' ∧ cs.head? = some '{'
  · -- The scanner has a rule of its own for this pair, which steps over the dollar.
    obtain ⟨rfl, hhead⟩ := h
    obtain ⟨cs, rfl⟩ := List.head?_eq_some_iff.1 hhead
    have hoff : ¬placeholders = true := fun hon => hdollar ⟨hon, rfl, rfl⟩
    conv => lhs; rw [segmentsFrom, if_neg hoff]
    rfl
  · rw [segmentsFrom]
    · exact hclose
    · exact hopen
    · rintro cs' rfl rfl
      exact h ⟨rfl, rfl⟩

theorem bind_eq_ok_iff {ε α β : Type} {x : Except ε α} {f : α → Except ε β} {b : β} :
    (x >>= f) = .ok b ↔ ∃ a, x = .ok a ∧ f a = .ok b := by
  cases x with
  | error e => simp [bind, Except.bind]
  | ok a => simp [bind, Except.bind]

theorem map_eq_ok_iff {ε α β : Type} {x : Except ε α} {f : α → β} {b : β} :
    x.map f = .ok b ↔ ∃ a, x = .ok a ∧ f a = b := by
  cases x with
  | error e => simp [Except.map]
  | ok a => simp [Except.map]

theorem bind_eq_error_iff {ε α β : Type} {x : Except ε α} {f : α → Except ε β} {e : ε} :
    (x >>= f) = .error e ↔ x = .error e ∨ ∃ a, x = .ok a ∧ f a = .error e := by
  cases x with
  | error e => simp [bind, Except.bind]
  | ok a => simp [bind, Except.bind]

theorem map_eq_error_iff {ε α β : Type} {x : Except ε α} {f : α → β} {e : ε} :
    x.map f = .error e ↔ x = .error e := by
  cases x with
  | error e => simp [Except.map]
  | ok a => simp [Except.map]

theorem ok_bind {ε α β : Type} (a : α) (f : α → Except ε β) : (Except.ok a >>= f) = f a := rfl

theorem error_bind {ε α β : Type} (e : ε) (f : α → Except ε β) :
    ((Except.error e : Except ε α) >>= f) = .error e := rfl

theorem map_map {ε α β γ : Type} (x : Except ε α) (f : α → β) (g : β → γ) :
    (x.map f).map g = x.map fun a => g (f a) := by
  cases x <;> rfl

theorem mapError_ok {ε ε' α : Type} (f : ε → ε') (a : α) :
    (Except.ok a).mapError f = .ok a := rfl

theorem mapError_error {ε ε' α : Type} (f : ε → ε') (e : ε) :
    (Except.error e : Except ε α).mapError f = .error (f e) := rfl

section

variable {placeholders : Bool} {start : Nat} {body rest : List Char}

theorem segmentsFrom_open_of_not_mem (h : '}' ∉ rest) :
    segmentsFrom placeholders start ('{' :: rest) = .error ⟨.unclosedVariable, start⟩ := by
  rw [segmentsFrom]
  split
  · rfl
  · rename_i hclosing
    simp [closing_eq_none_iff.2 h] at hclosing

theorem segmentsFrom_open (h : '}' ∉ body) :
    segmentsFrom placeholders start ('{' :: (body ++ '}' :: rest)) =
      pathVariable start body >>= fun segment =>
        (segmentsFrom placeholders (start + width body + 2) rest).map (segment :: ·) := by
  rw [segmentsFrom]
  split
  · rename_i hclosing
    simp [closing_append h] at hclosing
  · rename_i hclosing
    rw [closing_append h, Option.some_inj, Prod.mk.injEq] at hclosing
    obtain ⟨rfl, rfl⟩ := hclosing
    rfl

theorem segmentsFrom_placeholder_of_not_mem (h : '}' ∉ rest) :
    segmentsFrom true start ('$' :: '{' :: rest) = .error ⟨.unclosedPlaceholder, start⟩ := by
  rw [segmentsFrom, if_pos rfl]
  split
  · rfl
  · rename_i hclosing
    simp [closing_eq_none_iff.2 h] at hclosing

theorem segmentsFrom_placeholder (h : '}' ∉ body) :
    segmentsFrom true start ('$' :: '{' :: (body ++ '}' :: rest)) =
      placeholder start body >>= fun segment =>
        (segmentsFrom true (start + width body + 3) rest).map (segment :: ·) := by
  rw [segmentsFrom, if_pos rfl]
  split
  · rename_i hclosing
    simp [closing_append h] at hclosing
  · rename_i hclosing
    rw [closing_append h, Option.some_inj, Prod.mk.injEq] at hclosing
    obtain ⟨rfl, rfl⟩ := hclosing
    rfl

end

theorem segmentsFrom_open_eq_ok_iff {placeholders : Bool} {start : Nat} {cs : List Char}
    {segments : List Segment} :
    segmentsFrom placeholders start ('{' :: cs) = .ok segments ↔
      ∃ name rest rests, cs = name ++ '}' :: rest ∧ name ≠ [] ∧ IsBody name ∧
        segmentsFrom placeholders (start + width name + 2) rest = .ok rests ∧
        segments = .pathVariable name :: rests := by
  constructor
  · intro h
    by_cases hclose : '}' ∈ cs
    · obtain ⟨name, rest, rfl, hname⟩ := List.eq_append_cons_of_mem hclose
      rw [segmentsFrom_open hname, bind_eq_ok_iff] at h
      obtain ⟨segment, hsegment, h⟩ := h
      obtain ⟨hne, hopen, rfl⟩ := pathVariable_eq_ok_iff.1 hsegment
      obtain ⟨rests, hrests, rfl⟩ := map_eq_ok_iff.1 h
      exact ⟨name, rest, rests, rfl, hne, ⟨hopen, hname⟩, hrests, rfl⟩
    · rw [segmentsFrom_open_of_not_mem hclose] at h
      cases h
  · rintro ⟨name, rest, rests, rfl, hne, hbody, hrests, rfl⟩
    rw [segmentsFrom_open hbody.2, bind_eq_ok_iff]
    exact ⟨_, pathVariable_eq_ok_iff.2 ⟨hne, hbody.1, rfl⟩, map_eq_ok_iff.2 ⟨rests, hrests, rfl⟩⟩

theorem segmentsFrom_placeholder_eq_ok_iff {start : Nat} {cs : List Char}
    {segments : List Segment} :
    segmentsFrom true start ('$' :: '{' :: cs) = .ok segments ↔
      ∃ body rest rests, cs = body ++ '}' :: rest ∧ IsBody body ∧
        (keyAndDefault body).1 ≠ [] ∧
        segmentsFrom true (start + width body + 3) rest = .ok rests ∧
        segments = .placeholder (keyAndDefault body).1 (keyAndDefault body).2 :: rests := by
  constructor
  · intro h
    by_cases hclose : '}' ∈ cs
    · obtain ⟨body, rest, rfl, hbody⟩ := List.eq_append_cons_of_mem hclose
      rw [segmentsFrom_placeholder hbody, bind_eq_ok_iff] at h
      obtain ⟨segment, hsegment, h⟩ := h
      obtain ⟨hopen, hkey, rfl⟩ := placeholder_eq_ok_iff.1 hsegment
      obtain ⟨rests, hrests, rfl⟩ := map_eq_ok_iff.1 h
      exact ⟨body, rest, rests, rfl, ⟨hopen, hbody⟩, hkey, hrests, rfl⟩
    · rw [segmentsFrom_placeholder_of_not_mem hclose] at h
      cases h
  · rintro ⟨body, rest, rests, rfl, hbody, hkey, hrests, rfl⟩
    rw [segmentsFrom_placeholder hbody.2, bind_eq_ok_iff]
    exact ⟨_, placeholder_eq_ok_iff.2 ⟨hbody.1, hkey, rfl⟩, map_eq_ok_iff.2 ⟨rests, hrests, rfl⟩⟩

/-- The scanner reads exactly the texts of the grammar. -/
theorem segmentsFrom_eq_ok_iff {placeholders : Bool} {start : Nat} {cs : List Char}
    {segments : List Segment} :
    segmentsFrom placeholders start cs = .ok segments ↔ Parses placeholders cs segments := by
  constructor
  · intro h
    induction hn : cs.length using Nat.strongRecOn generalizing start cs segments with
    | ind n ih =>
        subst hn
        cases cs with
        | nil =>
            rw [segmentsFrom] at h
            cases h
            exact .nil
        | cons c cs =>
            rcases first_cases placeholders c cs with hc | rfl | rfl | ⟨rfl, rfl, cs, rfl⟩
            · rw [segmentsFrom_cons_of_isLiteral hc, map_eq_ok_iff] at h
              obtain ⟨rests, hrests, rfl⟩ := h
              exact .literal hc (ih _ (by simp) hrests rfl)
            · rw [segmentsFrom] at h
              cases h
            · obtain ⟨name, rest, rests, rfl, hne, hbody, hrests, rfl⟩ :=
                segmentsFrom_open_eq_ok_iff.1 h
              exact .pathVariable hne hbody (ih _ (by simp; omega) hrests rfl)
            · obtain ⟨body, rest, rests, rfl, hbody, hkey, hrests, rfl⟩ :=
                segmentsFrom_placeholder_eq_ok_iff.1 h
              exact .placeholder rfl hbody hkey (ih _ (by simp; omega) hrests rfl)
  · intro h
    induction h generalizing start with
    | nil => rw [segmentsFrom]
    | literal hc _ ih =>
        rw [segmentsFrom_cons_of_isLiteral hc, ih]
        rfl
    | pathVariable hname hbody _ ih =>
        exact segmentsFrom_open_eq_ok_iff.2 ⟨_, _, _, rfl, hname, hbody, ih, rfl⟩
    | placeholder hplaceholders hbody hkey _ ih =>
        subst hplaceholders
        exact segmentsFrom_placeholder_eq_ok_iff.2 ⟨_, _, _, rfl, hbody, hkey, ih, rfl⟩

/-! ## Texts by their first character -/

theorem Parses.of_isLiteral {placeholders : Bool} {c : Char} {cs : List Char}
    {segments : List Segment} (h : Parses placeholders (c :: cs) segments)
    (hc : IsLiteral placeholders c cs) :
    ∃ rests, Parses placeholders cs rests ∧ segments = consLiteral c rests := by
  rw [← @segmentsFrom_eq_ok_iff _ 0, segmentsFrom_cons_of_isLiteral hc, map_eq_ok_iff] at h
  obtain ⟨rests, hrests, rfl⟩ := h
  exact ⟨rests, segmentsFrom_eq_ok_iff.1 hrests, rfl⟩

theorem Parses.of_open {placeholders : Bool} {cs : List Char} {segments : List Segment}
    (h : Parses placeholders ('{' :: cs) segments) :
    ∃ name rest rests, cs = name ++ '}' :: rest ∧ name ≠ [] ∧ IsBody name ∧
      Parses placeholders rest rests ∧ segments = .pathVariable name :: rests := by
  rw [← @segmentsFrom_eq_ok_iff _ 0, segmentsFrom_open_eq_ok_iff] at h
  obtain ⟨name, rest, rests, hcs, hne, hbody, hrests, hsegments⟩ := h
  exact ⟨name, rest, rests, hcs, hne, hbody, segmentsFrom_eq_ok_iff.1 hrests, hsegments⟩

theorem not_parses_close {placeholders : Bool} {cs : List Char} {segments : List Segment} :
    ¬Parses placeholders ('}' :: cs) segments := by
  rw [← @segmentsFrom_eq_ok_iff _ 0, segmentsFrom]
  simp

/-! ## Whole templates -/

theorem segments_eq_ok_iff {placeholders : Bool} {template : String} {segs : List Segment} :
    segments placeholders template = .ok segs ↔ Parses placeholders template.toList segs := by
  rw [← @segmentsFrom_eq_ok_iff placeholders 0]
  unfold segments
  cases segmentsFrom placeholders 0 template.toList with
  | ok _ => simp [mapError_ok]
  | error _ => simp [mapError_error]

theorem segments_eq_error {placeholders : Bool} {template : String} {e : TemplateError}
    (h : segments placeholders template = .error e) :
    ∃ fault, segmentsFrom placeholders 0 template.toList = .error fault ∧
      e = .malformed template fault := by
  unfold segments at h
  cases hsegs : segmentsFrom placeholders 0 template.toList with
  | ok _ => simp [hsegs, mapError_ok] at h
  | error fault =>
      rw [hsegs] at h
      cases h
      exact ⟨fault, rfl, rfl⟩

end RouteTable.Template
