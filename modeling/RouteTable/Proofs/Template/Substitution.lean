import RouteTable.Proofs.Template.Fault
import RouteTable.Proofs.Template.Resolve
import RouteTable.Proofs.Template.Segmentation
/-!
# Substitution

Replacing placeholders goes through a template once: a template that is cut in two can be
resolved part by part, and faults of the second part move by the bytes of the first one.
Main statement: `resolve_compositional`.
-/

namespace RouteTable.Template

open RouteTable.Text

/-- Where reading begins makes no difference but for the offset of a fault. -/
theorem segmentsFrom_eq_shift (placeholders : Bool) (start : Nat) (cs : List Char) :
    segmentsFrom placeholders start cs =
      (segmentsFrom placeholders 0 cs).mapError (Fault.shift start) := by
  cases hread : segmentsFrom placeholders 0 cs with
  | ok segments =>
      have hparses := segmentsFrom_eq_ok_iff.1 hread
      exact segmentsFrom_eq_ok_iff.2 hparses
  | error fault =>
      obtain ⟨front, back, n, hcs, hfront, hopen, hback, hoffset⟩ :=
        segmentsFrom_eq_error_iff.1 hread
      have hshift : (fault.shift start).offset = start + fault.offset := rfl
      have hshifted : (fault.shift start).offset = start + width front + n := by omega
      exact segmentsFrom_eq_error_iff.2 ⟨front, back, n, hcs, hfront, hopen, hback, hshifted⟩

section

variable {s t : String}

theorem segments_append {placeholders : Bool} {pieces : List Segment}
    (hs : segments placeholders s = .ok pieces) (hopen : Unopened placeholders s.toList t.toList) :
    segments placeholders (s ++ t) =
      ((segmentsFrom placeholders 0 t.toList).mapError fun fault =>
        .malformed (s ++ t) (fault.shift s.utf8ByteSize)).map fun rests =>
          pieces.foldr Segment.prepend rests := by
  have hparses := segments_eq_ok_iff.1 hs
  rw [segments, String.toList_append, hparses.segmentsFrom_append hopen, Nat.zero_add,
    segmentsFrom_eq_shift, width_toList]
  cases segmentsFrom placeholders 0 t.toList <;> rfl

variable {properties : PropertySource}

theorem flatMap_value_foldr_prepend (segments rests : List Segment) :
    (segments.foldr Segment.prepend rests).flatMap (Segment.value properties) =
      segments.flatMap (Segment.value properties) ++
        rests.flatMap (Segment.value properties) := by
  induction segments with
  | nil => rfl
  | cons segment segments ih =>
      rw [List.foldr_cons, List.flatMap_cons, List.append_assoc, ← ih]
      cases segment with
      | literal text =>
          change (text.foldr consLiteral _).flatMap _ = text ++ _
          induction text with
          | nil => rfl
          | cons c text ihtext => rw [List.foldr_cons, flatMap_value_consLiteral, ihtext]; rfl
      | placeholder key default => rfl
      | pathVariable name => rfl

theorem Parses.flatMap_value_eq {cs : List Char} {segments : List Segment}
    (h : Parses true cs segments) (hnone : ∀ key default, .placeholder key default ∉ segments) :
    segments.flatMap (Segment.value properties) = cs := by
  induction h with
  | nil => rfl
  | literal _ _ ih =>
      rw [flatMap_value_consLiteral, ih]
      intro key default hmem
      exact hnone key default (placeholder_mem_consLiteral.2 hmem)
  | @pathVariable name cs _ _ _ _ ih =>
      rw [List.flatMap_cons, ih fun key default hmem => hnone key default (.tail _ hmem)]
      simp [Segment.value]
  | placeholder => exact absurd List.mem_cons_self (hnone _ _)

theorem Parses.opener_of_mem {cs : List Char} {segments : List Segment} {key default : List Char}
    (h : Parses true cs segments) (hmem : .placeholder key default ∈ segments) :
    ['$', '{'] <:+: cs := by
  induction h with
  | nil => simp at hmem
  | @literal c cs _ _ _ ih =>
      have hrest : ['$', '{'] <:+: cs := ih (placeholder_mem_consLiteral.1 hmem)
      exact hrest.trans (List.suffix_cons c cs).isInfix
  | @pathVariable name cs _ _ _ _ ih =>
      have hrest : ['$', '{'] <:+: cs := ih (by simpa using hmem)
      have hsuffix : cs <:+ '{' :: (name ++ '}' :: cs) := ⟨'{' :: (name ++ ['}']), by simp⟩
      exact hrest.trans hsuffix.isInfix
  | placeholder => exact ⟨[], _, rfl⟩

theorem resolve_eq_error_iff {template : String} {e : TemplateError} :
    resolve properties template = .error e ↔ check template = .error e := by
  rw [resolve, check, map_eq_error_iff, map_eq_error_iff]

theorem resolve_append {u v : String} (hs : resolve properties s = .ok u)
    (ht : resolve properties t = .ok v) (hopen : Unopened true s.toList t.toList) :
    resolve properties (s ++ t) = .ok (u ++ v) := by
  obtain ⟨pieces, hpieces, rfl⟩ := resolve_eq_ok_iff.1 hs
  obtain ⟨rests, hrests, rfl⟩ := resolve_eq_ok_iff.1 ht
  have hread : segmentsFrom true 0 t.toList = .ok rests := segmentsFrom_eq_ok_iff.2 hrests
  rw [resolve, segments_append (segments_eq_ok_iff.2 hpieces) hopen, hread, mapError_ok]
  change Except.ok (String.ofList ((pieces.foldr Segment.prepend rests).flatMap _)) = _
  rw [flatMap_value_foldr_prepend, String.ofList_append]

theorem resolve_append_error {e : TemplateError} (hs : check s = .ok ()) (ht : check t = .error e)
    (hopen : Unopened true s.toList t.toList) :
    ∃ fault, e = .malformed t fault ∧ resolve properties (s ++ t) =
      .error (.malformed (s ++ t) (fault.shift s.utf8ByteSize)) := by
  obtain ⟨pieces, hpieces, -⟩ := map_eq_ok_iff.1 hs
  obtain ⟨fault, hfault, rfl⟩ := segments_eq_error (map_eq_error_iff.1 ht)
  refine ⟨fault, rfl, ?_⟩
  rw [resolve, segments_append hpieces hopen, hfault, mapError_error]
  rfl

theorem exists_resolve_iff {template : String} :
    (∃ path, resolve properties template = .ok path) ↔ check template = .ok () := by
  simp only [resolve_eq_ok_iff, check_eq_ok_iff, IsTemplate]
  constructor
  · rintro ⟨path, pieces, hpieces, -⟩
    exact ⟨pieces, hpieces⟩
  · rintro ⟨pieces, hpieces⟩
    exact ⟨_, pieces, hpieces, rfl⟩

def token (body : String) : String := "$\x7b" ++ body ++ "\x7d"

theorem toList_token (body : String) :
    (token body).toList = '$' :: '{' :: (body.toList ++ ['}']) := by
  simp [token]

theorem unopened_token_right (s : String) (body : String) :
    Unopened true s.toList (token body).toList := by
  simp [Unopened, toList_token]

theorem unopened_append_token (s body t : String) :
    Unopened true (s ++ token body).toList t.toList := by
  have htext : (s ++ token body).toList = (s.toList ++ '$' :: '{' :: body.toList) ++ '}' :: [] := by
    simp [token]
  rw [htext]
  exact (unopened_close_iff _).2 (by simp [Unopened])

theorem resolve_token {body key default : String} (hbody : IsBody body.toList)
    (hparts : IsKeyAndDefault body.toList key.toList default.toList) (hkey : key ≠ "") :
    resolve properties (token body) = .ok (properties key default) := by
  have hname : (keyAndDefault body.toList).1 ≠ [] := by
    rw [hparts.keyAndDefault_eq]
    exact fun h => hkey (String.toList_eq_nil_iff.1 h)
  have hparses := Parses.placeholder rfl hbody hname .nil
  rw [← toList_token] at hparses
  refine resolve_eq_ok_iff.2 ⟨_, hparses, ?_⟩
  simp [hparts.keyAndDefault_eq, Segment.value]

theorem resolve_eq_self {template : String} {pieces : List Segment}
    (h : segments true template = .ok pieces)
    (hnone : ∀ key default, .placeholder key default ∉ pieces) :
    resolve properties template = .ok template := by
  have hparses := segments_eq_ok_iff.1 h
  refine resolve_eq_ok_iff.2 ⟨pieces, hparses, ?_⟩
  rw [hparses.flatMap_value_eq hnone, String.ofList_toList]

/-- A placeholder between two texts gives way to its value, which is not read again. -/
theorem resolve_append_token_append {u v body key default : String}
    (hs : resolve properties s = .ok u) (ht : resolve properties t = .ok v)
    (hbody : IsBody body.toList)
    (hparts : IsKeyAndDefault body.toList key.toList default.toList) (hkey : key ≠ "") :
    resolve properties (s ++ token body ++ t) = .ok (u ++ properties key default ++ v) := by
  have hvalue : resolve properties (token body) = .ok (properties key default) :=
    resolve_token hbody hparts hkey
  have hfront := resolve_append hs hvalue (unopened_token_right s body)
  exact resolve_append hfront ht (unopened_append_token s body t)

end

/-- A template can be cut behind any part that can be read, unless the cut is between a dollar
and a brace: what the two parts resolve to, put side by side, is what the template resolves to,
and a fault of the second part is found further right by the bytes of the first one.  Whether a
template can be resolved is decided by the template alone.  A placeholder gives way to the value
of its key and default, whatever that value is, and all other text stays. -/
theorem resolve_compositional (properties : PropertySource) :
    (∀ s t, check s = .ok () → ¬(s.toList.getLast? = some '$' ∧ t.toList.head? = some '{') →
      (check t = .ok () → ∃ u v, resolve properties s = .ok u ∧ resolve properties t = .ok v ∧
        resolve properties (s ++ t) = .ok (u ++ v)) ∧
      ∀ e, check t = .error e → ∃ fault, e = .malformed t fault ∧
        resolve properties (s ++ t) =
          .error (.malformed (s ++ t) (fault.shift s.utf8ByteSize))) ∧
    (∀ template, (∃ path, resolve properties template = .ok path) ↔ check template = .ok ()) ∧
    (∀ template e, resolve properties template = .error e ↔ check template = .error e) ∧
    (∀ body key default : String, IsBody body.toList →
      IsKeyAndDefault body.toList key.toList default.toList → key ≠ "" →
      resolve properties (token body) = .ok (properties key default) ∧
      ∀ s t u v, resolve properties s = .ok u → resolve properties t = .ok v →
        resolve properties (s ++ token body ++ t) = .ok (u ++ properties key default ++ v)) ∧
    (∀ template pieces, segments true template = .ok pieces →
      (∀ key default, .placeholder key default ∉ pieces) →
      resolve properties template = .ok template) ∧
    ∀ template, ¬['$', '{'] <:+: template.toList →
      resolve properties template = (check template).map fun _ => template := by
  refine ⟨?_, ?_, ?_, ?_, ?_, ?_⟩
  · intro s t hs hcut
    have hopen : Unopened true s.toList t.toList := fun h => hcut h.2
    constructor
    · intro ht
      obtain ⟨u, hu⟩ := exists_resolve_iff.2 hs
      obtain ⟨v, hv⟩ := exists_resolve_iff.2 ht
      exact ⟨u, v, hu, hv, resolve_append hu hv hopen⟩
    · intro e ht
      exact resolve_append_error hs ht hopen
  · intro template
    exact exists_resolve_iff
  · intro template e
    exact resolve_eq_error_iff
  · intro body key default hbody hparts hkey
    refine ⟨resolve_token hbody hparts hkey, ?_⟩
    intro s t u v hs ht
    exact resolve_append_token_append hs ht hbody hparts hkey
  · intro template pieces hpieces hnone
    exact resolve_eq_self hpieces hnone
  · intro template hopener
    cases hpieces : segments true template with
    | error e =>
        rw [check, resolve, hpieces]
        rfl
    | ok pieces =>
        have hnone : ∀ key default, .placeholder key default ∉ pieces := fun key default hmem =>
          hopener ((segments_eq_ok_iff.1 hpieces).opener_of_mem hmem)
        rw [resolve_eq_self hpieces hnone, check, hpieces]
        rfl

def bracedValue : PropertySource := fun key default =>
  if key = "a" then "$\x7bb\x7d" else default

/-- The first part ends in a dollar and has a letter of two bytes. -/
theorem resolve_compositional_dollar :
    resolve bracedValue ("é$" ++ token "a:1") = .ok ("é$" ++ "$\x7bb\x7d") ∧
      resolve bracedValue ("é$" ++ "/\x7d") =
        .error (.malformed ("é$" ++ "/\x7d") ⟨.unmatchedBrace, 4⟩) ∧
      resolve bracedValue ("é$" ++ token "a:1" ++ "/\x7bx\x7d") =
        .ok ("é$" ++ "$\x7bb\x7d" ++ "/\x7bx\x7d") ∧
      resolve bracedValue "é$" = .ok "é$" := by
  obtain ⟨hcut, hchecked, -, htoken, hself, hplain⟩ := resolve_compositional bracedValue
  have hliteral : Parses true ['é', '$'] [.literal ['é', '$']] :=
    .literal ⟨by decide, by decide, by simp⟩ (.literal ⟨by decide, by decide, by simp⟩ .nil)
  have hcheck : check "é$" = .ok () := check_eq_ok_iff.2 ⟨_, hliteral⟩
  have hfront : resolve bracedValue "é$" = .ok "é$" := by
    rw [hplain "é$" (by decide), hcheck]
    rfl
  have hparts : IsKeyAndDefault "a:1".toList "a".toList "1".toList := ⟨by decide, .inr (by decide)⟩
  have hbody : IsBody "a:1".toList := ⟨by decide, by decide⟩
  obtain ⟨hvalue, hbetween⟩ := htoken "a:1" "a" "1" hbody hparts (by decide)
  have hvariable : resolve bracedValue "/\x7bx\x7d" = .ok "/\x7bx\x7d" := by
    have hparses : Parses true ['/', '\x7b', 'x', '\x7d'] [.literal ['/'], .pathVariable ['x']] :=
      .literal (isLiteral_slash _)
        (@Parses.pathVariable true ['x'] [] [] (by simp) ⟨by decide, by decide⟩ .nil)
    exact hself _ _ (segments_eq_ok_iff.2 hparses) (by simp)
  refine ⟨?_, ?_, hbetween _ _ _ _ hfront hvariable, hfront⟩
  · obtain ⟨u, v, hu, hv, happend⟩ :=
      (hcut "é$" (token "a:1") hcheck (by decide)).1 ((hchecked _).1 ⟨_, hvalue⟩)
    obtain rfl := Except.ok.inj (hu.symm.trans hfront)
    obtain rfl := Except.ok.inj (hv.symm.trans hvalue)
    exact happend
  · have hread : segmentsFrom true 0 ['/', '\x7d'] = .error ⟨.unmatchedBrace, 1⟩ := by
      rw [segmentsFrom_cons_of_isLiteral (isLiteral_slash _), map_eq_error_iff]
      exact (Malformed.unmatchedBrace []).segmentsFrom_eq 1
    have hfault : check "/\x7d" = .error (.malformed "/\x7d" ⟨.unmatchedBrace, 1⟩) := by
      rw [check, segments, show "/\x7d".toList = ['/', '\x7d'] from rfl, hread]
      rfl
    obtain ⟨fault, hfault, happend⟩ := (hcut "é$" "/\x7d" hcheck (by decide)).2 _ hfault
    obtain rfl : ⟨.unmatchedBrace, 1⟩ = fault := (TemplateError.malformed.inj hfault).2
    exact happend

end RouteTable.Template
