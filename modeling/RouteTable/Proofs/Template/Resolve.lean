import RouteTable.Proofs.Template.Join
import RouteTable.Template.Placeholder
/-!
# Resolved templates

A template of the grammar can be resolved, and the result is a text of the grammar
again if the values bring in no braces: `Parses.isTemplate_resolved`.
-/

namespace RouteTable.Template

theorem flatMap_value_consLiteral (properties : PropertySource) (c : Char)
    (segments : List Segment) :
    (consLiteral c segments).flatMap (Segment.value properties) =
      c :: segments.flatMap (Segment.value properties) := by
  unfold consLiteral
  split <;> simp [Segment.value]

theorem placeholder_mem_consLiteral {c : Char} {segments : List Segment} {key default : List Char} :
    .placeholder key default ∈ consLiteral c segments ↔ .placeholder key default ∈ segments := by
  unfold consLiteral
  split <;> simp

/-- Where placeholders are not asked for, all text without braces is literal. -/
theorem IsTemplate.append_body {w cs : List Char} (hw : IsBody w) (h : IsTemplate false cs) :
    IsTemplate false (w ++ cs) := by
  induction w with
  | nil => exact h
  | cons c w ih =>
      obtain ⟨hopen, hclose⟩ := hw
      simp only [List.mem_cons, not_or] at hopen hclose
      obtain ⟨_, hrest⟩ := ih ⟨hopen.2, hclose.2⟩
      exact ⟨_, .literal ⟨Ne.symm hopen.1, Ne.symm hclose.1, by simp⟩ hrest⟩

theorem Parses.of_isBody (placeholders : Bool) {cs : List Char} (h : IsBody cs) :
    ∃ segments, Parses placeholders cs segments ∧
      ∀ key default, .placeholder key default ∉ segments := by
  induction cs with
  | nil => exact ⟨[], .nil, by simp⟩
  | cons c cs ih =>
      obtain ⟨hopen, hclose⟩ := h
      simp only [List.mem_cons, not_or] at hopen hclose
      obtain ⟨segments, hrest, hnone⟩ := ih ⟨hopen.2, hclose.2⟩
      have hc : IsLiteral placeholders c cs :=
        ⟨Ne.symm hopen.1, Ne.symm hclose.1, fun h => hopen.2 (List.mem_of_mem_head? h.2.2)⟩
      refine ⟨_, .literal hc hrest, fun key default hmem => ?_⟩
      exact hnone key default (placeholder_mem_consLiteral.1 hmem)

theorem check_eq_ok_iff {template : String} :
    check template = .ok () ↔ IsTemplate true template.toList := by
  rw [check, map_eq_ok_iff]
  simp [segments_eq_ok_iff, IsTemplate]

section

variable {properties : PropertySource}

theorem resolve_eq_ok_iff {template path : String} :
    resolve properties template = .ok path ↔
      ∃ segments, Parses true template.toList segments ∧
        String.ofList (segments.flatMap (Segment.value properties)) = path := by
  simp only [← segments_eq_ok_iff, resolve, map_eq_ok_iff]

theorem IsTemplate.exists_resolve {template : String} (h : IsTemplate true template.toList)
    (properties : PropertySource) : ∃ path, resolve properties template = .ok path := by
  obtain ⟨segments, hsegments⟩ := h
  exact ⟨_, resolve_eq_ok_iff.2 ⟨segments, hsegments, rfl⟩⟩

theorem Parses.isTemplate_resolved {cs : List Char} {segments : List Segment}
    (h : Parses true cs segments)
    (hvalues : ∀ key default, .placeholder key default ∈ segments →
      IsBody (properties (String.ofList key) (String.ofList default)).toList) :
    IsTemplate false (segments.flatMap (Segment.value properties)) := by
  induction h with
  | nil => exact .nil
  | literal hc _ ih =>
      obtain ⟨_, hrest⟩ := ih fun key default hmem =>
        hvalues key default (placeholder_mem_consLiteral.2 hmem)
      rw [flatMap_value_consLiteral]
      exact ⟨_, .literal ⟨hc.1, hc.2.1, by simp⟩ hrest⟩
  | pathVariable hname hbody _ ih =>
      obtain ⟨_, hrest⟩ := ih fun key default hmem =>
        hvalues key default (List.mem_cons_of_mem _ hmem)
      have hvariable := Parses.pathVariable hname hbody hrest
      exact ⟨_, by simpa [Segment.value] using hvariable⟩
  | placeholder _ hbody hkey _ ih =>
      have hrest := ih fun key default hmem => hvalues key default (List.mem_cons_of_mem _ hmem)
      exact hrest.append_body (hvalues _ _ List.mem_cons_self)

/-- Every character of a resolved template comes from the template or from a value. -/
theorem Parses.mem_of_mem_resolved {cs : List Char} {segments : List Segment}
    (h : Parses true cs segments) {c : Char}
    (hc : c ∈ segments.flatMap (Segment.value properties)) :
    c ∈ cs ∨ ∃ key default, .placeholder key default ∈ segments ∧
      c ∈ (properties (String.ofList key) (String.ofList default)).toList := by
  induction h with
  | nil => simp at hc
  | literal _ _ ih =>
      rw [flatMap_value_consLiteral, List.mem_cons] at hc
      simp only [placeholder_mem_consLiteral, List.mem_cons]
      grind
  | pathVariable _ _ _ ih =>
      rw [List.flatMap_cons, List.mem_append] at hc
      simp only [Segment.value] at hc
      grind
  | placeholder _ _ _ _ ih =>
      rw [List.flatMap_cons, List.mem_append] at hc
      simp only [Segment.value] at hc
      grind

end

end RouteTable.Template
