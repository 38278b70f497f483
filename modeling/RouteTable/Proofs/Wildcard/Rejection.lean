import RouteTable.Proofs.Template.Bytes
import RouteTable.Wildcard.Fragment
/-!
# Rejected paths

A path without a fragment has malformed braces or holds the sentinel.  Main statement:
`first_fault_located`, a rejection points at the first malformed token, or, if there is
none, at the first sentinel.
-/

namespace RouteTable.Wildcard

open RouteTable.Template
open RouteTable.Text

/-- The sentinel is only looked for in a path whose braces are well formed. -/
theorem fragment_eq_error_iff {path : String} {e : TemplateError} :
    fragment path = .error e ↔
      segments false path = .error e ∨
        (∃ segs, segments false path = .ok segs) ∧
          ∃ front back, path = front ++ String.singleton sentinel ++ back ∧
            sentinel ∉ front.toList ∧
            e = .malformed path ⟨.reservedCharacter, front.utf8ByteSize⟩ := by
  rw [fragment, bind_eq_error_iff]
  apply or_congr_right
  constructor
  · rintro ⟨segs, hsegs, h⟩
    refine ⟨⟨segs, hsegs⟩, ?_⟩
    cases hoffset : offsetOf? sentinel path.toList with
    | none =>
        rw [hoffset] at h
        cases h
    | some n =>
        rw [hoffset] at h
        obtain ⟨front, back, htext, hfront, rfl⟩ := offsetOf?_eq_some hoffset
        have hwidth : width front = (String.ofList front).utf8ByteSize := by
          rw [← width_toList, String.toList_ofList]
        refine ⟨String.ofList front, String.ofList back, ?_, ?_, ?_⟩
        · apply String.toList_injective
          simp [htext]
        · rwa [String.toList_ofList]
        · rw [← hwidth]
          exact (Except.error.inj h).symm
  · rintro ⟨⟨segs, hsegs⟩, front, back, htext, hfront, rfl⟩
    have hlist : path.toList = front.toList ++ sentinel :: back.toList := by
      simp [htext]
    refine ⟨segs, hsegs, ?_⟩
    rw [hlist, offsetOf?_append hfront, width_toList]

/-- A template is rejected exactly if a malformed token comes after a front that can be read.
There is only one such place, and the fault lies in the template, at a character of it.  A
reader of bytes finds the same fault and cuts no character.  Where the braces of a path are
well formed, the fault is the first sentinel. -/
theorem first_fault_located (placeholders : Bool) (template : String) :
    (∀ e, segments placeholders template = .error e ↔
      ∃ front back fault, StopsAt placeholders template front back fault ∧
        e = .malformed template fault) ∧
    (∀ front back fault, StopsAt placeholders template front back fault →
      front.utf8ByteSize ≤ fault.offset ∧ fault.offset < template.utf8ByteSize ∧
        String.Pos.Raw.IsValid template ⟨fault.offset⟩) ∧
    (∀ front back fault front' back' fault',
      StopsAt placeholders template front back fault →
      StopsAt placeholders template front' back' fault' → front = front' ∧ fault = fault') ∧
    segmentsOfBytes placeholders template ≠ .error .cutCharacter ∧
    segmentsOfBytes placeholders template =
      (segmentsFrom placeholders 0 template.toList).mapError .fault ∧
    ∀ e, fragment template = .error e ↔
      segments false template = .error e ∨
        (∃ segs, segments false template = .ok segs) ∧
          ∃ front back, template = front ++ String.singleton sentinel ++ back ∧
            sentinel ∉ front.toList ∧
            e = .malformed template ⟨.reservedCharacter, front.utf8ByteSize⟩ := by
  refine ⟨?_, ?_, ?_, segmentsOfBytes_ne_cutCharacter placeholders template,
    segmentsOfBytes_eq placeholders template, ?_⟩
  · intro e
    exact segments_eq_error_iff
  · intro front back fault h
    obtain ⟨n, hoffset, -⟩ := h.malformed
    have hfront : front.utf8ByteSize ≤ fault.offset := by omega
    exact ⟨hfront, h.offset_valid⟩
  · intro front back fault front' back' fault' h h'
    exact ⟨h.front_eq h', h.fault_eq h'⟩
  · intro e
    exact fragment_eq_error_iff

/-- The brace inside the token comes before the key is looked at, and an offset counts the
bytes of the letter in front. -/
theorem first_fault_located_nested :
    segments true "é$\x7b:\x7bb\x7d\x7d" =
        .error (.malformed "é$\x7b:\x7bb\x7d\x7d" ⟨.nestedBrace, 5⟩) ∧
      5 < "é$\x7b:\x7bb\x7d\x7d".utf8ByteSize ∧
      fragment "é\x22" = .error (.malformed "é\x22" ⟨.reservedCharacter, 2⟩) := by
  have hfront : Parses true ['é'] [.literal ['é']] :=
    .literal ⟨by decide, by decide, by simp⟩ .nil
  have hback : Malformed true ['$', '\x7b', ':', '\x7b', 'b', '\x7d', '\x7d'] .nestedBrace 3 :=
    @Malformed.nestedInPlaceholder true [':'] ['b'] ['\x7d'] rfl (by simp [IsBody]) (by decide)
  have hstops : StopsAt true "é$\x7b:\x7bb\x7d\x7d" "é" "$\x7b:\x7bb\x7d\x7d"
      ⟨.nestedBrace, 5⟩ :=
    ⟨by decide, ⟨_, segments_eq_ok_iff.2 hfront⟩, by simp [Unopened], 3, by decide, hback⟩
  have hread : Parses false ['é', '\x22'] [.literal ['é', '\x22']] :=
    .literal ⟨by decide, by decide, by simp⟩ (.literal ⟨by decide, by decide, by simp⟩ .nil)
  obtain ⟨hsegments, hoffset, -⟩ := first_fault_located true "é$\x7b:\x7bb\x7d\x7d"
  obtain ⟨-, -, -, -, -, hfragment⟩ := first_fault_located false "é\x22"
  exact ⟨(hsegments _).2 ⟨_, _, _, hstops, rfl⟩, (hoffset _ _ _ hstops).2.1,
    (hfragment _).2 (.inr
      ⟨⟨_, segments_eq_ok_iff.2 hread⟩, "é", "", by decide, by decide, by decide⟩)⟩

end RouteTable.Wildcard
