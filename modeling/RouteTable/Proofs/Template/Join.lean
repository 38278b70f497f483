import RouteTable.Proofs.Path.Meet
import RouteTable.Proofs.Template.Grammar
/-!
# Joining templates

The separator that joining puts between two templates, and those that it leaves
out, are literal characters.  Main statement: `IsTemplate.join`, templates of the
grammar stay in the grammar when they are joined.
-/

namespace RouteTable.Template

open RouteTable.Path

/-- A text of the grammar. -/
def IsTemplate (placeholders : Bool) (cs : List Char) : Prop :=
  ∃ segments, Parses placeholders cs segments

section

variable {placeholders : Bool} {left right : List Char}

theorem isLiteral_slash (cs : List Char) : IsLiteral placeholders '/' cs :=
  ⟨by decide, by decide, by simp⟩

theorem IsTemplate.nil : IsTemplate placeholders [] := ⟨[], .nil⟩

theorem IsTemplate.cons_slash (h : IsTemplate placeholders right) :
    IsTemplate placeholders ('/' :: right) := by
  obtain ⟨segments, h⟩ := h
  exact ⟨_, .literal (isLiteral_slash right) h⟩

theorem IsTemplate.of_cons_slash (h : IsTemplate placeholders ('/' :: right)) :
    IsTemplate placeholders right := by
  obtain ⟨segments, h⟩ := h
  obtain ⟨rests, h, -⟩ := h.of_isLiteral (isLiteral_slash right)
  exact ⟨rests, h⟩

/-- A dollar at the end of the first text does not become part of a placeholder
unless a brace follows. -/
theorem IsTemplate.append (hleft : IsTemplate placeholders left)
    (hright : IsTemplate placeholders right) (hopen : right.head? ≠ some '{') :
    IsTemplate placeholders (left ++ right) := by
  obtain ⟨segments, hleft⟩ := hleft
  induction hleft with
  | nil => exact hright
  | @literal c cs _ hc _ ih =>
      obtain ⟨_, ih⟩ := ih
      refine ⟨_, .literal ⟨hc.1, hc.2.1, ?_⟩ ih⟩
      rintro ⟨hplaceholders, hdollar, hhead⟩
      cases cs with
      | nil => exact hopen hhead
      | cons d cs => exact hc.2.2 ⟨hplaceholders, hdollar, hhead⟩
  | pathVariable hname hbody _ ih =>
      obtain ⟨_, ih⟩ := ih
      have hvariable := Parses.pathVariable hname hbody ih
      exact ⟨_, by simpa using hvariable⟩
  | placeholder hplaceholders hbody hkey _ ih =>
      obtain ⟨_, ih⟩ := ih
      have hplaceholder := Parses.placeholder hplaceholders hbody hkey ih
      exact ⟨_, by simpa using hplaceholder⟩

theorem append_slash_eq {front cs : List Char} (h : left ++ ['/'] = front ++ '}' :: cs) :
    ∃ rest, cs = rest ++ ['/'] ∧ left = front ++ '}' :: rest := by
  rcases List.eq_nil_or_concat cs with rfl | ⟨rest, d, rfl⟩
  · obtain ⟨-, hlast⟩ := List.append_inj' h rfl
    simp at hlast
  · rw [List.concat_eq_append, ← List.cons_append, ← List.append_assoc] at h
    obtain ⟨rfl, hlast⟩ := List.append_inj' h rfl
    obtain rfl : '/' = d := by simpa using hlast
    exact ⟨rest, by simp, rfl⟩

theorem IsTemplate.of_append_slash (h : IsTemplate placeholders (left ++ ['/'])) :
    IsTemplate placeholders left := by
  obtain ⟨segments, h⟩ := h
  generalize htext : left ++ ['/'] = cs at h
  induction h generalizing left with
  | nil => simp at htext
  | @literal c cs _ hc _ ih =>
      cases left with
      | nil => exact .nil
      | cons d left =>
          obtain ⟨rfl, rfl⟩ := List.cons.inj (show d :: (left ++ ['/']) = c :: cs from htext)
          obtain ⟨_, ih⟩ := ih rfl
          refine ⟨_, .literal ⟨hc.1, hc.2.1, ?_⟩ ih⟩
          rintro ⟨hplaceholders, hdollar, hhead⟩
          exact hc.2.2 ⟨hplaceholders, hdollar, by simp [hhead]⟩
  | @pathVariable name cs _ hname hbody _ ih =>
      have hcut : left ++ ['/'] = ('{' :: name) ++ '}' :: cs := htext
      obtain ⟨rest, rfl, rfl⟩ := append_slash_eq hcut
      obtain ⟨_, ih⟩ := ih rfl
      exact ⟨_, .pathVariable hname hbody ih⟩
  | @placeholder body cs _ hplaceholders hbody hkey _ ih =>
      have hcut : left ++ ['/'] = ('$' :: '{' :: body) ++ '}' :: cs := htext
      obtain ⟨rest, rfl, rfl⟩ := append_slash_eq hcut
      obtain ⟨_, ih⟩ := ih rfl
      exact ⟨_, .placeholder hplaceholders hbody hkey ih⟩

theorem IsTemplate.trimStart (h : IsTemplate placeholders left) :
    IsTemplate placeholders (trimStart '/' left) := by
  unfold Path.trimStart
  induction left with
  | nil => exact h
  | cons c cs ih =>
      by_cases hc : c = '/'
      · subst hc
        rw [List.dropWhile_cons_of_pos (by simp)]
        exact ih h.of_cons_slash
      · rw [List.dropWhile_cons_of_neg (by simpa using hc)]
        exact h

theorem IsTemplate.trimEnd (h : IsTemplate placeholders left) :
    IsTemplate placeholders (trimEnd '/' left) := by
  unfold Path.trimEnd
  rw [← left.reverse_reverse] at h
  generalize left.reverse = cs at h ⊢
  induction cs with
  | nil => exact h
  | cons c cs ih =>
      by_cases hc : c = '/'
      · subst hc
        rw [List.reverse_cons] at h
        rw [List.dropWhile_cons_of_pos (by simp)]
        exact ih h.of_append_slash
      · rw [List.dropWhile_cons_of_neg (by simpa using hc)]
        exact h

theorem IsTemplate.meet (hleft : IsTemplate placeholders left)
    (hright : IsTemplate placeholders right) :
    IsTemplate placeholders (meet separator left right) := by
  unfold Path.meet
  split
  · exact hright
  · split
    · exact hleft
    · exact hleft.trimEnd.append hright.trimStart.cons_slash (by simp [separator])

theorem IsTemplate.foldl_meet {texts : List (List Char)} (hleft : IsTemplate placeholders left)
    (htexts : ∀ text ∈ texts, IsTemplate placeholders text) :
    IsTemplate placeholders (texts.foldl (Path.meet separator) left) := by
  induction texts generalizing left with
  | nil => exact hleft
  | cons text texts ih =>
      rw [List.forall_mem_cons] at htexts
      exact ih (hleft.meet htexts.1) htexts.2

theorem IsTemplate.join {templates : List String}
    (h : ∀ template ∈ templates, IsTemplate placeholders template.toList) :
    IsTemplate placeholders (join templates).toList := by
  rw [Path.join, toList_joinWith]
  refine IsTemplate.nil.foldl_meet ?_
  rw [List.forall_mem_map]
  exact h

end

end RouteTable.Template
