import RouteTable.Proofs.Template.Grammar
import RouteTable.Wildcard.Fragment
/-!
# Tokens of a resolved path

A path whose placeholders have been replaced is a sequence of literal
characters, path variables and wildcards.  Main statement: `reads_read`, in a
path that has a matcher every brace belongs to a path variable, and nothing is
lost when it is read from left to right.
-/

namespace RouteTable.Wildcard

open RouteTable.Pattern
open RouteTable.Template

inductive PathToken where
  | literal (c : Char)
  /-- `{name}`: a part without slashes that is not empty. -/
  | segment (name : List Char)
  /-- `*`: a part without slashes. -/
  | star
  /-- `**`: any part of a path. -/
  | doubleStar
  /-- `?`: one character. -/
  | question
  deriving DecidableEq, Repr

namespace PathToken

/-- Reads a path from left to right.  Of a run of stars the pairs are read first,
so that only the last one can stand alone. -/
def read : List Char → List PathToken
  | [] => []
  | '*' :: '*' :: cs => doubleStar :: read cs
  | '*' :: cs => star :: read cs
  | '?' :: cs => question :: read cs
  | '{' :: cs =>
      segment (cs.takeWhile (· ≠ '}')) :: read ((cs.dropWhile (· ≠ '}')).drop 1)
  | c :: cs => literal c :: read cs
termination_by cs => cs.length
decreasing_by
  all_goals simp only [List.length_cons, List.length_drop]
  all_goals try have := (List.dropWhile_sublist (fun c => decide (c ≠ '}')) (l := cs)).length_le
  all_goals omega

def escapeLiteral (c : Char) : List Char :=
  if specialCharacters.contains c then ['\\', c] else [c]

def fragment : PathToken → List Char
  | literal c => escapeLiteral c
  | segment _ => "[^/]+".toList
  | star => "[^/]*".toList
  | doubleStar => ".*".toList
  | question => ".".toList

end PathToken

structure IsPlain (c : Char) : Prop where
  ne_star : c ≠ '*'
  ne_question : c ≠ '?'
  ne_open : c ≠ '{'
  ne_close : c ≠ '}'
  ne_sentinel : c ≠ sentinel

/-- The paths that have a matcher, with their tokens. -/
inductive Reads : List Char → List PathToken → Prop where
  | nil : Reads [] []
  | literal {c : Char} {cs : List Char} {ts : List PathToken} (hc : IsPlain c)
      (hcs : Reads cs ts) : Reads (c :: cs) (.literal c :: ts)
  | segment {name cs : List Char} {ts : List PathToken} (hname : name ≠ [])
      (hbody : IsBody name) (hcs : Reads cs ts) :
      Reads ('{' :: (name ++ '}' :: cs)) (.segment name :: ts)
  | doubleStar {cs : List Char} {ts : List PathToken} (hcs : Reads cs ts) :
      Reads ('*' :: '*' :: cs) (.doubleStar :: ts)
  | star {cs : List Char} {ts : List PathToken} (hstar : cs.head? ≠ some '*')
      (hcs : Reads cs ts) : Reads ('*' :: cs) (.star :: ts)
  | question {cs : List Char} {ts : List PathToken} (hcs : Reads cs ts) :
      Reads ('?' :: cs) (.question :: ts)

def PathToken.IsWellFormed : PathToken → Prop
  | literal c => IsPlain c
  | segment name => name ≠ [] ∧ IsBody name
  | star | doubleStar | question => True

theorem Reads.isWellFormed {path : List Char} {ts : List PathToken} (h : Reads path ts) :
    ∀ t ∈ ts, t.IsWellFormed := by
  induction h with
  | nil => simp
  | literal hc _ ih => exact List.forall_mem_cons.2 ⟨hc, ih⟩
  | segment hname hbody _ ih => exact List.forall_mem_cons.2 ⟨⟨hname, hbody⟩, ih⟩
  | doubleStar _ ih | star _ _ ih | question _ ih => exact List.forall_mem_cons.2 ⟨trivial, ih⟩

theorem isLiteral_false {c : Char} {cs : List Char} (hopen : c ≠ '{') (hclose : c ≠ '}') :
    IsLiteral false c cs := ⟨hopen, hclose, by simp⟩

theorem takeWhile_body {name rest : List Char} (hname : '}' ∉ name) :
    (name ++ '}' :: rest).takeWhile (· ≠ '}') = name := by
  rw [List.takeWhile_append_of_pos]
  · simp
  · intro c hc
    simp only [ne_eq, decide_not, Bool.not_eq_eq_eq_not, Bool.not_true, decide_eq_false_iff_not]
    rintro rfl
    exact hname hc

theorem dropWhile_body {name rest : List Char} (hname : '}' ∉ name) :
    ((name ++ '}' :: rest).dropWhile (· ≠ '}')).drop 1 = rest := by
  rw [List.dropWhile_append_of_pos]
  · simp
  · intro c hc
    simp only [ne_eq, decide_not, Bool.not_eq_eq_eq_not, Bool.not_true, decide_eq_false_iff_not]
    rintro rfl
    exact hname hc

theorem reads_read {path : List Char} {segments : List Segment}
    (h : Parses false path segments) (hsentinel : sentinel ∉ path) :
    Reads path (PathToken.read path) := by
  induction path using PathToken.read.induct generalizing segments with
  | case1 =>
      rw [PathToken.read]
      exact .nil
  | case2 cs ih =>
      obtain ⟨_, h, -⟩ := h.of_isLiteral (isLiteral_false (by decide) (by decide))
      obtain ⟨_, h, -⟩ := h.of_isLiteral (isLiteral_false (by decide) (by decide))
      rw [PathToken.read]
      exact .doubleStar (ih h (by simp_all))
  | case3 cs hne ih =>
      obtain ⟨_, h, -⟩ := h.of_isLiteral (isLiteral_false (by decide) (by decide))
      rw [PathToken.read]
      · refine .star (fun hhead => ?_) (ih h (by simp_all))
        obtain ⟨cs', rfl⟩ := List.head?_eq_some_iff.1 hhead
        exact hne cs' rfl
      · exact hne
  | case4 cs ih =>
      obtain ⟨_, h, -⟩ := h.of_isLiteral (isLiteral_false (by decide) (by decide))
      rw [PathToken.read]
      exact .question (ih h (by simp_all))
  | case5 cs ih =>
      obtain ⟨name, rest, _, rfl, hne, hbody, hrest, -⟩ := h.of_open
      rw [dropWhile_body hbody.2] at ih
      rw [PathToken.read, takeWhile_body hbody.2, dropWhile_body hbody.2]
      exact .segment hne hbody (ih hrest (by simp_all))
  | case6 c cs _ hstar hquestion hopen ih =>
      have hclose : c ≠ '}' := by
        rintro rfl
        exact not_parses_close h
      obtain ⟨_, h, -⟩ := h.of_isLiteral (isLiteral_false hopen hclose)
      rw [PathToken.read]
      · refine .literal ⟨hstar, hquestion, hopen, hclose, ?_⟩ (ih h (by simp_all))
        rintro rfl
        simp at hsentinel
      all_goals assumption

end RouteTable.Wildcard
