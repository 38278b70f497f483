import RouteTable.Template.Error
import RouteTable.Text.Width
/-!
# Segments of a template

A template is literal text, path variables `{name}` and, where they are asked
for, placeholders `${key}` and `${key:default}`.  Without placeholders a `$` is
ordinary text.
-/

namespace RouteTable.Template

open RouteTable.Text

inductive Segment where
  | literal (text : List Char)
  | placeholder (key default : List Char)
  | pathVariable (name : List Char)
  deriving DecidableEq, Repr

def closing : List Char → Option (List Char × List Char)
  | [] => none
  | c :: cs =>
      if c = '}' then some ([], cs)
      else (closing cs).map fun (body, rest) => (c :: body, rest)

def keyAndDefault (body : List Char) : List Char × List Char :=
  (body.takeWhile (· ≠ ':'), (body.dropWhile (· ≠ ':')).drop 1)

theorem length_of_closing {cs body rest : List Char}
    (h : closing cs = some (body, rest)) : rest.length < cs.length := by
  induction cs generalizing body with
  | nil => simp [closing] at h
  | cons c cs ih =>
      by_cases hc : c = '}'
      · simp [closing, hc] at h
        simp [← h.2]
      · rw [closing, if_neg hc, Option.map_eq_some_iff] at h
        obtain ⟨⟨body', rest'⟩, hcs, heq⟩ := h
        cases heq
        exact Nat.lt_succ_of_lt (ih hcs)

/-- Puts a character in front of literal text, which may have to be begun. -/
def consLiteral (c : Char) : List Segment → List Segment
  | .literal text :: rest => .literal (c :: text) :: rest
  | segments => .literal [c] :: segments

def placeholder (start : Nat) (body : List Char) : Except Fault Segment :=
  match offsetOf? '{' body with
  | some n => .error ⟨.nestedBrace, start + 2 + n⟩
  | none =>
      let (key, default) := keyAndDefault body
      if key = [] then .error ⟨.emptyPlaceholderKey, start⟩
      else .ok (.placeholder key default)

def pathVariable (start : Nat) (body : List Char) : Except Fault Segment :=
  match offsetOf? '{' body with
  | some n => .error ⟨.nestedBrace, start + 1 + n⟩
  | none =>
      if body = [] then .error ⟨.emptyVariable, start⟩ else .ok (.pathVariable body)

/-- Reads segments from the byte offset `start` on.  Literal text is taken in
one piece, and the first malformed token ends the reading. -/
def segmentsFrom (placeholders : Bool) (start : Nat) :
    List Char → Except Fault (List Segment)
  | [] => .ok []
  | '}' :: _ => .error ⟨.unmatchedBrace, start⟩
  | '{' :: cs =>
      match h : closing cs with
      | none => .error ⟨.unclosedVariable, start⟩
      | some (body, rest) => do
          let segment ← pathVariable start body
          let segments ← segmentsFrom placeholders (start + width body + 2) rest
          return segment :: segments
  | '$' :: '{' :: cs =>
      if placeholders then
        match h : closing cs with
        | none => .error ⟨.unclosedPlaceholder, start⟩
        | some (body, rest) => do
            let segment ← placeholder start body
            let segments ← segmentsFrom placeholders (start + width body + 3) rest
            return segment :: segments
      else
        (segmentsFrom placeholders (start + 1) ('{' :: cs)).map (consLiteral '$')
  | c :: cs => (segmentsFrom placeholders (start + c.utf8Size) cs).map (consLiteral c)
termination_by cs => cs.length
decreasing_by
  all_goals try have := length_of_closing h
  all_goals simp_all
  all_goals omega

def segments (placeholders : Bool) (template : String) :
    Except TemplateError (List Segment) :=
  (segmentsFrom placeholders 0 template.toList).mapError (.malformed template)

def check (template : String) : Except TemplateError Unit :=
  (segments true template).map fun _ => ()

end RouteTable.Template
