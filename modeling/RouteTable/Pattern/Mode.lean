import RouteTable.Pattern.Look
import RouteTable.Text.Remainder
/-!
# Modes

Letters in a group switch how the rest of the group is read: whether case counts,
what a dot and the anchors mean, and whether blanks and comments can be put in.
-/

namespace RouteTable.Pattern

open RouteTable.Text

structure Mode where
  caseless : Bool
  multiLine : Bool
  dotAll : Bool
  returns : Bool
  verbose : Bool
  /-- Quantifiers prefer few rounds unless they are marked. -/
  swapped : Bool
  /-- Classes hold ASCII characters only. -/
  asciiOnly : Bool
  deriving DecidableEq, Repr

namespace Mode

def default : Mode := ⟨false, false, false, false, false, false, false⟩

def switch? (on : Bool) (mode : Mode) : Char → Option Mode
  | 'i' => some { mode with caseless := on }
  | 'm' => some { mode with multiLine := on }
  | 's' => some { mode with dotAll := on }
  | 'R' => some { mode with returns := on }
  | 'x' => some { mode with verbose := on }
  | 'U' => some { mode with swapped := on }
  | 'u' => some { mode with asciiOnly := !on }
  | _ => none

def isAscii (c : Char) : Bool := c.toNat < 0x80

def variants (mode : Mode) (c : Char) : List Char :=
  if mode.caseless then
    (caseVariants c).filter fun d => !mode.asciiOnly || isAscii c && isAscii d
  else []

def character (mode : Mode) (c : Char) : CharSet :=
  match mode.variants c with
  | [] => .single c
  | others => .ofList (c :: others)

def widen (mode : Mode) (set : CharSet) : CharSet :=
  if !mode.caseless then set
  else if mode.asciiOnly then .inter .ascii (.caseless set)
  else .caseless set

/-- A class, or the characters outside of it if it is negated.  These cannot be
asked for where classes hold ASCII characters only. -/
def class? (mode : Mode) (negated : Bool) (set : CharSet) : Option CharSet :=
  if !negated then some set
  else if mode.asciiOnly then none
  else some (.compl set)

def member? (mode : Mode) (c : Char) : Option CharSet :=
  if mode.asciiOnly && !isAscii c then none else some (mode.character c)

def range? (mode : Mode) (low high : Char) : Option CharSet :=
  if low ≤ high ∧ (mode.asciiOnly → isAscii high) then some (mode.widen (.range low high))
  else none

def digit (mode : Mode) : CharSet := if mode.asciiOnly then .range '0' '9' else .digit

def space (mode : Mode) : CharSet := if mode.asciiOnly then .asciiSpace else .space

def word (mode : Mode) : CharSet := if mode.asciiOnly then .asciiWord else .word

def dot? (mode : Mode) : Option CharSet :=
  if mode.asciiOnly then none
  else if mode.dotAll then some .any
  else if mode.returns then some (.compl (.ofList ['\n', '\r']))
  else some .anyButNewline

def start (mode : Mode) : Look :=
  if mode.multiLine then if mode.returns then .returnLineStart else .lineStart
  else .textStart

def stop (mode : Mode) : Look :=
  if mode.multiLine then if mode.returns then .returnLineEnd else .lineEnd
  else .textEnd

/-- The text after any white space and comments.  A comment goes from a number
sign to the end of its line. -/
def skipBlanks (inComment : Bool) : List Char → List Char
  | [] => []
  | c :: cs =>
      if inComment then skipBlanks (c ≠ '\n') cs
      else if c = '#' then skipBlanks true cs
      else if isWhiteSpace c then skipBlanks false cs
      else c :: cs

/-- The text from the next character that means something. -/
def skip (mode : Mode) (cs : List Char) : List Char :=
  if mode.verbose then skipBlanks false cs else cs

@[simp] theorem skip_nil (mode : Mode) : mode.skip [] = [] := by
  unfold skip
  split <;> rfl

theorem suffix_skipBlanks (inComment : Bool) (cs : List Char) : skipBlanks inComment cs <:+ cs := by
  induction cs generalizing inComment with
  | nil => simp [skipBlanks]
  | cons c cs ih =>
      have hstep (inComment : Bool) : skipBlanks inComment cs <:+ c :: cs :=
        (ih inComment).trans (List.suffix_cons c cs)
      unfold skipBlanks
      split
      · exact hstep _
      · split
        · exact hstep _
        · split
          · exact hstep _
          · exact List.suffix_refl _

theorem suffix_skip (mode : Mode) (cs : List Char) : mode.skip cs <:+ cs := by
  unfold skip
  split
  · exact suffix_skipBlanks false cs
  · exact List.suffix_refl _

theorem length_skip (mode : Mode) (cs : List Char) : (mode.skip cs).length ≤ cs.length :=
  (mode.suffix_skip cs).length_le

theorem behind_of_skip_eq_cons {mode : Mode} {cs rest : List Char} {c : Char}
    (h : mode.skip cs = c :: rest) : Behind rest cs :=
  ⟨c, h ▸ mode.suffix_skip cs⟩

theorem length_of_skip_eq_cons {mode : Mode} {cs rest : List Char} {c : Char}
    (h : mode.skip cs = c :: rest) : rest.length < cs.length :=
  (behind_of_skip_eq_cons h).length_lt

def take? (mode : Mode) : Nat → List Char → Option (List Char × List Char)
  | 0, cs => some ([], cs)
  | n + 1, cs =>
      match mode.skip cs with
      | [] => none
      | c :: cs => (mode.take? n cs).map fun (front, rest) => (c :: front, rest)

def upTo? (mode : Mode) (stop : Char) (cs : List Char) : Option (List Char × List Char) :=
  match _h : mode.skip cs with
  | [] => none
  | c :: cs =>
      if c = stop then some ([], cs)
      else (mode.upTo? stop cs).map fun (front, rest) => (c :: front, rest)
termination_by cs.length
decreasing_by exact length_of_skip_eq_cons ‹_›

def span (mode : Mode) (p : Char → Bool) : List Char → List Char × List Char
  | [] => ([], [])
  | c :: cs =>
      if p c then
        let (front, rest) := mode.span p (mode.skip cs)
        (c :: front, rest)
      else ([], c :: cs)
termination_by cs => cs.length
decreasing_by exact Nat.lt_succ_of_le (mode.length_skip _)

/-- The character that a dash in a class has behind it.  White space is left out
there, and one number sign within it. -/
def peek? (mode : Mode) (cs : List Char) : Option Char :=
  if mode.verbose then
    match cs.dropWhile isWhiteSpace with
    | '#' :: cs => (cs.dropWhile isWhiteSpace).head?
    | cs => cs.head?
  else cs.head?

theorem suffix_of_take? {mode : Mode} {n : Nat} {cs front rest : List Char}
    (h : mode.take? n cs = some (front, rest)) : rest <:+ cs := by
  induction n generalizing cs front with
  | zero =>
      cases h
      exact List.suffix_refl _
  | succ n ih =>
      rw [take?] at h
      split at h
      · simp at h
      · rename_i hskip
        simp only [Option.map_eq_some_iff, Prod.exists] at h
        obtain ⟨_, _, htake, heq⟩ := h
        cases heq
        exact (ih htake).trans (behind_of_skip_eq_cons hskip).suffix

theorem behind_of_upTo? {mode : Mode} {stop : Char} {cs front rest : List Char}
    (h : mode.upTo? stop cs = some (front, rest)) : Behind rest cs := by
  fun_induction upTo? mode stop cs generalizing front with
  | case1 => simp at h
  | case2 _ _ hskip =>
      cases h
      exact behind_of_skip_eq_cons hskip
  | case3 _ _ _ hskip _ ih =>
      simp only [Option.map_eq_some_iff, Prod.exists] at h
      obtain ⟨_, _, hupTo, heq⟩ := h
      cases heq
      exact (ih hupTo).trans_suffix (behind_of_skip_eq_cons hskip).suffix

theorem suffix_span (mode : Mode) (p : Char → Bool) (cs : List Char) :
    (mode.span p cs).2 <:+ cs := by
  fun_induction span mode p cs with
  | case1 => exact List.suffix_refl _
  | case2 c cs _ _ _ hspan ih =>
      rw [hspan] at ih
      exact ih.trans ((mode.suffix_skip cs).trans (List.suffix_cons c cs))
  | case3 => exact List.suffix_refl _

end Mode

end RouteTable.Pattern
