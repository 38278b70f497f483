import RouteTable.Pattern.Regex
/-!
# Matching by marks

A text is matched from left to right with marks on the atoms that have read the
last character of a word under way.  Each character moves the marks.  Parts of
the pattern without a mark are left alone until a word gets to them.
-/

namespace RouteTable.Pattern

/-- A pattern with a mark on some of its atoms. -/
inductive Marked where
  | idle (r : Regex)
  | mark (set : CharSet)
  | seq (first second : Marked)
  | alt (left right : Marked)
  | star (isLazy : Bool) (body : Marked)
  | plus (isLazy : Bool) (body : Marked)
  deriving Repr

namespace Marked

def ofSeq : Marked → Marked → Marked
  | idle p, idle q => idle (.seq p q)
  | p, q => seq p q

def ofAlt : Marked → Marked → Marked
  | idle p, idle q => idle (.alt p q)
  | p, q => alt p q

def ofStar (isLazy : Bool) : Marked → Marked
  | idle p => idle (.star isLazy p)
  | p => star isLazy p

def ofPlus (isLazy : Bool) : Marked → Marked
  | idle p => idle (.plus isLazy p)
  | p => plus isLazy p

def nullable (before after : Option Char) : Marked → Bool
  | idle r => r.nullable before after
  | mark _ => false
  | seq first second => first.nullable before after && second.nullable before after
  | alt left right => left.nullable before after || right.nullable before after
  | star _ _ => true
  | plus _ body => body.nullable before after

def isFinal (before after : Option Char) : Marked → Bool
  | idle _ => false
  | mark _ => true
  | seq first second =>
      first.isFinal before after && second.nullable before after || second.isFinal before after
  | alt left right => left.isFinal before after || right.isFinal before after
  | star _ body | plus _ body => body.isFinal before after

/-- Marks the atoms with which a word can begin that reads `c` after `before`. -/
def enter (before : Option Char) (c : Char) : Regex → Marked
  | .empty => idle .empty
  | .look condition => idle (.look condition)
  | .atom set => if set.contains c then mark set else idle (.atom set)
  | .seq first second =>
      ofSeq (enter before c first)
        (if first.nullable before (some c) then enter before c second else idle second)
  | .alt left right => ofAlt (enter before c left) (enter before c right)
  | .star isLazy body => ofStar isLazy (enter before c body)
  | .plus isLazy body => ofPlus isLazy (enter before c body)

/-- Moves the marks as `c` is read after `before`.  With `entered`, a word can
also begin with that character. -/
def shift (before : Option Char) (entered : Bool) (c : Char) : Marked → Marked
  | idle r => if entered then enter before c r else idle r
  | mark set => if entered && set.contains c then mark set else idle (.atom set)
  | seq first second =>
      let passed := entered && first.nullable before (some c) || first.isFinal before (some c)
      ofSeq (first.shift before entered c) (second.shift before passed c)
  | alt left right => ofAlt (left.shift before entered c) (right.shift before entered c)
  | star isLazy body =>
      ofStar isLazy (body.shift before (entered || body.isFinal before (some c)) c)
  | plus isLazy body =>
      ofPlus isLazy (body.shift before (entered || body.isFinal before (some c)) c)

/-- Whether a word that matches ends here or further on.  It may be one that is
under way, or one that begins here or further on. -/
def occurs (before : Option Char) (m : Marked) : List Char → Bool
  | [] => m.nullable before none || m.isFinal before none
  | c :: cs =>
      m.nullable before (some c) || m.isFinal before (some c) ||
        occurs (some c) (m.shift before true c) cs

end Marked

/-- Whether some part of the text matches. -/
def Regex.occursIn (r : Regex) (text : List Char) : Bool :=
  Marked.occurs none (.idle r) text

end RouteTable.Pattern
