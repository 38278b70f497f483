import RouteTable.Pattern.Marked
import RouteTable.Pattern.Reader
/-!
# Matchers

A matcher is a fragment of pattern text that, put between anchors, is a
pattern.  What it matches is determined by the text of its fragment, which also
identifies it.
-/

namespace RouteTable.Pattern

def anchored (fragment : List Char) : List Char :=
  "^(?:".toList ++ fragment ++ ")$".toList

/-- A fragment with the pattern that it becomes between anchors. -/
structure Matcher where
  fragment : String
  program : Program
  read_fragment : Program.read? (anchored fragment.toList) = some program

namespace Matcher

def regex (m : Matcher) : Regex := m.program.regex.get

/-- The matcher of a fragment, whatever its size. -/
def ofFragment? (fragment : String) : Option Matcher :=
  match h : Program.read? (anchored fragment.toList) with
  | none => none
  | some program => some ⟨fragment, program, h⟩

/-- Whether the engine takes a matcher of this size. -/
def fits (m : Matcher) : Bool := m.program.fits

def accepts (m : Matcher) (path : String) : Bool :=
  m.regex.occursIn path.toList

theorem ext_fragment {m n : Matcher} (h : m.fragment = n.fragment) : m = n := by
  obtain ⟨fragment, program, hm⟩ := m
  obtain ⟨fragment', program', hn⟩ := n
  cases h
  obtain rfl : program = program' := Option.some.inj (hm.symm.trans hn)
  rfl

theorem fragment_inj {m n : Matcher} : m.fragment = n.fragment ↔ m = n :=
  ⟨ext_fragment, congrArg fragment⟩

instance : DecidableEq Matcher := fun m n =>
  if h : m.fragment = n.fragment then isTrue (ext_fragment h)
  else isFalse fun heq => h (congrArg fragment heq)

theorem fragment_of_ofFragment? {fragment : String} {m : Matcher}
    (h : ofFragment? fragment = some m) : m.fragment = fragment := by
  unfold ofFragment? at h
  split at h
  · simp at h
  · cases h
    rfl

end Matcher

end RouteTable.Pattern
