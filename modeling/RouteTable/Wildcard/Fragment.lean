import RouteTable.Pattern.Escape
import RouteTable.Pattern.Matcher
import RouteTable.Pattern.Replace
import RouteTable.Template.Segment
/-!
# Matcher fragments

A resolved path is rewritten to pattern text in several sweeps, one for each
kind of token: path variables, double stars, single stars and question marks.
The slash at the beginning is optional, and so is one at the end, unless the
path ends in a slash of its own.
-/

namespace RouteTable.Wildcard

open RouteTable.Pattern
open RouteTable.Template
open RouteTable.Text

def pathVariablePattern : Regex :=
  .seq (.atom (.single '{'))
    (.seq (.plus false (.atom (.compl (.single '}')))) (.atom (.single '}')))

def doubleStarPattern : Regex := .seq (.atom (.single '*')) (.atom (.single '*'))

def starPattern : Regex := .atom (.single '*')

def questionPattern : Regex := .atom (.single '?')

/-- Stands for the star of a double star until no sweep looks for stars. -/
def sentinel : Char := '"'

/-- The pattern text of a path, as far as its tokens go. -/
def sweep (path : String) : String :=
  let text := escape [pathVariablePattern, doubleStarPattern, starPattern, questionPattern] path
  let text := pathVariablePattern.replaceAll "[^/]+" text
  let text := doubleStarPattern.replaceAll ".\"" text
  let text := starPattern.replaceAll "[^/]*" text
  let text := questionPattern.replaceAll "." text
  text.map fun c => if c = sentinel then '*' else c

def withoutLeadingSlash : List Char → List Char
  | '/' :: cs => cs
  | cs => cs

/-- The pattern text with an optional slash at the beginning, and one at the end
if it does not end in a slash. -/
def withOptionalSlashes (text : List Char) : List Char :=
  let pattern := "/?".toList ++ withoutLeadingSlash text
  if pattern.getLast? = some '/' then pattern else pattern ++ "/?".toList

/-- The pattern text of a resolved path.  The braces of the path have to be well
formed, and it may not hold the sentinel. -/
def fragment (path : String) : Except TemplateError String := do
  let _ ← segments false path
  match offsetOf? sentinel path.toList with
  | some offset => .error (.malformed path ⟨.reservedCharacter, offset⟩)
  | none => return String.ofList (withOptionalSlashes (sweep path).toList)

/-- The matcher of a fragment, whatever its size. -/
def readFragment (fragment : String) : Except TemplateError Matcher :=
  match Matcher.ofFragment? fragment with
  | some m => .ok m
  | none => .error (.invalidPattern fragment PatternError.malformed.message)

theorem fragment_of_readFragment {fragment : String} {m : Matcher}
    (h : readFragment fragment = .ok m) : m.fragment = fragment := by
  unfold readFragment at h
  split at h
  · cases h
    exact Matcher.fragment_of_ofFragment? ‹_›
  · cases h

def matcher (path : String) : Except TemplateError Matcher :=
  fragment path >>= readFragment

def checkSize (m : Matcher) : Except TemplateError Matcher :=
  if m.fits then .ok m else .error (.invalidPattern m.fragment PatternError.tooLarge.message)

/-- The matcher of a fragment, if the engine takes one of its size. -/
def matcherOfFragment (fragment : String) : Except TemplateError Matcher :=
  readFragment fragment >>= checkSize

/-- The matcher of a path, if the engine takes one of its size. -/
def compile (path : String) : Except TemplateError Matcher :=
  fragment path >>= matcherOfFragment

end RouteTable.Wildcard
