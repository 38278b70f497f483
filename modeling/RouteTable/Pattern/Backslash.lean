import RouteTable.Pattern.Mode
import RouteTable.Pattern.Named
import RouteTable.Text.Hex
/-!
# Backslashes

What a backslash and the characters after it stand for in a pattern: a
character, a class of characters, or a condition on a place.
-/

namespace RouteTable.Pattern

open RouteTable.Text

inductive Meaning where
  | character (c : Char)
  | characters (set : CharSet)
  | place (condition : Look)
  deriving DecidableEq, Repr

def fixed? (mode : Mode) (count : Nat) (cs : List Char) : Option (Char × List Char) := do
  let (digits, rest) ← mode.take? count cs
  let c ← number? 16 digits >>= scalar?
  -- Two digits write one byte, which is a character in ASCII only.
  if mode.asciiOnly && count = 2 && !Mode.isAscii c then none else return (c, rest)

def braced? (mode : Mode) (cs : List Char) : Option (Char × List Char) := do
  let (digits, rest) ← mode.upTo? '}' cs
  return (← number? 16 digits >>= scalar?, rest)

def codePoint? (mode : Mode) (count : Nat) (cs : List Char) : Option (Char × List Char) :=
  match mode.skip cs with
  | '{' :: cs => braced? mode cs
  | cs => fixed? mode count cs

def controlCharacter? : Char → Option Char
  | 'a' => some '\x07'
  | 'f' => some '\x0c'
  | 'n' => some '\n'
  | 'r' => some '\r'
  | 't' => some '\t'
  | 'v' => some '\x0b'
  | _ => none

def isEscapable (c : Char) : Bool :=
  c.toNat < 0x80 && !c.isAlphanum && c ≠ '<' && c ≠ '>'

def cut? (separator : List Char) : List Char → Option (List Char × List Char)
  | [] => none
  | c :: cs =>
      if separator.isPrefixOf (c :: cs) then some ([], (c :: cs).drop separator.length)
      else (cut? separator cs).map fun (front, back) => (c :: front, back)

/-- The class that the name of a property stands for, or its name and its value.
All signs that can stand between these two mean the same. -/
def propertyClass? (text : List Char) : Option CharSet :=
  let pair := (cut? ['!', '='] text).or ((cut? [':'] text).or (cut? ['='] text))
  match pair with
  | some (name, value) => CharSet.valued? (CharSet.looseName name) (CharSet.looseName value)
  | none => CharSet.named? (CharSet.looseName text)

def property? (mode : Mode) (cs : List Char) : Option (CharSet × List Char) :=
  if mode.asciiOnly then none
  else
    match mode.skip cs with
    | [] => none
    | '{' :: cs => do
        let (text, rest) ← mode.upTo? '}' cs
        return (mode.widen (← propertyClass? text), rest)
    | c :: cs => (propertyClass? [c]).map fun set => (mode.widen set, cs)

def letterClass? (mode : Mode) : Char → Option CharSet
  | 'd' => mode.class? false mode.digit
  | 'D' => mode.class? true mode.digit
  | 's' => mode.class? false mode.space
  | 'S' => mode.class? true mode.space
  | 'w' => mode.class? false mode.word
  | 'W' => mode.class? true mode.word
  | _ => none

def edge? : String → Option WordEdge
  | "start" => some .start
  | "end" => some .stop
  | "start-half" => some .startHalf
  | "end-half" => some .stopHalf
  | _ => none

/-- A boundary of a word, of the kind that a name in braces says.  Braces that do
not begin like a name are left to what follows. -/
def boundary? (mode : Mode) : List Char → Option (WordEdge × List Char)
  | '{' :: cs =>
      if (mode.skip cs).head?.any fun c => c.isAlpha || c = '-' then do
        let (name, rest) ← mode.upTo? '}' cs
        return (← edge? (String.ofList name), rest)
      else some (.boundary, '{' :: cs)
  | cs => some (.boundary, cs)

def letterPlace? (mode : Mode) : Char → Option Look
  | 'A' => some .textStart
  | 'z' => some .textEnd
  | 'B' => some (.wordEdge .noBoundary mode.word)
  | '<' => some (.wordEdge .start mode.word)
  | '>' => some (.wordEdge .stop mode.word)
  | _ => none

def meaning? (mode : Mode) (c : Char) : Option Meaning :=
  if isEscapable c then some (.character c)
  else
    ((controlCharacter? c).map .character).or
      (((letterClass? mode c).map .characters).or ((letterPlace? mode c).map .place))

/-- What the text after a backslash begins with. -/
def afterBackslash? (mode : Mode) : List Char → Option (Meaning × List Char)
  | [] => none
  | 'x' :: cs => (codePoint? mode 2 cs).map fun (c, rest) => (.character c, rest)
  | 'u' :: cs => (codePoint? mode 4 cs).map fun (c, rest) => (.character c, rest)
  | 'U' :: cs => (codePoint? mode 8 cs).map fun (c, rest) => (.character c, rest)
  | 'p' :: cs => (property? mode cs).map fun (set, rest) => (.characters set, rest)
  | 'P' :: cs => (property? mode cs).map fun (set, rest) => (.characters (.compl set), rest)
  | 'b' :: cs =>
      (boundary? mode cs).map fun (edge, rest) => (.place (.wordEdge edge mode.word), rest)
  | c :: cs => (meaning? mode c).map fun meaning => (meaning, cs)

theorem suffix_of_fixed? {mode : Mode} {count : Nat} {cs rest : List Char} {c : Char}
    (h : fixed? mode count cs = some (c, rest)) : rest <:+ cs := by
  obtain ⟨⟨_, _⟩, htake, h⟩ := Option.bind_eq_some_iff.1 h
  obtain ⟨_, _, h⟩ := Option.bind_eq_some_iff.1 h
  split at h
  · simp at h
  · cases h
    exact Mode.suffix_of_take? htake

theorem behind_of_braced? {mode : Mode} {cs rest : List Char} {c : Char}
    (h : braced? mode cs = some (c, rest)) : Behind rest cs := by
  obtain ⟨⟨_, _⟩, hupTo, h⟩ := Option.bind_eq_some_iff.1 h
  obtain ⟨_, _, h⟩ := Option.bind_eq_some_iff.1 h
  cases h
  exact Mode.behind_of_upTo? hupTo

theorem suffix_of_codePoint? {mode : Mode} {count : Nat} {cs rest : List Char} {c : Char}
    (h : codePoint? mode count cs = some (c, rest)) : rest <:+ cs := by
  refine List.IsSuffix.trans ?_ (mode.suffix_skip cs)
  unfold codePoint? at h
  split at h
  · rename_i heq
    rw [heq]
    exact (behind_of_braced? h).suffix.trans (List.suffix_cons _ _)
  · exact suffix_of_fixed? h

theorem suffix_of_property? {mode : Mode} {cs rest : List Char} {set : CharSet}
    (h : property? mode cs = some (set, rest)) : rest <:+ cs := by
  refine List.IsSuffix.trans ?_ (mode.suffix_skip cs)
  unfold property? at h
  split at h
  · simp at h
  · split at h
    · simp at h
    · rename_i heq
      simp only [Option.bind_eq_bind, Option.bind_eq_some_iff, Prod.exists] at h
      obtain ⟨_, _, hupTo, _, _, h⟩ := h
      cases h
      rw [heq]
      exact (behind_cons _ (Mode.behind_of_upTo? hupTo).suffix).suffix
    · rename_i heq
      simp only [Option.map_eq_some_iff] at h
      obtain ⟨_, _, h⟩ := h
      cases h
      rw [heq]
      exact List.suffix_cons _ _

theorem suffix_of_boundary? {mode : Mode} {cs rest : List Char} {edge : WordEdge}
    (h : boundary? mode cs = some (edge, rest)) : rest <:+ cs := by
  unfold boundary? at h
  split at h
  · split at h
    · simp only [Option.bind_eq_bind, Option.bind_eq_some_iff, Prod.exists] at h
      obtain ⟨_, _, hupTo, _, _, h⟩ := h
      cases h
      exact (behind_cons _ (Mode.behind_of_upTo? hupTo).suffix).suffix
    · cases h
      exact List.suffix_refl _
  · cases h
    exact List.suffix_refl _

theorem behind_of_afterBackslash? {mode : Mode} {cs rest : List Char} {meaning : Meaning}
    (h : afterBackslash? mode cs = some (meaning, rest)) : Behind rest cs := by
  unfold afterBackslash? at h
  split at h
  case h_1 => simp at h
  all_goals
    simp only [Option.map_eq_some_iff, Prod.exists] at h
  case h_2 | h_3 | h_4 =>
    obtain ⟨_, _, hc, heq⟩ := h
    cases heq
    exact behind_cons _ (suffix_of_codePoint? hc)
  case h_5 | h_6 =>
    obtain ⟨_, _, hset, heq⟩ := h
    cases heq
    exact behind_cons _ (suffix_of_property? hset)
  case h_7 =>
    obtain ⟨_, _, hplace, heq⟩ := h
    cases heq
    exact behind_cons _ (suffix_of_boundary? hplace)
  case h_8 =>
    obtain ⟨_, _, heq⟩ := h
    cases heq
    exact behind_cons _ (List.suffix_refl _)

end RouteTable.Pattern
