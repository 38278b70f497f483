import RouteTable.Text.Hex
/-!
# Dates and times

Calendar dates, times of day and moments, with or without an offset from
universal time.
-/

namespace RouteTable.Toml

open RouteTable.Text

def twoDigits? (tens ones : Char) : Option Nat := number? 10 [tens, ones]

def isLeapYear (year : Nat) : Bool :=
  year % 4 = 0 && (year % 100 ≠ 0 || year % 400 = 0)

def daysOfMonth (year month : Nat) : Nat :=
  if month = 2 then if isLeapYear year then 29 else 28
  else if month = 4 || month = 6 || month = 9 || month = 11 then 30
  else 31

def date? (cs : List Char) : Option (List Char × List Char) :=
  match cs with
  | y₁ :: y₂ :: y₃ :: y₄ :: '-' :: m₁ :: m₂ :: '-' :: d₁ :: d₂ :: rest => do
      let year ← number? 10 [y₁, y₂, y₃, y₄]
      let month ← twoDigits? m₁ m₂
      let day ← twoDigits? d₁ d₂
      guard (1 ≤ month ∧ month ≤ 12 ∧ 1 ≤ day ∧ day ≤ daysOfMonth year month)
      return (cs.take 10, rest)
  | _ => none

/-- The digits that matter of a fraction of a second: nine at most, and no zeros
at the end. -/
def fractionDigits (digits : List Char) : List Char :=
  ((digits.take 9).reverse.dropWhile (· = '0')).reverse

def time? (cs : List Char) : Option (List Char × List Char) :=
  match cs with
  | h₁ :: h₂ :: ':' :: m₁ :: m₂ :: ':' :: s₁ :: s₂ :: rest => do
      let hour ← twoDigits? h₁ h₂
      let minute ← twoDigits? m₁ m₂
      let second ← twoDigits? s₁ s₂
      guard (hour ≤ 23 ∧ minute ≤ 59 ∧ second ≤ 60)
      match rest with
      | '.' :: rest =>
          let digits := rest.takeWhile Char.isDigit
          guard (digits ≠ [])
          let fraction := fractionDigits digits
          let text := if fraction = [] then [] else '.' :: fraction
          return (cs.take 8 ++ text, rest.dropWhile Char.isDigit)
      | _ => return (cs.take 8, rest)
  | _ => none

def offset? : List Char → Option (List Char)
  | [] => some []
  | ['Z'] | ['z'] => some ['Z']
  | [s, h₁, h₂, ':', m₁, m₂] => do
      guard (s = '+' || s = '-')
      let hour ← twoDigits? h₁ h₂
      let minute ← twoDigits? m₁ m₂
      guard (hour ≤ 23 ∧ minute ≤ 59)
      return (if hour = 0 ∧ minute = 0 then '+' else s) :: [h₁, h₂, ':', m₁, m₂]
  | _ => none

def moment? (cs : List Char) : Option (List Char) :=
  match date? cs with
  | some (date, []) => some date
  | some (date, c :: rest) => do
      guard (c = 'T' || c = 't')
      let (time, rest) ← time? rest
      let offset ← offset? rest
      return date ++ 'T' :: time ++ offset
  | none =>
      match time? cs with
      | some (time, []) => some time
      | _ => none

end RouteTable.Toml
