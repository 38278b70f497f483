import RouteTable.Data.Value
import RouteTable.Text.Hex
/-!
# Numbers

Integers in four bases and decimal fractions.  Underscores may stand between
digits, and a number has to fit into 64 bits.
-/

namespace RouteTable.Toml

open RouteTable.Data
open RouteTable.Text

/-- The digits of a number: at least one, with single underscores between
digits, which are left out. -/
def digits? (base : Nat) : List Char → Option (List Char)
  | [] => none
  | [c] => (digitBelow? base c).map fun _ => [c]
  | c :: '_' :: cs => do
      let _ ← digitBelow? base c
      let rest ← digits? base cs
      return c :: rest
  | c :: cs => do
      let _ ← digitBelow? base c
      let rest ← digits? base cs
      return c :: rest

def decimalDigits? (cs : List Char) : Option (List Char) :=
  match cs with
  | '0' :: _ :: _ => none
  | _ => digits? 10 cs

def sign : List Char → Bool × List Char
  | '-' :: cs => (true, cs)
  | '+' :: cs => (false, cs)
  | cs => (false, cs)

def fitsInteger (i : Int) : Bool := -0x8000000000000000 ≤ i && i < 0x8000000000000000

def natural? (base : Nat) (cs : List Char) : Option Nat :=
  digits? base cs >>= number? base

def decimalInteger? (cs : List Char) : Option Int := do
  let (negative, cs) := sign cs
  let n ← decimalDigits? cs >>= number? 10
  return if negative then -(n : Int) else n

def integer? (cs : List Char) : Option Int :=
  Option.filter fitsInteger <| match cs with
    | '0' :: 'x' :: cs => (natural? 16 cs).map Int.ofNat
    | '0' :: 'o' :: cs => (natural? 8 cs).map Int.ofNat
    | '0' :: 'b' :: cs => (natural? 2 cs).map Int.ofNat
    | cs => decimalInteger? cs

def exponent? : List Char → Option Int
  | [] => some 0
  | c :: cs => do
      guard (c = 'e' || c = 'E')
      let (negative, cs) := sign cs
      let n ← natural? 10 cs
      return if negative then -(n : Int) else n

/-- The digits of a decimal fraction with a place for the point: the value is
the digits as an integer, times ten to the power. -/
structure Decimal where
  negative : Bool
  digits : List Char
  power : Int

def decimal? (cs : List Char) : Option Decimal := do
  let (negative, cs) := sign cs
  let isWhole (c : Char) : Bool := c.isDigit || c = '_'
  let whole ← decimalDigits? (cs.takeWhile isWhole)
  match cs.dropWhile isWhole with
  | '.' :: cs =>
      let fraction ← digits? 10 (cs.takeWhile isWhole)
      let exponent ← exponent? (cs.dropWhile isWhole)
      return ⟨negative, whole ++ fraction, exponent - fraction.length⟩
  | [] => none
  | cs =>
      let exponent ← exponent? cs
      return ⟨negative, whole, exponent⟩

/-- The least number that no float of 64 bits comes close to: halfway from the
greatest float to the next power of two. -/
def floatBound : Nat := Nat.pow 2 1024 - Nat.pow 2 970

/-- Whether the number is too great for a float.  Its size in decimal digits
decides, unless it is near the bound. -/
def Decimal.overflows (d : Decimal) : Bool :=
  let digits := d.digits.dropWhile (· = '0')
  let size := (digits.length : Int) + d.power
  if d.negative || digits.isEmpty || size ≤ 308 then false
  else if 310 ≤ size then true
  else
    let n := (number? 10 digits).getD 0
    if 0 ≤ d.power then floatBound ≤ n * Nat.pow 10 d.power.toNat
    else floatBound * Nat.pow 10 (-d.power).toNat ≤ n

def real? (cs : List Char) : Option Value :=
  let text := String.ofList cs
  let (_, magnitude) := sign cs
  if magnitude = "inf".toList || magnitude = "nan".toList then some (.real text)
  else do
    let d ← decimal? cs
    guard (!d.overflows)
    return .real text

end RouteTable.Toml
