/-!
# Byte sequences of code points

An interval of code points is written in UTF-8 by some sequences of ranges of bytes.  An automaton
that reads these sequences has a state for every beginning of them, or, if it shares what is equal,
for every end.
-/

namespace RouteTable.Text

abbrev ByteRange := Nat × Nat

namespace ByteSequence

/-- The numbers between two, written to base 64 with `n` digits behind the first one.  Where the
first digits differ, the numbers with the lowest and the highest of them are taken apart, unless
all that goes on behind it is there. -/
def sequences (lead : Nat) : Nat → Nat → Nat → List (List ByteRange)
  | 0, low, high => [[(lead + low, lead + high)]]
  | n + 1, low, high =>
      let block := 64 ^ (n + 1)
      let behind (digit low high : Nat) : List (List ByteRange) :=
        (sequences 0x80 n low high).map ((lead + digit, lead + digit) :: ·)
      let first := low / block
      let last := high / block
      if first = last then behind first (low % block) (high % block)
      else
        let isFull := low % block = 0
        let isFull' := high % block = block - 1
        let start := if isFull then first else first + 1
        let stop := if isFull' then last + 1 else last
        (if isFull then [] else behind first (low % block) (block - 1)) ++
          (if start < stop then
            [(lead + start, lead + stop - 1) :: List.replicate (n + 1) (0x80, 0xbf)] else []) ++
          (if isFull' then [] else behind last 0 (high % block))

/-- The code points with sequences of one length and without surrogates: the first and the last
of them, how many bytes follow upon the first one, and what is added to this. -/
def zones : List (Nat × Nat × Nat × Nat) :=
  [(0, 0x7f, 0, 0), (0x80, 0x7ff, 1, 0xc0), (0x800, 0xd7ff, 2, 0xe0), (0xe000, 0xffff, 2, 0xe0),
    (0x10000, 0x10ffff, 3, 0xf0)]

def ofInterval : Nat × Nat → List (List ByteRange)
  | (low, high) => zones.flatMap fun (first, last, n, lead) =>
      if max low first ≤ min high last then sequences lead n (max low first) (min high last)
      else []

def branches : List (List ByteRange) → List (ByteRange × List (List ByteRange))
  | [] => []
  | [] :: rest => branches rest
  | (range :: back) :: rest =>
      match branches rest with
      | [] => [(range, [back])]
      | (next, backs) :: others =>
          if range = next then (range, back :: backs) :: others
          else (range, [back]) :: (next, backs) :: others

/-- How many beginnings the sequences have, which are at most `n` bytes long. -/
def beginnings : Nat → List (List ByteRange) → Nat
  | 0, _ => 0
  | n + 1, rows => ((branches rows).map fun (_, backs) => beginnings n backs + 1).sum

/-- What can go on behind a beginning, for each beginning that is no whole sequence. -/
def ends : Nat → List (List ByteRange) → List (List (List ByteRange))
  | 0, _ => []
  | n + 1, rows =>
      if branches rows = [] then []
      else rows :: (branches rows).flatMap fun (_, backs) => ends n backs

end ByteSequence

end RouteTable.Text
