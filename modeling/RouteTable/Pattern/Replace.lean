import RouteTable.Pattern.Span
/-!
# Replacing

The occurrences of a pattern are cut out of a text, and another text is put in
the place of each.
-/

namespace RouteTable.Pattern

open RouteTable.Text

/-- The text with `new` in place of every span.  The spans lie one after the
other, and `offset` is where the text begins. -/
def replaceSpans (new : List Char) (offset : Nat) (spans : List Span) (cs : List Char) :
    List Char :=
  match spans with
  | [] => cs
  | span :: spans =>
      let (kept, rest) := splitAtOffset (span.start - offset) cs
      let (_, rest) := splitAtOffset (span.stop - span.start) rest
      kept ++ new ++ replaceSpans new span.stop spans rest

def Regex.replaceAll (r : Regex) (new text : String) : String :=
  String.ofList (replaceSpans new.toList 0 (r.spans text) text.toList)

end RouteTable.Pattern
