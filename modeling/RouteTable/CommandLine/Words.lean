/-!
# Words of a command line

Options and operands of a command line.  Every option takes a value, either in
the same word or in the next one; `-h` and `--help` ask for help instead.
-/

namespace RouteTable.CommandLine

inductive Refusal where
  | help
  | usage
  deriving DecidableEq, Repr

structure OptionName where
  short : Char
  long : String
  deriving DecidableEq, Repr

/-- Whether a word can be a value or an operand.  Words that begin with a dash
are options; a dash alone is not. -/
def isPlain (word : String) : Bool :=
  match word.toList with
  | '-' :: _ :: _ => false
  | _ => true

def optionOf (options : List OptionName) (word : String) :
    Except Refusal (OptionName × Option String) :=
  match word.toList with
  | '-' :: '-' :: text =>
      let name := String.ofList (text.takeWhile (· ≠ '='))
      let value := match text.dropWhile (· ≠ '=') with
        | [] => none
        | _ :: value => some (String.ofList value)
      match options.find? (·.long = name) with
      | some option => .ok (option, value)
      | none => if name = "help" ∧ value = none then .error .help else .error .usage
  | '-' :: letter :: rest =>
      let value := match rest with
        | [] => none
        | '=' :: value => some (String.ofList value)
        | value => some (String.ofList value)
      match options.find? (·.short = letter) with
      | some option => .ok (option, value)
      | none => if letter = 'h' then .error .help else .error .usage
  | _ => .error .usage

/-- How options and operands are taken in, one after the other. -/
structure Grammar (σ : Type) where
  options : List OptionName
  option : OptionName → String → σ → Except Refusal σ
  operand : String → σ → Except Refusal σ

def Grammar.readOptions {σ : Type} (g : Grammar σ) (s : σ) :
    List String → Except Refusal (σ × List String)
  | [] => .ok (s, [])
  | word :: words =>
      if word = "--" ∨ isPlain word then .ok (s, word :: words)
      else do
        let (option, value) ← optionOf g.options word
        match value, words with
        | some value, words =>
            let s ← g.option option value s
            g.readOptions s words
        | none, [] => .error .usage
        | none, value :: words =>
            if isPlain value then do
              let s ← g.option option value s
              g.readOptions s words
            else .error .usage

/-- Takes in all words.  After `--` every word is an operand. -/
def Grammar.read {σ : Type} (g : Grammar σ) (s : σ) (words : List String) :
    Except Refusal σ :=
  go (words.length + 1) s words
where
  go (fuel : Nat) (s : σ) (words : List String) : Except Refusal σ := do
    match fuel with
    | 0 => .error .usage
    | fuel + 1 =>
        match ← g.readOptions s words with
        | (s, []) => return s
        | (s, word :: words) =>
            if word = "--" then words.foldlM (fun s word => g.operand word s) s
            else
              let s ← g.operand word s
              go fuel s words

end RouteTable.CommandLine
