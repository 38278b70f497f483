import RouteTable.Proofs.Pattern.Search
import RouteTable.Proofs.Wildcard.Token
/-!
# Sweeps over a path

Every sweep of the translation sees text that the sweeps before it have written.
None of them takes such text for a token of the path: `toList_sweep`, together
they write the pattern text of one token after the other.
-/

namespace RouteTable.Wildcard

open RouteTable.Pattern
open RouteTable.Template
open RouteTable.Text

/-! ## Finding tokens -/

def findChar (d : Char) : List Char → Option Nat
  | [] => none
  | c :: _ => if c = d then some 1 else none

def findPair (d : Char) : List Char → Option Nat
  | c₁ :: c₂ :: _ => if c₁ = d ∧ c₂ = d then some 2 else none
  | _ => none

def findVariable : List Char → Option Nat
  | '{' :: cs =>
      match closing cs with
      | some (c :: name, _) => some ((c :: name).length + 2)
      | _ => none
  | _ => none

theorem startsWith_findChar (d : Char) : StartsWith (findChar d) d := by
  intro c cs hc
  simp [findChar, hc]

theorem startsWith_findPair (d : Char) : StartsWith (findPair d) d := by
  intro c cs hc
  cases cs <;> simp [findPair, hc]

theorem startsWith_findVariable : StartsWith findVariable '{' := by
  intro c cs hc
  simp [findVariable, hc]

theorem findVariable_append {name : List Char} (hname : name ≠ []) (hbody : IsBody name)
    (cs : List Char) :
    findVariable ('{' :: (name ++ ['}']) ++ cs) = some ('{' :: (name ++ ['}'])).length := by
  obtain ⟨c, name, rfl⟩ := List.exists_cons_of_ne_nil hname
  have hclosing : closing ((c :: name) ++ '}' :: cs) = some (c :: name, cs) :=
    closing_append hbody.2
  simp only [List.cons_append, List.append_assoc, List.nil_append] at hclosing ⊢
  simp [findVariable, hclosing]

/-! ## The patterns of the sweeps -/

theorem finds_char (d : Char) : Finds (.atom (.single d)) (findChar d) where
  preferred before cs := by
    let a : Automaton := ⟨#[.accept, .read (.single d) 0], 1⟩
    change a.run before [1] 0 none cs = _
    have hfirst (before after : Option Char) :
        a.ahead before after [1] = ([(.single d, 0)], false) := rfl
    have hlast (before : Option Char) (cs : List Char) : a.run before [0] 1 none cs = some 1 :=
      Automaton.run_of_ended (fun _ _ => rfl) ..
    cases cs with
    | nil => simp [Automaton.run_nil, hfirst, findChar]
    | cons c cs =>
        by_cases hc : c = d
        · simp [Automaton.run_cons, hfirst, hlast, hc, findChar]
        · simp [Automaton.run_cons, hfirst, hc, findChar]
  not_empty cs := by
    unfold findChar
    grind
  length_le {cs n} h := by
    unfold findChar at h
    grind

theorem finds_pair (d : Char) :
    Finds (.seq (.atom (.single d)) (.atom (.single d))) (findPair d) where
  preferred before cs := by
    let a : Automaton := ⟨#[.accept, .read (.single d) 0, .read (.single d) 1], 2⟩
    change a.run before [2] 0 none cs = _
    have hfirst (before after : Option Char) :
        a.ahead before after [2] = ([(.single d, 1)], false) := rfl
    have hsecond (before after : Option Char) :
        a.ahead before after [1] = ([(.single d, 0)], false) := rfl
    have hlast (before : Option Char) (cs : List Char) : a.run before [0] 2 none cs = some 2 :=
      Automaton.run_of_ended (fun _ _ => rfl) ..
    cases cs with
    | nil => simp [Automaton.run_nil, hfirst, findPair]
    | cons c₁ cs =>
        by_cases h₁ : c₁ = d
        · cases cs with
          | nil => simp [Automaton.run_cons, Automaton.run_nil, hfirst, hsecond, h₁, findPair]
          | cons c₂ cs =>
              by_cases h₂ : c₂ = d
              · simp [Automaton.run_cons, hfirst, hsecond, hlast, h₁, h₂, findPair]
              · simp [Automaton.run_cons, hfirst, hsecond, h₁, h₂, findPair]
        · rw [startsWith_findPair d c₁ cs h₁]
          simp [Automaton.run_cons, hfirst, h₁]
  not_empty cs := by
    unfold findPair
    grind
  length_le {cs n} h := by
    unfold findPair at h
    grind

theorem finds_doubleStar : Finds doubleStarPattern (findPair '*') := finds_pair '*'

theorem finds_star : Finds starPattern (findChar '*') := finds_char '*'

theorem finds_question : Finds questionPattern (findChar '?') := finds_char '?'

/-- The automaton of path variables.  It is in state 2 while it reads the name. -/
def variableAutomaton : Automaton :=
  ⟨#[.accept, .read (.single '}') 0, .fork 3 1, .read (.compl (.single '}')) 2,
    .read (.single '{') 3], 4⟩

theorem run_variableAutomaton_name (before : Option Char) (count : Nat) (cs : List Char) :
    variableAutomaton.run before [2] count none cs =
      (closing cs).map fun found => count + found.1.length + 1 := by
  have hname (before after : Option Char) : variableAutomaton.ahead before after [2] =
      ([(.compl (.single '}'), 2), (.single '}', 0)], false) := rfl
  have hlast (before : Option Char) (count : Nat) (cs : List Char) :
      variableAutomaton.run before [0] count none cs = some count :=
    Automaton.run_of_ended (fun _ _ => rfl) ..
  induction cs generalizing before count with
  | nil => simp [Automaton.run_nil, hname, closing]
  | cons c cs ih =>
      by_cases hc : c = '}'
      · simp [Automaton.run_cons, hname, hlast, closing, CharSet.contains, hc]
      · simp only [Automaton.run_cons, hname, CharSet.contains, CharSet.contains_single, hc,
          closing, decide_false, Bool.not_false, List.filterMap_cons, ↓reduceIte,
          Bool.false_eq_true, List.filterMap_nil, ih, Option.map_map]
        congr 1
        funext found
        simp only [Function.comp_apply, List.length_cons]
        omega

theorem finds_variable : Finds pathVariablePattern findVariable where
  preferred before cs := by
    change variableAutomaton.run before [4] 0 none cs = _
    have hopen (before after : Option Char) :
        variableAutomaton.ahead before after [4] = ([(.single '{', 3)], false) := rfl
    have hfirst (before after : Option Char) :
        variableAutomaton.ahead before after [3] = ([(.compl (.single '}'), 2)], false) := rfl
    cases cs with
    | nil => simp [Automaton.run_nil, hopen, findVariable]
    | cons c cs =>
        by_cases hc : c = '{'
        · subst hc
          cases cs with
          | nil =>
              simp [Automaton.run_cons, Automaton.run_nil, hopen, hfirst, findVariable, closing]
          | cons d cs =>
              by_cases hd : d = '}'
              · simp [Automaton.run_cons, hopen, hfirst, findVariable, closing,
                  CharSet.contains, hd]
              · cases hclosing : closing cs with
                | none =>
                    simp [Automaton.run_cons, hopen, hfirst, findVariable, closing,
                      CharSet.contains, hd, run_variableAutomaton_name, hclosing]
                | some found =>
                    simp [Automaton.run_cons, hopen, hfirst, findVariable, closing,
                      CharSet.contains, hd, run_variableAutomaton_name, hclosing]
                    omega
        · rw [startsWith_findVariable c cs hc]
          simp [Automaton.run_cons, hopen, hc]
  not_empty cs := by
    unfold findVariable
    grind
  length_le {cs n} h := by
    unfold findVariable at h
    split at h
    · rename_i cs
      split at h
      · rename_i c name rest hclosing
        obtain ⟨rfl, -⟩ := closing_eq_some_iff.1 hclosing
        cases h
        simp
      · simp at h
    · simp at h

/-! ## Escaping -/

def PathToken.escaped : PathToken → List Char
  | .literal c => escapeLiteral c
  | .segment name => '{' :: (name ++ ['}'])
  | .star => ['*']
  | .doubleStar => ['*', '*']
  | .question => ['?']

def finders : List (List Char → Option Nat) :=
  [findVariable, findPair '*', findChar '*', findChar '?']

/-- The spans of all tokens of a path that begins at `offset`. -/
def tokenSpans (offset : Nat) (cs : List Char) : List (List Span) :=
  finders.map fun find => spansBy find offset cs

theorem isCovered_tokenSpans (offset : Nat) (cs : List Char) (place : Nat) :
    isCovered (tokenSpans offset cs) place =
      finders.any fun find => (spansBy find offset cs).any (·.covers place) := by
  rw [isCovered, tokenSpans, List.any_map]
  rfl

theorem isCovered_tokenSpans_of_lt {place offset : Nat} (h : place < offset) (cs : List Char) :
    isCovered (tokenSpans offset cs) place = false := by
  rw [isCovered_tokenSpans, List.any_eq_false]
  intro find _
  simp [any_covers_spansBy_of_lt h]

theorem find_of_isPlain {c : Char} (hc : IsPlain c) {find : List Char → Option Nat}
    (hfind : find ∈ finders) (cs : List Char) : find (c :: cs) = none := by
  obtain ⟨hstar, hquestion, hopen, -, -⟩ := hc
  simp only [finders, List.mem_cons, List.not_mem_nil, or_false] at hfind
  rcases hfind with rfl | rfl | rfl | rfl
  · exact startsWith_findVariable c cs hopen
  · exact startsWith_findPair '*' c cs hstar
  · exact startsWith_findChar '*' c cs hstar
  · exact startsWith_findChar '?' c cs hquestion

theorem tokenSpans_cons_of_isPlain {c : Char} (hc : IsPlain c) (offset : Nat) (cs : List Char) :
    tokenSpans offset (c :: cs) = tokenSpans (offset + c.utf8Size) cs :=
  List.map_congr_left fun _ hfind => spansBy_cons_of_none offset (find_of_isPlain hc hfind cs)

theorem passes_findChar (d : Char) (w cs : List Char) : Passes (findChar d) w cs := by
  refine (finds_char d).passes_of_cut fun back _ hback => ?_
  obtain ⟨c, back, rfl⟩ := List.exists_cons_of_ne_nil hback
  rfl

theorem passes_findPair {d c : Char} (hc : c ≠ d) (w cs : List Char) :
    Passes (findPair d) (w ++ [c]) cs := by
  refine (finds_pair d).passes_of_cut fun back hsuffix hback => ?_
  match back, hback with
  | [b], _ =>
      have hb : b ≠ d := by
        obtain ⟨front, heq⟩ := hsuffix
        obtain rfl : b = c := by simpa using congrArg List.getLast? heq
        exact hc
      rw [List.singleton_append, startsWith_findPair d b cs hb, startsWith_findPair d b [] hb]
  | b₁ :: b₂ :: back, _ => rfl

theorem findPair_singleton {d : Char} {cs : List Char} (hcs : cs.head? ≠ some d) :
    findPair d (d :: cs) = none := by
  cases cs with
  | nil => rfl
  | cons c cs =>
      have hc : c ≠ d := fun heq => hcs (heq ▸ rfl)
      simp [findPair, hc]

theorem passes_findPair_singleton {d : Char} {cs : List Char} (hcs : cs.head? ≠ some d) :
    Passes (findPair d) [d] cs := by
  refine (finds_pair d).passes_of_cut fun back hsuffix hback => ?_
  obtain rfl : back = [d] := by
    rcases List.suffix_cons_iff.1 hsuffix with h | h
    · exact h
    · exact absurd (List.suffix_nil.1 h) hback
  exact findPair_singleton hcs

theorem escapeUncovered_of_covered {covered : Nat → Bool} {offset : Nat} {w : List Char}
    (h : ∀ place, offset ≤ place → place < offset + width w → covered place = true)
    (cs : List Char) :
    escapeUncovered covered offset (w ++ cs) =
      w ++ escapeUncovered covered (offset + width w) cs := by
  induction w generalizing offset with
  | nil => rfl
  | cons c w ih =>
      have hpos := c.utf8Size_pos
      rw [width_cons] at h
      have hc := h offset (Nat.le_refl _) (by omega)
      have hw : escapeUncovered covered (offset + c.utf8Size) (w ++ cs) =
          w ++ escapeUncovered covered (offset + c.utf8Size + width w) cs :=
        ih fun place hle hlt => h place (by omega) (by omega)
      rw [Nat.add_assoc] at hw
      simp only [List.cons_append, escapeUncovered, hc, hw, width_cons, Bool.not_true,
        Bool.and_false, Bool.false_eq_true, ↓reduceIte]

theorem escapeUncovered_token {find : List Char → Option Nat} {w cs : List Char}
    (hfinder : find ∈ finders) (hw : w ≠ []) (hfind : find (w ++ cs) = some w.length)
    (hvariable : Passes findVariable w cs) (hpair : Passes (findPair '*') w cs) (offset : Nat) :
    escapeUncovered (isCovered (tokenSpans offset (w ++ cs))) offset (w ++ cs) =
      w ++ escapeUncovered (isCovered (tokenSpans (offset + width w) cs))
        (offset + width w) cs := by
  have hcovered (place : Nat) (hle : offset ≤ place) (hlt : place < offset + width w) :
      isCovered (tokenSpans offset (w ++ cs)) place = true := by
    rw [isCovered_tokenSpans, List.any_eq_true]
    exact ⟨find, hfinder, any_covers_of_some hw hfind hle hlt⟩
  rw [escapeUncovered_of_covered hcovered]
  congr 1
  refine escapeUncovered_congr cs fun place hplace => ?_
  simp only [isCovered_tokenSpans, finders, List.any_cons, List.any_nil, hvariable hplace,
    hpair hplace, passes_findChar '*' w cs hplace, passes_findChar '?' w cs hplace]

/-- In a path, exactly the literal characters are not covered by a token. -/
theorem escapeUncovered_of_reads {cs : List Char} {ts : List PathToken} (h : Reads cs ts)
    (offset : Nat) :
    escapeUncovered (isCovered (tokenSpans offset cs)) offset cs =
      ts.flatMap PathToken.escaped := by
  induction h generalizing offset with
  | nil => rfl
  | @literal c cs ts hc _ ih =>
      have hpos := c.utf8Size_pos
      have hplace : isCovered (tokenSpans (offset + c.utf8Size) cs) offset = false :=
        isCovered_tokenSpans_of_lt (by omega) cs
      rw [tokenSpans_cons_of_isPlain hc]
      simp only [escapeUncovered, hplace, ih, List.flatMap_cons, PathToken.escaped,
        PathToken.escapeLiteral, Bool.not_false, Bool.and_true]
      split <;> simp
  | @segment name cs ts hname hbody _ ih =>
      have hne : '{' :: (name ++ ['}']) ≠ [] := by simp
      have hfind := findVariable_append hname hbody cs
      have htoken := escapeUncovered_token (by simp [finders]) hne hfind
        (passes_of_some hne hfind) (passes_findPair (by decide) ('{' :: name) cs) offset
      simpa [ih, PathToken.escaped] using htoken
  | @doubleStar cs ts _ ih =>
      have hne : ['*', '*'] ≠ [] := by simp
      have hfind : findPair '*' (['*', '*'] ++ cs) = some 2 := rfl
      have htoken := escapeUncovered_token (by simp [finders]) hne hfind
        (startsWith_findVariable.passes (by decide) cs) (passes_of_some hne hfind) offset
      simpa [ih, PathToken.escaped] using htoken
  | @star cs ts hstar _ ih =>
      have hne : ['*'] ≠ [] := by simp
      have hfind : findChar '*' (['*'] ++ cs) = some 1 := rfl
      have htoken := escapeUncovered_token (by simp [finders]) hne hfind
        (startsWith_findVariable.passes (by decide) cs) (passes_findPair_singleton hstar) offset
      simpa [ih, PathToken.escaped] using htoken
  | @question cs ts _ ih =>
      have hne : ['?'] ≠ [] := by simp
      have hfind : findChar '?' (['?'] ++ cs) = some 1 := rfl
      have htoken := escapeUncovered_token (by simp [finders]) hne hfind
        (startsWith_findVariable.passes (by decide) cs)
        ((startsWith_findPair '*').passes (by decide) cs) offset
      simpa [ih, PathToken.escaped] using htoken

theorem toList_escape {path : String} {ts : List PathToken} (h : Reads path.toList ts) :
    (escape [pathVariablePattern, doubleStarPattern, starPattern, questionPattern] path).toList =
      ts.flatMap PathToken.escaped := by
  have hspans : [pathVariablePattern, doubleStarPattern, starPattern, questionPattern].map
      (·.spans path) = tokenSpans 0 path.toList := by
    simp only [List.map_cons, List.map_nil, tokenSpans, finders, finds_variable.spans_eq,
      finds_doubleStar.spans_eq, finds_star.spans_eq, finds_question.spans_eq]
  have hincreasing : ∀ cursor ∈ tokenSpans 0 path.toList, Increasing cursor := by
    rw [← hspans, List.forall_mem_map]
    exact fun r _ => r.increasing_spans path
  rw [escape, hspans, escapeOutside, String.toList_ofList, escapeFrom_eq hincreasing,
    escapeUncovered_of_reads h]

/-! ## Replacing the tokens of one kind after the other -/

def PathToken.render (segment doubleStar star question : List Char) : PathToken → List Char
  | .literal c => escapeLiteral c
  | .segment _ => segment
  | .doubleStar => doubleStar
  | .star => star
  | .question => question

theorem not_mem_escapeLiteral {c d : Char} (hbackslash : d ≠ '\\') (hc : c ≠ d) :
    d ∉ PathToken.escapeLiteral c := by
  unfold PathToken.escapeLiteral
  split <;> simp [hbackslash, Ne.symm hc]

theorem replaceBy_variable {ts : List PathToken} (h : ∀ t ∈ ts, t.IsWellFormed)
    (new : List Char) :
    replaceBy findVariable new (ts.flatMap PathToken.escaped) =
      ts.flatMap (PathToken.render new "**".toList "*".toList "?".toList) := by
  refine startsWith_findVariable.replaceBy_flatMap fun t ht => ?_
  have hwell := h t ht
  cases t with
  | literal c => exact .inl ⟨not_mem_escapeLiteral (by decide) hwell.ne_open, rfl⟩
  | segment name =>
      exact .inr ⟨by simp [PathToken.escaped], findVariable_append hwell.1 hwell.2, rfl⟩
  | star | doubleStar | question => exact .inl ⟨by decide, rfl⟩

theorem head?_append_escapeLiteral (c : Char) (cs : List Char) :
    (PathToken.escapeLiteral c ++ cs).head? = (PathToken.escapeLiteral c).head? := by
  unfold PathToken.escapeLiteral
  split <;> rfl

theorem head?_render_ne_star {cs : List Char} {ts : List PathToken} (h : Reads cs ts)
    (hcs : cs.head? ≠ some '*') :
    (ts.flatMap (PathToken.render "[^/]+".toList "**".toList "*".toList "?".toList)).head? ≠
      some '*' := by
  cases h with
  | nil => simp
  | literal hc _ =>
      have hliteral := not_mem_escapeLiteral (by decide) hc.ne_star
      intro hhead
      rw [List.flatMap_cons, PathToken.render, head?_append_escapeLiteral] at hhead
      exact hliteral (List.mem_of_mem_head? hhead)
  | segment _ _ _ => simp [PathToken.render]
  | question _ => simp [PathToken.render]
  | doubleStar _ | star _ _ => simp at hcs

theorem replaceBy_pair {cs : List Char} {ts : List PathToken} (h : Reads cs ts)
    (new : List Char) :
    replaceBy (findPair '*') new
        (ts.flatMap (PathToken.render "[^/]+".toList "**".toList "*".toList "?".toList)) =
      ts.flatMap (PathToken.render "[^/]+".toList new "*".toList "?".toList) := by
  have hkeep {w : List Char} (hw : '*' ∉ w) (cs : List Char) :
      replaceBy (findPair '*') new (w ++ cs) = w ++ replaceBy (findPair '*') new cs :=
    (startsWith_findPair '*').replaceBy_append hw new cs
  induction h with
  | nil => simp
  | literal hc _ ih =>
      have hliteral := not_mem_escapeLiteral (by decide) hc.ne_star
      rw [List.flatMap_cons, PathToken.render, hkeep hliteral, ih]
      rfl
  | doubleStar _ ih =>
      rw [List.flatMap_cons, PathToken.render, replaceBy_append_of_some (by simp) rfl, ih]
      rfl
  | star hstar hcs ih =>
      have hnone := findPair_singleton (head?_render_ne_star hcs hstar)
      rw [List.flatMap_cons, PathToken.render]
      exact (replaceBy_cons_of_none hnone).trans (congrArg ('*' :: ·) ih)
  | segment _ _ _ ih | question _ ih =>
      rw [List.flatMap_cons, PathToken.render, hkeep (by decide), ih]
      rfl

theorem replaceBy_star {ts : List PathToken} (h : ∀ t ∈ ts, t.IsWellFormed)
    (new : List Char) :
    replaceBy (findChar '*') new
        (ts.flatMap (PathToken.render "[^/]+".toList ".\"".toList "*".toList "?".toList)) =
      ts.flatMap (PathToken.render "[^/]+".toList ".\"".toList new "?".toList) := by
  refine (startsWith_findChar '*').replaceBy_flatMap fun t ht => ?_
  cases t with
  | literal c => exact .inl ⟨not_mem_escapeLiteral (by decide) (h _ ht).ne_star, rfl⟩
  | star => exact .inr ⟨by simp [PathToken.render], fun _ => rfl, rfl⟩
  | segment _ | doubleStar | question => exact .inl ⟨by simp [PathToken.render], rfl⟩

theorem replaceBy_question {ts : List PathToken} (h : ∀ t ∈ ts, t.IsWellFormed)
    (new : List Char) :
    replaceBy (findChar '?') new
        (ts.flatMap (PathToken.render "[^/]+".toList ".\"".toList "[^/]*".toList "?".toList)) =
      ts.flatMap (PathToken.render "[^/]+".toList ".\"".toList "[^/]*".toList new) := by
  refine (startsWith_findChar '?').replaceBy_flatMap fun t ht => ?_
  cases t with
  | literal c => exact .inl ⟨not_mem_escapeLiteral (by decide) (h _ ht).ne_question, rfl⟩
  | question => exact .inr ⟨by simp [PathToken.render], fun _ => rfl, rfl⟩
  | segment _ | doubleStar | star => exact .inl ⟨by simp [PathToken.render], rfl⟩

/-- The star that the sentinel stands for. -/
def unmask (c : Char) : Char := if c = sentinel then '*' else c

theorem map_unmask {w : List Char} (h : sentinel ∉ w) : w.map unmask = w := by
  have hkept : w.map unmask = w.map id := by
    apply List.map_congr_left
    intro c hc
    have hne : c ≠ sentinel := fun heq => h (heq ▸ hc)
    simp [unmask, hne]
  rw [hkept, List.map_id]

theorem map_render {ts : List PathToken} (h : ∀ t ∈ ts, t.IsWellFormed) :
    (ts.flatMap
      (PathToken.render "[^/]+".toList ".\"".toList "[^/]*".toList ".".toList)).map unmask =
      ts.flatMap PathToken.fragment := by
  rw [List.map_flatMap, List.flatMap_def, List.flatMap_def]
  congr 1
  refine List.map_congr_left fun t ht => ?_
  cases t with
  | literal c => exact map_unmask (not_mem_escapeLiteral (by decide) (h _ ht).ne_sentinel)
  | segment _ | star | doubleStar | question => rfl

/-! ## All sweeps -/

theorem toList_sweep {path : String} {ts : List PathToken} (h : Reads path.toList ts) :
    (sweep path).toList = ts.flatMap PathToken.fragment := by
  let kinds := [pathVariablePattern, doubleStarPattern, starPattern, questionPattern]
  calc
    _ = ((questionPattern.replaceAll "." (starPattern.replaceAll "[^/]*"
          (doubleStarPattern.replaceAll ".\"" (pathVariablePattern.replaceAll "[^/]+"
            (escape kinds path))))).map unmask).toList := rfl
    _ = (replaceBy (findChar '?') _ (replaceBy (findChar '*') _ (replaceBy (findPair '*') _
          (replaceBy findVariable _ (escape kinds path).toList)))).map unmask := by
        rw [String.toList_map, finds_question.toList_replaceAll, finds_star.toList_replaceAll,
          finds_doubleStar.toList_replaceAll, finds_variable.toList_replaceAll]
    _ = ts.flatMap PathToken.fragment := by
        rw [toList_escape h, replaceBy_variable h.isWellFormed, replaceBy_pair h,
          replaceBy_star h.isWellFormed, replaceBy_question h.isWellFormed,
          map_render h.isWellFormed]

end RouteTable.Wildcard
