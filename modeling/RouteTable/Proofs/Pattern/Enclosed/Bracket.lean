import RouteTable.Pattern.Bracket
import RouteTable.Proofs.Pattern.Enclosed.Basic
/-!
# Bracketed sets in front of a closing bracket

What a backslash and an opening bracket begin is read to its end within the text, or else the
bracket behind the text is read as a part of it.
-/

namespace RouteTable.Pattern

open RouteTable.Text

section

variable {back cs : List Char}

/-! ## Backslashes -/

section

variable (mode : Mode)

theorem keeps_fixed? (count : Nat) (cs : List Char) :
    Keeps back (fixed? mode count cs) (fixed? mode count (cs ++ ')' :: back)) := by
  refine (mode.keeps_take? count cs).bind (fun digits rest _ => Keeps.check _ fun c => ?_) ?_
  · split
    · exact .none
    · exact .pure c rest
  · intro digits rest c rest' h
    obtain ⟨_, _, h⟩ := Option.bind_eq_some_iff.1 h
    split at h
    · simp at h
    · cases h
      exact List.suffix_refl _

theorem keeps_braced? (cs : List Char) :
    Keeps back (braced? mode cs) (braced? mode (cs ++ ')' :: back)) :=
  (mode.keeps_upTo? '}' cs).value (fun digits => number? 16 digits >>= scalar?) id

theorem keeps_codePoint? (count : Nat) (cs : List Char) :
    Keeps back (codePoint? mode count cs) (codePoint? mode count (cs ++ ')' :: back)) := by
  refine Keeps.skipping mode (fun cs => by rw [codePoint?, codePoint?, Mode.skip_skip])
    (fun _ _ _ => suffix_of_codePoint?) fun cs _ hskip => ?_
  rw [codePoint?, codePoint?, Mode.skip_append_of_skip hskip, hskip]
  rcases cs with _ | ⟨c, cs⟩
  · exact keeps_fixed? mode count []
  · by_cases hbrace : c = '{'
    · subst hbrace
      exact keeps_braced? mode cs
    · simpa [hbrace] using keeps_fixed? mode count (c :: cs)

theorem keeps_property? (cs : List Char) :
    Keeps back (property? mode cs) (property? mode (cs ++ ')' :: back)) := by
  refine Keeps.skipping mode (fun cs => by simp only [property?, Mode.skip_skip])
    (fun _ _ _ => suffix_of_property?) fun cs _ hskip => ?_
  rw [property?, property?, Mode.skip_append_of_skip hskip, hskip]
  split
  · exact .none
  · rcases cs with _ | ⟨c, cs⟩
    · refine .cut fun set rest h => ?_
      obtain ⟨_, _, heq⟩ := Option.map_eq_some_iff.1 h
      cases heq
      exact List.suffix_refl _
    · by_cases hbrace : c = '{'
      · subst hbrace
        exact (mode.keeps_upTo? '}' cs).value _ _
      · simpa [hbrace] using Keeps.checkMap (propertyClass? [c]) mode.widen cs

theorem any_head?_append {p : Char → Bool} (hp : p ')' = false) (cs back : List Char) :
    (cs ++ ')' :: back).head?.any p = cs.head?.any p := by
  cases cs with
  | nil => exact hp
  | cons c cs => rfl

theorem keeps_boundary? (cs : List Char) :
    Keeps back (boundary? mode cs) (boundary? mode (cs ++ ')' :: back)) := by
  rcases cs with _ | ⟨c, cs⟩
  · exact .pure _ []
  · by_cases hbrace : c = '{'
    · subst hbrace
      have hname : Keeps back _ _ :=
        (mode.keeps_upTo? '}' cs).value (fun name => edge? (String.ofList name)) id
      rw [List.cons_append, boundary?, boundary?]
      rcases mode.skip_append cs back with hskip | ⟨hnil, -⟩
      · rw [hskip, any_head?_append (by decide)]
        split
        · exact hname
        · exact .pure _ ('{' :: cs)
      · -- A comment that is open at the bracket leaves no name in the text alone.
        rw [Mode.upTo?_eq, hnil] at hname
        rw [hnil, if_neg (by simp)]
        split
        · exact hname.of_none
        · exact .pure _ ('{' :: cs)
    · simpa [boundary?, hbrace] using Keeps.pure _ (c :: cs)

theorem keeps_afterBackslash? (cs : List Char) :
    Keeps back (afterBackslash? mode cs) (afterBackslash? mode (cs ++ ')' :: back)) := by
  rcases cs with _ | ⟨c, cs⟩
  · exact .of_behind fun _ _ => behind_of_afterBackslash?
  · unfold afterBackslash?
    split
    case h_8 c' cs' _ _ _ _ _ _ heq =>
      cases heq
      have hletter : Keeps back _ _ := Keeps.checkMap (meaning? mode c) id cs
      simpa [*] using hletter
    all_goals
      rename_i heq
      cases heq
    · exact (keeps_codePoint? mode 2 _).map Meaning.character
    · exact (keeps_codePoint? mode 4 _).map Meaning.character
    · exact (keeps_codePoint? mode 8 _).map Meaning.character
    · exact (keeps_property? mode _).map Meaning.characters
    · exact (keeps_property? mode _).map fun set => Meaning.characters (.compl set)
    · exact (keeps_boundary? mode _).map fun edge => Meaning.place (.wordEdge edge mode.word)

end

/-! ## Bracketed sets -/

theorem negation_append (cs back : List Char) :
    negation (cs ++ ')' :: back) = ((negation cs).1, (negation cs).2 ++ ')' :: back) := by
  rcases cs with _ | ⟨c, cs⟩
  · rfl
  · by_cases hcaret : c = '^'
    · subst hcaret
      rfl
    · simp [negation, hcaret]

theorem takeWhile_append_bracket {stop : Char} (hstop : ')' ≠ stop) (cs back : List Char) :
    (cs ++ ')' :: back).takeWhile (· ≠ stop) = cs.takeWhile (· ≠ stop) ∧
        (cs ++ ')' :: back).drop (cs.takeWhile (· ≠ stop)).length =
          cs.drop (cs.takeWhile (· ≠ stop)).length ++ ')' :: back ∨
      cs.takeWhile (· ≠ stop) = cs ∧
        (cs ++ ')' :: back).takeWhile (· ≠ stop) = cs ++ ')' :: back.takeWhile (· ≠ stop) := by
  induction cs with
  | nil => exact .inr ⟨rfl, by simp [hstop]⟩
  | cons c cs ih =>
      by_cases hc : c = stop
      · exact .inl (by simp [hc])
      · simpa [hc] using ih

theorem asciiClass?_eq_none {name : List Char} (h : ')' ∈ name) :
    CharSet.asciiClass? (String.ofList name) = none := by
  unfold CharSet.asciiClass?
  split
  case h_15 => rfl
  all_goals
    rename_i heq
    have hname := congrArg String.toList heq
    rw [String.toList_ofList] at hname
    rw [hname] at h
    exact absurd h (by decide)

theorem asciiClass?_append (cs back : List Char) :
    asciiClass? (cs ++ ')' :: back) =
      (asciiClass? cs).map fun (negated, set, rest) => (negated, set, rest ++ ')' :: back) := by
  rcases cs with _ | ⟨c, cs⟩
  · rfl
  · by_cases hcolon : c = ':'
    · subst hcolon
      rw [List.cons_append, asciiClass?, asciiClass?, negation_append]
      generalize negation cs = p
      obtain ⟨negated, text⟩ := p
      have hcolon : ')' ≠ ':' := by decide
      rcases takeWhile_append_bracket hcolon text back with ⟨hname, hdrop⟩ | ⟨hall, hname⟩
      · simp only [hname, hdrop]
        generalize text.drop (text.takeWhile (· ≠ ':')).length = tail
        rcases tail with _ | ⟨c, tail⟩
        · rfl
        · by_cases hc : c = ':'
          · subst hc
            rcases tail with _ | ⟨d, tail⟩
            · rfl
            · by_cases hd : d = ']'
              · subst hd
                cases CharSet.asciiClass? (String.ofList (text.takeWhile (· ≠ ':'))) <;> rfl
              · simp [hd]
          · simp [hc]
      · have hnone : CharSet.asciiClass?
            (String.ofList (text ++ ')' :: back.takeWhile (· ≠ ':'))) = none :=
          asciiClass?_eq_none (by simp)
        simp only [hname, hall, List.drop_length, hnone]
        split <;> rfl
    · simp [asciiClass?, hcolon]

section

variable (mode : Mode)

theorem keeps_afterDashes (dashes rest : List Char) :
    Keeps back (some (afterDashes (dashes, rest)))
      (some (afterDashes (dashes, rest ++ ')' :: back))) := by
  rcases dashes with _ | ⟨dash, dashes⟩
  · rcases rest with _ | ⟨c, rest⟩
    · exact .pure [] []
    · by_cases hbracket : c = ']'
      · subst hbracket
        exact .pure [']'] rest
      · simpa [afterDashes, hbracket] using Keeps.pure [] (c :: rest)
  · exact .pure (dash :: dashes) rest

theorem keeps_firstMembers (cs : List Char) :
    Keeps back (some (firstMembers mode cs)) (some (firstMembers mode (cs ++ ')' :: back))) := by
  have hspan : Keeps back (some (mode.span (· = '-') cs)) _ := mode.keeps_span (by decide) cs
  refine hspan.bind (g := fun p => some (afterDashes p)) (k := fun p => some (afterDashes p))
    (fun dashes rest _ => keeps_afterDashes dashes rest) fun dashes rest members rest' h => ?_
  have hrest : (afterDashes (dashes, rest)).2 = rest' := congrArg Prod.snd (Option.some.inj h)
  exact hrest ▸ suffix_afterDashes (dashes, rest)

theorem keeps_openSet (cs : List Char) :
    Keeps back (some (openSet mode cs)) (some (openSet mode (cs ++ ')' :: back))) := by
  refine Keeps.skipping mode (f := fun cs => some (openSet mode cs))
    (fun cs => by simp only [openSet, Mode.skip_skip]) (suffix_of_total (suffix_openSet mode))
    fun cs _ hskip => ?_
  simp only [openSet]
  rw [Mode.skip_append_of_skip hskip, hskip, negation_append]
  have hmembers : Keeps back (some (firstMembers mode (mode.skip (negation cs).2)))
      (some (firstMembers mode (mode.skip ((negation cs).2 ++ ')' :: back)))) :=
    Keeps.skip mode (f := fun cs => some (firstMembers mode cs))
      (suffix_of_total (suffix_firstMembers mode)) fun cs _ _ => keeps_firstMembers mode cs
  exact hmembers.map fun members : List Char =>
    OpenSet.mk (negation cs).1 (members.map fun c => .leaf (mode.character c)) none

theorem keeps_memberStart? (cs : List Char) :
    Keeps back (memberStart? mode cs) (memberStart? mode (cs ++ ')' :: back)) := by
  rcases cs with _ | ⟨c, cs⟩
  · exact .of_behind fun _ _ => behind_of_memberStart?
  · by_cases hbackslash : c = '\\'
    · subst hbackslash
      exact keeps_afterBackslash? mode cs
    · simpa [memberStart?, hbackslash] using Keeps.pure (Meaning.character c) cs

theorem keeps_memberFrom? (low : Meaning) (cs : List Char) :
    Keeps back (memberFrom? mode low cs) (memberFrom? mode low (cs ++ ')' :: back)) := by
  have halone (rest : List Char) : Keeps back
      ((low.member? mode).bind fun set => some (set, rest))
      ((low.member? mode).bind fun set => some (set, rest ++ ')' :: back)) :=
    Keeps.check _ fun set => .pure set rest
  rcases cs with _ | ⟨c, cs⟩
  · exact halone []
  · by_cases hdash : c = '-'
    · subst hdash
      have hhigh : Keeps back (memberStart? mode (mode.skip cs))
          (memberStart? mode (mode.skip (cs ++ ')' :: back))) :=
        Keeps.skip mode (fun _ _ _ h => (behind_of_memberStart? h).suffix)
          fun cs _ _ => keeps_memberStart? mode cs
      simp only [List.cons_append, memberFrom?, mode.peek?_append (d := ']') (by decide),
        mode.peek?_append (d := '-') (by decide)]
      split
      · exact halone ('-' :: cs)
      · exact hhigh.value (low.range? mode) id
    · simpa [memberFrom?, hdash] using halone (c :: cs)

theorem keeps_member? (cs : List Char) :
    Keeps back (member? mode cs) (member? mode (cs ++ ')' :: back)) := by
  rw [member?, member?]
  refine (keeps_memberStart? mode cs).bind (fun low rest _ => ?_) fun low rest set rest' h => ?_
  · exact Keeps.skip mode (fun _ _ _ => suffix_of_memberFrom?)
      fun cs _ _ => keeps_memberFrom? mode low cs
  · exact (suffix_of_memberFrom? h).trans (mode.suffix_skip rest)

def isOperation (c : Char) (cs : List Char) : Prop :=
  (c = '&' ∨ c = '-' ∨ c = '~') ∧ cs.head? = some c

theorem isOperation_append {c : Char} :
    isOperation c (cs ++ ')' :: back) ↔ isOperation c cs := by
  rcases cs with _ | ⟨d, cs⟩
  · simp only [isOperation, List.nil_append, List.head?_cons, List.head?_nil, Option.some.injEq,
      reduceCtorEq, and_false, iff_false, not_and]
    rintro (rfl | rfl | rfl) <;> decide
  · exact Iff.rfl

theorem bracketed?_of_member {fuel : Nat} {current : OpenSet} {outer : List OpenSet} {c : Char}
    {cs cs' : List Char} (hskip : mode.skip cs = c :: cs') (hopen : c ≠ '[') (hclose : c ≠ ']')
    (hop : ¬isOperation c cs') :
    bracketed? mode (fuel + 1) current outer cs =
      (member? mode (c :: cs')).bind fun (set, rest) =>
        bracketed? mode fuel (current.add (.leaf set)) outer rest := by
  rw [bracketed?, hskip]
  split
  case h_6 => cases member? mode (c :: cs') <;> rfl
  all_goals
    rename_i heq
    cases heq
  · exact absurd rfl hopen
  · exact absurd rfl hclose
  all_goals exact absurd ⟨by simp, rfl⟩ hop

/-- The rounds over every rest of a text leave the bracket or are cut by it. -/
def KeepRounds (back : List Char) (mode : Mode) (fuel fuel' : Nat) (cs : List Char) : Prop :=
  ∀ rest, rest <:+ cs → ∀ current outer,
    Keeps back (bracketed? mode fuel current outer rest)
      (bracketed? mode fuel' current outer (rest ++ ')' :: back))

theorem keeps_round_opening {fuel fuel' : Nat} {current : OpenSet} {outer : List OpenSet}
    {cs cs' : List Char} (hskip : mode.skip cs = '[' :: cs')
    (hskip' : mode.skip (cs ++ ')' :: back) = '[' :: (cs' ++ ')' :: back))
    (h : KeepRounds back mode fuel fuel' cs') :
    Keeps back (bracketed? mode (fuel + 1) current outer cs)
      (bracketed? mode (fuel' + 1) current outer (cs ++ ')' :: back)) := by
  rw [bracketed?, bracketed?, hskip, hskip']
  simp only [asciiClass?_append]
  cases hclass : asciiClass? cs' with
  | some found =>
      obtain ⟨negated, set, rest⟩ := found
      simp only [Option.map_some]
      cases mode.class? negated (mode.widen set) with
      | some set => exact h rest (suffix_of_asciiClass? hclass) _ outer
      | none => exact .none
  | none =>
      refine (keeps_openSet mode cs').bind
        (g := fun p => bracketed? mode fuel p.1 (current :: outer) p.2)
        (k := fun p => bracketed? mode fuel' p.1 (current :: outer) p.2)
        (fun s rest hopen => ?_) fun _ _ _ _ => suffix_of_bracketed?
      exact h rest (suffix_of_total (suffix_openSet mode) cs' s rest hopen) s _

theorem keeps_round {fuel fuel' : Nat} {current : OpenSet} {outer : List OpenSet} {c : Char}
    {cs cs' : List Char} (hskip : mode.skip cs = c :: cs')
    (hskip' : mode.skip (cs ++ ')' :: back) = c :: (cs' ++ ')' :: back))
    (h : KeepRounds back mode fuel fuel' cs') :
    Keeps back (bracketed? mode (fuel + 1) current outer cs)
      (bracketed? mode (fuel' + 1) current outer (cs ++ ')' :: back)) := by
  by_cases hopen : c = '['
  · subst hopen
    exact keeps_round_opening mode hskip hskip' h
  by_cases hclose : c = ']'
  · subst hclose
    rw [bracketed?, bracketed?, hskip, hskip']
    cases current.close? mode with
    | none => exact .none
    | some set =>
        cases outer with
        | nil => exact .pure set cs'
        | cons parent outer => exact h cs' (List.suffix_refl _) _ outer
  by_cases hop : isOperation c cs'
  · obtain ⟨hc, hhead⟩ := hop
    obtain ⟨rest, rfl⟩ := List.head?_eq_some_iff.1 hhead
    rw [bracketed?, bracketed?, hskip, hskip']
    rcases hc with rfl | rfl | rfl
    all_goals exact h rest (List.suffix_cons _ _) _ outer
  · rw [bracketed?_of_member mode hskip hopen hclose hop,
      bracketed?_of_member mode hskip' hopen hclose (mt isOperation_append.1 hop)]
    refine (keeps_member? mode (c :: cs')).bind (fun set rest hmember => ?_)
      fun _ _ _ _ => suffix_of_bracketed?
    exact h rest (behind_of_member? hmember).suffix_of_cons _ outer

/-- Each round reads a character, so the fuel does not run out before the text does. -/
theorem keeps_bracketed? {fuel fuel' : Nat} {cs : List Char} (hfuel : fuel ≤ fuel')
    (hlength : cs.length ≤ fuel) (current : OpenSet) (outer : List OpenSet) :
    Keeps back (bracketed? mode fuel current outer cs)
      (bracketed? mode fuel' current outer (cs ++ ')' :: back)) := by
  induction fuel generalizing fuel' current outer cs with
  | zero =>
      obtain rfl := List.eq_nil_of_length_eq_zero (Nat.le_zero.1 hlength)
      exact .of_behind fun _ _ h => by simpa using behind_of_bracketed? h
  | succ fuel ih =>
      obtain ⟨fuel', rfl⟩ : ∃ n, fuel' = n + 1 := ⟨fuel' - 1, by omega⟩
      rcases mode.skip_append cs back with hskip | ⟨-, hskip⟩
      · have hcs := mode.length_skip cs
        cases hcs' : mode.skip cs with
        | nil =>
            refine .of_behind fun _ _ h => ?_
            simpa [hskip, hcs'] using behind_of_bracketed? h
        | cons c cs' =>
            rw [hcs', List.length_cons] at hcs
            rw [hcs', List.cons_append] at hskip
            refine keeps_round mode hcs' hskip fun rest hrest current outer => ?_
            have hrest := hrest.length_le
            exact ih (Nat.le_of_succ_le_succ hfuel) (by omega) current outer
      · exact .cut fun _ _ h => (behind_of_bracketed? h).suffix.trans hskip

theorem keeps_set? (cs : List Char) :
    Keeps back (set? mode cs) (set? mode (cs ++ ')' :: back)) :=
  (keeps_openSet mode cs).bind (g := fun p => bracketed? mode cs.length p.1 [] p.2)
    (k := fun p => bracketed? mode (cs ++ ')' :: back).length p.1 [] p.2)
    (fun s rest hopen => keeps_bracketed? mode (by simp)
      (suffix_of_total (suffix_openSet mode) cs s rest hopen).length_le s [])
    fun _ _ _ _ => suffix_of_bracketed?

end

end

end RouteTable.Pattern
