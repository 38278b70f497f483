import RouteTable.Pattern.Quantifier
/-!
# Text in front of a closing bracket

A reader is given a text, and the same text with a closing bracket and more behind it.  Either
it finds the same in both and leaves what is behind, or it does not leave the bracket.
-/

namespace RouteTable.Pattern

open RouteTable.Text

/-- What a reader finds in a text, `x`, and in the text with a closing bracket and `back`
behind it, `y`. -/
inductive Keeps {α : Type} (back : List Char) (x y : Option (α × List Char)) : Prop where
  /-- The reader finds the same and leaves what is behind the text. -/
  | same {a : α} {rest : List Char} (hx : x = some (a, rest))
      (hy : y = some (a, rest ++ ')' :: back))
  /-- The reader does not leave the bracket. -/
  | cut (hy : ∀ a rest, y = some (a, rest) → rest <:+ back)

section

variable {α β γ : Type} {back cs : List Char}

theorem suffix_of_total {f : List Char → α × List Char} (h : ∀ cs, (f cs).2 <:+ cs)
    (cs : List Char) (a : α) (rest : List Char) (hrest : some (f cs) = some (a, rest)) :
    rest <:+ cs := by
  have heq : (f cs).2 = rest := congrArg Prod.snd (Option.some.inj hrest)
  exact heq ▸ h cs

namespace Keeps

variable {x y : Option (α × List Char)}

theorem none : Keeps back x none := .cut (by simp)

theorem pure (a : α) (rest : List Char) :
    Keeps back (some (a, rest)) (some (a, rest ++ ')' :: back)) := .same rfl rfl

theorem of_behind (h : ∀ a rest, y = some (a, rest) → Behind rest (')' :: back)) :
    Keeps back x y :=
  .cut fun a rest hy => (h a rest hy).suffix_of_cons

theorem bind {g k : α × List Char → Option (β × List Char)} (h : Keeps back x y)
    (hg : ∀ a rest, x = some (a, rest) → Keeps back (g (a, rest)) (k (a, rest ++ ')' :: back)))
    (hsuffix : ∀ a rest b rest', k (a, rest) = some (b, rest') → rest' <:+ rest) :
    Keeps back (x.bind g) (y.bind k) := by
  cases h with
  | @same a rest hx hy =>
      have hrest := hg a rest hx
      rw [hx, hy]
      exact hrest
  | cut hy =>
      -- What has gone past the bracket is not given back.
      refine .cut fun b rest' hbind => ?_
      obtain ⟨⟨a, rest⟩, hrest, hb⟩ := Option.bind_eq_some_iff.1 hbind
      exact (hsuffix a rest b rest' hb).trans (hy a rest hrest)

theorem map (h : Keeps back x y) (f : α → β) :
    Keeps back (x.map fun (a, rest) => (f a, rest)) (y.map fun (a, rest) => (f a, rest)) := by
  cases h with
  | same hx hy => exact .same (by rw [hx]; rfl) (by rw [hy]; rfl)
  | cut hy =>
      refine .cut fun b rest hmap => ?_
      obtain ⟨⟨a, rest'⟩, hrest, heq⟩ := Option.map_eq_some_iff.1 hmap
      cases heq
      exact hy a _ hrest

theorem of_none (h : Keeps back Option.none y) : Keeps back x y := by
  cases h with
  | same hx _ => cases hx
  | cut hy => exact .cut hy

theorem check (o : Option γ) {g k : γ → Option (α × List Char)}
    (h : ∀ c, Keeps back (g c) (k c)) : Keeps back (o.bind g) (o.bind k) := by
  cases o with
  | none => exact .none
  | some c => exact h c

theorem checkMap (o : Option γ) (f : γ → α) (rest : List Char) :
    Keeps back (o.map fun c => (f c, rest)) (o.map fun c => (f c, rest ++ ')' :: back)) := by
  cases o with
  | none => exact .none
  | some c => exact .pure (f c) rest

theorem value (h : Keeps back x y) (o : α → Option γ) (f : γ → β) :
    Keeps back (x.bind fun (a, rest) => (o a).bind fun c => some (f c, rest))
      (y.bind fun (a, rest) => (o a).bind fun c => some (f c, rest)) := by
  refine h.bind (fun a rest _ => Keeps.check (o a) fun c => .pure (f c) rest) ?_
  intro a rest b rest' hb
  obtain ⟨c, _, heq⟩ := Option.bind_eq_some_iff.1 hb
  cases heq
  exact List.suffix_refl _

theorem eq_some {a : α} {rest : List Char} (h : Keeps back x y)
    (hy : y = some (a, rest ++ ')' :: back)) : x = some (a, rest) := by
  cases h with
  | same hx hy' =>
      rw [hy] at hy'
      simp only [Option.some.injEq, Prod.mk.injEq, List.append_cancel_right_eq] at hy'
      rw [hx, hy'.1, hy'.2]
  | cut hcut =>
      have hlength := (hcut a _ hy).length_le
      simp only [List.length_append, List.length_cons] at hlength
      omega

end Keeps

/-! ## Blanks -/

namespace Mode

theorem skipBlanks_bracket (back : List Char) :
    skipBlanks false (')' :: back) = ')' :: back := by
  rw [skipBlanks, if_neg (by simp), if_neg (by decide), if_neg (by decide +kernel)]

@[simp] theorem skip_bracket (mode : Mode) (back : List Char) :
    mode.skip (')' :: back) = ')' :: back := by
  unfold skip
  split
  · exact skipBlanks_bracket back
  · rfl

theorem skipBlanks_append (inComment : Bool) (cs back : List Char) :
    skipBlanks inComment (cs ++ ')' :: back) = skipBlanks inComment cs ++ ')' :: back ∨
      skipBlanks inComment cs = [] ∧ skipBlanks inComment (cs ++ ')' :: back) <:+ back := by
  induction cs generalizing inComment with
  | nil =>
      cases inComment with
      | false => exact .inl (skipBlanks_bracket back)
      | true => exact .inr ⟨rfl, suffix_skipBlanks true back⟩
  | cons c cs ih =>
      rw [List.cons_append, skipBlanks, skipBlanks]
      split
      · exact ih _
      · split
        · exact ih _
        · split
          · exact ih _
          · exact .inl rfl

/-- A comment that is still open goes on behind the bracket. -/
theorem skip_append (mode : Mode) (cs back : List Char) :
    mode.skip (cs ++ ')' :: back) = mode.skip cs ++ ')' :: back ∨
      mode.skip cs = [] ∧ mode.skip (cs ++ ')' :: back) <:+ back := by
  unfold skip
  split
  · exact skipBlanks_append false cs back
  · exact .inl rfl

theorem skipBlanks_skipBlanks (inComment : Bool) (cs : List Char) :
    skipBlanks false (skipBlanks inComment cs) = skipBlanks inComment cs := by
  induction cs generalizing inComment with
  | nil => rfl
  | cons c cs ih =>
      rw [skipBlanks]
      split
      · exact ih _
      · split
        · exact ih _
        · split
          · exact ih _
          · rw [skipBlanks, if_neg (by simp), if_neg ‹_›, if_neg ‹_›]

@[simp] theorem skip_skip (mode : Mode) (cs : List Char) :
    mode.skip (mode.skip cs) = mode.skip cs := by
  unfold skip
  split
  · exact skipBlanks_skipBlanks false cs
  · rfl

theorem skip_append_of_skip {mode : Mode} {cs : List Char} (h : mode.skip cs = cs)
    (back : List Char) : mode.skip (cs ++ ')' :: back) = cs ++ ')' :: back := by
  rcases mode.skip_append cs back with hskip | ⟨hnil, -⟩
  · rw [hskip, h]
  · rw [h] at hnil
    rw [hnil, List.nil_append, skip_bracket]

end Mode

theorem Keeps.skip (mode : Mode) {f : List Char → Option (α × List Char)}
    (hsuffix : ∀ cs a rest, f cs = some (a, rest) → rest <:+ cs)
    (h : ∀ cs', cs' <:+ cs → mode.skip cs' = cs' → Keeps back (f cs') (f (cs' ++ ')' :: back))) :
    Keeps back (f (mode.skip cs)) (f (mode.skip (cs ++ ')' :: back))) := by
  rcases mode.skip_append cs back with hskip | ⟨-, hskip⟩
  · rw [hskip]
    exact h _ (mode.suffix_skip cs) (mode.skip_skip cs)
  · exact .cut fun a rest hrest => (hsuffix _ a rest hrest).trans hskip

theorem Keeps.skipping (mode : Mode) {f : List Char → Option (α × List Char)}
    (hskip : ∀ cs, f cs = f (mode.skip cs))
    (hsuffix : ∀ cs a rest, f cs = some (a, rest) → rest <:+ cs)
    (h : ∀ cs', cs' <:+ cs → mode.skip cs' = cs' →
      Keeps back (f cs') (f (cs' ++ ')' :: back))) :
    Keeps back (f cs) (f (cs ++ ')' :: back)) := by
  rw [hskip cs, hskip (cs ++ _)]
  exact Keeps.skip mode hsuffix h

namespace Mode

variable (mode : Mode)

theorem keeps_take? (n : Nat) (cs : List Char) :
    Keeps back (mode.take? n cs) (mode.take? n (cs ++ ')' :: back)) := by
  induction n generalizing cs with
  | zero => exact .pure [] cs
  | succ n ih =>
      refine Keeps.skipping mode (fun cs => by simp only [take?, skip_skip])
        (fun _ _ _ => suffix_of_take?) ?_
      rintro (_ | ⟨c, cs⟩) - hskip
      · refine .cut fun front rest h => ?_
        rw [List.nil_append, take?, skip_bracket] at h
        simp only [Option.map_eq_some_iff, Prod.exists] at h
        obtain ⟨_, _, htake, heq⟩ := h
        cases heq
        exact suffix_of_take? htake
      · rw [take?, take?, skip_append_of_skip hskip, hskip]
        exact (ih cs).map (c :: ·)

theorem upTo?_eq (stop : Char) (cs : List Char) :
    mode.upTo? stop cs = match mode.skip cs with
      | [] => none
      | c :: cs =>
          if c = stop then some ([], cs)
          else (mode.upTo? stop cs).map fun (front, rest) => (c :: front, rest) := by
  rw [upTo?]
  split <;> simp [*]

theorem keeps_upTo? (stop : Char) (cs : List Char) :
    Keeps back (mode.upTo? stop cs) (mode.upTo? stop (cs ++ ')' :: back)) := by
  induction hn : cs.length using Nat.strongRecOn generalizing cs with
  | _ n ih =>
      subst hn
      refine Keeps.skipping mode (fun cs => by rw [upTo?_eq, upTo?_eq mode stop (mode.skip cs),
        skip_skip]) (fun _ _ _ h => (behind_of_upTo? h).suffix) ?_
      rintro (_ | ⟨c, cs⟩) hlength hskip
      · exact .of_behind fun _ _ => behind_of_upTo?
      · rw [upTo?_eq, upTo?_eq, skip_append_of_skip hskip, hskip]
        simp only [List.cons_append]
        split
        · exact .pure [] cs
        · exact (ih _ hlength.length_le _ rfl).map (c :: ·)

theorem keeps_span {p : Char → Bool} (hp : p ')' = false) (cs : List Char) :
    Keeps back (some (mode.span p cs)) (some (mode.span p (cs ++ ')' :: back))) := by
  induction hn : cs.length using Nat.strongRecOn generalizing cs with
  | _ n ih =>
      subst hn
      cases cs with
      | nil =>
          rw [List.nil_append, span, span, hp]
          exact .pure [] []
      | cons c cs =>
          rw [List.cons_append, span, span]
          split
          · have hspan : Keeps back (some (mode.span p (mode.skip cs)))
                (some (mode.span p (mode.skip (cs ++ ')' :: back)))) := by
              refine Keeps.skip mode (f := fun cs => some (mode.span p cs))
                (suffix_of_total (mode.suffix_span p)) fun cs' hlength _ => ?_
              exact ih _ (Nat.lt_succ_of_le hlength.length_le) _ rfl
            exact hspan.map (c :: ·)
          · exact .pure [] (c :: cs)

theorem dropWhile_append (cs back : List Char) :
    (cs ++ ')' :: back).dropWhile isWhiteSpace = cs.dropWhile isWhiteSpace ++ ')' :: back := by
  have hbracket : isWhiteSpace ')' = false := by decide +kernel
  rw [List.dropWhile_append]
  split
  · rename_i hnil
    rw [List.isEmpty_iff.1 hnil, List.dropWhile_cons_of_neg (by simp [hbracket]), List.nil_append]
  · rfl

theorem peek?_append {d : Char} (hd : d ≠ ')') (cs back : List Char) :
    mode.peek? (cs ++ ')' :: back) = some d ↔ mode.peek? cs = some d := by
  have hhead (cs : List Char) : (cs ++ ')' :: back).head? = some d ↔ cs.head? = some d := by
    cases cs with
    | nil => simpa using hd.symm
    | cons c cs => rfl
  unfold peek?
  split
  · rw [dropWhile_append]
    generalize cs.dropWhile isWhiteSpace = cs
    cases cs with
    | nil => simpa using hd.symm
    | cons c cs =>
        by_cases hc : c = '#'
        · subst hc
          simp only [List.cons_append, dropWhile_append]
          exact hhead _
        · simp [hc]
  · exact hhead cs

end Mode

/-! ## Quantifiers -/

namespace Quantifier

variable (mode : Mode)

theorem keeps_number32? (cs : List Char) :
    Keeps back (number32? mode cs) (number32? mode (cs ++ ')' :: back)) := by
  let number (digits : List Char × List Char) : Option (Nat × List Char) := do
    let n ← number? 10 digits.1
    guard (n < 0x100000000)
    return (n, digits.2.dropWhile isWhiteSpace)
  have hnumber (digits rest : List Char) :
      Keeps back (number (digits, rest)) (number (digits, rest ++ ')' :: back)) := by
    refine Keeps.check _ fun n => Keeps.check _ fun _ => ?_
    rw [Mode.dropWhile_append]
    exact .pure n _
  have hsuffix (digits rest : List Char) (n : Nat) (rest' : List Char)
      (h : number (digits, rest) = some (n, rest')) : rest' <:+ rest := by
    obtain ⟨_, _, h⟩ := Option.bind_eq_some_iff.1 h
    obtain ⟨_, _, heq⟩ := Option.bind_eq_some_iff.1 h
    cases heq
    exact List.dropWhile_suffix _
  have hspan : Keeps back (some (mode.span Char.isDigit (cs.dropWhile isWhiteSpace))) _ :=
    mode.keeps_span (by decide) _
  rw [← Mode.dropWhile_append] at hspan
  exact hspan.bind (g := number) (k := number) (fun digits rest _ => hnumber digits rest) hsuffix

theorem keeps_closing? (low high : Nat) (cs : List Char) :
    Keeps back (closing? low high cs) (closing? low high (cs ++ ')' :: back)) := by
  rcases cs with _ | ⟨c, cs⟩
  · exact .none
  · by_cases hbrace : c = '}'
    · subst hbrace
      rw [List.cons_append, closing?, closing?]
      split
      · exact .pure _ cs
      · exact .none
    · simpa [closing?, hbrace] using Keeps.none

theorem keeps_upper? (low : Nat) (cs : List Char) :
    Keeps back (upper? mode low cs) (upper? mode low (cs ++ ')' :: back)) :=
  (keeps_number32? mode cs).bind (fun high rest _ => keeps_closing? low high rest)
    fun _ _ _ _ => suffix_of_closing?

theorem keeps_afterComma? (low : Nat) (cs : List Char) :
    Keeps back (afterComma? mode low cs) (afterComma? mode low (cs ++ ')' :: back)) := by
  rcases cs with _ | ⟨c, cs⟩
  · exact keeps_upper? mode low []
  · by_cases hbrace : c = '}'
    · subst hbrace
      exact .pure _ cs
    · simpa [afterComma?, hbrace] using keeps_upper? mode low (c :: cs)

theorem keeps_afterLow? (low : Nat) (cs : List Char) :
    Keeps back (afterLow? mode low cs) (afterLow? mode low (cs ++ ')' :: back)) := by
  rcases cs with _ | ⟨c, cs⟩
  · exact .none
  · by_cases hbrace : c = '}'
    · subst hbrace
      exact .pure _ cs
    · by_cases hcomma : c = ','
      · subst hcomma
        exact Keeps.skip mode (fun _ _ _ => suffix_of_afterComma?)
          fun cs _ _ => keeps_afterComma? mode low cs
      · simpa [afterLow?, hbrace, hcomma] using Keeps.none

theorem keeps_count? (cs : List Char) :
    Keeps back (count? mode cs) (count? mode (cs ++ ')' :: back)) := by
  unfold count?
  exact (Keeps.skip mode (fun _ _ _ => suffix_of_number32?)
    fun cs _ _ => keeps_number32? mode cs).bind (fun low rest _ => keeps_afterLow? mode low rest)
    fun _ _ _ _ => suffix_of_afterLow?

theorem preference_append (cs back : List Char) :
    preference (cs ++ ')' :: back) = ((preference cs).1, (preference cs).2 ++ ')' :: back) := by
  cases cs with
  | nil => rfl
  | cons c cs =>
      by_cases hc : c = '?'
      · subst hc
        rfl
      · simp [preference, hc]

end Quantifier

end

end RouteTable.Pattern
