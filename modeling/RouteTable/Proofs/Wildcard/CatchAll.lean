import Mathlib.Data.List.Basic
import RouteTable.Proofs.Wildcard.Request
/-!
# Double stars in place of other tokens

A double star stands for every text without a newline, and so for all such texts that
another token stands for.  In place of a token it may take a star that stood before the
token, which changes how the stars after it are read.  Main statement:
`doubleStar_accepts`, no request without a newline is lost.
-/

namespace RouteTable.Wildcard

open RouteTable.Pattern
open RouteTable.Template

/-- Whether every text without a newline for the tokens `ts` is also one for `ts'`. -/
def Covers (ts' ts : List PathToken) : Prop :=
  ∀ w, '\n' ∉ w → Spells ts w → Spells ts' w

section

variable {ts ts' : List PathToken}

theorem Covers.refl (ts : List PathToken) : Covers ts ts := fun _ _ h => h

theorem Covers.cons (h : Covers ts' ts) (t : PathToken) : Covers (t :: ts') (t :: ts) := by
  rintro _ hnewline ⟨u, v, rfl, hu, hv⟩
  rw [List.mem_append, not_or] at hnewline
  exact ⟨u, v, rfl, hu, h v hnewline.2 hv⟩

theorem Covers.doubleStar (h : Covers ts' ts) (t : PathToken) :
    Covers (.doubleStar :: ts') (t :: ts) := by
  rintro _ hnewline ⟨u, v, rfl, -, hv⟩
  rw [List.mem_append, not_or] at hnewline
  exact ⟨u, v, rfl, hnewline.1, h v hnewline.2 hv⟩

theorem Covers.doubleStar_two (h : Covers ts' ts) (t₁ t₂ : PathToken) :
    Covers (.doubleStar :: ts') (t₁ :: t₂ :: ts) := by
  rintro _ hnewline ⟨u, _, rfl, -, v, z, rfl, -, hz⟩
  simp only [List.mem_append, not_or] at hnewline
  exact ⟨u ++ v, z, by simp, by simp [PathToken.Stands, hnewline], h z hnewline.2.2 hz⟩

theorem Covers.body_cons (h : Covers ts' ts) (t : PathToken) :
    Covers (body (t :: ts')) (body (t :: ts)) := by
  by_cases ht : t = .literal '/'
  · subst ht
    exact h
  · rw [body_of_head?_ne (by simpa using ht), body_of_head?_ne (by simpa using ht)]
    exact h.cons t

/-- How tokens are read behind one star more.  It pairs up with the first star that it
finds, and with what is left of it the next one does. -/
def afterStar : List PathToken → List PathToken
  | .doubleStar :: ts => .doubleStar :: afterStar ts
  | .star :: ts => .doubleStar :: ts
  | ts => .star :: ts

theorem Reads.cons_star {path : List Char} (h : Reads path ts) :
    Reads ('*' :: path) (afterStar ts) := by
  induction h with
  | nil => exact .star (by simp) .nil
  | literal hc hcs _ => exact .star (by simpa using hc.ne_star) (.literal hc hcs)
  | segment hname hbody hcs _ => exact .star (by simp) (.segment hname hbody hcs)
  | question hcs _ => exact .star (by simp) (.question hcs)
  | star _ hcs _ => exact .doubleStar hcs
  | doubleStar _ ih => exact .doubleStar ih

theorem covers_afterStar (ts : List PathToken) : Covers (afterStar ts) ts := by
  fun_induction afterStar ts with
  | case1 ts ih => exact ih.cons _
  | case2 ts => exact (Covers.refl ts).doubleStar _
  | case3 ts => exact fun w _ hw => ⟨[], w, rfl, by simp [PathToken.Stands], hw⟩

theorem Reads.with_tail {path cs : List Char} {t : PathToken} (h : Reads path (t :: ts))
    (hcs : Reads cs ts') (hstar : t = .star → cs.head? ≠ some '*') :
    Reads (t.text ++ cs) (t :: ts') := by
  cases h with
  | literal hc _ => exact .literal hc hcs
  | segment hname hbody _ => simpa [PathToken.text] using Reads.segment hname hbody hcs
  | doubleStar _ => exact .doubleStar hcs
  | star _ _ => exact .star (hstar rfl) hcs
  | question _ => exact .question hcs

theorem head?_flatMap_text (t : PathToken) (ts : List PathToken) :
    ((t :: ts).flatMap PathToken.text).head? = t.text.head? := by
  rw [List.flatMap_cons, List.head?_append_of_ne_nil _ t.text_ne_nil]

theorem Reads.head?_of_star {path : List Char} (h : Reads path (.star :: ts)) :
    (ts.flatMap PathToken.text).head? ≠ some '*' := by
  cases h with
  | star hstar hcs => rwa [hcs.text_eq]

/-- Behind a single star, the double star is read as the other half of that star, and
what is left of it as the one star more. -/
theorem Reads.exists_covering {path : List Char} {front back : List PathToken} {t : PathToken}
    (h : Reads path (front ++ t :: back)) (ht : t ≠ .literal '/') :
    ∃ ts', Reads ((front ++ .doubleStar :: back).flatMap PathToken.text) ts' ∧
      Covers (body ts') (body (front ++ t :: back)) ∧ Covers ts' (front ++ t :: back) := by
  induction front generalizing path with
  | nil =>
      have hcovers : Covers (.doubleStar :: back) (t :: back) := (Covers.refl back).doubleStar t
      have hbody : body (t :: back) = t :: back := body_of_head?_ne (by simpa using ht)
      refine ⟨.doubleStar :: back, .doubleStar h.tail, ?_, hcovers⟩
      rwa [List.nil_append, hbody]
  | cons t' front ih =>
      by_cases hpair : t' = .star ∧ front = []
      · obtain ⟨rfl, rfl⟩ := hpair
        have hcovers : Covers (.doubleStar :: afterStar back) (.star :: t :: back) :=
          (covers_afterStar back).doubleStar_two .star t
        exact ⟨.doubleStar :: afterStar back, .doubleStar h.tail.tail.cons_star, hcovers, hcovers⟩
      · obtain ⟨ts', hreads, -, hcovers⟩ := ih h.tail
        refine ⟨t' :: ts', h.with_tail hreads ?_, hcovers.body_cons t', hcovers.cons t'⟩
        rintro rfl
        cases front with
        | nil => exact absurd ⟨rfl, rfl⟩ hpair
        | cons first front =>
            have hhead :
                ((first :: (front ++ t :: back)).flatMap PathToken.text).head? ≠ some '*' :=
              h.head?_of_star
            rw [head?_flatMap_text] at hhead
            exact fun heq => hhead ((head?_flatMap_text first _).symm.trans heq)

end

def PathToken.IsPart : PathToken → Prop
  | segment _ | star => True
  | literal _ | doubleStar | question => False

def pathOf (ts : List PathToken) : String := String.ofList (ts.flatMap PathToken.text)

theorem endsInSlash_append_cons {front back : List PathToken} {t : PathToken}
    (ht : t ≠ .literal '/') : endsInSlash (front ++ t :: back) = endsInSlash back := by
  cases back <;> simp [endsInSlash, ht]

/-- Whether a path ends in a slash does not depend on a token that is no slash. -/
theorem Reads.endsInSlash_body_eq {ts' front back : List PathToken} {t : PathToken}
    (h : Reads ((front ++ .doubleStar :: back).flatMap PathToken.text) ts')
    (ht : t ≠ .literal '/') :
    endsInSlash (body ts') = endsInSlash (body (front ++ t :: back)) := by
  have hends : endsInSlash ts' = endsInSlash (front ++ .doubleStar :: back) := by
    rw [Bool.eq_iff_iff, endsInSlash_iff, endsInSlash_iff, h.text_eq]
  have hslash : ts' ≠ [.literal '/'] := by
    rintro rfl
    have hstar : '*' ∈ [PathToken.literal '/'].flatMap PathToken.text := by
      rw [h.text_eq]
      simp [PathToken.text]
    simp [PathToken.text] at hstar
  have hslash' : front ++ t :: back ≠ [.literal '/'] := by
    intro heq
    have hmem : t ∈ [PathToken.literal '/'] := by simp [← heq]
    exact ht (List.mem_singleton.1 hmem)
  rw [Bool.eq_iff_iff, Wildcard.endsInSlash_body_iff, Wildcard.endsInSlash_body_iff, hends,
    endsInSlash_append_cons (by simp), endsInSlash_append_cons ht]
  simp only [ne_eq, hslash, hslash', not_false_eq_true]

theorem Serves.of_covers {ts ts' : List PathToken} {q : List Char} (h : Serves ts q)
    (hcovers : Covers (body ts') (body ts)) (hnewline : '\n' ∉ q)
    (hends : endsInSlash (body ts') = endsInSlash (body ts)) : Serves ts' q := by
  obtain ⟨s₀, w, s₁, rfl, h₀, hw, h₁⟩ := h
  simp only [List.mem_append, not_or] at hnewline
  exact ⟨s₀, w, s₁, rfl, h₀, hcovers w hnewline.1.2 hw, by rwa [hends]⟩

/-- A double star in place of a path variable or a single star loses no request, as long
as newlines are left out. -/
theorem doubleStar_accepts {path text : String} {front back : List PathToken} {t : PathToken}
    (h : fragment path = .ok text) (htokens : PathToken.read path.toList = front ++ t :: back)
    (ht : t.IsPart) :
    ∃ m m', matcher path = .ok m ∧ matcher (pathOf (front ++ .doubleStar :: back)) = .ok m' ∧
      ∀ q : String, '\n' ∉ q.toList → m.accepts q = true → m'.accepts q = true := by
  have hslash : t ≠ .literal '/' := by
    rintro rfl
    exact ht
  obtain ⟨m, hm, -⟩ := matcher_of_fragment h
  obtain ⟨hreads, hsentinel⟩ := reads_of_matcher hm
  rw [htokens] at hreads
  obtain ⟨ts', hreads', hcovers, -⟩ := hreads.exists_covering hslash
  have htemplate : IsTemplate false (pathOf (front ++ .doubleStar :: back)).toList := by
    rw [pathOf, String.toList_ofList]
    exact hreads'.isTemplate
  have hsentinel' : sentinel ∉ (pathOf (front ++ .doubleStar :: back)).toList := by
    rw [← hreads.text_eq] at hsentinel
    rw [pathOf, String.toList_ofList]
    simp only [List.flatMap_append, List.flatMap_cons, List.mem_append, not_or] at hsentinel ⊢
    exact ⟨hsentinel.1, by decide, hsentinel.2.2⟩
  obtain ⟨text', htext'⟩ := exists_fragment htemplate hsentinel'
  obtain ⟨m', hm', -⟩ := matcher_of_fragment htext'
  refine ⟨m, m', hm, hm', fun q hnewline hserves => ?_⟩
  rw [accepts_iff_serves hm, htokens] at hserves
  rw [accepts_iff_serves hm', pathOf, String.toList_ofList, hreads'.read_eq]
  exact hserves.of_covers hcovers hnewline (hreads'.endsInSlash_body_eq hslash)

/-- In place of the variable, the double star is read before the single star. -/
theorem doubleStar_accepts_pair :
    pathOf [.literal '/', .star, .doubleStar] = "/***" ∧
      ∃ m m', matcher "/*\x7bx\x7d" = .ok m ∧ matcher "/***" = .ok m' ∧
        m.accepts "/ab" = true ∧ m'.accepts "/ab" = true := by
  have hread : PathToken.read "/*\x7bx\x7d".toList = [.literal '/', .star, .segment ['x']] := by
    simp [PathToken.read]
  have hvariable : Reads "\x7bx\x7d".toList [.segment ['x']] :=
    .segment (List.cons_ne_nil 'x' []) (by simp [IsBody]) .nil
  have hbraces : IsTemplate false "/*\x7bx\x7d".toList :=
    hvariable.isTemplate.append_body (w := ['/', '*']) (by simp [IsBody])
  obtain ⟨text, htext⟩ := exists_fragment hbraces (by decide)
  have htokens : PathToken.read "/*\x7bx\x7d".toList =
      [.literal '/', .star] ++ .segment ['x'] :: [] := hread
  obtain ⟨m, m', hm, hm', hcovers⟩ := doubleStar_accepts htext htokens trivial
  have hserves : m.accepts "/ab" = true := by
    rw [accepts_iff_serves hm, hread]
    exact ⟨['/'], ['a', 'b'], [], rfl, .inr rfl, ⟨['a'], ['b'], rfl, by simp [PathToken.Stands],
      ['b'], [], rfl, by simp [PathToken.Stands], rfl⟩, .inl rfl⟩
  exact ⟨rfl, m, m', hm, hm', hserves, hcovers "/ab" (by decide) hserves⟩

/-- A newline is a text for a path variable, and none for a double star. -/
theorem doubleStar_misses_newline :
    PathToken.read "/\x7bx\x7d".toList = [.literal '/', .segment ['x']] ∧
      pathOf [.literal '/', .doubleStar] = "/**" ∧
      ∃ m m', matcher "/\x7bx\x7d" = .ok m ∧ matcher "/**" = .ok m' ∧
        m.accepts "/\n" = true ∧ m'.accepts "/\n" = false := by
  have hread : PathToken.read "/\x7bx\x7d".toList = [.literal '/', .segment ['x']] := by
    simp [PathToken.read]
  have hread' : PathToken.read "/**".toList = [.literal '/', .doubleStar] := by
    simp [PathToken.read]
  have hvariable : Reads "\x7bx\x7d".toList [.segment ['x']] :=
    .segment (List.cons_ne_nil 'x' []) (by simp [IsBody]) .nil
  have hbraces : IsTemplate false "/\x7bx\x7d".toList := hvariable.isTemplate.cons_slash
  obtain ⟨text, htext⟩ := exists_fragment hbraces (by decide)
  obtain ⟨text', htext'⟩ := exists_fragment_of_isBody "/**" (by simp [IsBody]) (by decide)
  obtain ⟨m, hm, -⟩ := matcher_of_fragment htext
  obtain ⟨m', hm', -⟩ := matcher_of_fragment htext'
  refine ⟨hread, rfl, m, m', hm, hm', ?_, Bool.eq_false_iff.2 ?_⟩
  · rw [accepts_iff_serves hm, hread]
    exact ⟨['/'], ['\n'], [], rfl, .inr rfl, ⟨['\n'], [], rfl, by simp [PathToken.Stands], rfl⟩,
      .inl rfl⟩
  · rw [ne_eq, accepts_iff_serves hm', hread']
    rintro ⟨s₀, w, s₁, hq, h₀, ⟨u, v, rfl, hu, rfl⟩, h₁⟩
    have hnewline : '\n' ∈ s₀ ++ (u ++ []) ++ s₁ := by
      rw [← hq]
      decide
    have hstands : '\n' ∉ u := hu
    rcases h₀ with rfl | rfl <;> rcases h₁ with rfl | ⟨rfl, -⟩ <;> simp [hstands] at hnewline

end RouteTable.Wildcard
