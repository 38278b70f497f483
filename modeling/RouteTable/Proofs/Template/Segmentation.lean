import Mathlib.Data.List.Chain
import Mathlib.Data.List.Forall2
import Mathlib.Data.List.TakeWhile
import RouteTable.Proofs.Template.Join
/-!
# Segmentations

A template is a row of lexemes: literal characters, path variables and
placeholders.  Its segments are these lexemes with the literal characters of a run in
one piece.  Main statement: `segments_eq_ok_iff_isSegmentation`, exactly the rows of
lexemes can be read, and what is read is the only way to cut them into segments.
-/

namespace RouteTable.Template

/-! ## Lexemes -/

/-- What a template is put together from. -/
inductive Lexeme where
  | char (c : Char)
  | pathVariable (name : List Char)
  | placeholder (body : List Char)

def IsKeyAndDefault (body key default : List Char) : Prop :=
  ':' ∉ key ∧ (body = key ∧ default = [] ∨ body = key ++ ':' :: default)

namespace Lexeme

def text : Lexeme → List Char
  | char c => [c]
  | pathVariable name => '{' :: (name ++ ['}'])
  | placeholder body => '$' :: '{' :: (body ++ ['}'])

def IsWellFormed (placeholders : Bool) : Lexeme → Prop
  | char c => c ≠ '{' ∧ c ≠ '}'
  | pathVariable name => name ≠ [] ∧ IsBody name
  | placeholder body =>
      placeholders = true ∧ IsBody body ∧
        ∃ key default, IsKeyAndDefault body key default ∧ key ≠ []

/-- Where placeholders are asked for, a brace after a literal dollar would open one. -/
def CanPrecede (placeholders : Bool) (a b : Lexeme) : Prop :=
  ¬(placeholders = true ∧ a = char '$' ∧ b.text.head? = some '{')

end Lexeme

/-- The text consists of these lexemes. -/
structure IsRow (placeholders : Bool) (cs : List Char) (lexemes : List Lexeme) : Prop where
  text : lexemes.flatMap Lexeme.text = cs
  wellFormed : ∀ l ∈ lexemes, l.IsWellFormed placeholders
  chain : lexemes.IsChain (Lexeme.CanPrecede placeholders)

/-! ## Segmentations -/

namespace Segment

def IsWrittenAs : Segment → List Char → Prop
  | literal text, cs => cs = text
  | pathVariable name, cs => cs = '{' :: (name ++ ['}'])
  | placeholder key default, cs =>
      ∃ body, IsKeyAndDefault body key default ∧ cs = '$' :: '{' :: (body ++ ['}'])

def IsWellFormed (placeholders : Bool) : Segment → Prop
  | literal text => text ≠ [] ∧ IsBody text
  | pathVariable name => name ≠ [] ∧ IsBody name
  | placeholder key default => placeholders = true ∧ key ≠ [] ∧ IsBody key ∧ IsBody default

/-- Literal text comes in one piece, and a dollar at its end does not open a
placeholder. -/
def CanPrecede (placeholders : Bool) : Segment → Segment → Prop
  | literal _, literal _ => False
  | literal text, pathVariable _ => ¬(placeholders = true ∧ text.getLast? = some '$')
  | _, _ => True

end Segment

/-- The text, cut into segments in such a way that literal text is not empty and no
two pieces of it are neighbours. -/
structure IsSegmentation (placeholders : Bool) (cs : List Char) (segments : List Segment) :
    Prop where
  text : ∃ texts, List.Forall₂ Segment.IsWrittenAs segments texts ∧ texts.flatten = cs
  wellFormed : ∀ s ∈ segments, s.IsWellFormed placeholders
  chain : segments.IsChain (Segment.CanPrecede placeholders)

/-! ## Keys and defaults -/

theorem isKeyAndDefault_keyAndDefault (body : List Char) :
    IsKeyAndDefault body (keyAndDefault body).1 (keyAndDefault body).2 := by
  have hcut := List.takeWhile_append_dropWhile (p := fun c => decide (c ≠ ':')) (l := body)
  refine ⟨fun hmem => by simpa using List.mem_takeWhile_imp hmem, ?_⟩
  rw [keyAndDefault]
  cases hrest : body.dropWhile (· ≠ ':') with
  | nil =>
      rw [hrest, List.append_nil] at hcut
      exact .inl ⟨hcut.symm, rfl⟩
  | cons c rest =>
      have hc := List.head?_dropWhile_not (fun c => decide (c ≠ ':')) body
      rw [hrest, List.head?_cons] at hc
      obtain rfl : c = ':' := by simpa using hc
      rw [hrest] at hcut
      exact .inr hcut.symm

theorem IsKeyAndDefault.keyAndDefault_eq {body key default : List Char}
    (h : IsKeyAndDefault body key default) : keyAndDefault body = (key, default) := by
  obtain ⟨hkey, hbody⟩ := h
  have hpos : ∀ c ∈ key, decide (c ≠ ':') = true := by
    intro c hc
    rw [decide_eq_true_eq]
    rintro rfl
    exact hkey hc
  rcases hbody with ⟨rfl, rfl⟩ | rfl
  · rw [keyAndDefault, List.takeWhile_eq_self_iff.2 hpos, List.dropWhile_eq_nil_iff.2 hpos]
    rfl
  · rw [keyAndDefault, List.takeWhile_append_of_pos hpos, List.dropWhile_append_of_pos hpos]
    simp

theorem IsKeyAndDefault.isBody_iff {body key default : List Char}
    (h : IsKeyAndDefault body key default) : IsBody body ↔ IsBody key ∧ IsBody default := by
  obtain ⟨-, ⟨rfl, rfl⟩ | rfl⟩ := h
  · simp [IsBody]
  · simp only [IsBody, List.mem_append, List.mem_cons]
    grind

section

variable {placeholders : Bool} {cs : List Char}

/-! ## Rows of lexemes -/

theorem IsRow.nil : IsRow placeholders [] [] := ⟨rfl, by simp, .nil⟩

theorem IsRow.cons {lexemes : List Lexeme} (h : IsRow placeholders cs lexemes)
    (lexeme : Lexeme) (hlexeme : lexeme.IsWellFormed placeholders)
    (hfirst : ∀ next ∈ lexemes.head?, lexeme.CanPrecede placeholders next) :
    IsRow placeholders (lexeme.text ++ cs) (lexeme :: lexemes) where
  text := by rw [List.flatMap_cons, h.text]
  wellFormed := List.forall_mem_cons.2 ⟨hlexeme, h.wellFormed⟩
  chain := List.isChain_cons.2 ⟨hfirst, h.chain⟩

theorem IsRow.of_cons {lexeme : Lexeme} {lexemes : List Lexeme}
    (h : IsRow placeholders cs (lexeme :: lexemes)) :
    ∃ rest, cs = lexeme.text ++ rest ∧ lexeme.IsWellFormed placeholders ∧
      IsRow placeholders rest lexemes ∧
      ∀ next ∈ lexemes.head?, lexeme.CanPrecede placeholders next := by
  obtain ⟨htext, hwellFormed, hchain⟩ := h
  obtain ⟨hlexeme, hlexemes⟩ := List.forall_mem_cons.1 hwellFormed
  obtain ⟨hfirst, hchain⟩ := List.isChain_cons.1 hchain
  exact ⟨_, htext.symm, hlexeme, ⟨rfl, hlexemes, hchain⟩, hfirst⟩

theorem Lexeme.text_ne_nil (l : Lexeme) : l.text ≠ [] := by
  cases l <;> simp [Lexeme.text]

theorem IsRow.head?_eq {lexemes : List Lexeme} (h : IsRow placeholders cs lexemes) :
    cs.head? = lexemes.head?.bind fun l => l.text.head? := by
  cases lexemes with
  | nil => rw [← h.text]; rfl
  | cons l lexemes =>
      obtain ⟨rest, rfl, -⟩ := h.of_cons
      rw [List.head?_append_of_ne_nil _ l.text_ne_nil]
      rfl

theorem IsRow.isLiteral_iff {c : Char} {lexemes : List Lexeme}
    (h : IsRow placeholders cs lexemes) :
    IsLiteral placeholders c cs ↔ (Lexeme.char c).IsWellFormed placeholders ∧
      ∀ next ∈ lexemes.head?, (Lexeme.char c).CanPrecede placeholders next := by
  rw [IsLiteral, h.head?_eq]
  cases lexemes <;> simp [Lexeme.IsWellFormed, Lexeme.CanPrecede, and_assoc]

theorem isTemplate_iff_exists_isRow :
    IsTemplate placeholders cs ↔ ∃ lexemes, IsRow placeholders cs lexemes := by
  constructor
  · rintro ⟨segments, h⟩
    induction h with
    | nil => exact ⟨[], .nil⟩
    | @literal c cs _ hc _ ih =>
        obtain ⟨lexemes, hrow⟩ := ih
        obtain ⟨hchar, hfirst⟩ := hrow.isLiteral_iff.1 hc
        exact ⟨.char c :: lexemes, hrow.cons _ hchar hfirst⟩
    | @pathVariable name cs _ hname hbody _ ih =>
        obtain ⟨lexemes, hrow⟩ := ih
        refine ⟨.pathVariable name :: lexemes, ?_⟩
        simpa [Lexeme.text] using
          hrow.cons (.pathVariable name) ⟨hname, hbody⟩ (by simp [Lexeme.CanPrecede])
    | @placeholder body cs _ hplaceholders hbody hkey _ ih =>
        obtain ⟨lexemes, hrow⟩ := ih
        refine ⟨.placeholder body :: lexemes, ?_⟩
        simpa [Lexeme.text] using
          hrow.cons (.placeholder body)
            ⟨hplaceholders, hbody, _, _, isKeyAndDefault_keyAndDefault body, hkey⟩
            (by simp [Lexeme.CanPrecede])
  · rintro ⟨lexemes, h⟩
    induction lexemes generalizing cs with
    | nil =>
        obtain rfl : [] = cs := h.text
        exact .nil
    | cons lexeme lexemes ih =>
        obtain ⟨rest, rfl, hlexeme, hrest, hfirst⟩ := h.of_cons
        obtain ⟨segments, hsegments⟩ := ih hrest
        cases lexeme with
        | char c => exact ⟨_, .literal (hrest.isLiteral_iff.2 ⟨hlexeme, hfirst⟩) hsegments⟩
        | pathVariable name =>
            have hvariable := Parses.pathVariable hlexeme.1 hlexeme.2 hsegments
            exact ⟨_, by simpa [Lexeme.text] using hvariable⟩
        | placeholder body =>
            obtain ⟨hplaceholders, hbody, key, default, hkey, hne⟩ := hlexeme
            have hplaceholder := Parses.placeholder hplaceholders hbody
              (by rwa [hkey.keyAndDefault_eq]) hsegments
            exact ⟨_, by simpa [Lexeme.text] using hplaceholder⟩

/-! ## Segmentations -/

variable {segment : Segment} {segments : List Segment}

theorem IsSegmentation.nil : IsSegmentation placeholders [] [] :=
  ⟨⟨[], .nil, rfl⟩, by simp, .nil⟩

theorem isSegmentation_cons_iff :
    IsSegmentation placeholders cs (segment :: segments) ↔
      ∃ text rest, cs = text ++ rest ∧ segment.IsWrittenAs text ∧
        segment.IsWellFormed placeholders ∧
        (∀ next ∈ segments.head?, segment.CanPrecede placeholders next) ∧
        IsSegmentation placeholders rest segments := by
  constructor
  · rintro ⟨⟨texts, hwritten, rfl⟩, hwellFormed, hchain⟩
    obtain ⟨text, texts, hsegment, hrest, rfl⟩ := List.forall₂_cons_left_iff.1 hwritten
    obtain ⟨hfirst, hchain⟩ := List.isChain_cons.1 hchain
    rw [List.forall_mem_cons] at hwellFormed
    exact ⟨text, texts.flatten, rfl, hsegment, hwellFormed.1, hfirst,
      ⟨texts, hrest, rfl⟩, hwellFormed.2, hchain⟩
  · rintro ⟨text, rest, rfl, hsegment, hwellFormed, hfirst, ⟨texts, hwritten, rfl⟩, hrest, hchain⟩
    exact ⟨⟨text :: texts, .cons hsegment hwritten, rfl⟩,
      List.forall_mem_cons.2 ⟨hwellFormed, hrest⟩, List.isChain_cons.2 ⟨hfirst, hchain⟩⟩

/-- What a text of segments begins with, as far as a dollar before it is concerned. -/
theorem IsSegmentation.head?_eq_open_iff (h : IsSegmentation placeholders cs segments) :
    cs.head? = some '{' ↔ ∃ name, segments.head? = some (.pathVariable name) := by
  cases segments with
  | nil =>
      obtain ⟨texts, hwritten, rfl⟩ := h.text
      obtain rfl := List.forall₂_nil_left_iff.1 hwritten
      simp
  | cons segment segments =>
      obtain ⟨text, rest, rfl, hwritten, hwellFormed, -⟩ := isSegmentation_cons_iff.1 h
      cases segment with
      | literal literal =>
          obtain rfl : text = literal := hwritten
          obtain ⟨hne, hopen, -⟩ := hwellFormed
          cases text with
          | nil => exact absurd rfl hne
          | cons c text =>
              simp only [List.mem_cons, not_or] at hopen
              simp [Ne.symm hopen.1]
      | pathVariable name =>
          obtain rfl : text = _ := hwritten
          simp
      | placeholder key default =>
          obtain ⟨body, -, rfl⟩ := hwritten
          simp

/-! ## Literal text -/

theorem Segment.canPrecede_literal_cons {c : Char} {text : List Char} (htext : text ≠ [])
    (next : Segment) :
    (Segment.literal (c :: text)).CanPrecede placeholders next ↔
      (Segment.literal text).CanPrecede placeholders next := by
  cases next with
  | literal _ | placeholder _ _ => rfl
  | pathVariable name =>
      rw [CanPrecede, CanPrecede, List.getLast?_cons_of_ne_nil htext]

theorem consLiteral_of_canPrecede {c : Char} {text : List Char}
    (h : ∀ next ∈ segments.head?, (Segment.literal text).CanPrecede placeholders next) :
    consLiteral c segments = .literal [c] :: segments := by
  unfold consLiteral
  split
  · exact absurd (h _ rfl) (by simp [Segment.CanPrecede])
  · rfl

theorem IsSegmentation.consLiteral {c : Char} (h : IsSegmentation placeholders cs segments)
    (hc : IsLiteral placeholders c cs) :
    IsSegmentation placeholders (c :: cs) (consLiteral c segments) := by
  obtain ⟨hopen, hclose, hdollar⟩ := hc
  unfold Template.consLiteral
  split
  · rename_i text segments
    obtain ⟨text, rest, rfl, rfl, ⟨hne, hbody⟩, hfirst, hrest⟩ := isSegmentation_cons_iff.1 h
    refine isSegmentation_cons_iff.2 ⟨c :: text, rest, rfl, rfl, ⟨by simp, ?_⟩, ?_, hrest⟩
    · simpa [IsBody, Ne.symm hopen, Ne.symm hclose] using hbody
    · exact fun next hnext => (Segment.canPrecede_literal_cons hne next).2 (hfirst next hnext)
  · rename_i hliteral
    refine isSegmentation_cons_iff.2 ⟨[c], cs, rfl, rfl, ⟨by simp, ?_⟩, ?_, h⟩
    · simp [IsBody, Ne.symm hopen, Ne.symm hclose]
    · intro next hnext
      cases next with
      | literal text =>
          obtain ⟨rest, rfl⟩ := List.head?_eq_some_iff.1 hnext
          exact hliteral text rest rfl
      | pathVariable name =>
          rintro ⟨hplaceholders, hlast⟩
          exact hdollar ⟨hplaceholders, by simpa using hlast, h.head?_eq_open_iff.2 ⟨name, hnext⟩⟩
      | placeholder key default => trivial

theorem Parses.append_literal {text : List Char} (h : Parses placeholders cs segments)
    (hcs : IsSegmentation placeholders cs segments) (hne : text ≠ []) (hbody : IsBody text)
    (hfirst : ∀ next ∈ segments.head?, (Segment.literal text).CanPrecede placeholders next) :
    Parses placeholders (text ++ cs) (.literal text :: segments) := by
  induction text with
  | nil => exact absurd rfl hne
  | cons c text ih =>
      simp only [IsBody, List.mem_cons, not_or] at hbody
      obtain ⟨⟨hopen, hopens⟩, hclose, hcloses⟩ := hbody
      cases text with
      | nil =>
          rw [← consLiteral_of_canPrecede hfirst]
          refine .literal ⟨Ne.symm hopen, Ne.symm hclose, ?_⟩ h
          rintro ⟨hplaceholders, rfl, hhead⟩
          obtain ⟨name, hname⟩ := hcs.head?_eq_open_iff.1 hhead
          exact hfirst _ hname ⟨hplaceholders, rfl⟩
      | cons d text =>
          have hrest := ih (by simp) ⟨hopens, hcloses⟩ fun next hnext =>
            (Segment.canPrecede_literal_cons (by simp) next).1 (hfirst next hnext)
          change Parses placeholders _ (consLiteral c (.literal (d :: text) :: segments))
          refine .literal ⟨Ne.symm hopen, Ne.symm hclose, ?_⟩ hrest
          rintro ⟨-, -, hhead⟩
          obtain rfl : d = '{' := by simpa using hhead
          simp at hopens

/-! ## What is read -/

theorem Parses.isSegmentation (h : Parses placeholders cs segments) :
    IsSegmentation placeholders cs segments := by
  induction h with
  | nil => exact .nil
  | literal hc _ ih => exact ih.consLiteral hc
  | @pathVariable name cs _ hname hbody _ ih =>
      exact isSegmentation_cons_iff.2 ⟨'{' :: (name ++ ['}']), cs, by simp, rfl, ⟨hname, hbody⟩,
        by simp [Segment.CanPrecede], ih⟩
  | @placeholder body cs _ hplaceholders hbody hkey _ ih =>
      have hparts := isKeyAndDefault_keyAndDefault body
      exact isSegmentation_cons_iff.2 ⟨'$' :: '{' :: (body ++ ['}']), cs, by simp,
        ⟨body, hparts, rfl⟩, ⟨hplaceholders, hkey, hparts.isBody_iff.1 hbody⟩,
        by simp [Segment.CanPrecede], ih⟩

theorem IsSegmentation.parses (h : IsSegmentation placeholders cs segments) :
    Parses placeholders cs segments := by
  induction segments generalizing cs with
  | nil =>
      obtain ⟨texts, hwritten, rfl⟩ := h.text
      obtain rfl := List.forall₂_nil_left_iff.1 hwritten
      exact .nil
  | cons segment segments ih =>
      obtain ⟨text, rest, rfl, hwritten, hwellFormed, hfirst, hrest⟩ :=
        isSegmentation_cons_iff.1 h
      cases segment with
      | literal literal =>
          obtain rfl : text = literal := hwritten
          exact (ih hrest).append_literal hrest hwellFormed.1 hwellFormed.2 hfirst
      | pathVariable name =>
          obtain rfl : text = _ := hwritten
          simpa using Parses.pathVariable hwellFormed.1 hwellFormed.2 (ih hrest)
      | placeholder key default =>
          obtain ⟨body, hparts, rfl⟩ := hwritten
          obtain ⟨hplaceholders, hkey, hbody⟩ := hwellFormed
          have hplaceholder := Parses.placeholder hplaceholders (hparts.isBody_iff.2 hbody)
            (by rwa [hparts.keyAndDefault_eq]) (ih hrest)
          simpa [hparts.keyAndDefault_eq] using hplaceholder

theorem IsSegmentation.unique {other : List Segment} (h : IsSegmentation placeholders cs segments)
    (hother : IsSegmentation placeholders cs other) : segments = other := by
  have hread : segmentsFrom placeholders 0 cs = .ok segments := segmentsFrom_eq_ok_iff.2 h.parses
  rw [segmentsFrom_eq_ok_iff.2 hother.parses] at hread
  exact (Except.ok.inj hread).symm

end

/-- Exactly the rows of lexemes can be read.  What is read is the one way to cut the text
into segments in which every run of literal characters is one piece. -/
theorem segments_eq_ok_iff_isSegmentation (placeholders : Bool) (template : String) :
    ((∃ segs, segments placeholders template = .ok segs) ↔
      ∃ lexemes, IsRow placeholders template.toList lexemes) ∧
    (∀ segs, segments placeholders template = .ok segs ↔
      IsSegmentation placeholders template.toList segs) ∧
    ∀ segs other, IsSegmentation placeholders template.toList segs →
      IsSegmentation placeholders template.toList other → segs = other := by
  refine ⟨?_, fun segs => ?_, fun segs other hsegs hother => hsegs.unique hother⟩
  · rw [← isTemplate_iff_exists_isRow]
    exact exists_congr fun segs => segments_eq_ok_iff
  · rw [segments_eq_ok_iff]
    exact ⟨Parses.isSegmentation, IsSegmentation.parses⟩

example : segments true "$$\x7ba:\x7d\x7bb\x7d" =
    .ok [.literal ['$'], .placeholder ['a'] [], .pathVariable ['b']] := by
  cbv

end RouteTable.Template
