import RouteTable.Proofs.Pattern.Depth
import RouteTable.Proofs.Pattern.Enclosed.Token
import RouteTable.Proofs.Pattern.Words
/-!
# Fragments between anchors

A fragment is read inside of the group between the anchors as it is read by itself, for as long
as it does not close that group.  Main statement: `Matcher.anchored_or_closed`, a matcher
matches whole paths by its fragment, unless the fragment is no pattern by itself and closes the
group behind a text that is one.
-/

namespace RouteTable.Pattern

namespace Reading

variable {s s' f : Reading} {cs : List Char}

theorem run_skip (s : Reading) (cs : List Char) :
    s.run (s.current.mode.skip cs) = s.run cs := by
  rw [run, run.eq_def s cs, Mode.skip_skip]

/-- What holds at the end of a run, and in front of a token if it holds behind it, holds at the
beginning. -/
theorem run_induction {motive : Reading → List Char → Prop}
    (stop : ∀ cs, f.current.mode.skip cs = [] → motive f cs)
    (step : ∀ s s' cs token rest, s.run cs = some f →
      Token.next? s.current.mode (s.current.mode.skip cs) = some (token, rest) →
      s.next token = some s' → motive s' rest → motive s cs)
    (h : s.run cs = some f) : motive s cs := by
  fun_induction run s cs with
  | case1 s cs hskip =>
      cases h
      exact stop cs hskip
  | case2 | case3 => simp at h
  | case4 s cs hskip token rest hfirst s' hnext ih =>
      refine step s s' cs token rest ?_ hfirst hnext (ih h)
      rw [run_of_first hfirst, hnext]
      exact h

theorem depth_run (h : s.run cs = some f) :
    ∀ g ∈ s.current :: s.outer, ∃ g' ∈ f.current :: f.outer, g.value.depth ≤ g'.value.depth := by
  refine run_induction (motive := fun s _ => ∀ g ∈ s.current :: s.outer,
    ∃ g' ∈ f.current :: f.outer, g.value.depth ≤ g'.value.depth) ?_ ?_ h
  · exact fun _ _ g hg => ⟨g, hg, Nat.le_refl _⟩
  · intro s s' cs token rest _ _ hnext ih g hg
    obtain ⟨g', hg', hle⟩ := depth_next hnext g hg
    obtain ⟨g'', hg'', hle'⟩ := ih g' hg'
    exact ⟨g'', hg'', Nat.le_trans hle hle'⟩

def within (wrapper : OpenGroup) (s : Reading) : Reading :=
  { s with outer := s.outer ++ [wrapper] }

variable {wrapper : OpenGroup}

theorem outer_within_ne_nil (s : Reading) : (s.within wrapper).outer ≠ [] := by
  simp [within]

/-- A token is read as it is without the wrapper, unless it closes the wrapper. -/
theorem next_within {token : Token} (h : token = .closeGroup → s.outer ≠ []) :
    (s.within wrapper).next token = (s.next token).map (within wrapper) := by
  cases token with
  | openGroup kind mode =>
      by_cases htaken : kind.name?.any s.names.contains = true
      · simp [next, enter, within, htaken]
      · simp [next, enter, within, htaken]
  | closeGroup =>
      obtain ⟨parent, outer, houter⟩ := List.exists_cons_of_ne_nil (h rfl)
      simp only [next, leave, within, houter, List.cons_append, Option.map_some]
  | switch mode => rfl
  | bar => rfl
  | quantifier quantifier marked =>
      simp only [next, within]
      cases s.current.quantify quantifier marked <;> rfl
  | atom part => rfl

theorem run_bracket (s : Reading) (cs : List Char) :
    s.run (')' :: cs) = (s.next .closeGroup).bind fun s => s.run cs :=
  run_of_first (by rw [Mode.skip_bracket]; rfl)

theorem run_anchor (s : Reading) :
    s.run ['$'] = some (s.push (.leaf (.look s.current.mode.stop))) := by
  have hskip : s.current.mode.skip ['$'] = ['$'] := by
    unfold Mode.skip
    split
    · decide +kernel
    · rfl
  have hfirst : Token.next? s.current.mode (s.current.mode.skip ['$']) =
      some (.atom (.leaf (.look s.current.mode.stop)), []) := by
    rw [hskip]
    rfl
  exact (run_of_first hfirst).trans (run_nil _)

theorem outer_of_run_anchor (hcs : cs <:+ ['$']) (h : s.run cs = some f) : f.outer = s.outer := by
  rcases List.suffix_cons_iff.1 hcs with rfl | hcs
  · rw [run_anchor] at h
    cases h
    rfl
  · rw [List.suffix_nil.1 hcs, run_nil] at h
    cases h
    rfl

/-- How a text in front of the end of a wrapper is read: by itself, or up to a bracket that
closes the wrapper. -/
inductive Within (wrapper : OpenGroup) (f s : Reading) (cs : List Char) : Prop where
  | enclosed {s' : Reading} (hrun : s.run cs = some s') (houter : s'.outer = [])
      (hclose : (s'.within wrapper).run [')', '$'] = some f)
  | closed {front back : List Char} {s' : Reading} (hcs : cs = front ++ ')' :: back)
      (hnone : s.run cs = none) (hrun : s.run front = some s') (houter : s'.outer = [])
      (hdepth : s'.current.value.depth ≤ f.current.value.depth)

theorem Within.step {token : Token} {rest : List Char}
    (hfirst : Token.next? s.current.mode (s.current.mode.skip cs) = some (token, rest))
    (hnext : s.next token = some s') (h : Within wrapper f s' rest) : Within wrapper f s cs := by
  have hrun := run_of_first hfirst
  rw [hnext, Option.bind_some] at hrun
  cases h with
  | enclosed hrest houter hclose => exact .enclosed (hrun.trans hrest) houter hclose
  | @closed front back s'' hrest hnone hfront houter hdepth =>
      subst hrest
      obtain ⟨read, rfl⟩ : ∃ read, read ++ (front ++ ')' :: back) = cs :=
        (Token.behind_of_next? hfirst).suffix.trans (s.current.mode.suffix_skip cs)
      rw [← List.append_assoc] at hfirst hrun ⊢
      -- The token does not reach the bracket, so it is read without the bracket too.
      have hfirst' := (keeps_first s.current.mode (read ++ front)).eq_some hfirst
      refine .closed rfl (hrun.trans hnone) ?_ houter hdepth
      rw [run_of_first hfirst', hnext]
      exact hfront

theorem Within.of_bracket {back : List Char} (hskip : s.current.mode.skip cs = ')' :: back)
    (houter : s.outer = []) (hdepth : s.current.value.depth ≤ f.current.value.depth) :
    Within wrapper f s cs := by
  obtain ⟨front, rfl⟩ : ∃ front, front ++ ')' :: back = cs :=
    hskip ▸ s.current.mode.suffix_skip cs
  have hfront : s.current.mode.skip front = [] := by
    rcases s.current.mode.skip_append front back with hback | ⟨hnil, -⟩
    · rw [hskip] at hback
      exact List.self_eq_append_left.1 hback
    · exact hnil
  refine .closed rfl ?_ (run_of_skip_eq_nil hfront) houter hdepth
  rw [← run_skip, hskip, run_bracket, next, leave, houter, Option.bind_none]

theorem run_anchor_ne (hf : f.outer = []) (hcs : cs <:+ ['$']) :
    (s.within wrapper).run cs ≠ some f := fun h =>
  outer_within_ne_nil s ((outer_of_run_anchor hcs h).symm.trans hf)

theorem Within.of_blank (hblank : s.current.mode.skip cs = [])
    (h : (s.within wrapper).run (cs ++ [')', '$']) = some f) (hf : f.outer = []) :
    Within wrapper f s cs := by
  have hskipped := (run_skip _ _).trans h
  rcases s.current.mode.skip_append cs ['$'] with hskip | ⟨-, hskip⟩
  · rw [hblank, List.nil_append] at hskip
    have hclose : (s.within wrapper).run [')', '$'] = some f := hskip ▸ hskipped
    refine .enclosed (run_of_skip_eq_nil hblank) ?_ hclose
    by_contra houter
    rw [run_bracket, next_within fun _ => houter] at hclose
    obtain ⟨_, hleave, hanchor⟩ := Option.bind_eq_some_iff.1 hclose
    obtain ⟨s', _, rfl⟩ := Option.map_eq_some_iff.1 hleave
    exact run_anchor_ne hf (List.suffix_refl _) hanchor
  · exact absurd hskipped (run_anchor_ne hf hskip)

/-- Each token in front of the end of a wrapper is read as it is without it, or closes it. -/
theorem within_of_run (h : (s.within wrapper).run (cs ++ [')', '$']) = some f)
    (hf : f.outer = []) : Within wrapper f s cs := by
  refine run_induction (motive := fun t text => ∀ s cs, t = s.within wrapper →
    text = cs ++ [')', '$'] → Within wrapper f s cs) ?_ ?_ h s cs rfl rfl
  · rintro _ - s cs rfl -
    exact absurd hf (outer_within_ne_nil s)
  · rintro _ t _ token rest hrun hfirst hnext ih s cs rfl rfl
    by_cases hblank : s.current.mode.skip cs = []
    · exact .of_blank hblank hrun hf
    by_cases hclose : token = .closeGroup ∧ s.outer = []
    · obtain ⟨rfl, houter⟩ := hclose
      have hskip : s.current.mode.skip (cs ++ [')', '$']) = ')' :: rest :=
        Token.eq_bracket_of_next? hfirst
      rw [(s.current.mode.skip_append cs ['$']).resolve_right fun h => hblank h.1] at hskip
      obtain ⟨c, back, hback⟩ := List.exists_cons_of_ne_nil hblank
      rw [hback] at hskip
      cases hskip
      obtain ⟨g, hg, hdepth⟩ := depth_run hrun s.current List.mem_cons_self
      rw [hf, List.mem_singleton] at hg
      exact .of_bracket hback houter (hg ▸ hdepth)
    · have hstep : (s.within wrapper).next token = (s.next token).map (within wrapper) :=
        next_within fun htoken houter => hclose ⟨htoken, houter⟩
      rw [hstep] at hnext
      obtain ⟨s', hnext', rfl⟩ := Option.map_eq_some_iff.1 hnext
      have hkeeps : Keeps ['$'] _ _ := keeps_first s.current.mode cs
      cases hkeeps with
      | same hx hy =>
          cases hy.symm.trans hfirst
          exact Within.step hx hnext' (ih s' _ rfl rfl)
      | cut hy =>
          rw [run_of_first hfirst, hstep, hnext'] at hrun
          exact absurd hrun (run_anchor_ne hf (hy token rest hfirst))

def anchors : OpenGroup := (OpenGroup.new .default).push (.leaf (.look .textStart))

theorem run_anchored (fragment : List Char) :
    begin.run (anchored fragment) = (begin.within anchors).run (fragment ++ [')', '$']) := by
  rw [anchored, List.append_assoc, run_opening]
  rfl

theorem regex_of_run_close (houter : s.outer = [])
    (h : (s.within anchors).run [')', '$'] = some f) :
    f.current.value.value.regex.get =
      .concat [.look .textStart, s.current.value.value.regex.get, .look .textEnd] := by
  let part := s.current.value.around (Program.group s.current.captures)
  have hleave : (s.within anchors).next .closeGroup =
      some (⟨anchors.push part, [], s.names⟩ : Reading) := by
    simp only [next, leave, within, houter, List.nil_append, part]
  rw [run_bracket, hleave, Option.bind_some, run_anchor] at h
  cases h
  have hvalue := OpenGroup.value_pushAll_new .default
    [.leaf (.look .textStart), part, .leaf (.look .textEnd)]
  have hregex := congrArg (fun part : Nested Program => part.value.regex.get) hvalue
  refine hregex.trans ?_
  simp [part, Nested.leaf]

end Reading

theorem Reading.finish_eq_some_iff {s : Reading} {p : Program} :
    s.finish = some p ↔
      s.outer = [] ∧ s.current.value.depth ≤ maxDepth ∧ s.current.value.value = p := by
  simp [finish, and_assoc]

theorem Program.read?_eq_some_iff {text : List Char} {p : Program} :
    Program.read? text = some p ↔
      ∃ s, Reading.begin.run text = some s ∧ s.outer = [] ∧
        s.current.value.depth ≤ Reading.maxDepth ∧ s.current.value.value = p := by
  simp [Program.read?, Option.bind_eq_some_iff, Reading.finish_eq_some_iff]

theorem Regex.read?_eq_some_iff {text : List Char} {r : Regex} :
    Regex.read? text = some r ↔
      ∃ s, Reading.begin.run text = some s ∧ s.outer = [] ∧
        s.current.value.depth ≤ Reading.maxDepth ∧ s.current.value.value.regex.get = r := by
  simp [Regex.read?, Option.map_eq_some_iff, Program.read?_eq_some_iff, and_assoc]

/-- A matcher matches a path exactly if its fragment, which is a pattern by itself, matches all of
the path.  Only a fragment that is no pattern by itself can do otherwise: it holds a bracket that
closes the group between the anchors, behind a text that is a pattern. -/
theorem Matcher.anchored_or_closed (m : Matcher) :
    (∃ r, Regex.read? m.fragment.toList = some r ∧
      ∀ path : String, m.accepts path = true ↔ Matches r none path.toList none) ∨
    (Regex.read? m.fragment.toList = none ∧
      ∃ front back r, m.fragment.toList = front ++ ')' :: back ∧
        Regex.read? front = some r) := by
  obtain ⟨f, hrun, houter, hdepth, hprogram⟩ := Program.read?_eq_some_iff.1 m.read_fragment
  rw [Reading.run_anchored] at hrun
  cases Reading.within_of_run hrun houter with
  | @enclosed s hfragment hclosed hclose =>
      obtain ⟨g, hg, hle⟩ := Reading.depth_run hclose s.current List.mem_cons_self
      rw [houter, List.mem_singleton] at hg
      have hread : Regex.read? m.fragment.toList = some s.current.value.value.regex.get :=
        Regex.read?_eq_some_iff.2
          ⟨s, hfragment, hclosed, Nat.le_trans hle (hg ▸ hdepth), rfl⟩
      refine .inl ⟨_, hread, fun path => ?_⟩
      rw [Matcher.accepts, Matcher.regex, ← hprogram, Reading.regex_of_run_close hclosed hclose]
      exact occursIn_anchored_iff
  | @closed front back s hfragment hnone hfront hclosed hle =>
      refine .inr ⟨?_, front, back, s.current.value.value.regex.get, hfragment, ?_⟩
      · rw [Regex.read?, Program.read?, hnone, Option.bind_none, Option.map_none]
      · exact Regex.read?_eq_some_iff.2 ⟨s, hfront, hclosed, Nat.le_trans hle hdepth, rfl⟩

/-- What stands behind the bracket is not anchored to the beginning, and what stands in front of it
not to the end. -/
theorem Matcher.accepts_beyond_fragment :
    Regex.read? "a)|(?:b".toList = none ∧
      ∃ m : Matcher, m.fragment = "a)|(?:b" ∧ m.accepts "ax" = true := by
  have hnone : Reading.begin.run "a)|(?:b".toList = none := by
    have hfirst : Reading.begin.run "a)|(?:b".toList = _ := Reading.run_atom rfl rfl
    exact hfirst.trans (Reading.run_bracket _ _)
  let inside : Nested Program := .join .choice [.join .concat [.leaf (.atom (.single 'a'))]]
  let behind : Nested Program := .join .choice [.join .concat [.leaf (.atom (.single 'b'))]]
  let plain := Nested.around (Program.group false)
  let read : Reading := Reading.pushAll [plain behind, .leaf (.look .textEnd)]
    ⟨((OpenGroup.new .default).pushAll [.leaf (.look .textStart), plain inside]).nextBranch,
      [], []⟩
  have hrun : Reading.begin.run (anchored "a)|(?:b".toList) = some read := by
    rw [Reading.run_anchored]
    refine (Reading.run_atom rfl rfl).trans ?_
    refine (Reading.run_of_next? rfl rfl rfl).trans ?_
    refine (Reading.run_of_next? rfl rfl rfl).trans ?_
    refine (Reading.run_of_next? rfl rfl rfl).trans ?_
    refine (Reading.run_atom rfl rfl).trans ?_
    refine (Reading.run_of_next? rfl rfl rfl).trans ?_
    exact (Reading.run_anchor _).trans rfl
  have hread : Program.read? (anchored "a)|(?:b".toList) = some read.current.value.value :=
    Program.read?_eq_some_iff.2 ⟨read, hrun, rfl, by decide, rfl⟩
  refine ⟨by rw [Regex.read?, Program.read?, hnone]; rfl, ⟨"a)|(?:b", _, hread⟩, rfl, ?_⟩
  let first : Regex := .concat [.look .textStart, .concat [.atom (.single 'a')]]
  have hfirst : Matches first none ['a'] (some 'x') := by
    simp [first, matches_concat_iff, MatchesAll, Matches.look_iff, Matches.atom_iff, Look.holds]
  exact Regex.occursIn_iff.2 ⟨[], ['a'], ['x'], rfl,
    (matches_choice_iff (List.cons_ne_nil _ _)).2 ⟨_, List.mem_cons_self, hfirst⟩⟩

end RouteTable.Pattern
