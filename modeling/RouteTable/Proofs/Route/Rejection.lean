import RouteTable.Proofs.Route.Build
import RouteTable.Proofs.Route.Combination
import RouteTable.Proofs.Route.Table
/-!
# Rejected templates

A template without compiled form leaves the other templates alone, be they of its own
declaration.  To say which errors are those of the others, every error is given with its
origin (`RouteCompiler.rejections`): two combinations can have the same joined template.
Main statement: `build_insert_rejected`.
-/

namespace RouteTable

open RouteTable.Declaration

/-- The place of a declaration and one of its combinations. -/
structure Origin where
  place : Nat
  combination : Combination
  deriving DecidableEq, Repr

/-- Whether the origin is a combination with the template, in the declaration at the place. -/
def Origin.isFrom (o : Origin) (place : Nat) (level : TemplateLevel) (template : String) : Bool :=
  o.place = place && o.combination.template level = template

namespace RouteCompiler

variable (c : RouteCompiler)

def rejection? (place : Nat) (d : Declaration) (k : Combination) : Option (Origin × CompileError) :=
  match c.compileCombination d k with
  | .ok _ => none
  | .error e => some (⟨place, k⟩, e)

def rejectionsAt (place : Nat) (d : Declaration) : List (Origin × CompileError) :=
  if c.accepts d then d.combinations.filterMap (c.rejection? place d) else []

def rejectionsFrom (start : Nat) (ds : List Declaration) : List (Origin × CompileError) :=
  (ds.zipIdx start).flatMap fun (d, place) => c.rejectionsAt place d

def rejections (ds : List Declaration) : List (Origin × CompileError) := c.rejectionsFrom 0 ds

theorem rejectionsFrom_cons (start : Nat) (d : Declaration) (ds : List Declaration) :
    c.rejectionsFrom start (d :: ds) =
      c.rejectionsAt start d ++ c.rejectionsFrom (start + 1) ds := by
  rw [rejectionsFrom, List.zipIdx_cons, List.flatMap_cons, ← rejectionsFrom]

theorem rejectionsFrom_append (start : Nat) (ds es : List Declaration) :
    c.rejectionsFrom start (ds ++ es) =
      c.rejectionsFrom start ds ++ c.rejectionsFrom (start + ds.length) es := by
  rw [rejectionsFrom, List.zipIdx_append, List.flatMap_append, ← rejectionsFrom, ← rejectionsFrom]

theorem map_snd_rejectionsAt (place : Nat) (d : Declaration) :
    (c.rejectionsAt place d).map Prod.snd =
      errorsOf (if c.accepts d then c.compile d else []) := by
  unfold rejectionsAt
  split
  · rw [compile_eq_map_combinations, errorsOf, List.filterMap_map, List.map_filterMap]
    refine List.filterMap_congr fun k _ => ?_
    rw [Function.comp_apply, rejection?]
    cases c.compileCombination d k <;> rfl
  · rfl

theorem map_snd_rejectionsFrom (start : Nat) (ds : List Declaration) :
    (c.rejectionsFrom start ds).map Prod.snd = errorsOf (c.outcomes ds) := by
  induction ds generalizing start with
  | nil => rfl
  | cons d ds ih =>
      rw [rejectionsFrom_cons, List.map_append, ih, map_snd_rejectionsAt, c.outcomes_cons,
        errorsOf_append]

theorem map_snd_rejections (ds : List Declaration) :
    (c.rejections ds).map Prod.snd = (c.build ds).rejected := by
  rw [rejections, map_snd_rejectionsFrom, rejected_build]

theorem filter_rejectionsAt (place : Nat) (d : Declaration) (level : TemplateLevel) (x : String) :
    (c.rejectionsAt place d).filter (fun r => !r.1.isFrom place level x) =
      if c.accepts d then
        (d.combinations.filter (·.template level ≠ x)).filterMap (c.rejection? place d)
      else [] := by
  unfold rejectionsAt
  split
  · rw [List.filter_filterMap, List.filterMap_filter]
    refine List.filterMap_congr fun k _ => ?_
    rw [rejection?]
    cases c.compileCombination d k with
    | ok e => simp
    | error e => simp [Origin.isFrom, Option.filter_some]
  · rfl

end RouteCompiler

section

variable (d : Declaration) (level : TemplateLevel) {front back : List String} (x : String)

theorem filter_templatesOrRoot_insert (hne : front ++ back ≠ []) :
    (templatesOrRoot (front ++ x :: back)).filter (· ≠ x) =
      (templatesOrRoot (front ++ back)).filter (· ≠ x) := by
  have hne' : front ++ x :: back ≠ [] := by simp
  rw [templatesOrRoot_of_ne_nil hne', templatesOrRoot_of_ne_nil hne, filter_eraseDups,
    filter_eraseDups]
  simp

theorem filter_combinations_insert (hne : front ++ back ≠ []) :
    (d.withTemplates level (front ++ x :: back)).combinations.filter (·.template level ≠ x) =
      (d.withTemplates level (front ++ back)).combinations.filter (·.template level ≠ x) := by
  have hfilter := filter_templatesOrRoot_insert x hne
  cases level with
  | group =>
      calc _ = Combination.product ((templatesOrRoot (front ++ x :: back)).filter (· ≠ x)) _ _ :=
            Combination.filter_group_product (· ≠ x)
        _ = _ := by
            rw [hfilter]
            exact (Combination.filter_group_product (· ≠ x)).symm
  | route =>
      calc _ = Combination.product _ ((templatesOrRoot (front ++ x :: back)).filter (· ≠ x)) _ :=
            Combination.filter_route_product (· ≠ x)
        _ = _ := by
            rw [hfilter]
            exact (Combination.filter_route_product (· ≠ x)).symm

theorem mem_combinations_insert (hne : front ++ back ≠ []) {k : Combination}
    (hk : k ∈ (d.withTemplates level (front ++ back)).combinations) :
    k ∈ (d.withTemplates level (front ++ x :: back)).combinations := by
  have htemplates (template : String) (h : template ∈ templatesOrRoot (front ++ back)) :
      template ∈ templatesOrRoot (front ++ x :: back) := by
    have hne' : front ++ x :: back ≠ [] := by simp
    rw [templatesOrRoot_of_ne_nil hne, List.mem_eraseDups, List.mem_append] at h
    rw [templatesOrRoot_of_ne_nil hne', List.mem_eraseDups, List.mem_append, List.mem_cons]
    exact h.imp_right .inr
  obtain ⟨hgroup, hroute, hmethod⟩ := Combination.mem_product.1 hk
  refine Combination.mem_product.2 ?_
  cases level with
  | group => exact ⟨htemplates _ hgroup, hroute, hmethod⟩
  | route => exact ⟨hgroup, htemplates _ hroute, hmethod⟩

end

theorem entriesOf_map_filter {α : Type} {f : α → Except CompileError RouteEntry} {p : α → Bool}
    {xs : List α} (h : ∀ x ∈ xs, p x = false → ∃ error, f x = .error error) :
    entriesOf ((xs.filter p).map f) = entriesOf (xs.map f) := by
  induction xs with
  | nil => rfl
  | cons x xs ih =>
      have htail := ih fun y hy => h y (List.mem_cons_of_mem x hy)
      cases hx : p x with
      | true =>
          rw [List.filter_cons_of_pos hx, List.map_cons, List.map_cons]
          cases f x with
          | ok e => rw [entriesOf_cons_ok, entriesOf_cons_ok, htail]
          | error error => rw [entriesOf_cons_error, entriesOf_cons_error, htail]
      | false =>
          obtain ⟨error, herror⟩ := h x List.mem_cons_self hx
          rw [List.filter_cons_of_neg (by simp [hx]), List.map_cons, herror,
            entriesOf_cons_error, htail]

namespace RouteCompiler

variable {c : RouteCompiler} {d : Declaration} {level : TemplateLevel} {front back : List String}
  {x : String}

/-- All combinations with a template fail. -/
def Fails (c : RouteCompiler) (d : Declaration) (level : TemplateLevel) (template : String) :
    Prop :=
  ∀ k ∈ d.combinations, k.template level = template →
    ∃ error, c.compileTemplate k.rawTemplate = .error error

theorem Fails.entriesOf_compile (h : c.Fails d level x) :
    entriesOf (c.compile d) =
      entriesOf ((d.combinations.filter (·.template level ≠ x)).map (c.compileCombination d)) := by
  rw [compile_eq_map_combinations, entriesOf_map_filter]
  intro k hk hx
  obtain ⟨error, herror⟩ := h k hk (by simpa using hx)
  exact ⟨_, by rw [compileCombination, herror, outcome]⟩

theorem Fails.entriesOf_compile_insert (hne : front ++ back ≠ [])
    (h : c.Fails (d.withTemplates level (front ++ x :: back)) level x) :
    entriesOf (c.compile (d.withTemplates level (front ++ x :: back))) =
      entriesOf (c.compile (d.withTemplates level (front ++ back))) := by
  have hshort : c.Fails (d.withTemplates level (front ++ back)) level x :=
    fun k hk => h k (mem_combinations_insert d level x hne hk)
  have hcompile : c.compileCombination (d.withTemplates level (front ++ x :: back)) =
      c.compileCombination (d.withTemplates level (front ++ back)) := by
    cases level <;> rfl
  rw [h.entriesOf_compile, hshort.entriesOf_compile, filter_combinations_insert d level x hne,
    hcompile]

theorem accepts_withTemplates (c : RouteCompiler) (d : Declaration) (level : TemplateLevel)
    (templates : List String) : c.accepts (d.withTemplates level templates) = c.accepts d := by
  cases level <;> rfl

theorem Fails.entriesOf_outcomes_insert (hne : front ++ back ≠ [])
    (h : c.Fails (d.withTemplates level (front ++ x :: back)) level x)
    (before after : List Declaration) :
    entriesOf (c.outcomes (before ++ d.withTemplates level (front ++ x :: back) :: after)) =
      entriesOf (c.outcomes (before ++ d.withTemplates level (front ++ back) :: after)) := by
  have hone : entriesOf (if c.accepts d then
        c.compile (d.withTemplates level (front ++ x :: back)) else []) =
      entriesOf (if c.accepts d then
        c.compile (d.withTemplates level (front ++ back)) else []) := by
    split
    · exact h.entriesOf_compile_insert hne
    · rfl
  simp only [outcomes_append, outcomes_cons, entriesOf_append, accepts_withTemplates, hone]

/-- The errors that are not from the new template are those that there were without it. -/
theorem filter_rejections_insert (c : RouteCompiler) (d : Declaration) (level : TemplateLevel)
    (hne : front ++ back ≠ []) (x : String) (before after : List Declaration) :
    (c.rejections (before ++ d.withTemplates level (front ++ x :: back) :: after)).filter
        (fun r => !r.1.isFrom before.length level x) =
      (c.rejections (before ++ d.withTemplates level (front ++ back) :: after)).filter
        (fun r => !r.1.isFrom before.length level x) := by
  have hrejection : c.rejection? before.length (d.withTemplates level (front ++ x :: back)) =
      c.rejection? before.length (d.withTemplates level (front ++ back)) := by
    cases level <;> rfl
  simp only [rejections, rejectionsFrom_append, rejectionsFrom_cons, List.filter_append,
    Nat.zero_add, filter_rejectionsAt, accepts_withTemplates,
    filter_combinations_insert d level x hne, hrejection]

end RouteCompiler

/-- A build with one more template, of which no combination has a compiled form, has the
same table and counts the same entries as without it.  All errors that are not from this
template are there too, in the same order. -/
theorem build_insert_rejected (c : RouteCompiler) (before after : List Declaration)
    (d : Declaration) (level : TemplateLevel) {front back : List String} {x : String}
    (hne : front ++ back ≠ [])
    (hfails : c.Fails (d.withTemplates level (front ++ x :: back)) level x) :
    let short := before ++ d.withTemplates level (front ++ back) :: after
    let long := before ++ d.withTemplates level (front ++ x :: back) :: after
    (c.build long).table = (c.build short).table ∧
    (c.build long).compiledCount = (c.build short).compiledCount ∧
    (c.build long).duplicateCount = (c.build short).duplicateCount ∧
    (c.build long).tableSize = (c.build short).tableSize ∧
    (c.rejections long).map Prod.snd = (c.build long).rejected ∧
    (c.rejections short).map Prod.snd = (c.build short).rejected ∧
    (c.rejections long).filter (fun r => !r.1.isFrom before.length level x) =
      (c.rejections short).filter (fun r => !r.1.isFrom before.length level x) := by
  intro short long
  have hentries : entriesOf (c.outcomes long) = entriesOf (c.outcomes short) :=
    hfails.entriesOf_outcomes_insert hne before after
  have htable : (c.build long).table = (c.build short).table := by
    apply RoutingTable.eq_of_entries_eq
    rw [entries_build, entries_build, hentries]
  have hsize : (c.build long).table.size = (c.build short).table.size := congrArg _ htable
  refine ⟨htable, ?_, ?_, congrArg some hsize, c.map_snd_rejections long,
    c.map_snd_rejections short, c.filter_rejections_insert d level hne x before after⟩
  · rw [compiledCount_build, compiledCount_build, hsize]
  · have hlong := duplicateCount_build c long
    have hshort := duplicateCount_build c short
    rw [hentries] at hlong
    omega

def groupRoutes (templates : List String) : Declaration where
  groupTemplates := ["/g"]
  routeTemplates := templates
  methods := [.get]

theorem rejected_build_groupRoutes :
    (RouteCompiler.plain.build [groupRoutes ["/\x7b", "/a"]]).rejected =
      [⟨"", "/g/\x7b", .get, .malformed "/g/\x7b" ⟨.unclosedVariable, 3⟩⟩] := by
  have hbrace : RouteCompiler.plain.compileTemplate "/g/\x7b" =
      .error (.malformed "/g/\x7b" ⟨.unclosedVariable, 3⟩) := by
    decide +kernel
  obtain ⟨matcher, ha⟩ : ∃ matcher,
      RouteCompiler.plain.compileTemplate "/g/a" = .ok ("/g/a", matcher) :=
    RouteCompiler.exists_compileTemplate (by decide +kernel)
      (show Wildcard.fragment "/g/a" = .ok "/?g/a/?" by decide +kernel) (by decide)
  have hexpand : (groupRoutes ["/\x7b", "/a"]).expand = [("/g/\x7b", .get), ("/g/a", .get)] := by
    decide
  rw [rejected_build, RouteCompiler.outcomes_cons, if_pos (RouteCompiler.accepts_plain _),
    RouteCompiler.outcomes_nil, RouteCompiler.compile_eq_map, hexpand]
  simp only [List.map_cons, List.map_nil, hbrace, ha]
  rfl

/-- An open brace comes between two templates.  The first one has the same joined template,
and its error stays. -/
theorem build_insert_openBrace :
    RouteCompiler.plain.Fails (groupRoutes ["/\x7b", "\x7b", "/a"]) .route "\x7b" ∧
    (RouteCompiler.plain.build [groupRoutes ["/\x7b", "\x7b", "/a"]]).table =
      (RouteCompiler.plain.build [groupRoutes ["/\x7b", "/a"]]).table ∧
    (RouteCompiler.plain.rejections [groupRoutes ["/\x7b", "\x7b", "/a"]]).filter
        (fun r => !r.1.isFrom 0 .route "\x7b") =
      (RouteCompiler.plain.rejections [groupRoutes ["/\x7b", "/a"]]).filter
        (fun r => !r.1.isFrom 0 .route "\x7b") ∧
    (RouteCompiler.plain.build [groupRoutes ["/\x7b", "/a"]]).rejected =
      [⟨"", "/g/\x7b", .get, .malformed "/g/\x7b" ⟨.unclosedVariable, 3⟩⟩] := by
  have hne : ["/\x7b"] ++ ["/a"] ≠ [] := by decide
  have hfails : RouteCompiler.plain.Fails
      ((groupRoutes []).withTemplates .route (["/\x7b"] ++ "\x7b" :: ["/a"])) .route "\x7b" := by
    intro k hk hx
    obtain rfl : k = ⟨"/g", "\x7b", .get⟩ := by
      revert k
      decide
    refine ⟨.malformed "/g/\x7b" ⟨.unclosedVariable, 3⟩, ?_⟩
    decide +kernel
  obtain ⟨htable, -, -, -, -, -, hrejections⟩ :=
    build_insert_rejected RouteCompiler.plain [] [] (groupRoutes []) .route hne hfails
  exact ⟨hfails, htable, hrejections, rejected_build_groupRoutes⟩

end RouteTable
