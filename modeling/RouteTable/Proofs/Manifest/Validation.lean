import Mathlib.Data.List.Forall2
import Mathlib.Data.List.Nodup
import Mathlib.Data.List.Sort
import RouteTable.Manifest.Validation
import RouteTable.Proofs.Manifest.Place
import RouteTable.Proofs.Route.Scope
/-!
# Reports on a manifest

`HasProblem` says, place by place, what is wrong with a manifest.  The report has exactly these
problems (`mem_errors_iff`), in the order of their places (`inOrder_errors`), and a list is
determined by these two facts.  So a text that is put right at one place takes the problem of
that place out of the report and nothing else: `errors_put`.  Main statement:
`errors_are_problems`.
-/

namespace RouteTable

open RouteTable.Manifest

def ValidationError.place : ValidationError → Place
  | invalidBaseScope index _ => .baseScope index
  | invalidScope group _ => .scope group
  | emptyGroup group => .routes group
  | groupTemplate group index _ => .groupPath group index
  | routeTemplate group route index _ => .routePath group route index
  | invalidLogLevel _ => .logLevel

namespace Manifest

/-! ## Problems -/

def NamesLogLevel (level : String) : Prop :=
  ∃ known ∈ logLevels,
    List.Forall₂ (fun c d => c.toLower = d.toLower) level.toList known.toList

/-- Whether a text can stand at a place without a problem.  None stands for missing routes. -/
def Place.Accepts (p : Place) (text : String) : Prop :=
  match p with
  | .baseScope _ => Scope.IsDotted text
  | .scope _ => text = "" ∨ Scope.IsDotted text
  | .routes _ => False
  | .groupPath _ _ | .routePath _ _ _ => Template.check text = .ok ()
  | .logLevel => NamesLogLevel text

/-- What is wrong with a manifest, place by place. -/
inductive HasProblem (m : Manifest) : ValidationError → Prop where
  | baseScope {index : Nat} {scope : String} (hscope : m.text? (.baseScope index) = some scope)
      (hnot : ¬ Scope.IsDotted scope) : HasProblem m (.invalidBaseScope index scope)
  | scope {group : Nat} {scope : String} (hscope : m.text? (.scope group) = some scope)
      (hne : scope ≠ "") (hnot : ¬ Scope.IsDotted scope) :
      HasProblem m (.invalidScope group scope)
  | noRoutes {index : Nat} {group : Group} (hgroup : m.groups[index]? = some group)
      (hnone : group.routes = []) : HasProblem m (.emptyGroup index)
  | groupPath {group index : Nat} {path : String} {source : TemplateError}
      (hpath : m.text? (.groupPath group index) = some path)
      (hcheck : Template.check path = .error source) :
      HasProblem m (.groupTemplate group index source)
  | routePath {group route index : Nat} {path : String} {source : TemplateError}
      (hpath : m.text? (.routePath group route index) = some path)
      (hcheck : Template.check path = .error source) :
      HasProblem m (.routeTemplate group route index source)
  | logLevel {level : String} (hlevel : m.text? .logLevel = some level)
      (hnot : ¬ NamesLogLevel level) : HasProblem m (.invalidLogLevel level)

theorem forall₂_toLower_iff {xs ys : List Char} :
    List.Forall₂ (fun c d => c.toLower = d.toLower) xs ys ↔
      xs.map Char.toLower = ys.map Char.toLower := by
  simp only [← List.forall₂_eq_eq_eq, List.forall₂_map_left_iff, List.forall₂_map_right_iff]

theorem isLogLevel_iff {level : String} : isLogLevel level = true ↔ NamesLogLevel level := by
  have hsmall : ∀ known ∈ logLevels, known.toList.map Char.toLower = known.toList := by
    simp only [logLevels, List.forall_mem_cons]
    decide
  rw [isLogLevel, List.contains_iff_mem, NamesLogLevel]
  constructor
  · intro h
    refine ⟨_, h, forall₂_toLower_iff.2 ?_⟩
    rw [hsmall _ h, String.toList_ofList]
  · rintro ⟨known, hknown, hsame⟩
    rw [forall₂_toLower_iff.1 hsame, hsmall known hknown, String.ofList_toList]
    exact hknown

/-! ## Order -/

/-- A report that comes to each place once at most, and to the places in their order. -/
def InOrder (es : List ValidationError) : Prop :=
  es.Pairwise (·.place < ·.place)

theorem InOrder.nodup {es : List ValidationError} (h : InOrder es) : es.Nodup :=
  h.imp fun hlt heq => (heq ▸ hlt).false

theorem InOrder.place_inj {es : List ValidationError} (h : InOrder es) {e f : ValidationError}
    (he : e ∈ es) (hf : f ∈ es) : e.place = f.place ↔ e = f := by
  have hplaces : (es.map ValidationError.place).Nodup :=
    List.pairwise_map.2 (h.imp fun hlt => hlt.ne)
  exact ⟨List.inj_on_of_nodup_map hplaces he hf, congrArg ValidationError.place⟩

theorem InOrder.eq_of_mem_iff {es fs : List ValidationError} (hes : InOrder es)
    (hfs : InOrder fs) (h : ∀ e, e ∈ es ↔ e ∈ fs) : es = fs := by
  have hirrefl : Std.Irrefl fun e f : ValidationError => e.place < f.place :=
    ⟨fun e => lt_irrefl e.place⟩
  have hantisymm : Std.Antisymm fun e f : ValidationError => e.place < f.place :=
    ⟨fun _ _ hlt hgt => (hlt.asymm hgt).elim⟩
  exact List.Pairwise.eq_of_mem_iff hes hfs h

theorem inOrder_singleton (e : ValidationError) : InOrder [e] :=
  List.pairwise_singleton _ e

/-- Sections are in order if each is, and if the number of a section stands at one and the same
position in the ranks of its places. -/
theorem inOrder_flatten {sections : List (List ValidationError)} (front : List Nat)
    (hrank : ∀ i es, sections[i]? = some es → ∀ e ∈ es, front ++ [i] <+: e.place.rank)
    (hsections : ∀ es ∈ sections, InOrder es) : InOrder sections.flatten := by
  refine List.pairwise_flatten.2 ⟨hsections, List.pairwise_iff_getElem.2 ?_⟩
  intro i j hi hj hlt e he f hf
  exact Place.lt_of_prefix front (hrank i _ (List.getElem?_eq_getElem hi) e he)
    (hrank j _ (List.getElem?_eq_getElem hj) f hf) hlt

theorem inOrder_flatMap_zipIdx {α : Type} {xs : List α} {f : α × Nat → List ValidationError}
    (front : List Nat) (hrank : ∀ x i, ∀ e ∈ f (x, i), front ++ [i] <+: e.place.rank)
    (hsections : ∀ x i, InOrder (f (x, i))) : InOrder (xs.zipIdx.flatMap f) := by
  rw [List.flatMap_def]
  refine inOrder_flatten front ?_ ?_
  · intro i es hes e he
    simp only [List.getElem?_map, List.getElem?_zipIdx, Option.map_eq_some_iff, Nat.zero_add] at hes
    obtain ⟨_, ⟨x, -, rfl⟩, rfl⟩ := hes
    exact hrank x i e he
  · intro es hes
    obtain ⟨⟨x, i⟩, -, rfl⟩ := List.mem_map.1 hes
    exact hsections x i

/-! ## Lists of texts -/

theorem pairwise_zipIdx {α : Type} (xs : List α) :
    xs.zipIdx.Pairwise fun x y => x.2 < y.2 := by
  apply List.pairwise_map.1
  rw [List.zipIdx_map_snd]
  exact List.pairwise_lt_range' 1

theorem mem_baseScopeErrors {scopes : List String} {e : ValidationError} :
    e ∈ baseScopeErrors scopes ↔
      ∃ index scope, scopes[index]? = some scope ∧ ¬ Scope.IsDotted scope ∧
        e = .invalidBaseScope index scope := by
  simp only [baseScopeErrors, List.mem_filterMap, Prod.exists, List.mem_zipIdx_iff_getElem?,
    ← Scope.isWellFormed_iff]
  constructor
  · rintro ⟨scope, index, hscope, h⟩
    split at h
    · cases h
    · rename_i hnot
      cases h
      exact ⟨index, scope, hscope, hnot, rfl⟩
  · rintro ⟨index, scope, hscope, hnot, rfl⟩
    exact ⟨scope, index, hscope, if_neg hnot⟩

theorem inOrder_baseScopeErrors (scopes : List String) : InOrder (baseScopeErrors scopes) := by
  refine (pairwise_zipIdx scopes).filterMap _ ?_
  rintro ⟨x, i⟩ ⟨y, j⟩ hlt e he f hf
  dsimp only at he hf hlt
  split at he <;> cases he
  split at hf <;> cases hf
  exact Place.lt_of_prefix [0] (List.prefix_refl [0, i]) (List.prefix_refl [0, j]) hlt

theorem mem_templateErrors {templates : List String} {index : Nat} {source : TemplateError} :
    (index, source) ∈ templateErrors templates ↔
      ∃ template, templates[index]? = some template ∧
        Template.check template = .error source := by
  simp only [templateErrors, List.mem_filterMap, Prod.exists, List.mem_zipIdx_iff_getElem?]
  constructor
  · rintro ⟨template, i, htemplate, h⟩
    split at h
    · cases h
    · rename_i hcheck
      cases h
      exact ⟨template, htemplate, hcheck⟩
  · rintro ⟨template, htemplate, hcheck⟩
    exact ⟨template, index, htemplate, by simp [hcheck]⟩

theorem pairwise_templateErrors (templates : List String) :
    (templateErrors templates).Pairwise fun p q => p.1 < q.1 := by
  refine (pairwise_zipIdx templates).filterMap _ ?_
  rintro ⟨x, i⟩ ⟨y, j⟩ hlt p hp q hq
  dsimp only at hp hq hlt
  split at hp <;> cases hp
  split at hq <;> cases hq
  exact hlt

section TemplateErrors

variable {templates : List String} {f : Nat × TemplateError → ValidationError}

theorem mem_map_templateErrors {e : ValidationError} :
    e ∈ (templateErrors templates).map f ↔
      ∃ index template source, templates[index]? = some template ∧
        Template.check template = .error source ∧ e = f (index, source) := by
  simp only [List.mem_map, Prod.exists, mem_templateErrors]
  constructor
  · rintro ⟨index, source, ⟨template, htemplate, hcheck⟩, rfl⟩
    exact ⟨index, template, source, htemplate, hcheck, rfl⟩
  · rintro ⟨index, template, source, htemplate, hcheck, rfl⟩
    exact ⟨index, source, ⟨template, htemplate, hcheck⟩, rfl⟩

theorem inOrder_map_templateErrors (front : List Nat)
    (hrank : ∀ p, front ++ [p.1] <+: (f p).place.rank) :
    InOrder ((templateErrors templates).map f) :=
  List.pairwise_map.2 <| (pairwise_templateErrors templates).imp fun hlt =>
    Place.lt_of_prefix front (hrank _) (hrank _) hlt

end TemplateErrors

/-! ## The report on a group -/

namespace Group

variable {index : Nat} {group : Group} {e : ValidationError}

def scopeErrors (index : Nat) (group : Group) : List ValidationError :=
  if group.scope = "" ∨ Scope.isWellFormed group.scope then []
  else [.invalidScope index group.scope]

def routesErrors (index : Nat) (group : Group) : List ValidationError :=
  if group.routes = [] then [.emptyGroup index] else []

def groupPathErrors (index : Nat) (group : Group) : List ValidationError :=
  (templateErrors group.paths).map fun (path, source) => .groupTemplate index path source

def routePathErrors (index : Nat) (group : Group) : List ValidationError :=
  group.routes.zipIdx.flatMap fun (route, position) => route.errors index position

theorem errors_eq_flatten (index : Nat) (group : Group) :
    group.errors index = [group.scopeErrors index, group.routesErrors index,
      group.groupPathErrors index, group.routePathErrors index].flatten := by
  simp [errors, scopeErrors, routesErrors, groupPathErrors, routePathErrors]

theorem mem_errors : e ∈ group.errors index ↔
    e ∈ group.scopeErrors index ∨ e ∈ group.routesErrors index ∨
      e ∈ group.groupPathErrors index ∨ e ∈ group.routePathErrors index := by
  simp [errors_eq_flatten]

theorem mem_scopeErrors : e ∈ group.scopeErrors index ↔
    group.scope ≠ "" ∧ ¬ Scope.IsDotted group.scope ∧ e = .invalidScope index group.scope := by
  rw [← Scope.isWellFormed_iff]
  by_cases hne : group.scope = "" <;> by_cases hscope : Scope.isWellFormed group.scope <;>
    simp [scopeErrors, hne, hscope]

theorem mem_routesErrors :
    e ∈ group.routesErrors index ↔ group.routes = [] ∧ e = .emptyGroup index := by
  by_cases h : group.routes = [] <;> simp [routesErrors, h]

theorem mem_groupPathErrors : e ∈ group.groupPathErrors index ↔
    ∃ i path source, group.paths[i]? = some path ∧ Template.check path = .error source ∧
      e = .groupTemplate index i source :=
  mem_map_templateErrors

theorem mem_routePathErrors : e ∈ group.routePathErrors index ↔
    ∃ r route, group.routes[r]? = some route ∧
      ∃ i path source, route.paths[i]? = some path ∧ Template.check path = .error source ∧
        e = .routeTemplate index r i source := by
  simp only [routePathErrors, Route.errors, mem_map_templateErrors, List.mem_flatMap, Prod.exists,
    List.mem_zipIdx_iff_getElem?]
  exact exists_comm

theorem inOrder_scopeErrors : InOrder (group.scopeErrors index) := by
  rw [scopeErrors]
  split
  · exact .nil
  · exact inOrder_singleton _

theorem inOrder_routesErrors : InOrder (group.routesErrors index) := by
  rw [routesErrors]
  split
  · exact inOrder_singleton _
  · exact .nil

theorem inOrder_groupPathErrors : InOrder (group.groupPathErrors index) :=
  inOrder_map_templateErrors [1, index, 2] fun _ => List.prefix_refl _

theorem inOrder_routePathErrors : InOrder (group.routePathErrors index) := by
  refine inOrder_flatMap_zipIdx [1, index, 3] (fun route r e he => ?_) fun route r =>
    inOrder_map_templateErrors [1, index, 3, r] fun _ => List.prefix_refl _
  obtain ⟨i, _, _, -, -, rfl⟩ := mem_map_templateErrors.1 he
  exact ⟨[i], rfl⟩

theorem prefix_rank_of_mem_section {i : Nat} {es : List ValidationError}
    (hes : [group.scopeErrors index, group.routesErrors index, group.groupPathErrors index,
      group.routePathErrors index][i]? = some es) (he : e ∈ es) :
    [1, index, i] <+: e.place.rank := by
  match i, hes with
  | 0, rfl =>
      obtain ⟨-, -, rfl⟩ := mem_scopeErrors.1 he
      exact ⟨[], rfl⟩
  | 1, rfl =>
      obtain ⟨-, rfl⟩ := mem_routesErrors.1 he
      exact ⟨[], rfl⟩
  | 2, rfl =>
      obtain ⟨j, _, _, -, -, rfl⟩ := mem_groupPathErrors.1 he
      exact ⟨[j], rfl⟩
  | 3, rfl =>
      obtain ⟨r, _, -, j, _, _, -, -, rfl⟩ := mem_routePathErrors.1 he
      exact ⟨[r, j], rfl⟩

theorem prefix_rank_of_mem_errors (he : e ∈ group.errors index) :
    [1, index] <+: e.place.rank := by
  rw [errors_eq_flatten] at he
  obtain ⟨es, hes, he⟩ := List.mem_flatten.1 he
  obtain ⟨i, hi⟩ := List.mem_iff_getElem?.1 hes
  exact (List.prefix_append [1, index] [i]).trans (prefix_rank_of_mem_section hi he)

theorem inOrder_errors (index : Nat) (group : Group) : InOrder (group.errors index) := by
  rw [errors_eq_flatten]
  refine inOrder_flatten [1, index] (fun i es hes e he => prefix_rank_of_mem_section hes he) ?_
  simp [inOrder_scopeErrors, inOrder_routesErrors, inOrder_groupPathErrors,
    inOrder_routePathErrors]

end Group

/-! ## The whole report -/

variable {m : Manifest} {e : ValidationError}

def groupErrors (m : Manifest) : List ValidationError :=
  m.groups.zipIdx.flatMap fun (group, index) => group.errors index

theorem errors_eq_flatten (m : Manifest) :
    m.errors = [baseScopeErrors m.scopes, m.groupErrors,
      logLevelErrors m.observability.logLevel].flatten := by
  simp [errors, groupErrors]

theorem mem_groupErrors : e ∈ m.groupErrors ↔
    ∃ index group, m.groups[index]? = some group ∧ e ∈ Group.errors index group := by
  simp only [groupErrors, List.mem_flatMap, Prod.exists, List.mem_zipIdx_iff_getElem?]
  exact exists_comm

theorem mem_logLevelErrors {level : String} :
    e ∈ logLevelErrors level ↔ ¬ NamesLogLevel level ∧ e = .invalidLogLevel level := by
  rw [← isLogLevel_iff]
  cases h : isLogLevel level <;> simp [logLevelErrors, h]

theorem inOrder_logLevelErrors (level : String) : InOrder (logLevelErrors level) := by
  rw [logLevelErrors]
  split
  · exact .nil
  · exact inOrder_singleton _

theorem inOrder_groupErrors (m : Manifest) : InOrder m.groupErrors :=
  inOrder_flatMap_zipIdx [1] (fun _ _ _ => Group.prefix_rank_of_mem_errors)
    fun group index => group.inOrder_errors index

theorem inOrder_errors (m : Manifest) : InOrder m.errors := by
  rw [errors_eq_flatten]
  refine inOrder_flatten [] (fun i es hes e he => ?_) ?_
  · match i, hes with
    | 0, rfl =>
        obtain ⟨index, _, -, -, rfl⟩ := mem_baseScopeErrors.1 he
        exact ⟨[index], rfl⟩
    | 1, rfl =>
        obtain ⟨index, _, -, he⟩ := mem_groupErrors.1 he
        exact (List.prefix_append [1] [index]).trans (Group.prefix_rank_of_mem_errors he)
    | 2, rfl =>
        obtain ⟨-, rfl⟩ := mem_logLevelErrors.1 he
        exact ⟨[], rfl⟩
  · simp [inOrder_baseScopeErrors, inOrder_groupErrors, inOrder_logLevelErrors]

theorem mem_errors : e ∈ m.errors ↔ e ∈ baseScopeErrors m.scopes ∨ e ∈ m.groupErrors ∨
    e ∈ logLevelErrors m.observability.logLevel := by
  simp [errors_eq_flatten]

theorem HasProblem.of_mem_group {index : Nat} {group : Group}
    (hgroup : m.groups[index]? = some group) (he : e ∈ group.errors index) : m.HasProblem e := by
  rcases Group.mem_errors.1 he with he | he | he | he
  · obtain ⟨hne, hnot, rfl⟩ := Group.mem_scopeErrors.1 he
    exact .scope (by rw [text?, hgroup, Option.map_some]) hne hnot
  · obtain ⟨hnone, rfl⟩ := Group.mem_routesErrors.1 he
    exact .noRoutes hgroup hnone
  · obtain ⟨i, path, source, hpath, hcheck, rfl⟩ := Group.mem_groupPathErrors.1 he
    exact .groupPath (by rw [text?, hgroup, Option.bind_some, hpath]) hcheck
  · obtain ⟨r, route, hroute, i, path, source, hpath, hcheck, rfl⟩ :=
      Group.mem_routePathErrors.1 he
    exact .routePath (by rw [text?, hgroup, Option.bind_some, hroute, Option.bind_some, hpath])
      hcheck

theorem HasProblem.of_mem_errors (he : e ∈ m.errors) : m.HasProblem e := by
  rcases mem_errors.1 he with he | he | he
  · obtain ⟨index, scope, hscope, hnot, rfl⟩ := mem_baseScopeErrors.1 he
    exact .baseScope hscope hnot
  · obtain ⟨index, group, hgroup, he⟩ := mem_groupErrors.1 he
    exact .of_mem_group hgroup he
  · obtain ⟨hnot, rfl⟩ := mem_logLevelErrors.1 he
    exact .logLevel rfl hnot

theorem HasProblem.mem_errors (h : m.HasProblem e) : e ∈ m.errors := by
  have hmem {index : Nat} {group : Group} (hgroup : m.groups[index]? = some group)
      (he : e ∈ group.errors index) : e ∈ m.errors :=
    Manifest.mem_errors.2 (.inr (.inl (mem_groupErrors.2 ⟨index, group, hgroup, he⟩)))
  cases h with
  | baseScope hscope hnot =>
      exact Manifest.mem_errors.2 (.inl (mem_baseScopeErrors.2 ⟨_, _, hscope, hnot, rfl⟩))
  | scope hscope hne hnot =>
      obtain ⟨group, hgroup, rfl⟩ := Option.map_eq_some_iff.1 hscope
      exact hmem hgroup (Group.mem_errors.2 (.inl (Group.mem_scopeErrors.2 ⟨hne, hnot, rfl⟩)))
  | noRoutes hgroup hnone =>
      exact hmem hgroup
        (Group.mem_errors.2 (.inr (.inl (Group.mem_routesErrors.2 ⟨hnone, rfl⟩))))
  | groupPath hpath hcheck =>
      obtain ⟨group, hgroup, hpath⟩ := Option.bind_eq_some_iff.1 hpath
      refine hmem hgroup (Group.mem_errors.2 (.inr (.inr (.inl ?_))))
      exact Group.mem_groupPathErrors.2 ⟨_, _, _, hpath, hcheck, rfl⟩
  | routePath hpath hcheck =>
      obtain ⟨group, hgroup, hpath⟩ := Option.bind_eq_some_iff.1 hpath
      obtain ⟨route, hroute, hpath⟩ := Option.bind_eq_some_iff.1 hpath
      refine hmem hgroup (Group.mem_errors.2 (.inr (.inr (.inr ?_))))
      exact Group.mem_routePathErrors.2 ⟨_, _, hroute, _, _, _, hpath, hcheck, rfl⟩
  | logLevel hlevel hnot =>
      cases hlevel
      exact Manifest.mem_errors.2 (.inr (.inr (mem_logLevelErrors.2 ⟨hnot, rfl⟩)))

theorem mem_errors_iff : e ∈ m.errors ↔ m.HasProblem e :=
  ⟨HasProblem.of_mem_errors, HasProblem.mem_errors⟩

/-! ## Repairs -/

namespace HasProblem

/-- Problems of a place come from its text and from the groups without routes. -/
theorem of_agree {m' : Manifest} (h : m.HasProblem e)
    (htext : m'.text? e.place = m.text? e.place)
    (hroutes : ∀ index : Nat, m'.groups[index]?.map (·.routes.isEmpty) =
      m.groups[index]?.map (·.routes.isEmpty)) : m'.HasProblem e := by
  cases h with
  | baseScope hscope hnot => exact .baseScope (htext.trans hscope) hnot
  | scope hscope hne hnot => exact .scope (htext.trans hscope) hne hnot
  | @noRoutes index group hgroup hnone =>
      have hempty : m'.groups[index]?.map (·.routes.isEmpty) = some true := by
        rw [hroutes, hgroup, Option.map_some, hnone, List.isEmpty_nil]
      obtain ⟨group', hgroup', hnone'⟩ := Option.map_eq_some_iff.1 hempty
      exact .noRoutes hgroup' (List.isEmpty_iff.1 hnone')
  | groupPath hpath hcheck => exact .groupPath (htext.trans hpath) hcheck
  | routePath hpath hcheck => exact .routePath (htext.trans hpath) hcheck
  | logLevel hlevel hnot => exact .logLevel (htext.trans hlevel) hnot

theorem exists_text (h : m.HasProblem e) {text : String} (haccepts : e.place.Accepts text) :
    ∃ faulty, m.text? e.place = some faulty ∧ ¬ e.place.Accepts faulty := by
  cases h with
  | baseScope hscope hnot => exact ⟨_, hscope, hnot⟩
  | scope hscope hne hnot => exact ⟨_, hscope, not_or.2 ⟨hne, hnot⟩⟩
  | noRoutes => exact haccepts.elim
  | groupPath hpath hcheck => exact ⟨_, hpath, fun hok => nomatch hcheck.symm.trans hok⟩
  | routePath hpath hcheck => exact ⟨_, hpath, fun hok => nomatch hcheck.symm.trans hok⟩
  | logLevel hlevel hnot => exact ⟨_, hlevel, hnot⟩

end HasProblem

theorem hasProblem_put_iff {text : String} {p : Place} (h : p.Accepts text) :
    (m.put text p).HasProblem e ↔ m.HasProblem e ∧ e.place ≠ p := by
  by_cases hplace : e.place = p
  · subst hplace
    refine iff_of_false (fun hproblem => ?_) (fun hproblem => hproblem.2 rfl)
    obtain ⟨faulty, hfaulty, hnot⟩ := hproblem.exists_text h
    rw [text?_put_self, Option.map_eq_some_iff] at hfaulty
    obtain ⟨_, -, rfl⟩ := hfaulty
    exact hnot h
  · have htext := text?_put_of_ne m text hplace
    have hroutes := isEmpty_routes_put m text p
    constructor
    · intro hproblem
      exact ⟨hproblem.of_agree htext.symm fun index => (hroutes index).symm, hplace⟩
    · intro hproblem
      exact hproblem.1.of_agree htext hroutes

theorem errors_put {text : String} {p : Place} (h : p.Accepts text) :
    (m.put text p).errors = m.errors.filter (·.place ≠ p) := by
  refine (inOrder_errors _).eq_of_mem_iff ((inOrder_errors m).filter _) fun e => ?_
  rw [List.mem_filter, mem_errors_iff, mem_errors_iff, hasProblem_put_iff h, decide_eq_true_iff]

/-- The report on a manifest has each of its problems once, at its own place, and nothing else, in
the order of the places.  Putting right what stands at the place of a problem takes this problem
out of the report. -/
theorem errors_are_problems (m : Manifest) :
    (∀ e, e ∈ m.errors ↔ m.HasProblem e) ∧ m.errors.Nodup ∧ InOrder m.errors ∧
    ∀ e ∈ m.errors, ∀ text, e.place.Accepts text →
      (m.put text e.place).errors = m.errors.erase e := by
  refine ⟨fun e => mem_errors_iff, (inOrder_errors m).nodup, inOrder_errors m, ?_⟩
  intro e he text haccepts
  rw [errors_put haccepts, (inOrder_errors m).nodup.erase_eq_filter]
  refine List.filter_congr fun f hf => ?_
  have hinj : f.place = e.place ↔ f = e := (inOrder_errors m).place_inj hf he
  rw [decide_not, decide_eq_decide.2 hinj]
  rfl

def faultyManifest : Manifest where
  scopes := ["app..web"]
  groups := [
    { scope := "bad scope"
      paths := ["/home/\x7b"]
      routes := [{ paths := ["/ok", "/$\x7bunclosed"] }] },
    {}]
  observability := { logLevel := "loud" }

theorem errors_faultyManifest : faultyManifest.errors =
    [.invalidBaseScope 0 "app..web", .invalidScope 0 "bad scope",
      .groupTemplate 0 0 (.malformed "/home/\x7b" ⟨.unclosedVariable, 6⟩),
      .routeTemplate 0 0 1 (.malformed "/$\x7bunclosed" ⟨.unclosedPlaceholder, 1⟩),
      .emptyGroup 1, .invalidLogLevel "loud"] := by
  decide +kernel

/-- The second path of the first route is put right, and the problems behind it move up. -/
theorem errors_are_problems_faulty :
    (faultyManifest.put "/$\x7bclosed\x7d" (.routePath 0 0 1)).errors =
      [.invalidBaseScope 0 "app..web", .invalidScope 0 "bad scope",
        .groupTemplate 0 0 (.malformed "/home/\x7b" ⟨.unclosedVariable, 6⟩),
        .emptyGroup 1, .invalidLogLevel "loud"] := by
  obtain ⟨hproblems, -, -, hput⟩ := errors_are_problems faultyManifest
  have hcheck : Template.check "/$\x7bunclosed" =
      .error (.malformed "/$\x7bunclosed" ⟨.unclosedPlaceholder, 1⟩) := by
    decide +kernel
  have haccepts : Template.check "/$\x7bclosed\x7d" = .ok () := by
    decide +kernel
  have hmem : .routeTemplate 0 0 1 (.malformed "/$\x7bunclosed" ⟨.unclosedPlaceholder, 1⟩) ∈
      faultyManifest.errors := (hproblems _).2 (.routePath rfl hcheck)
  refine (hput _ hmem "/$\x7bclosed\x7d" haccepts).trans ?_
  rw [errors_faultyManifest]
  decide

end Manifest

end RouteTable
