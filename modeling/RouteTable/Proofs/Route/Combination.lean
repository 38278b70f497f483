import RouteTable.Proofs.Route.Compiler
/-!
# Combinations of a declaration

A declaration stands for combinations of a group template, a route template and a method.
Compiling it compiles each of them by itself: `RouteCompiler.compile_eq_map_combinations`.
A choice of templates, at either level, is a choice of combinations:
`Combination.filter_group_product` and `Combination.filter_route_product`.
-/

namespace RouteTable

open RouteTable.Declaration

/-- It makes no difference whether repetitions are dropped before a choice or after it. -/
theorem filter_eraseDups {α : Type} [BEq α] [LawfulBEq α] (p : α → Bool) (xs : List α) :
    xs.eraseDups.filter p = (xs.filter p).eraseDups := by
  cases xs with
  | nil => rfl
  | cons x xs =>
      have ih := filter_eraseDups p (xs.filter fun y => !y == x)
      rw [List.eraseDups_cons]
      cases hx : p x with
      | true =>
          rw [List.filter_cons_of_pos hx, List.filter_cons_of_pos hx, List.eraseDups_cons, ih]
          simp only [List.filter_filter, Bool.and_comm]
      | false =>
          have hpass : (xs.filter fun y => !y == x).filter p = xs.filter p := by
            rw [List.filter_filter]
            refine List.filter_congr fun y _ => ?_
            have hne : p y = true → y ≠ x := by
              rintro hy rfl
              exact absurd (hx.symm.trans hy) (by decide)
            by_cases hy : p y = true <;> simp_all
          rw [List.filter_cons_of_neg (by simp [hx]), List.filter_cons_of_neg (by simp [hx]), ih,
            hpass]
termination_by xs.length
decreasing_by
  exact Nat.lt_succ_of_le (List.length_filter_le _ _)

theorem filter_flatMap_of_key {α β : Type} {f : α → List β} {key : β → α}
    (hkey : ∀ x, ∀ y ∈ f x, key y = x) (p : α → Bool) (xs : List α) :
    (xs.flatMap f).filter (fun y => p (key y)) = (xs.filter p).flatMap f := by
  induction xs with
  | nil => rfl
  | cons x xs ih =>
      rw [List.flatMap_cons, List.filter_append, ih]
      cases hx : p x with
      | true =>
          rw [List.filter_cons_of_pos hx, List.flatMap_cons, List.filter_eq_self.2]
          intro y hy
          rw [hkey x y hy, hx]
      | false =>
          rw [List.filter_cons_of_neg (by simp [hx]), List.filter_eq_nil_iff.2, List.nil_append]
          intro y hy
          simp [hkey x y hy, hx]

/-- One choice of a group template, a route template and a method. -/
structure Combination where
  group : String
  route : String
  method : Method
  deriving DecidableEq, Repr

inductive TemplateLevel where
  | group
  | route
  deriving DecidableEq, Repr

namespace Combination

def template (k : Combination) : TemplateLevel → String
  | .group => k.group
  | .route => k.route

def rawTemplate (k : Combination) : String := Path.join [k.group, k.route]

def product (groups routes : List String) (methods : List Method) : List Combination :=
  groups.flatMap fun group => routes.flatMap fun route => methods.map fun method =>
    ⟨group, route, method⟩

variable {groups routes : List String} {methods : List Method}

theorem mem_product {k : Combination} :
    k ∈ product groups routes methods ↔
      k.group ∈ groups ∧ k.route ∈ routes ∧ k.method ∈ methods := by
  obtain ⟨group, route, method⟩ := k
  simp only [product, List.mem_flatMap, List.mem_map, mk.injEq]
  constructor
  · rintro ⟨_, hgroup, _, hroute, _, hmethod, rfl, rfl, rfl⟩
    exact ⟨hgroup, hroute, hmethod⟩
  · rintro ⟨hgroup, hroute, hmethod⟩
    exact ⟨group, hgroup, route, hroute, method, hmethod, rfl, rfl, rfl⟩

theorem route_eq_of_mem_map (group route : String) :
    ∀ k ∈ methods.map fun method => (⟨group, route, method⟩ : Combination), k.route = route := by
  intro k hk
  obtain ⟨method, -, rfl⟩ := List.mem_map.1 hk
  rfl

theorem group_eq_of_mem_flatMap (group : String) :
    ∀ k ∈ routes.flatMap fun route => methods.map fun method =>
      (⟨group, route, method⟩ : Combination), k.group = group := by
  intro k hk
  obtain ⟨route, -, hk⟩ := List.mem_flatMap.1 hk
  obtain ⟨method, -, rfl⟩ := List.mem_map.1 hk
  rfl

theorem filter_group_product (p : String → Bool) :
    (product groups routes methods).filter (fun k => p k.group) =
      product (groups.filter p) routes methods :=
  filter_flatMap_of_key group_eq_of_mem_flatMap p groups

theorem filter_route_product (p : String → Bool) :
    (product groups routes methods).filter (fun k => p k.route) =
      product groups (routes.filter p) methods := by
  rw [product, List.filter_flatMap]
  congr 1
  funext group
  exact filter_flatMap_of_key (route_eq_of_mem_map group) p routes

end Combination

namespace Declaration

theorem templatesOrRoot_of_ne_nil {templates : List String} (h : templates ≠ []) :
    templatesOrRoot templates = templates.eraseDups :=
  if_neg h

def combinations (d : Declaration) : List Combination :=
  Combination.product (templatesOrRoot d.groupTemplates) (templatesOrRoot d.routeTemplates)
    (methodsOrAll d.methods)

theorem expand_eq_map_combinations (d : Declaration) :
    d.expand = d.combinations.map fun k => (k.rawTemplate, k.method) := by
  simp only [expand, combinations, Combination.product, List.map_flatMap, List.map_map]
  rfl

def withTemplates (d : Declaration) : TemplateLevel → List String → Declaration
  | .group, templates => { d with groupTemplates := templates }
  | .route, templates => { d with routeTemplates := templates }

end Declaration

namespace RouteCompiler

def compileCombination (c : RouteCompiler) (d : Declaration) (k : Combination) :
    Except CompileError RouteEntry :=
  outcome d k.rawTemplate k.method (c.compileTemplate k.rawTemplate)

theorem compile_eq_map_combinations (c : RouteCompiler) (d : Declaration) :
    c.compile d = d.combinations.map (c.compileCombination d) := by
  rw [compile_eq_map, d.expand_eq_map_combinations, List.map_map]
  rfl

end RouteCompiler

end RouteTable
