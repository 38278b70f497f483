import RouteTable.Proofs.Route.Combination
/-!
# Expansions of a declaration

A declaration drops repetitions from each of its lists before it combines them.  This leaves
what dropping them from all its combinations leaves: `Combination.eraseDups_product`.  Main
statement: `compile_product_without_cache`, which also says that every expansion is compiled
as if it were the only one.
-/

namespace RouteTable

/-- Where the parts that are put side by side have no element in common, repetitions can be
dropped in each part by itself. -/
theorem eraseDups_flatMap_of_key {α β : Type} [BEq α] [LawfulBEq α] [BEq β] [LawfulBEq β]
    {f : α → List β} {key : β → α} (hkey : ∀ x, ∀ y ∈ f x, key y = x) (xs : List α) :
    (xs.flatMap f).eraseDups = xs.eraseDups.flatMap fun x => (f x).eraseDups := by
  cases xs with
  | nil => rfl
  | cons x xs =>
      have ih := eraseDups_flatMap_of_key hkey (xs.filter fun y => !y == x)
      have hothers : (xs.flatMap f).removeAll (f x) = (xs.filter fun y => !y == x).flatMap f := by
        rw [← filter_flatMap_of_key hkey, List.removeAll]
        apply List.filter_congr
        intro y hy
        obtain ⟨z, -, hyz⟩ := List.mem_flatMap.1 hy
        have hmem : y ∈ f x ↔ key y = x := by
          constructor
          · exact hkey x y
          · intro hx
            rwa [← hx, hkey z y hyz]
        rw [Bool.eq_iff_iff]
        simp [hmem]
      rw [List.flatMap_cons, List.eraseDups_append, hothers, ih, List.eraseDups_cons,
        List.flatMap_cons]
termination_by xs.length
decreasing_by
  exact Nat.lt_succ_of_le (List.length_filter_le _ _)

namespace Combination

theorem eraseDups_map_method (group route : String) (methods : List Method) :
    (methods.map fun method => (⟨group, route, method⟩ : Combination)).eraseDups =
      methods.eraseDups.map fun method => ⟨group, route, method⟩ := by
  have hkey : ∀ method, ∀ k ∈ [(⟨group, route, method⟩ : Combination)], k.method = method := by
    intro method k hk
    rw [List.mem_singleton.1 hk]
  simp only [List.map_eq_flatMap]
  exact eraseDups_flatMap_of_key hkey methods

theorem eraseDups_flatMap_route (group : String) (routes : List String) (methods : List Method) :
    (routes.flatMap fun route => methods.map fun method =>
        (⟨group, route, method⟩ : Combination)).eraseDups =
      routes.eraseDups.flatMap fun route => methods.eraseDups.map fun method =>
        ⟨group, route, method⟩ := by
  rw [eraseDups_flatMap_of_key (route_eq_of_mem_map group)]
  simp only [eraseDups_map_method]

theorem eraseDups_product (groups routes : List String) (methods : List Method) :
    (product groups routes methods).eraseDups =
      product groups.eraseDups routes.eraseDups methods.eraseDups := by
  rw [product, eraseDups_flatMap_of_key group_eq_of_mem_flatMap]
  simp only [eraseDups_flatMap_route]
  rfl

end Combination

namespace Declaration

def templatesAsDeclared (templates : List String) : List String :=
  if templates = [] then [""] else templates

def methodsAsDeclared (methods : List Method) : List Method :=
  if methods = [] then Method.all else methods

theorem templatesOrRoot_eq_eraseDups (templates : List String) :
    templatesOrRoot templates = (templatesAsDeclared templates).eraseDups := by
  by_cases h : templates = []
  · rw [templatesOrRoot, templatesAsDeclared, if_pos h, if_pos h]
    rfl
  · rw [templatesOrRoot, templatesAsDeclared, if_neg h, if_neg h]

theorem methodsOrAll_eq_eraseDups (methods : List Method) :
    methodsOrAll methods = (methodsAsDeclared methods).eraseDups := by
  by_cases h : methods = []
  · rw [methodsOrAll, methodsAsDeclared, if_pos h, if_pos h]
    decide
  · rw [methodsOrAll, methodsAsDeclared, if_neg h, if_neg h]

/-- All combinations of what is declared, repetitions included. -/
def allCombinations (d : Declaration) : List Combination :=
  Combination.product (templatesAsDeclared d.groupTemplates)
    (templatesAsDeclared d.routeTemplates) (methodsAsDeclared d.methods)

theorem combinations_eq_eraseDups (d : Declaration) :
    d.combinations = d.allCombinations.eraseDups := by
  rw [combinations, allCombinations, Combination.eraseDups_product, templatesOrRoot_eq_eraseDups,
    templatesOrRoot_eq_eraseDups, methodsOrAll_eq_eraseDups]

end Declaration

/-- The expansions of a declaration are all combinations of a group template, a route template
and a method, in this order of nesting, each at its first occurrence.  Every one of them is
compiled afresh, to an entry with the tags of the declaration or to an error with its scope. -/
theorem compile_product_without_cache (c : RouteCompiler) (d : Declaration) :
    d.expand = (d.allCombinations.eraseDups.map fun k =>
      (Path.join [k.group, k.route], k.method)) ∧
    c.compile d = d.expand.map fun (rawTemplate, method) =>
      match c.compileTemplate rawTemplate with
      | .ok (resolvedPath, matcher) => .ok
          { method, rawTemplate, resolvedPath, matcher
            groupTags := d.groupTags
            routeTags := d.routeTags
            parameterTags := d.parameterTags }
      | .error source => .error { scope := d.scope, rawTemplate, method, source } := by
  constructor
  · rw [d.expand_eq_map_combinations, d.combinations_eq_eraseDups]
    rfl
  · rw [RouteCompiler.compile_eq_map]
    apply List.map_congr_left
    rintro ⟨rawTemplate, method⟩ -
    cases c.compileTemplate rawTemplate with
    | ok compiled => rfl
    | error source => rfl

/-- Two group templates that come to the same joined template count twice. -/
example :
    ({ groupTemplates := ["/a", "/a/", "/a"], routeTemplates := ["b"], methods := [.get, .get] } :
      Declaration).expand = [("/a/b", .get), ("/a/b", .get)] := by
  decide

end RouteTable
