import Mathlib.Data.List.Lex
import Mathlib.Order.Lattice
import RouteTable.Manifest.Basic
/-!
# Places of a manifest

The texts of a manifest stand at places.  Another text can be put at a place, which is then read
there (`text?_put_self`) and changes no other place (`text?_put_of_ne`).  Places have an order:
that in which a report comes to them.
-/

namespace RouteTable.Manifest

inductive Place where
  | baseScope (index : Nat)
  | scope (group : Nat)
  | routes (group : Nat)
  | groupPath (group index : Nat)
  | routePath (group route index : Nat)
  | logLevel
  deriving DecidableEq, Repr

namespace Place

/-- Where a report comes to a place: numbers that are compared one after the other. -/
def rank : Place → List Nat
  | baseScope index => [0, index]
  | scope group => [1, group, 0]
  | routes group => [1, group, 1]
  | groupPath group index => [1, group, 2, index]
  | routePath group route index => [1, group, 3, route, index]
  | logLevel => [2]

theorem rank_injective : Function.Injective rank := by
  intro p q h
  cases p <;> cases q <;> simp_all [rank]

/-- Base scopes come first, then one group after the other, with its scope, its routes as such, its
paths and those of its routes, and then the level. -/
instance : LinearOrder Place := .lift' rank rank_injective

theorem lt_iff {p q : Place} : p < q ↔ p.rank < q.rank := Iff.rfl

theorem lt_of_prefix {p q : Place} (front : List Nat) {i j : Nat}
    (hp : front ++ [i] <+: p.rank) (hq : front ++ [j] <+: q.rank) (hlt : i < j) : p < q := by
  obtain ⟨back, hp⟩ := hp
  obtain ⟨back', hq⟩ := hq
  rw [lt_iff, ← hp, ← hq, List.append_assoc, List.append_assoc]
  exact List.append_left_lt (List.cons_lt_cons_iff.2 (.inl hlt))

end Place

/-- The text at a place.  There is none for the routes of a group as such. -/
def text? (m : Manifest) : Place → Option String
  | .baseScope index => m.scopes[index]?
  | .scope group => m.groups[group]?.map (·.scope)
  | .routes _ => none
  | .groupPath group index => m.groups[group]?.bind (·.paths[index]?)
  | .routePath group route index =>
      m.groups[group]?.bind fun group => group.routes[route]?.bind (·.paths[index]?)
  | .logLevel => some m.observability.logLevel

def put (m : Manifest) (text : String) : Place → Manifest
  | .baseScope index => { m with scopes := m.scopes.set index text }
  | .scope group =>
      { m with groups := m.groups.modify group fun group => { group with scope := text } }
  | .routes _ => m
  | .groupPath group index =>
      { m with groups := m.groups.modify group fun group =>
          { group with paths := group.paths.set index text } }
  | .routePath group route index =>
      { m with groups := m.groups.modify group fun group =>
          { group with routes := group.routes.modify route fun route =>
              { route with paths := route.paths.set index text } } }
  | .logLevel => { m with observability := { m.observability with logLevel := text } }

variable {α β : Type} {f : α → α}

theorem bind_getElem?_modify {g : α → Option β} {xs : List α} {i j : Nat}
    (h : i = j → ∀ x, g (f x) = g x) : (xs.modify i f)[j]?.bind g = xs[j]?.bind g := by
  rw [List.getElem?_modify]
  cases xs[j]? with
  | none => rfl
  | some x =>
      by_cases hij : i = j
      · simp [hij, h hij]
      · simp [hij]

theorem map_getElem?_modify {g : α → β} {xs : List α} {i j : Nat}
    (h : i = j → ∀ x, g (f x) = g x) : (xs.modify i f)[j]?.map g = xs[j]?.map g := by
  simp only [Option.map_eq_bind]
  exact bind_getElem?_modify fun hij x => congrArg some (h hij x)

theorem text?_put_self (m : Manifest) (text : String) (p : Place) :
    (m.put text p).text? p = (m.text? p).map fun _ => text := by
  cases p with
  | baseScope index => exact List.getElem?_set_self'
  | scope group => simp [put, text?, Function.comp_def]
  | routes group => rfl
  | groupPath group index =>
      cases hgroup : m.groups[group]? with
      | none => simp [put, text?, hgroup]
      | some g => simp [put, text?, hgroup, List.getElem?_set_self', Function.const_def]
  | routePath group route index =>
      cases hgroup : m.groups[group]? with
      | none => simp [put, text?, hgroup]
      | some g =>
          cases hroute : g.routes[route]? with
          | none => simp [put, text?, hgroup, hroute]
          | some r => simp [put, text?, hgroup, hroute, List.getElem?_set_self', Function.const_def]
  | logLevel => rfl

theorem text?_put_of_ne (m : Manifest) (text : String) {p q : Place} (hne : q ≠ p) :
    (m.put text p).text? q = m.text? q := by
  cases p with
  | routes group => rfl
  | baseScope index =>
      cases q with
      | baseScope j => exact List.getElem?_set_ne fun h => hne (congrArg Place.baseScope h.symm)
      | _ => rfl
  | scope group =>
      cases q with
      | scope g => exact map_getElem?_modify fun h => absurd (h ▸ rfl) hne
      | groupPath g j => exact bind_getElem?_modify fun _ _ => rfl
      | routePath g r j => exact bind_getElem?_modify fun _ _ => rfl
      | _ => rfl
  | groupPath group index =>
      cases q with
      | scope g => exact map_getElem?_modify fun _ _ => rfl
      | groupPath g j =>
          refine bind_getElem?_modify fun hg _ => List.getElem?_set_ne fun hj => hne ?_
          rw [hg, hj]
      | routePath g r j => exact bind_getElem?_modify fun _ _ => rfl
      | _ => rfl
  | routePath group route index =>
      cases q with
      | scope g => exact map_getElem?_modify fun _ _ => rfl
      | groupPath g j => exact bind_getElem?_modify fun _ _ => rfl
      | routePath g r j =>
          refine bind_getElem?_modify fun hg _ => bind_getElem?_modify fun hr _ =>
            List.getElem?_set_ne fun hj => hne ?_
          rw [hg, hr, hj]
      | _ => rfl
  | logLevel =>
      cases q with
      | logLevel => exact absurd rfl hne
      | _ => rfl

theorem isEmpty_routes_put (m : Manifest) (text : String) (p : Place) (index : Nat) :
    (m.put text p).groups[index]?.map (·.routes.isEmpty) =
      m.groups[index]?.map (·.routes.isEmpty) := by
  cases p with
  | baseScope | routes | logLevel => rfl
  | scope | groupPath => exact map_getElem?_modify fun _ _ => rfl
  | routePath group route i =>
      refine map_getElem?_modify fun _ g => ?_
      rw [Bool.eq_iff_iff, List.isEmpty_iff, List.isEmpty_iff, List.modify_eq_nil_iff]

end RouteTable.Manifest
