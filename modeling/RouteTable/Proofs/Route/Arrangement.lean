import RouteTable.Proofs.Route.Build
import RouteTable.Proofs.Route.Compiler
import RouteTable.Proofs.Route.Lookup
import RouteTable.Proofs.Route.Table
/-!
# Arrangements of declarations

What a build makes of declarations that are put together or put in another order.  Main
statements: `build_append`, a build of two lists is the build of the first one extended by
that of the second; `build_perm`, the order of declarations only decides on the order of
what comes out, and on which tags of parameters a route has.
-/

namespace RouteTable

theorem RoutingTable.extend_entries (t : RoutingTable) : t.extend t.entries = t := by
  apply eq_of_entries_eq
  have hall : ∀ e ∈ t.entries, t.entries.any (·.same e) = true := by
    intro e he
    exact any_same_iff.2 (List.mem_map_of_mem he)
  rw [entries_extend, firstOccurrences_append_of_forall hall, firstOccurrences_entries]

theorem table_build_append (c : RouteCompiler) (ds es : List Declaration) :
    (c.build (ds ++ es)).table = (c.build ds).table.extend (c.build es).table.entries := by
  apply RoutingTable.eq_of_entries_eq
  calc (c.build (ds ++ es)).table.entries
      = firstOccurrences (entriesOf (c.outcomes ds) ++ entriesOf (c.outcomes es)) := by
        rw [entries_build, c.outcomes_append, entriesOf_append]
    _ = firstOccurrences (firstOccurrences (entriesOf (c.outcomes ds)) ++
          firstOccurrences (entriesOf (c.outcomes es))) := by
        rw [firstOccurrences_append_left, firstOccurrences_append_right]
    _ = ((c.build ds).table.extend (c.build es).table.entries).entries := by
        rw [RoutingTable.entries_extend, entries_build, entries_build]

theorem rejected_build_append (c : RouteCompiler) (ds es : List Declaration) :
    (c.build (ds ++ es)).rejected = (c.build ds).rejected ++ (c.build es).rejected := by
  rw [rejected_build, rejected_build, rejected_build, c.outcomes_append, errorsOf_append]

/-- The build of two lists of declarations is the build of the first one with the entries and
the errors of the second one added.  The same declarations once more add their errors and
nothing else. -/
theorem build_append (c : RouteCompiler) (ds es : List Declaration) :
    (c.build (ds ++ es)).table = (c.build ds).table.extend (c.build es).table.entries ∧
    (c.build (ds ++ es)).rejected = (c.build ds).rejected ++ (c.build es).rejected ∧
    (c.build (ds ++ ds)).table = (c.build ds).table ∧
    (c.build (ds ++ ds)).rejected = (c.build ds).rejected ++ (c.build ds).rejected := by
  refine ⟨table_build_append c ds es, rejected_build_append c ds es, ?_,
    rejected_build_append c ds ds⟩
  rw [table_build_append, RoutingTable.extend_entries]

/-- The same routes in some order, the tags of their parameters left aside. -/
def SameRoutes (es fs : List RouteEntry) : Prop :=
  (es.map RouteEntry.identity).Perm (fs.map RouteEntry.identity)

namespace SameRoutes

variable {es fs es' fs' : List RouteEntry}

theorem append (h : SameRoutes es fs) (h' : SameRoutes es' fs') :
    SameRoutes (es ++ es') (fs ++ fs') := by
  rw [SameRoutes, List.map_append, List.map_append]
  exact List.Perm.append h h'

theorem length_eq (h : SameRoutes es fs) : es.length = fs.length := by
  simpa using List.Perm.length_eq h

theorem filter (h : SameRoutes es fs) {p : RouteEntry → Bool}
    (hp : ∀ a b : RouteEntry, a.same b = true → p a = p b) :
    SameRoutes (es.filter p) (fs.filter p) := by
  -- `chosen` is `p` as a choice of identities.
  let chosen (i : RouteEntry.Identity) : Bool := (es ++ fs).any fun e => e.identity = i && p e
  have hchosen : ∀ e ∈ es ++ fs, p e = chosen e.identity := by
    intro e he
    rw [Bool.eq_iff_iff, List.any_eq_true]
    constructor
    · intro hpe
      exact ⟨e, he, by simpa using hpe⟩
    · rintro ⟨other, -, hother⟩
      obtain ⟨hsame, hpother⟩ : other.identity = e.identity ∧ p other = true := by
        simpa using hother
      rwa [← hp other e (by simpa [RouteEntry.same] using hsame)]
  have hmap (xs : List RouteEntry) (hxs : ∀ e ∈ xs, e ∈ es ++ fs) :
      (xs.filter p).map RouteEntry.identity = (xs.map RouteEntry.identity).filter chosen := by
    rw [List.filter_map]
    congr 1
    exact List.filter_congr fun e he => hchosen e (hxs e he)
  rw [SameRoutes, hmap es fun e he => List.mem_append_left fs he,
    hmap fs fun e he => List.mem_append_right es he]
  exact List.Perm.filter chosen h

end SameRoutes

theorem sameRoutes_firstOccurrences {es fs : List RouteEntry} (h : es.Perm fs) :
    SameRoutes (firstOccurrences es) (firstOccurrences fs) := by
  refine (List.perm_ext_iff_of_nodup (nodup_identity_firstOccurrences es)
    (nodup_identity_firstOccurrences fs)).2 fun i => ?_
  rw [mem_identity_firstOccurrences, mem_identity_firstOccurrences]
  exact (h.map _).mem_iff

namespace RoutingTable

variable {t u : RoutingTable}

theorem sameRoutes_findByPath (h : SameRoutes t.entries u.entries) (path : String) :
    SameRoutes (t.findByPath path) (u.findByPath path) := by
  have hexact (a b : RouteEntry) (hab : a.same b = true) : a.isExact path = b.isExact path := by
    obtain ⟨-, -, hpath, -⟩ := RouteEntry.same_iff.1 hab
    rw [RouteEntry.isExact, RouteEntry.isExact, hpath]
  have haccepts (a b : RouteEntry) (hab : a.same b = true) : a.accepts path = b.accepts path := by
    obtain ⟨-, -, -, hmatcher, -⟩ := RouteEntry.same_iff.1 hab
    rw [RouteEntry.accepts, RouteEntry.accepts, hmatcher]
  refine (h.filter hexact).append (h.filter fun a b hab => ?_)
  rw [hexact a b hab, haccepts a b hab]

theorem sameRoutes_findByGroupTag (h : SameRoutes t.entries u.entries) (tag : Tag) :
    SameRoutes (t.findByGroupTag tag) (u.findByGroupTag tag) := by
  refine h.filter fun a b hab => ?_
  obtain ⟨-, -, -, -, hgroup, -⟩ := RouteEntry.same_iff.1 hab
  rw [RouteEntry.hasGroupTag, RouteEntry.hasGroupTag, hgroup]

theorem sameRoutes_findByRouteTag (h : SameRoutes t.entries u.entries) (tag : Tag) :
    SameRoutes (t.findByRouteTag tag) (u.findByRouteTag tag) := by
  refine h.filter fun a b hab => ?_
  obtain ⟨-, -, -, -, -, hroute⟩ := RouteEntry.same_iff.1 hab
  rw [RouteEntry.hasRouteTag, RouteEntry.hasRouteTag, hroute]

theorem sameRoutes_findByTag (h : SameRoutes t.entries u.entries) (tag : Tag) :
    SameRoutes (t.findByTag tag) (u.findByTag tag) := by
  refine h.filter fun a b hab => ?_
  obtain ⟨-, -, -, -, hgroup, hroute⟩ := RouteEntry.same_iff.1 hab
  simp only [RouteEntry.hasGroupTag, RouteEntry.hasRouteTag, hgroup, hroute]

theorem isSome_findExact_eq (h : SameRoutes t.entries u.entries) (path : String)
    (method : Method) :
    (t.findExact path method).isSome = (u.findExact path method).isSome := by
  have hmethod : SameRoutes ((t.findByPath path).filter (·.method = method))
      ((u.findByPath path).filter (·.method = method)) := by
    refine (sameRoutes_findByPath h path).filter fun a b hab => ?_
    rw [(RouteEntry.same_iff.1 hab).1]
  rw [findExact_eq_find?, findExact_eq_find?, ← List.head?_filter, ← List.head?_filter,
    Bool.eq_iff_iff, List.isSome_head?, List.isSome_head?, ← List.length_pos_iff,
    ← List.length_pos_iff, hmethod.length_eq]

end RoutingTable

section

variable {ds es : List Declaration}

theorem RouteCompiler.outcomes_perm (c : RouteCompiler) (h : ds.Perm es) :
    (c.outcomes ds).Perm (c.outcomes es) :=
  (h.filter _).flatMap_right _

theorem sameRoutes_entries_build (c : RouteCompiler) (h : ds.Perm es) :
    SameRoutes (c.build ds).table.entries (c.build es).table.entries := by
  rw [entries_build, entries_build]
  exact sameRoutes_firstOccurrences ((c.outcomes_perm h).filterMap _)

theorem size_table_build_perm (c : RouteCompiler) (h : ds.Perm es) :
    (c.build ds).table.size = (c.build es).table.size :=
  (sameRoutes_entries_build c h).length_eq

theorem rejected_build_perm (c : RouteCompiler) (h : ds.Perm es) :
    (c.build ds).rejected.Perm (c.build es).rejected := by
  rw [rejected_build, rejected_build]
  exact (c.outcomes_perm h).filterMap _

theorem duplicateCount_build_perm (c : RouteCompiler) (h : ds.Perm es) :
    (c.build ds).duplicateCount = (c.build es).duplicateCount := by
  have hentries : (entriesOf (c.outcomes ds)).length = (entriesOf (c.outcomes es)).length :=
    ((c.outcomes_perm h).filterMap _).length_eq
  have hsize := size_table_build_perm c h
  have hds := duplicateCount_build c ds
  have hes := duplicateCount_build c es
  omega

/-- Another order of the declarations gives the same routes, errors and counts, and each
query finds the same routes.  Only their order can differ, and which declaration the tags of
a parameter come from. -/
theorem build_perm (c : RouteCompiler) (h : ds.Perm es) :
    SameRoutes (c.build ds).table.entries (c.build es).table.entries ∧
    (c.build ds).rejected.Perm (c.build es).rejected ∧
    (c.build ds).compiledCount = (c.build es).compiledCount ∧
    (c.build ds).duplicateCount = (c.build es).duplicateCount ∧
    (c.build ds).rejectedCount = (c.build es).rejectedCount ∧
    (c.build ds).tableSize = (c.build es).tableSize ∧
    (∀ path, SameRoutes ((c.build ds).table.findByPath path)
      ((c.build es).table.findByPath path)) ∧
    (∀ tag,
      SameRoutes ((c.build ds).table.findByTag tag) ((c.build es).table.findByTag tag) ∧
      SameRoutes ((c.build ds).table.findByGroupTag tag)
        ((c.build es).table.findByGroupTag tag) ∧
      SameRoutes ((c.build ds).table.findByRouteTag tag)
        ((c.build es).table.findByRouteTag tag)) ∧
    ∀ path method,
      ((c.build ds).table.findExact path method).isSome =
        ((c.build es).table.findExact path method).isSome := by
  have hroutes := sameRoutes_entries_build c h
  have hsize := size_table_build_perm c h
  have hrejected := rejected_build_perm c h
  refine ⟨hroutes, hrejected, ?_, duplicateCount_build_perm c h, ?_, congrArg some hsize,
    RoutingTable.sameRoutes_findByPath hroutes, fun tag => ⟨?_, ?_, ?_⟩,
    RoutingTable.isSome_findExact_eq hroutes⟩
  · rw [compiledCount_build, compiledCount_build, hsize]
  · rw [rejectedCount_build, rejectedCount_build, hrejected.length_eq]
  · exact RoutingTable.sameRoutes_findByTag hroutes tag
  · exact RoutingTable.sameRoutes_findByGroupTag hroutes tag
  · exact RoutingTable.sameRoutes_findByRouteTag hroutes tag

end

def homeTagged (tag : Tag) : Declaration where
  routeTemplates := ["/home"]
  methods := [.get]
  parameterTags := [[tag]]

theorem parameterTags_build_homeTagged (first second : Tag) :
    (RouteCompiler.plain.build [homeTagged first, homeTagged second]).table.entries.map
      RouteEntry.parameterTags = [[[first]]] := by
  obtain ⟨matcher, hcompiled⟩ : ∃ matcher,
      RouteCompiler.plain.compileTemplate "/home" = .ok ("/home", matcher) :=
    RouteCompiler.exists_compileTemplate (by decide +kernel)
      (show Wildcard.fragment "/home" = .ok "/?home/?" by decide +kernel) (by decide)
  have hcompile (tag : Tag) : RouteCompiler.plain.compile (homeTagged tag) =
      [.ok ⟨.get, "/home", "/home", matcher, [], [], [[tag]]⟩] := by
    have hexpand : (homeTagged tag).expand = [("/home", .get)] := rfl
    rw [RouteCompiler.compile_eq_map, hexpand, List.map_singleton]
    dsimp only
    rw [hcompiled]
    rfl
  have hitems : RouteCompiler.plain.outcomes [homeTagged first, homeTagged second] =
      [.ok ⟨.get, "/home", "/home", matcher, [], [], [[first]]⟩,
        .ok ⟨.get, "/home", "/home", matcher, [], [], [[second]]⟩] := by
    rw [RouteCompiler.outcomes_cons, RouteCompiler.outcomes_cons, RouteCompiler.outcomes_nil,
      if_pos (RouteCompiler.accepts_plain _), if_pos (RouteCompiler.accepts_plain _), hcompile,
      hcompile]
    rfl
  rw [entries_build, hitems]
  simp [entriesOf, Except.toOption, firstOccurrences, RouteEntry.same, RouteEntry.identity]

/-- Two declarations of the same route: whichever comes first gives it its tag. -/
theorem build_perm_homeTagged :
    [homeTagged ⟨"a"⟩, homeTagged ⟨"b"⟩].Perm [homeTagged ⟨"b"⟩, homeTagged ⟨"a"⟩] ∧
    SameRoutes
      (RouteCompiler.plain.build [homeTagged ⟨"a"⟩, homeTagged ⟨"b"⟩]).table.entries
      (RouteCompiler.plain.build [homeTagged ⟨"b"⟩, homeTagged ⟨"a"⟩]).table.entries ∧
    (RouteCompiler.plain.build [homeTagged ⟨"a"⟩, homeTagged ⟨"b"⟩]).table.entries.map
      RouteEntry.parameterTags = [[[⟨"a"⟩]]] ∧
    (RouteCompiler.plain.build [homeTagged ⟨"b"⟩, homeTagged ⟨"a"⟩]).table.entries.map
      RouteEntry.parameterTags = [[[⟨"b"⟩]]] := by
  have hperm : [homeTagged ⟨"a"⟩, homeTagged ⟨"b"⟩].Perm [homeTagged ⟨"b"⟩, homeTagged ⟨"a"⟩] :=
    List.Perm.swap _ _ []
  exact ⟨hperm, (build_perm RouteCompiler.plain hperm).1, parameterTags_build_homeTagged _ _,
    parameterTags_build_homeTagged _ _⟩

end RouteTable
