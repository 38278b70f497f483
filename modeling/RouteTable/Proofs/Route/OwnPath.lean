import RouteTable.Proofs.Route.Lookup
import RouteTable.Proofs.Route.Tags
import RouteTable.Proofs.Wildcard.Request
/-!
# Routes and their own paths

A path serves itself as a request, unless the name of a path variable has a slash in it.
Main statement: `own_paths_served`, where no name has one, what is found for a path are
the entries whose matchers accept it, and the exact ones only come first.
-/

namespace RouteTable

open RouteTable.Pattern
open RouteTable.Wildcard

namespace Wildcard

/-- Whether the names of the path variables are free of slashes. -/
def HasFlatNames (path : String) : Prop :=
  ∀ name, .segment name ∈ PathToken.read path.toList → '/' ∉ name

theorem PathToken.stands_text {t : PathToken} (h : ∀ name, t = .segment name → '/' ∉ name) :
    t.Stands t.text := by
  cases t with
  | segment name =>
      have hname := h name rfl
      simp [text, Stands, hname]
  | literal c | star | doubleStar | question => simp [text, Stands]

theorem spells_text {ts : List PathToken} (h : ∀ name, .segment name ∈ ts → '/' ∉ name) :
    Spells ts (ts.flatMap PathToken.text) := by
  induction ts with
  | nil => rfl
  | cons t ts ih =>
      simp only [List.mem_cons] at h
      exact ⟨t.text, _, rfl, PathToken.stands_text fun name ht => h name (.inl ht.symm),
        ih fun name hmem => h name (.inr hmem)⟩

/-- The slash that the tokens begin with is the one in front of the request. -/
theorem serves_text {ts : List PathToken} (h : ∀ name, .segment name ∈ ts → '/' ∉ name) :
    Serves ts (ts.flatMap PathToken.text) := by
  by_cases hhead : ts.head? = some (.literal '/')
  · obtain ⟨rest, rfl⟩ := List.head?_eq_some_iff.1 hhead
    have hrest : Spells rest (rest.flatMap PathToken.text) :=
      spells_text fun name hmem => h name (List.mem_cons_of_mem _ hmem)
    exact ⟨['/'], _, [], by simp [PathToken.text], .inr rfl, hrest, .inl rfl⟩
  · refine ⟨[], ts.flatMap PathToken.text, [], by simp, .inl rfl, ?_, .inl rfl⟩
    rw [body_of_head?_ne hhead]
    exact spells_text h

theorem accepts_own_path {path : String} {m : Matcher} (hm : matcher path = .ok m)
    (hnames : HasFlatNames path) : m.accepts path = true := by
  have hserves := serves_text hnames
  rwa [(reads_of_matcher hm).1.text_eq, ← accepts_iff_serves hm] at hserves

end Wildcard

theorem RouteCompiler.matcher_of_mem_entries_build {c : RouteCompiler} {ds : List Declaration}
    {e : RouteEntry} (h : e ∈ (c.build ds).table.entries) :
    matcher e.resolvedPath = .ok e.matcher := by
  obtain ⟨d, -, -, hok⟩ := mem_entriesOf_outcomes.1 (mem_entriesOf_of_mem_entries_build h)
  obtain ⟨-, hcompiled, -⟩ := ok_mem_compile_iff.1 hok
  obtain ⟨path, -, hpath⟩ := Template.bind_eq_ok_iff.1 hcompiled
  obtain ⟨m, hm, heq⟩ := Template.bind_eq_ok_iff.1 hpath
  cases heq
  exact (compile_eq_ok_iff.1 hm).1

namespace RoutingTable

variable {t : RoutingTable} {path : String}

/-- Where exact entries match, the exact part of a lookup is a part of what matches. -/
theorem findByPath_eq_of_isExact
    (h : ∀ e ∈ t.entries, e.isExact path = true → e.accepts path = true) :
    t.findByPath path =
      (t.entries.filter (·.accepts path)).filter (·.isExact path) ++
        (t.entries.filter (·.accepts path)).filter fun e => !e.isExact path := by
  rw [findByPath, List.filter_filter, List.filter_filter]
  congr 1
  refine List.filter_congr fun e he => ?_
  cases hexact : e.isExact path with
  | false => rfl
  | true => rw [h e he hexact, Bool.and_self]

theorem isSome_findExact_iff {method : Method} :
    (t.findExact path method).isSome = true ↔ ∃ e ∈ t.findByPath path, e.method = method := by
  rw [findExact_eq_find?, List.find?_isSome]
  simp only [decide_eq_true_eq]

end RoutingTable

/-- A path without slashes in the names of its variables is a request of its own matcher.
In a table of such paths, what is found for a path is what matches it, with the exact
entries moved to the front. -/
theorem own_paths_served :
    (∀ path m, matcher path = .ok m → HasFlatNames path → m.accepts path = true) ∧
    ∀ (c : RouteCompiler) (ds : List Declaration),
      (∀ e ∈ (c.build ds).table.entries, HasFlatNames e.resolvedPath) → ∀ path,
        (c.build ds).table.findByPath path =
          ((c.build ds).table.entries.filter (·.accepts path)).filter (·.isExact path) ++
            ((c.build ds).table.entries.filter (·.accepts path)).filter (fun e => !e.isExact path) ∧
        (∀ e, e ∈ (c.build ds).table.findByPath path ↔
          e ∈ (c.build ds).table.entries ∧ e.accepts path = true) ∧
        ∀ method, ((c.build ds).table.findExact path method).isSome = true ↔
          ∃ e ∈ (c.build ds).table.entries, e.method = method ∧ e.accepts path = true := by
  refine ⟨fun path m hm hnames => accepts_own_path hm hnames, fun c ds hnames path => ?_⟩
  have hexact : ∀ e ∈ (c.build ds).table.entries,
      e.isExact path = true → e.accepts path = true := by
    intro e he heq
    obtain rfl : e.resolvedPath = path := of_decide_eq_true heq
    exact accepts_own_path (RouteCompiler.matcher_of_mem_entries_build he) (hnames e he)
  have hmem : ∀ e, e ∈ (c.build ds).table.findByPath path ↔
      e ∈ (c.build ds).table.entries ∧ e.accepts path = true := by
    intro e
    rw [RoutingTable.mem_findByPath]
    exact and_congr_right fun he => ⟨fun h => h.elim (hexact e he) id, .inr⟩
  refine ⟨RoutingTable.findByPath_eq_of_isExact hexact, hmem, fun method => ?_⟩
  rw [RoutingTable.isSome_findExact_iff]
  constructor
  · rintro ⟨e, he, hmethod⟩
    obtain ⟨hentry, haccepts⟩ := (hmem e).1 he
    exact ⟨e, hentry, hmethod, haccepts⟩
  · rintro ⟨e, hentry, hmethod, haccepts⟩
    exact ⟨e, (hmem e).2 ⟨hentry, haccepts⟩, hmethod⟩

def versionedItem : Declaration where
  routeTemplates := ["/v?/\x7bid\x7d"]
  methods := [.get]

theorem resolvedPath_build_versionedItem {e : RouteEntry}
    (h : e ∈ (RouteCompiler.plain.build [versionedItem]).table.entries) :
    e.resolvedPath = "/v?/\x7bid\x7d" := by
  obtain ⟨d, hd, -, hok⟩ := RouteCompiler.mem_entriesOf_outcomes.1
    (RouteCompiler.mem_entriesOf_of_mem_entries_build h)
  obtain rfl := List.mem_singleton.1 hd
  obtain ⟨hexpand, hcompiled, -⟩ := RouteCompiler.ok_mem_compile_iff.1 hok
  have hexpansions : versionedItem.expand = [("/v?/\x7bid\x7d", .get)] := rfl
  rw [hexpansions, List.mem_singleton, Prod.mk.injEq] at hexpand
  obtain ⟨path, hpath, hmatcher⟩ := Template.bind_eq_ok_iff.1 hcompiled
  obtain ⟨_, -, heq⟩ := Template.bind_eq_ok_iff.1 hmatcher
  have hresolve : Template.resolve RouteCompiler.plain.properties "/v?/\x7bid\x7d" =
      .ok "/v?/\x7bid\x7d" := by decide +kernel
  rw [hexpand.1, hresolve] at hpath
  obtain rfl := Except.ok.inj hpath
  exact (congrArg Prod.fst (Except.ok.inj heq)).symm

theorem own_paths_served_versionedItem :
    (∀ e ∈ (RouteCompiler.plain.build [versionedItem]).table.entries,
      HasFlatNames e.resolvedPath) ∧
    ((RouteCompiler.plain.build [versionedItem]).table.findExact "/v?/\x7bid\x7d" .get).isSome =
      true := by
  have hflat : HasFlatNames "/v?/\x7bid\x7d" := by
    intro name hname
    have hread : PathToken.read "/v?/\x7bid\x7d".toList =
        [.literal '/', .literal 'v', .question, .literal '/', .segment ['i', 'd']] := by
      simp [PathToken.read]
    simp only [hread, List.mem_cons, PathToken.segment.injEq, reduceCtorEq, false_or,
      List.not_mem_nil, or_false] at hname
    simp [hname]
  have hnames : ∀ e ∈ (RouteCompiler.plain.build [versionedItem]).table.entries,
      HasFlatNames e.resolvedPath := by
    intro e he
    rwa [resolvedPath_build_versionedItem he]
  obtain ⟨matcher, hcompiled⟩ : ∃ matcher,
      RouteCompiler.plain.compileTemplate "/v?/\x7bid\x7d" = .ok ("/v?/\x7bid\x7d", matcher) :=
    RouteCompiler.exists_compileTemplate (by decide +kernel)
      (show Wildcard.fragment "/v?/\x7bid\x7d" = .ok "/?v./[^/]+/?" by decide +kernel) (by decide)
  obtain ⟨e, he, -, hmethod, -⟩ :=
    (RouteCompiler.exists_mem_entries_build_iff (c := RouteCompiler.plain) (fun _ _ => True) .get
      _).2
      ⟨versionedItem, List.mem_singleton_self _, RouteCompiler.accepts_plain _, trivial,
        List.mem_singleton_self _, _, hcompiled⟩
  obtain ⟨hown, hlookup⟩ := own_paths_served
  have haccepts : e.accepts "/v?/\x7bid\x7d" = true :=
    hown _ _ (resolvedPath_build_versionedItem he ▸ RouteCompiler.matcher_of_mem_entries_build he)
      hflat
  exact ⟨hnames, ((hlookup _ _ hnames _).2.2 .get).2 ⟨e, he, hmethod, haccepts⟩⟩

end RouteTable
