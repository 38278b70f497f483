import RouteTable.Manifest.Reload
/-!
# Following a manifest

Only a version that differs from the one before is built.  The version before need not
be that of the published table, since a failed build is remembered too.  Still, no table
is missed: `InStep` is what every new version preserves (`InStep.receive`), whatever
becomes of it, and with it every run (`InStep.follow`).  Main statement:
`follow_publishes_last_built`.
-/

namespace RouteTable

namespace Manifest

def tableUnder? (m : Manifest) (scopes : List String) (env : Environment) :
    Option RoutingTable :=
  ((m.overrideScopes scopes).buildTable env).toOption

def loadAll (texts : List String) : List Manifest :=
  texts.filterMap fun text => (load text).toOption

theorem loadAll_of_ok {text : String} {m : Manifest} (h : load text = .ok m) :
    loadAll [text] = [m] := by
  simp [loadAll, h, Except.toOption]

theorem loadAll_of_error {text : String} {error : LoadError} (h : load text = .error error) :
    loadAll [text] = [] := by
  simp [loadAll, h, Except.toOption]

theorem loadAll_append (front back : List String) :
    loadAll (front ++ back) = loadAll front ++ loadAll back :=
  List.filterMap_append

end Manifest

namespace LiveTable

variable {live : LiveTable} {scopes : List String} {env : Environment} {text : String}

/-- What a new version can do: it fails to load, it is the one before, it fails to
build, or its table is published. -/
theorem receive_cases (live : LiveTable) (scopes : List String) (env : Environment)
    (text : String) :
    (∃ error, Manifest.load text = .error error ∧
      live.receive scopes env text = (.notLoaded error, live)) ∨
    (∃ m, Manifest.load text = .ok m ∧ live.changes.last = some m ∧
      live.receive scopes env text = (.unchanged, live)) ∨
    (∃ m error, Manifest.load text = .ok m ∧
      (m.overrideScopes scopes).buildTable env = .error error ∧
      live.receive scopes env text = (.notBuilt error, ⟨⟨some m⟩, live.published⟩)) ∨
    ∃ m table, Manifest.load text = .ok m ∧
      (m.overrideScopes scopes).buildTable env = .ok table ∧
      live.receive scopes env text =
        (.replaced live.published.current, ⟨⟨some m⟩, ⟨table⟩⟩) := by
  unfold receive ManifestChanges.receive
  cases hload : Manifest.load text with
  | error error => exact .inl ⟨error, rfl, rfl⟩
  | ok m =>
      refine .inr ?_
      by_cases hlast : live.changes.last = some m
      · exact .inl ⟨m, rfl, hlast, by simp [ManifestChanges.deliver, hlast]⟩
      · refine .inr ?_
        simp only [ManifestChanges.deliver, hlast, if_false]
        cases hbuild : (m.overrideScopes scopes).buildTable env with
        | error error => exact .inl ⟨m, error, rfl, hbuild, rfl⟩
        | ok table => exact .inr ⟨m, table, rfl, hbuild, rfl⟩

theorem published_receive_of_eq_none
    (h : (Manifest.load text).toOption.bind (·.tableUnder? scopes env) = none) :
    (live.receive scopes env text).2.published = live.published := by
  obtain ⟨_, -, hreceive⟩ | ⟨_, -, -, hreceive⟩ | ⟨_, _, -, -, hreceive⟩ |
    ⟨m, table, hload, hbuild, -⟩ := receive_cases live scopes env text
  · rw [hreceive]
  · rw [hreceive]
  · rw [hreceive]
  · simp [hload, Except.toOption, Manifest.tableUnder?, hbuild] at h

theorem eq_published_of_receive_eq_replaced {previous : RoutingTable}
    (h : (live.receive scopes env text).1 = .replaced previous) :
    previous = live.published.current := by
  obtain ⟨_, -, hreceive⟩ | ⟨_, -, -, hreceive⟩ | ⟨_, _, -, -, hreceive⟩ |
    ⟨_, _, -, -, hreceive⟩ := receive_cases live scopes env text
  · cases hreceive ▸ h
  · cases hreceive ▸ h
  · cases hreceive ▸ h
  · cases hreceive ▸ h
    rfl

theorem getLast?_filterMap_concat {α β : Type} (f : α → Option β) (xs : List α) (x : α) :
    ((xs ++ [x]).filterMap f).getLast? = (f x).or (xs.filterMap f).getLast? := by
  rw [List.filterMap_append, List.getLast?_append]
  cases hx : f x <;> simp [hx]

def follow (live : LiveTable) (scopes : List String) (env : Environment)
    (versions : List String) : LiveTable :=
  versions.foldl (fun live text => (live.receive scopes env text).2) live

/-- After the manifests `seen`, the last one is remembered, and the table of the last one
that has a table is published. -/
structure InStep (scopes : List String) (env : Environment) (seen : List Manifest)
    (live : LiveTable) : Prop where
  remembered : live.changes.last = seen.getLast?
  published : (seen.filterMap (·.tableUnder? scopes env)).getLast? = some live.published.current

namespace InStep

variable {seen : List Manifest}

theorem receive (h : InStep scopes env seen live) (text : String) :
    InStep scopes env (seen ++ Manifest.loadAll [text]) (live.receive scopes env text).2 := by
  obtain ⟨error, hload, hreceive⟩ | ⟨m, hload, hlast, hreceive⟩ |
    ⟨m, error, hload, hbuild, hreceive⟩ | ⟨m, table, hload, hbuild, hreceive⟩ :=
      receive_cases live scopes env text
  · rw [hreceive, Manifest.loadAll_of_error hload, List.append_nil]
    exact h
  · rw [hreceive, Manifest.loadAll_of_ok hload]
    refine ⟨by rw [hlast, List.getLast?_concat], ?_⟩
    -- The version is the last one of `seen`, which has had its turn already.
    obtain ⟨earlier, rfl⟩ := List.getLast?_eq_some_iff.1 (h.remembered.symm.trans hlast)
    have hpublished := h.published
    rw [getLast?_filterMap_concat] at hpublished ⊢
    rw [getLast?_filterMap_concat, ← Option.or_assoc, Option.or_self]
    exact hpublished
  · have hnone : m.tableUnder? scopes env = none := by
      rw [Manifest.tableUnder?, hbuild, Except.toOption]
    rw [hreceive, Manifest.loadAll_of_ok hload]
    refine ⟨List.getLast?_concat.symm, ?_⟩
    rw [getLast?_filterMap_concat, hnone]
    exact h.published
  · have htable : m.tableUnder? scopes env = some table := by
      rw [Manifest.tableUnder?, hbuild, Except.toOption]
    rw [hreceive, Manifest.loadAll_of_ok hload]
    refine ⟨List.getLast?_concat.symm, ?_⟩
    rw [getLast?_filterMap_concat, htable]
    rfl

theorem follow (h : InStep scopes env seen live) (versions : List String) :
    InStep scopes env (seen ++ Manifest.loadAll versions) (live.follow scopes env versions) := by
  induction versions generalizing seen live with
  | nil =>
      rw [Manifest.loadAll, List.filterMap_nil, List.append_nil]
      exact h
  | cons text versions ih =>
      have hsplit : Manifest.loadAll (text :: versions) =
          Manifest.loadAll [text] ++ Manifest.loadAll versions :=
        Manifest.loadAll_append [text] versions
      rw [hsplit, ← List.append_assoc]
      exact ih (h.receive text)

end InStep

/-- Building only what changed publishes what building every version does: the table of
the last version that has one. -/
theorem follow_publishes_last_built {m : Manifest} {scopes : List String} {env : Environment}
    {table : RoutingTable} (hbuild : (m.overrideScopes scopes).buildTable env = .ok table)
    (versions : List String) :
    let live := follow ⟨⟨some m⟩, ⟨table⟩⟩ scopes env versions
    ((m :: Manifest.loadAll versions).filterMap (·.tableUnder? scopes env)).getLast? =
        some live.published.current ∧
      ∀ text,
        ((Manifest.load text).toOption.bind (·.tableUnder? scopes env) = none →
          (live.receive scopes env text).2.published = live.published) ∧
        ∀ previous, (live.receive scopes env text).1 = .replaced previous →
          previous = live.published.current := by
  have hstart : InStep scopes env [m] ⟨⟨some m⟩, ⟨table⟩⟩ :=
    ⟨rfl, by simp [Manifest.tableUnder?, hbuild, Except.toOption]⟩
  exact ⟨(hstart.follow versions).published, fun text =>
    ⟨published_receive_of_eq_none, fun _ => eq_published_of_receive_eq_replaced⟩⟩

def oneRoute : Manifest where
  groups := [{ routes := [{ paths := ["/a"], methods := [.get] }] }]

def rejectedVersion : String :=
  "strict=true\n[properties]\nx=\"\x7b\"\n[[groups]]\n[[groups.routes]]\npaths=[\"$\x7bx\x7d\"]"

/-- The table of one route stays while the versions cannot be read, or are rejected, be it
for the second time. -/
theorem follow_rejectedVersion :
    (follow ⟨⟨some oneRoute⟩, ⟨(oneRoute.compile .none).table⟩⟩ [] .none
      ["[[", rejectedVersion, rejectedVersion]).published.current =
        (oneRoute.compile .none).table := by
  have hbuild : (oneRoute.overrideScopes []).buildTable .none =
      .ok (oneRoute.compile .none).table := by
    rw [Manifest.overrideScopes, if_pos rfl, Manifest.buildTable, if_neg (by decide)]
  have htable : oneRoute.tableUnder? [] .none = some (oneRoute.compile .none).table := by
    rw [Manifest.tableUnder?, hbuild, Except.toOption]
  have hnone : (Manifest.loadAll ["[[", rejectedVersion, rejectedVersion]).filterMap
      (·.tableUnder? [] .none) = [] :=
    List.isEmpty_iff.1 (by decide +kernel)
  have hrun := (follow_publishes_last_built hbuild ["[[", rejectedVersion, rejectedVersion]).1
  rw [List.filterMap_cons, htable, hnone] at hrun
  simp only [List.getLast?_singleton, Option.some.injEq] at hrun
  exact hrun.symm

end LiveTable

end RouteTable
