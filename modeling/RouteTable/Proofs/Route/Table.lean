import Mathlib.Data.List.Basic
import RouteTable.Proofs.Route.FirstOccurrence
/-!
# What a table holds

Adding entries to a table, one or many, leaves the first occurrences of what the table
held and of what came (`entries_insert`, `entries_extend`).  So does any number of steps, in
whatever order, from the last time on that the table was made anew.  Main statement:
`run_keeps_first_offered`, with what it takes for two entries to be equal.
-/

namespace RouteTable

namespace RouteEntry

theorem equivalence_same : Equivalence fun a b : RouteEntry => a.same b = true := by
  simp only [same, decide_eq_true_eq]
  exact ⟨fun _ => rfl, Eq.symm, Eq.trans⟩

/-- Two entries are the same route if all their fields agree, the tags of parameters
left aside. -/
theorem same_iff {a b : RouteEntry} :
    a.same b = true ↔
      a.method = b.method ∧ a.rawTemplate = b.rawTemplate ∧ a.resolvedPath = b.resolvedPath ∧
        a.matcher = b.matcher ∧ a.groupTags = b.groupTags ∧ a.routeTags = b.routeTags := by
  simp only [same, identity, decide_eq_true_eq, Identity.mk.injEq,
    Pattern.Matcher.fragment_inj]

end RouteEntry

theorem HashPiece.ofTags_append_inj {as bs : List Tag} {xs ys : List HashPiece} :
    ofTags as ++ xs = ofTags bs ++ ys ↔ as = bs ∧ xs = ys := by
  constructor
  · intro h
    have hinj : Function.Injective fun tag : Tag => HashPiece.text tag.name := by
      rintro ⟨a⟩ ⟨b⟩ hab
      cases hab
      rfl
    simp only [ofTags, List.cons_append, List.cons.injEq, HashPiece.length.injEq] at h
    obtain ⟨hnames, hrest⟩ := List.append_inj h.2 (by simpa using h.1)
    exact ⟨List.map_injective_iff.2 hinj hnames, hrest⟩
  · rintro ⟨rfl, rfl⟩
    rfl

theorem RouteEntry.same_iff_hashInput_eq {a b : RouteEntry} :
    a.same b = true ↔ a.hashInput = b.hashInput := by
  have htags : HashPiece.ofTags a.routeTags = HashPiece.ofTags b.routeTags ↔
      a.routeTags = b.routeTags := by
    simpa using @HashPiece.ofTags_append_inj a.routeTags b.routeTags [] []
  simp only [same_iff, hashInput, List.cons_append, List.nil_append, List.cons.injEq,
    HashPiece.index.injEq, HashPiece.text.injEq, Method.index_inj,
    Pattern.Matcher.fragment_inj, HashPiece.ofTags_append_inj, htags]

namespace RoutingTable

variable (t : RoutingTable) (e : RouteEntry) (es : List RouteEntry)

theorem eq_of_entries_eq {t u : RoutingTable} (h : t.entries = u.entries) : t = u := by
  cases t
  cases u
  cases h
  rfl

theorem firstOccurrences_entries : firstOccurrences t.entries = t.entries :=
  firstOccurrences_eq_self t.distinct

theorem entries_insert : (t.insert e).entries = firstOccurrences (t.entries ++ [e]) := by
  rw [firstOccurrences_append_singleton, firstOccurrences_entries, ← contains, insert]
  split <;> rfl

theorem entries_extend : (t.extend es).entries = firstOccurrences (t.entries ++ es) := by
  induction es generalizing t with
  | nil => rw [List.append_nil, firstOccurrences_entries, extend, List.foldl_nil]
  | cons e es ih =>
      rw [extend, List.foldl_cons, ← extend, ih, entries_insert, firstOccurrences_append_left,
        List.append_assoc, List.singleton_append]

theorem entries_ofList : (ofList es).entries = firstOccurrences es :=
  entries_extend empty es

theorem get?_extend {i : Nat} (hi : i < t.size) : (t.extend es).get? i = t.get? i := by
  rw [get?, entries_extend, firstOccurrences_append, firstOccurrences_entries]
  exact List.getElem?_append_left hi

theorem pairwise_entries : t.entries.Pairwise fun a b => a.same b = false := by
  refine (List.pairwise_map.1 t.distinct).imp fun hne => ?_
  simpa [RouteEntry.same] using hne

/-- To look only at entries with the hash of an entry is enough to find it. -/
theorem any_hash_eq_contains (hash : List HashPiece → UInt64) :
    (t.entries.any fun kept => hash kept.hashInput = hash e.hashInput && kept.same e) =
      t.contains e := by
  rw [contains]
  congr 1
  funext kept
  cases hsame : kept.same e with
  | true => simp [RouteEntry.same_iff_hashInput_eq.1 hsame]
  | false => simp

theorem offer_fst_iff : (t.offer e).1 = true ↔ ∀ kept ∈ t.entries, kept.same e = false := by
  simp [offer, contains]

end RoutingTable

/-- What is done to a table. -/
inductive TableStep where
  | insert (e : RouteEntry)
  | extend (es : List RouteEntry)
  | collect (es : List RouteEntry)

namespace TableStep

def entries : TableStep → List RouteEntry
  | insert e => [e]
  | extend es | collect es => es

def isCollect : TableStep → Bool
  | collect _ => true
  | insert _ | extend _ => false

/-- The entries that some steps offer, from the last time on that the table was made anew. -/
def offered : List TableStep → List RouteEntry
  | [] => []
  | step :: later =>
      if later.any isCollect then offered later else step.entries ++ offered later

end TableStep

namespace RoutingTable

def apply (t : RoutingTable) : TableStep → RoutingTable
  | .insert e => (t.offer e).2
  | .extend es => t.extend es
  | .collect es => ofList es

def run (t : RoutingTable) (steps : List TableStep) : RoutingTable := steps.foldl apply t

variable (t : RoutingTable)

theorem entries_apply (step : TableStep) :
    (t.apply step).entries =
      firstOccurrences ((if step.isCollect then [] else t.entries) ++ step.entries) := by
  cases step with
  | insert e => exact t.entries_insert e
  | extend es => exact t.entries_extend es
  | collect es => exact entries_ofList es

theorem entries_run_from (steps : List TableStep) :
    (t.run steps).entries = firstOccurrences
      ((if steps.any TableStep.isCollect then [] else t.entries) ++ TableStep.offered steps) := by
  induction steps generalizing t with
  | nil =>
      change t.entries = firstOccurrences (t.entries ++ [])
      rw [List.append_nil, firstOccurrences_entries]
  | cons step later ih =>
      rw [run, List.foldl_cons, ← run, ih, List.any_cons, TableStep.offered]
      cases hlater : later.any TableStep.isCollect with
      | true => simp
      | false => simp [entries_apply, firstOccurrences_append_left]

/-- Whatever is done to an empty table, and in whatever order: it holds the first entry
of every route among those offered since it was made anew, in the order in which they
came.  An entry is new if none of its route is there, and new entries move none.  Entries
are for one route if they agree in all but the tags of their parameters, which a hash
leaves aside too. -/
theorem run_keeps_first_offered (steps : List TableStep) :
    let t := empty.run steps
    t.entries.Pairwise (fun a b => a.same b = false) ∧
    t.entries = firstOccurrences (TableStep.offered steps) ∧
    (∀ e, e ∈ t.entries ↔ (TableStep.offered steps).find? (·.same e) = some e) ∧
    (∀ e, (t.offer e).1 = true ↔ ∀ kept ∈ t.entries, kept.same e = false) ∧
    (∀ es, t.extend es = t.run (es.map .insert)) ∧
    (∀ e, ∀ i < t.size, (t.offer e).2.get? i = t.get? i) ∧
    (∀ es, ∀ i < t.size, (t.extend es).get? i = t.get? i) ∧
    Equivalence (fun a b : RouteEntry => a.same b = true) ∧
    (∀ a b : RouteEntry, a.same b = true ↔ a.hashInput = b.hashInput) ∧
    (∀ (hash : List HashPiece → UInt64) e,
      (t.entries.any fun kept => hash kept.hashInput = hash e.hashInput && kept.same e) =
        t.contains e) ∧
    ∀ a b : RouteEntry, a.same b = true ↔
      a.method = b.method ∧ a.rawTemplate = b.rawTemplate ∧ a.resolvedPath = b.resolvedPath ∧
        a.matcher = b.matcher ∧ a.groupTags = b.groupTags ∧ a.routeTags = b.routeTags := by
  intro t
  have hentries : t.entries = firstOccurrences (TableStep.offered steps) := by
    rw [entries_run_from]
    simp [empty]
  refine ⟨t.pairwise_entries, hentries, fun e => ?_, t.offer_fst_iff, fun es => ?_,
    fun e i hi => ?_, fun es i hi => t.get?_extend es hi, RouteEntry.equivalence_same,
    fun a b => RouteEntry.same_iff_hashInput_eq, fun hash e => t.any_hash_eq_contains e hash,
    fun a b => RouteEntry.same_iff⟩
  · rw [hentries, mem_firstOccurrences_iff]
  · rw [run, List.foldl_map]
    rfl
  · exact t.get?_extend [e] hi

end RoutingTable

end RouteTable
