import RouteTable.Proofs.Route.FirstOccurrence
import RouteTable.Route.Build
/-!
# What a build records

A build takes in the outcomes of its declarations one after the other.  After
each of them, its table, its errors, its counters and its events are those of the
outcomes so far: `Records.add` is the step and `Records.foldl_add` the run.  Main
statement: `build_records`.
-/

namespace RouteTable

/-! ## Outcomes -/

def entriesOf (items : List (Except CompileError RouteEntry)) : List RouteEntry :=
  items.filterMap Except.toOption

def errorsOf (items : List (Except CompileError RouteEntry)) : List CompileError :=
  items.filterMap fun
    | .ok _ => none
    | .error e => some e

section

variable (items : List (Except CompileError RouteEntry)) (e : RouteEntry) (error : CompileError)

@[simp] theorem entriesOf_append_ok : entriesOf (items ++ [.ok e]) = entriesOf items ++ [e] := by
  simp [entriesOf, Except.toOption]

@[simp] theorem entriesOf_append_error :
    entriesOf (items ++ [.error error]) = entriesOf items := by
  simp [entriesOf, Except.toOption]

@[simp] theorem errorsOf_append_ok : errorsOf (items ++ [.ok e]) = errorsOf items := by
  simp [errorsOf]

@[simp] theorem errorsOf_append_error :
    errorsOf (items ++ [.error error]) = errorsOf items ++ [error] := by
  simp [errorsOf]

@[simp] theorem entriesOf_cons_ok : entriesOf (.ok e :: items) = e :: entriesOf items := rfl

@[simp] theorem entriesOf_cons_error : entriesOf (.error error :: items) = entriesOf items := rfl

@[simp] theorem errorsOf_cons_ok : errorsOf (.ok e :: items) = errorsOf items := rfl

@[simp] theorem errorsOf_cons_error :
    errorsOf (.error error :: items) = error :: errorsOf items := rfl

theorem entriesOf_append (items more : List (Except CompileError RouteEntry)) :
    entriesOf (items ++ more) = entriesOf items ++ entriesOf more :=
  List.filterMap_append

theorem errorsOf_append (items more : List (Except CompileError RouteEntry)) :
    errorsOf (items ++ more) = errorsOf items ++ errorsOf more :=
  List.filterMap_append

theorem mem_entriesOf : e ∈ entriesOf items ↔ .ok e ∈ items := by
  induction items with
  | nil => simp [entriesOf]
  | cons item items ih => cases item <;> simp [ih]

theorem mem_errorsOf : error ∈ errorsOf items ↔ .error error ∈ items := by
  induction items with
  | nil => simp [errorsOf]
  | cons item items ih => cases item <;> simp [ih]

theorem length_entriesOf_add_length_errorsOf :
    (entriesOf items).length + (errorsOf items).length = items.length := by
  induction items with
  | nil => rfl
  | cons item items ih =>
      cases item with
      | ok e =>
          rw [entriesOf_cons_ok, errorsOf_cons_ok, List.length_cons, List.length_cons]
          omega
      | error error =>
          rw [entriesOf_cons_error, errorsOf_cons_error, List.length_cons, List.length_cons]
          omega

end

/-! ## Events -/

/-- What is recorded of an outcome that comes after some others. -/
def eventAfter (earlier : List (Except CompileError RouteEntry)) :
    Except CompileError RouteEntry → BuildEvent
  | .ok e =>
      if (entriesOf earlier).any (·.same e) then .duplicate e.method e.rawTemplate
      else .compiled e.method e.rawTemplate
  | .error e => .rejected e

def eventsOf (items : List (Except CompileError RouteEntry)) : List BuildEvent :=
  items.mapIdx fun i item => eventAfter (items.take i) item

theorem eventsOf_append_singleton (items : List (Except CompileError RouteEntry))
    (item : Except CompileError RouteEntry) :
    eventsOf (items ++ [item]) = eventsOf items ++ [eventAfter items item] := by
  rw [eventsOf, List.mapIdx_concat, List.take_left]
  congr 1
  refine List.mapIdx_eq_mapIdx_iff.2 fun i hi => ?_
  rw [List.take_append_of_le_length (Nat.le_of_lt hi)]

/-! ## Steps of a build -/

/-- A build that has taken in these outcomes and nothing else. -/
structure Build.Records (items : List (Except CompileError RouteEntry)) (b : Build) : Prop where
  entries : b.table.entries = firstOccurrences (entriesOf items)
  rejected : b.rejected = errorsOf items
  compiledCount : b.compiledCount = b.table.size
  duplicateCount : b.duplicateCount + b.table.size = (entriesOf items).length
  rejectedCount : b.rejectedCount = (errorsOf items).length
  events : b.events = eventsOf items

namespace Build

variable {items : List (Except CompileError RouteEntry)} {b : Build}

theorem Records.contains_eq (h : b.Records items) (e : RouteEntry) :
    b.table.contains e = (entriesOf items).any (·.same e) := by
  rw [RoutingTable.contains, h.entries, any_same_firstOccurrences]

theorem records_empty : Build.Records [] {} where
  entries := rfl
  rejected := rfl
  compiledCount := rfl
  duplicateCount := rfl
  rejectedCount := rfl
  events := rfl

theorem Records.add_error (h : b.Records items) (error : CompileError) :
    (b.add (.error error)).Records (items ++ [.error error]) where
  entries := by rw [entriesOf_append_error, ← h.entries, add]
  rejected := by rw [errorsOf_append_error, ← h.rejected, add]
  compiledCount := h.compiledCount
  duplicateCount := by rw [entriesOf_append_error, ← h.duplicateCount, add]
  rejectedCount := by rw [errorsOf_append_error, List.length_append, ← h.rejectedCount]; rfl
  events := by rw [eventsOf_append_singleton, ← h.events]; rfl

theorem Records.add_duplicate (h : b.Records items) {e : RouteEntry}
    (hcontains : b.table.contains e = true) : (b.add (.ok e)).Records (items ++ [.ok e]) := by
  have hadd : b.add (.ok e) = { b with
      duplicateCount := b.duplicateCount + 1
      events := b.events ++ [.duplicate e.method e.rawTemplate] } := by
    rw [add, if_pos hcontains]
  have hearlier := h.contains_eq e
  rw [hcontains] at hearlier
  rw [hadd]
  exact {
    entries := by
      rw [entriesOf_append_ok, firstOccurrences_append_singleton, ← hearlier]
      exact h.entries
    rejected := by rw [errorsOf_append_ok, ← h.rejected]
    compiledCount := h.compiledCount
    duplicateCount := by
      have hcount := h.duplicateCount
      rw [entriesOf_append_ok, List.length_append, List.length_singleton, ← hcount]
      dsimp only
      omega
    rejectedCount := by rw [errorsOf_append_ok, ← h.rejectedCount]
    events := by
      rw [eventsOf_append_singleton, ← h.events, eventAfter, ← hearlier]
      rfl }

theorem Records.add_new (h : b.Records items) {e : RouteEntry}
    (hcontains : b.table.contains e = false) : (b.add (.ok e)).Records (items ++ [.ok e]) := by
  have hadd : b.add (.ok e) = { b with
      table := b.table.insert e
      compiledCount := b.compiledCount + 1
      events := b.events ++ [.compiled e.method e.rawTemplate] } := by
    rw [add, if_neg (by simp [hcontains])]
  have hentries : (b.table.insert e).entries = b.table.entries ++ [e] := by
    simp [RoutingTable.insert, hcontains]
  have hsize : (b.table.insert e).size = b.table.size + 1 := by
    simp [RoutingTable.size, hentries]
  have hearlier := h.contains_eq e
  rw [hcontains] at hearlier
  rw [hadd]
  exact {
    entries := by
      rw [entriesOf_append_ok, firstOccurrences_append_singleton, ← hearlier, hentries, h.entries]
      rfl
    rejected := by rw [errorsOf_append_ok, ← h.rejected]
    compiledCount := by rw [hsize, h.compiledCount]
    duplicateCount := by
      have hcount := h.duplicateCount
      rw [entriesOf_append_ok, List.length_append, List.length_singleton, hsize, ← hcount]
      rfl
    rejectedCount := by rw [errorsOf_append_ok, ← h.rejectedCount]
    events := by
      rw [eventsOf_append_singleton, ← h.events, eventAfter, ← hearlier]
      rfl }

theorem Records.add (h : b.Records items) (item : Except CompileError RouteEntry) :
    (b.add item).Records (items ++ [item]) := by
  cases item with
  | error error => exact h.add_error error
  | ok e =>
      cases hcontains : b.table.contains e with
      | true => exact h.add_duplicate hcontains
      | false => exact h.add_new hcontains

theorem Records.foldl_add (h : b.Records items) (more : List (Except CompileError RouteEntry)) :
    (more.foldl Build.add b).Records (items ++ more) := by
  induction more generalizing b items with
  | nil => simpa using h
  | cons item more ih => simpa using ih (h.add item)

theorem skippedDeclarations_add (b : Build) (item : Except CompileError RouteEntry) :
    (b.add item).skippedDeclarations = b.skippedDeclarations := by
  cases item with
  | error error => rfl
  | ok e =>
      rw [add]
      split <;> rfl

theorem skippedDeclarations_foldl_add (b : Build)
    (items : List (Except CompileError RouteEntry)) :
    (items.foldl add b).skippedDeclarations = b.skippedDeclarations := by
  induction items generalizing b with
  | nil => rfl
  | cons item items ih => rw [List.foldl_cons, ih, skippedDeclarations_add]

end Build

/-! ## Declarations -/

namespace RouteCompiler

def outcomes (c : RouteCompiler) (ds : List Declaration) :
    List (Except CompileError RouteEntry) :=
  (ds.filter c.accepts).flatMap c.compile

def skipped (c : RouteCompiler) (ds : List Declaration) : Nat :=
  (ds.filter fun d => !c.accepts d).length

theorem outcomes_append (c : RouteCompiler) (ds es : List Declaration) :
    c.outcomes (ds ++ es) = c.outcomes ds ++ c.outcomes es := by
  rw [outcomes, List.filter_append, List.flatMap_append, ← outcomes, ← outcomes]

theorem outcomes_cons (c : RouteCompiler) (d : Declaration) (ds : List Declaration) :
    c.outcomes (d :: ds) = (if c.accepts d then c.compile d else []) ++ c.outcomes ds := by
  cases haccepts : c.accepts d <;> simp [outcomes, haccepts]

theorem outcomes_nil (c : RouteCompiler) : c.outcomes [] = [] := rfl

theorem skipped_append (c : RouteCompiler) (ds es : List Declaration) :
    c.skipped (ds ++ es) = c.skipped ds + c.skipped es := by
  rw [skipped, List.filter_append, List.length_append, ← skipped, ← skipped]

/-- Takes all declarations, and gives every placeholder its default. -/
def plain : RouteCompiler where
  properties := fun _ default => default

theorem accepts_plain (d : Declaration) : plain.accepts d = true := rfl

end RouteCompiler

theorem Build.Records.addDeclaration {items : List (Except CompileError RouteEntry)}
    {b : Build} (h : b.Records items) (c : RouteCompiler) (d : Declaration) :
    (b.addDeclaration c d).Records (items ++ c.outcomes [d]) := by
  unfold Build.addDeclaration
  split
  · rename_i haccepts
    simpa [RouteCompiler.outcomes, haccepts] using h.foldl_add (c.compile d)
  · rename_i haccepts
    have hitems : items ++ c.outcomes [d] = items := by simp [RouteCompiler.outcomes, haccepts]
    rw [hitems]
    exact { h with }

theorem Build.Records.foldl_addDeclaration {items : List (Except CompileError RouteEntry)}
    {b : Build} (h : b.Records items) (c : RouteCompiler) (ds : List Declaration) :
    (ds.foldl (Build.addDeclaration c) b).Records (items ++ c.outcomes ds) := by
  induction ds generalizing b items with
  | nil => simpa [RouteCompiler.outcomes] using h
  | cons d ds ih =>
      have hds : c.outcomes (d :: ds) = c.outcomes [d] ++ c.outcomes ds :=
        c.outcomes_append [d] ds
      rw [hds, ← List.append_assoc]
      exact ih (h.addDeclaration c d)

theorem skippedDeclarations_addDeclaration (c : RouteCompiler) (b : Build) (d : Declaration) :
    (b.addDeclaration c d).skippedDeclarations = b.skippedDeclarations + c.skipped [d] := by
  unfold Build.addDeclaration
  split
  · rename_i haccepts
    simp [Build.skippedDeclarations_foldl_add, RouteCompiler.skipped, haccepts]
  · rename_i haccepts
    simp [RouteCompiler.skipped, haccepts]

theorem skippedDeclarations_foldl_addDeclaration (c : RouteCompiler) (b : Build)
    (ds : List Declaration) :
    (ds.foldl (Build.addDeclaration c) b).skippedDeclarations =
      b.skippedDeclarations + c.skipped ds := by
  induction ds generalizing b with
  | nil => rfl
  | cons d ds ih =>
      have hds : c.skipped (d :: ds) = c.skipped [d] + c.skipped ds := c.skipped_append [d] ds
      rw [List.foldl_cons, ih, skippedDeclarations_addDeclaration, hds, Nat.add_assoc]

/-! ## Whole builds -/

theorem entries_build (c : RouteCompiler) (ds : List Declaration) :
    (c.build ds).table.entries = firstOccurrences (entriesOf (c.outcomes ds)) :=
  (Build.records_empty.foldl_addDeclaration c ds).entries

theorem rejected_build (c : RouteCompiler) (ds : List Declaration) :
    (c.build ds).rejected = errorsOf (c.outcomes ds) :=
  (Build.records_empty.foldl_addDeclaration c ds).rejected

theorem compiledCount_build (c : RouteCompiler) (ds : List Declaration) :
    (c.build ds).compiledCount = (c.build ds).table.size :=
  (Build.records_empty.foldl_addDeclaration c ds).compiledCount

theorem duplicateCount_build (c : RouteCompiler) (ds : List Declaration) :
    (c.build ds).duplicateCount + (c.build ds).table.size =
      (entriesOf (c.outcomes ds)).length :=
  (Build.records_empty.foldl_addDeclaration c ds).duplicateCount

theorem rejectedCount_build (c : RouteCompiler) (ds : List Declaration) :
    (c.build ds).rejectedCount = (c.build ds).rejected.length := by
  rw [rejected_build]
  exact (Build.records_empty.foldl_addDeclaration c ds).rejectedCount

/-- A build keeps the first entry of every route and all errors, in the order of its
declarations; its counters and events account for every outcome. -/
theorem build_records (c : RouteCompiler) (ds : List Declaration) :
    (c.build ds).table.entries = firstOccurrences (entriesOf (c.outcomes ds)) ∧
    (c.build ds).rejected = errorsOf (c.outcomes ds) ∧
    (c.build ds).compiledCount = (c.build ds).table.size ∧
    (c.build ds).tableSize = some (c.build ds).table.size ∧
    (c.build ds).duplicateCount = (entriesOf (c.outcomes ds)).length - (c.build ds).table.size ∧
    (c.build ds).rejectedCount = (c.build ds).rejected.length ∧
    (c.build ds).compiledCount + (c.build ds).duplicateCount + (c.build ds).rejectedCount =
      (c.outcomes ds).length ∧
    (c.build ds).events = eventsOf (c.outcomes ds) ++
      [.finished (c.build ds).table.size (c.build ds).rejected.length (c.skipped ds)] := by
  have hrun : (ds.foldl (Build.addDeclaration c) {}).Records (c.outcomes ds) :=
    Build.records_empty.foldl_addDeclaration c ds
  have hskipped : (ds.foldl (Build.addDeclaration c) {}).skippedDeclarations = c.skipped ds := by
    rw [skippedDeclarations_foldl_addDeclaration, Nat.zero_add]
  have hrejected : (c.build ds).rejectedCount = (c.build ds).rejected.length := by
    rw [rejected_build]
    exact hrun.rejectedCount
  have hduplicate : (c.build ds).duplicateCount + (c.build ds).table.size =
      (entriesOf (c.outcomes ds)).length := hrun.duplicateCount
  have hcompiled : (c.build ds).compiledCount = (c.build ds).table.size := hrun.compiledCount
  have htotal := length_entriesOf_add_length_errorsOf (c.outcomes ds)
  rw [← rejected_build] at htotal
  refine ⟨hrun.entries, hrun.rejected, hcompiled, rfl, by omega, hrejected, by omega, ?_⟩
  rw [← hrun.events, ← hskipped]
  rfl

end RouteTable
