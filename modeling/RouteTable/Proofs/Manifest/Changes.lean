import Mathlib.Data.List.SplitBy
import RouteTable.Manifest.Changes
/-!
# Deliveries of a watched manifest

A file is looked at once in each of its versions.  `ofFiles` has the manifests that were seen,
and what is remembered is the last of these (`last_look`), whether it was delivered or not.
Each look goes one step on in the list of runs of equal manifests (`firstOfRuns_look`), and so
does every run of looks (`firstOfRuns_append_ofFiles`).  Main statement:
`deliveries_are_changes`.
-/

namespace RouteTable

section Runs

variable {α : Type} [DecidableEq α]

/-- The first element of each run of equal elements. -/
def firstOfRuns (xs : List α) : List α :=
  (xs.splitBy (· = ·)).filterMap List.head?

theorem firstOfRuns_append {xs ys : List α} (h : ∀ x ∈ xs.getLast?, ∀ y ∈ ys.head?, x ≠ y) :
    firstOfRuns (xs ++ ys) = firstOfRuns xs ++ firstOfRuns ys := by
  have hsplit := List.splitBy_append fun x hx y hy => decide_eq_false (h x hx y hy)
  rw [firstOfRuns, hsplit, List.filterMap_append]
  rfl

theorem firstOfRuns_replicate (n : Nat) (x : α) :
    firstOfRuns (List.replicate (n + 1) x) = [x] := by
  have hchain : (List.replicate (n + 1) x).IsChain fun y z => decide (y = z) = true :=
    List.isChain_replicate_of_rel _ (decide_eq_true rfl)
  rw [firstOfRuns, List.splitBy_of_isChain (by simp) hchain]
  rfl

theorem exists_last_run {xs : List α} {x : α} (h : xs.getLast? = some x) :
    ∃ front n, xs = front ++ List.replicate (n + 1) x ∧ front.getLast? ≠ some x := by
  induction xs using List.reverseRecOn with
  | nil => cases h
  | append_singleton xs y ih =>
      obtain rfl : y = x := by simpa using h
      by_cases hlast : xs.getLast? = some y
      · obtain ⟨front, n, hxs, hfront⟩ := ih hlast
        refine ⟨front, n + 1, ?_, hfront⟩
        rw [hxs, List.append_assoc, List.replicate_succ' (n := n + 1)]
      · exact ⟨xs, 0, rfl, hlast⟩

theorem firstOfRuns_concat_of_ne {xs : List α} {x : α} (h : xs.getLast? ≠ some x) :
    firstOfRuns (xs ++ [x]) = firstOfRuns xs ++ [x] := by
  refine firstOfRuns_append fun y hy z hz heq => h ?_
  cases hz
  exact heq ▸ hy

theorem firstOfRuns_concat_of_eq {xs : List α} {x : α} (h : xs.getLast? = some x) :
    firstOfRuns (xs ++ [x]) = firstOfRuns xs := by
  obtain ⟨front, n, rfl, hfront⟩ := exists_last_run h
  have hrun (n : Nat) : firstOfRuns (front ++ List.replicate (n + 1) x) =
      firstOfRuns front ++ [x] := by
    rw [firstOfRuns_append, firstOfRuns_replicate]
    intro y hy z hz heq
    cases hz
    exact hfront (heq ▸ hy)
  rw [List.append_assoc, ← List.replicate_succ', hrun, hrun]

theorem firstOfRuns_append_toList (xs : List α) (x? : Option α) :
    firstOfRuns (xs ++ x?.toList) = firstOfRuns xs ++ x?.toList.filter (xs.getLast? ≠ some ·) := by
  cases x? with
  | none => simp
  | some x =>
      by_cases hlast : xs.getLast? = some x
      · simp [firstOfRuns_concat_of_eq hlast, hlast]
      · simp [firstOfRuns_concat_of_ne hlast, hlast]

theorem getLast?_firstOfRuns (xs : List α) : (firstOfRuns xs).getLast? = xs.getLast? := by
  induction xs using List.reverseRecOn with
  | nil => rfl
  | append_singleton xs x ih =>
      by_cases hlast : xs.getLast? = some x
      · rw [firstOfRuns_concat_of_eq hlast, ih, hlast, List.getLast?_concat]
      · rw [firstOfRuns_concat_of_ne hlast, List.getLast?_concat, List.getLast?_concat]

theorem isChain_firstOfRuns (xs : List α) : (firstOfRuns xs).IsChain (· ≠ ·) := by
  induction xs using List.reverseRecOn with
  | nil => exact .nil
  | append_singleton xs x ih =>
      by_cases hlast : xs.getLast? = some x
      · rw [firstOfRuns_concat_of_eq hlast]
        exact ih
      · rw [firstOfRuns_concat_of_ne hlast, List.isChain_append]
        refine ⟨ih, .singleton x, fun y hy z hz heq => hlast ?_⟩
        rw [getLast?_firstOfRuns] at hy
        cases hz
        exact heq ▸ hy

end Runs

namespace Manifest

def ofFiles (files : List (Option String)) : List Manifest :=
  files.filterMap ofFile?

theorem ofFiles_singleton (file : Option String) : ofFiles [file] = (ofFile? file).toList := by
  cases h : ofFile? file <;> simp [ofFiles, h]

theorem ofFiles_append (front back : List (Option String)) :
    ofFiles (front ++ back) = ofFiles front ++ ofFiles back :=
  List.filterMap_append

end Manifest

namespace ManifestChanges

variable {c : ManifestChanges} {seen : List Manifest}

theorem look_eq (c : ManifestChanges) (file : Option String) :
    c.look file = match Manifest.ofFile? file with
      | none => (none, c)
      | some m => c.deliver m := by
  cases file with
  | none => rfl
  | some text =>
      simp only [look, receive, Manifest.ofFile?, Option.bind_some]
      cases Manifest.load text with
      | error error => rfl
      | ok m =>
          simp only [Except.toOption, deliver]
          by_cases hlast : c.last = some m
          · simp [hlast, VersionOutcome.delivered?]
          · simp [hlast, VersionOutcome.delivered?]

theorem toList_look (c : ManifestChanges) (file : Option String) :
    (c.look file).1.toList = (Manifest.ofFile? file).toList.filter (c.last ≠ some ·) := by
  rw [look_eq]
  cases Manifest.ofFile? file with
  | none => rfl
  | some m => by_cases hlast : c.last = some m <;> simp [deliver, hlast]

/-- What is remembered is the last manifest seen: one that is not delivered equals it. -/
theorem last_look (h : c.last = seen.getLast?) (file : Option String) :
    (c.look file).2.last = (seen ++ Manifest.ofFiles [file]).getLast? := by
  rw [look_eq, Manifest.ofFiles_singleton]
  cases Manifest.ofFile? file with
  | none => simpa using h
  | some m => by_cases hlast : c.last = some m <;> simp [deliver, hlast]

theorem firstOfRuns_look (h : c.last = seen.getLast?) (file : Option String) :
    firstOfRuns (seen ++ Manifest.ofFiles [file]) =
      firstOfRuns seen ++ (c.look file).1.toList := by
  rw [Manifest.ofFiles_singleton, firstOfRuns_append_toList, toList_look, h]

def delivered (c : ManifestChanges) : List (Option String) → List Manifest
  | [] => []
  | file :: files => (c.look file).1.toList ++ (c.look file).2.delivered files

/-- What is delivered begins the runs that come after those of the manifests seen before. -/
theorem firstOfRuns_append_ofFiles (h : c.last = seen.getLast?) (files : List (Option String)) :
    firstOfRuns (seen ++ Manifest.ofFiles files) = firstOfRuns seen ++ c.delivered files := by
  induction files generalizing c seen with
  | nil => simp [Manifest.ofFiles, delivered]
  | cons file files ih =>
      have hsplit : Manifest.ofFiles (file :: files) =
          Manifest.ofFiles [file] ++ Manifest.ofFiles files :=
        Manifest.ofFiles_append [file] files
      rw [hsplit, ← List.append_assoc, ih (last_look h file), firstOfRuns_look h file, delivered,
        List.append_assoc]

theorem delivered_concat (h : c.last = seen.getLast?) (files : List (Option String))
    (file : Option String) :
    c.delivered (files ++ [file]) = c.delivered files ++
      (Manifest.ofFiles [file]).filter ((seen ++ Manifest.ofFiles files).getLast? ≠ some ·) := by
  refine (List.append_right_inj (firstOfRuns seen)).1 ?_
  rw [← firstOfRuns_append_ofFiles h, Manifest.ofFiles_append, ← List.append_assoc,
    Manifest.ofFiles_singleton, firstOfRuns_append_toList, firstOfRuns_append_ofFiles h,
    List.append_assoc]

theorem delivered_filter (c : ManifestChanges) (files : List (Option String)) :
    c.delivered (files.filter fun file => (Manifest.ofFile? file).isSome) = c.delivered files := by
  have hfiles : Manifest.ofFiles (files.filter fun file => (Manifest.ofFile? file).isSome) =
      Manifest.ofFiles files := by
    rw [Manifest.ofFiles, List.filterMap_filter]
    refine List.filterMap_congr fun file _ => ?_
    cases Manifest.ofFile? file <;> rfl
  have hlast : c.last = c.last.toList.getLast? := by
    cases c.last <;> rfl
  refine (List.append_right_inj (firstOfRuns c.last.toList)).1 ?_
  rw [← firstOfRuns_append_ofFiles hlast, ← firstOfRuns_append_ofFiles hlast, hfiles]

theorem last_watching (baseline : Option String) :
    (watching baseline).last = (Manifest.ofFiles [baseline]).getLast? := by
  rw [Manifest.ofFiles_singleton]
  cases h : Manifest.ofFile? baseline <;> exact h

theorem firstOfRuns_ofFiles_singleton (file : Option String) :
    firstOfRuns (Manifest.ofFiles [file]) = Manifest.ofFiles [file] := by
  rw [Manifest.ofFiles_singleton]
  cases Manifest.ofFile? file with
  | none => rfl
  | some m => exact firstOfRuns_replicate 0 m

/-- What is delivered are the changes: of each run of equal manifests the first one, without the
baseline.  Files without a manifest make no difference, and a further version is delivered if
it has a manifest other than the last one, be it new or an earlier one again. -/
theorem deliveries_are_changes (baseline : Option String) (versions : List (Option String)) :
    let start := Manifest.ofFiles [baseline]
    let seen := Manifest.ofFiles (baseline :: versions)
    let delivered := (watching baseline).delivered versions
    delivered = (firstOfRuns seen).drop start.length ∧
      (start ++ delivered).IsChain (· ≠ ·) ∧
      (start ++ delivered).getLast? = seen.getLast? ∧
      (watching baseline).delivered (versions.filter fun file => (Manifest.ofFile? file).isSome) =
        delivered ∧
      ∀ version, (watching baseline).delivered (versions ++ [version]) =
        delivered ++ (Manifest.ofFiles [version]).filter (seen.getLast? ≠ some ·) := by
  intro start seen delivered
  have hlast : (watching baseline).last = start.getLast? := last_watching baseline
  have hseen : seen = start ++ Manifest.ofFiles versions :=
    Manifest.ofFiles_append [baseline] versions
  have hruns : firstOfRuns seen = start ++ delivered := by
    rw [hseen, firstOfRuns_append_ofFiles hlast, firstOfRuns_ofFiles_singleton]
  refine ⟨?_, ?_, ?_, delivered_filter _ versions, fun version => ?_⟩
  · rw [hruns, List.drop_left]
  · rw [← hruns]
    exact isChain_firstOfRuns seen
  · rw [← hruns, getLast?_firstOfRuns]
  · rw [hseen]
    exact delivered_concat hlast versions version

/-- There is no file at first, then it is empty, malformed, gone, empty, other and empty again. -/
example : (watching none).delivered
    [some "", some "[[", none, some "", some "strict=true", some ""] =
      [{}, { strict := true }, {}] := by
  cbv

end ManifestChanges
end RouteTable
