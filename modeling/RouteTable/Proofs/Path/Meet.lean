import Mathlib.Data.List.DropRight
import RouteTable.Path.Join
/-!
# Where segments meet

Joining cuts its segments one after the other, each at both ends.  The same comes of putting
them together two at a time: `toList_joinWith`.  In which order this is done makes no
difference: `meet_assoc`.
-/

namespace RouteTable.Path

variable {sep : Char}

/-- Two segments with one separator between them; an empty one does not count. -/
def meet (sep : Char) (left right : List Char) : List Char :=
  if left = [] then right
  else if right = [] then left
  else trimEnd sep left ++ sep :: trimStart sep right

@[simp] theorem meet_nil_left (sep : Char) (cs : List Char) : meet sep [] cs = cs := by
  simp [meet]

@[simp] theorem meet_nil_right (sep : Char) (cs : List Char) : meet sep cs [] = cs := by
  simp +contextual [meet]

theorem meet_of_ne_nil {left right : List Char} (hleft : left ≠ []) (hright : right ≠ []) :
    meet sep left right = trimEnd sep left ++ sep :: trimStart sep right := by
  rw [meet, if_neg hleft, if_neg hright]

theorem meet_ne_nil {left : List Char} (h : left ≠ []) (right : List Char) :
    meet sep left right ≠ [] := by
  by_cases hright : right = []
  · rwa [hright, meet_nil_right]
  · rw [meet_of_ne_nil h hright]
    simp

theorem trimEnd_cons (sep c : Char) (cs : List Char) :
    trimEnd sep (c :: cs) =
      if trimEnd sep cs = [] ∧ c = sep then [] else c :: trimEnd sep cs := by
  unfold trimEnd
  rw [List.reverse_cons, List.dropWhile_append]
  cases hrest : cs.reverse.dropWhile (· = sep) with
  | nil => by_cases hc : c = sep <;> simp [hc]
  | cons d rest => simp

theorem exists_trimEnd_append (sep : Char) (cs : List Char) :
    ∃ n, cs = trimEnd sep cs ++ List.replicate n sep := by
  refine ⟨(cs.rtakeWhile (· = sep)).length, ?_⟩
  have hcut : trimEnd sep cs ++ cs.rtakeWhile (· = sep) = cs := List.rdropWhile_append_rtakeWhile
  have hseps : cs.rtakeWhile (· = sep) = List.replicate (cs.rtakeWhile (· = sep)).length sep := by
    apply List.eq_replicate_of_mem
    intro c hc
    simpa using List.mem_rtakeWhile_imp hc
  rw [← hseps]
  exact hcut.symm

theorem getLast?_trimEnd (sep : Char) (cs : List Char) : (trimEnd sep cs).getLast? ≠ some sep := by
  rw [trimEnd, List.getLast?_reverse]
  intro h
  have hhead := List.head?_dropWhile_not (fun c => decide (c = sep)) cs.reverse
  rw [h] at hhead
  simp at hhead

theorem exists_append_trimStart (sep : Char) (cs : List Char) :
    ∃ n, cs = List.replicate n sep ++ trimStart sep cs := by
  refine ⟨(cs.takeWhile (· = sep)).length, ?_⟩
  have hcut := List.takeWhile_append_dropWhile (p := fun c => decide (c = sep)) (l := cs)
  have hseps : cs.takeWhile (· = sep) = List.replicate (cs.takeWhile (· = sep)).length sep := by
    apply List.eq_replicate_of_mem
    intro c hc
    simpa using List.mem_takeWhile_imp hc
  rw [← hseps]
  exact hcut.symm

theorem head?_trimStart (sep : Char) (cs : List Char) : (trimStart sep cs).head? ≠ some sep := by
  intro h
  have hhead := List.head?_dropWhile_not (fun c => decide (c = sep)) cs
  rw [trimStart] at h
  rw [h] at hhead
  simp at hhead

@[simp] theorem trimStart_cons_self (sep : Char) (cs : List Char) :
    trimStart sep (sep :: cs) = trimStart sep cs :=
  List.dropWhile_cons_of_pos (by simp)

theorem trimStart_cons_of_ne {c : Char} (hc : c ≠ sep) (cs : List Char) :
    trimStart sep (c :: cs) = c :: cs :=
  List.dropWhile_cons_of_neg (by simpa using hc)

theorem trimStart_of_head? {cs : List Char} (h : cs.head? ≠ some sep) :
    trimStart sep cs = cs := by
  cases cs with
  | nil => rfl
  | cons c cs =>
      have hc : c ≠ sep := by simpa using h
      exact trimStart_cons_of_ne hc cs

theorem trimEnd_append {front : List Char} (h : front.getLast? ≠ some sep) (back : List Char) :
    trimEnd sep (front ++ back) = front ++ trimEnd sep back := by
  induction front with
  | nil => rfl
  | cons c front ih =>
      rw [List.cons_append, trimEnd_cons]
      cases front with
      | nil =>
          have hc : c ≠ sep := by simpa using h
          rw [if_neg (fun hcut => hc hcut.2)]
          rfl
      | cons d front =>
          have hfront : trimEnd sep (d :: front ++ back) = d :: front ++ trimEnd sep back :=
            ih (by simpa using h)
          rw [hfront, if_neg (by simp)]
          rfl

/-- What two neighbours leave of a segment between them does not depend on which of them
comes first, even if it consists of separators. -/
theorem trimEnd_cons_trimStart (middle : List Char) {back : List Char}
    (hback : back.head? ≠ some sep) :
    trimEnd sep (sep :: trimStart sep middle) ++ sep :: back =
      sep :: trimStart sep (trimEnd sep middle ++ sep :: back) := by
  induction middle with
  | nil =>
      have hempty : trimEnd sep [sep] = [] := by simp [trimEnd]
      have hkept : trimStart sep (sep :: back) = back := by
        rw [trimStart_cons_self, trimStart_of_head? hback]
      change trimEnd sep [sep] ++ sep :: back = sep :: trimStart sep (sep :: back)
      rw [hempty, hkept, List.nil_append]
  | cons c middle ih =>
      by_cases hc : c = sep
      · subst hc
        rw [trimStart_cons_self, ih, trimEnd_cons]
        by_cases hall : trimEnd c middle = []
        · rw [if_pos ⟨hall, rfl⟩, hall]
        · rw [if_neg (fun hcut => hall hcut.1), List.cons_append, trimStart_cons_self]
      · have hmiddle : trimEnd sep (c :: middle) = c :: trimEnd sep middle := by
          rw [trimEnd_cons, if_neg (fun hcut => hc hcut.2)]
        rw [trimStart_cons_of_ne hc, trimEnd_cons, hmiddle, if_neg (by simp), List.cons_append,
          List.cons_append, trimStart_cons_of_ne hc]

theorem meet_assoc (sep : Char) (left middle right : List Char) :
    meet sep (meet sep left middle) right = meet sep left (meet sep middle right) := by
  by_cases hleft : left = []
  · rw [hleft, meet_nil_left, meet_nil_left]
  by_cases hright : right = []
  · rw [hright, meet_nil_right, meet_nil_right]
  by_cases hmiddle : middle = []
  · rw [hmiddle, meet_nil_left, meet_nil_right]
  calc
    meet sep (meet sep left middle) right
    _ = trimEnd sep (trimEnd sep left ++ sep :: trimStart sep middle) ++
          sep :: trimStart sep right := by
        rw [meet_of_ne_nil (meet_ne_nil hleft middle) hright, meet_of_ne_nil hleft hmiddle]
    _ = trimEnd sep left ++ (trimEnd sep (sep :: trimStart sep middle) ++
          sep :: trimStart sep right) := by
        rw [trimEnd_append (getLast?_trimEnd sep left), List.append_assoc]
    _ = trimEnd sep left ++
          sep :: trimStart sep (trimEnd sep middle ++ sep :: trimStart sep right) := by
        rw [trimEnd_cons_trimStart middle (head?_trimStart sep right)]
    _ = meet sep left (meet sep middle right) := by
        rw [meet_of_ne_nil hleft (meet_ne_nil hmiddle right), meet_of_ne_nil hmiddle hright]

instance (sep : Char) : Std.Associative (meet sep) := ⟨meet_assoc sep⟩

theorem foldl_meet_append {front left : List Char} (hfront : front.getLast? ≠ some sep)
    (hleft : left ≠ []) (rest : List (List Char)) :
    rest.foldl (meet sep) (front ++ left) = front ++ rest.foldl (meet sep) left := by
  induction rest generalizing left with
  | nil => rfl
  | cons right rest ih =>
      have hmeet : meet sep (front ++ left) right = front ++ meet sep left right := by
        by_cases hright : right = []
        · rw [hright, meet_nil_right, meet_nil_right]
        · have hboth : front ++ left ≠ [] := by simp [hleft]
          rw [meet_of_ne_nil hboth hright, meet_of_ne_nil hleft hright, trimEnd_append hfront,
            List.append_assoc]
      rw [List.foldl_cons, List.foldl_cons, hmeet, ih (meet_ne_nil hleft right)]

theorem flatten_fit {left : List Char} {rest : List (List Char)} (hleft : left ≠ [])
    (hrest : ∀ right ∈ rest, right ≠ []) :
    (fit sep left rest).flatten = rest.foldl (meet sep) left := by
  induction rest generalizing left with
  | nil => simp [fit]
  | cons right rest ih =>
      have hright := hrest right List.mem_cons_self
      have hrests := fun text htext => hrest text (List.mem_cons_of_mem _ htext)
      rw [fit, List.flatten_cons, ih (List.cons_ne_nil _ _) hrests, List.foldl_cons,
        meet_of_ne_nil hleft hright,
        foldl_meet_append (getLast?_trimEnd sep left) (List.cons_ne_nil _ _)]

theorem foldl_meet_filter (sep : Char) (texts : List (List Char)) (left : List Char) :
    (texts.filter (· ≠ [])).foldl (meet sep) left = texts.foldl (meet sep) left := by
  rw [List.foldl_filter]
  congr 1
  funext left text
  by_cases htext : text = []
  · simp [htext]
  · simp [htext]

/-- Joining puts its segments together two at a time. -/
theorem toList_joinWith (sep : Char) (segments : List String) :
    (joinWith sep segments).toList = (segments.map String.toList).foldl (meet sep) [] := by
  rw [← foldl_meet_filter, joinWith]
  have hne : ∀ text ∈ (segments.map String.toList).filter (· ≠ []), text ≠ [] := by
    intro text htext
    simpa using (List.mem_filter.1 htext).2
  cases htexts : (segments.map String.toList).filter (· ≠ []) with
  | nil => rfl
  | cons first rest =>
      rw [htexts] at hne
      have hrest := fun text htext => hne text (List.mem_cons_of_mem _ htext)
      dsimp only
      rw [String.toList_ofList, flatten_fit (hne first List.mem_cons_self) hrest,
        List.foldl_cons, meet_nil_left]

end RouteTable.Path
