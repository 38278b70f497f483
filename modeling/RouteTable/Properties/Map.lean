/-!
# Property maps

Names with their values, sorted by name, so that two maps with the same
contents are equal.
-/

namespace RouteTable

/-- A finite map from names to values. -/
structure PropertyMap where
  entries : List (String × String)
  sorted : entries.Pairwise fun a b => a.1 < b.1
  deriving DecidableEq, Repr

namespace PropertyMap

def insertEntry (key value : String) : List (String × String) → List (String × String)
  | [] => [(key, value)]
  | entry :: rest =>
      if key < entry.1 then (key, value) :: entry :: rest
      else if key = entry.1 then (key, value) :: rest
      else entry :: insertEntry key value rest

theorem mem_insertEntry {key value : String} {entry : String × String}
    {entries : List (String × String)} (h : entry ∈ insertEntry key value entries) :
    entry = (key, value) ∨ entry ∈ entries := by
  induction entries with
  | nil => simpa [insertEntry] using h
  | cons first rest ih =>
      unfold insertEntry at h
      split at h
      · simpa using h
      · split at h
        · rcases List.mem_cons.1 h with h | h
          · exact .inl h
          · exact .inr (List.mem_cons_of_mem _ h)
        · rcases List.mem_cons.1 h with h | h
          · exact .inr (h ▸ List.mem_cons_self)
          · exact (ih h).imp_right (List.mem_cons_of_mem _)

theorem sorted_insertEntry (key value : String) {entries : List (String × String)}
    (h : entries.Pairwise fun a b => a.1 < b.1) :
    (insertEntry key value entries).Pairwise fun a b => a.1 < b.1 := by
  induction entries with
  | nil => simp [insertEntry]
  | cons first rest ih =>
      have hrest := List.pairwise_cons.1 h
      unfold insertEntry
      split
      · rename_i hlt
        refine List.pairwise_cons.2 ⟨fun entry hentry => ?_, h⟩
        rcases List.mem_cons.1 hentry with rfl | hentry
        · exact hlt
        · exact String.lt_trans hlt (hrest.1 entry hentry)
      · split
        · rename_i heq
          exact List.pairwise_cons.2 ⟨fun entry hentry => heq ▸ hrest.1 entry hentry, hrest.2⟩
        · rename_i hlt hne
          refine List.pairwise_cons.2 ⟨fun entry hentry => ?_, ih hrest.2⟩
          rcases mem_insertEntry hentry with rfl | hentry
          · exact Decidable.byContradiction fun hge =>
              hne (String.le_antisymm (String.not_lt.1 hge) (String.not_lt.1 hlt))
          · exact hrest.1 entry hentry

def empty : PropertyMap := ⟨[], .nil⟩

instance : Inhabited PropertyMap := ⟨empty⟩

def insert (map : PropertyMap) (key value : String) : PropertyMap :=
  ⟨insertEntry key value map.entries, sorted_insertEntry key value map.sorted⟩

def ofList (entries : List (String × String)) : PropertyMap :=
  entries.foldl (fun map (key, value) => map.insert key value) empty

def get? (map : PropertyMap) (key : String) : Option String :=
  map.entries.lookup key

end PropertyMap

end RouteTable
