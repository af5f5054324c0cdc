import Telemetry.Series

/-!
# More on values by name

The pairs of a series are its values by name (`mem_toList_iff`), each name stands once
(`nodup_names`), and `map` and `mapM?` act on the values.
-/

namespace Telemetry

namespace Series

variable {α β : Type}

/-- What is found is in the list. -/
theorem mem_of_lookup_eq_some {name : String} {a : α} {pairs : List (String × α)}
    (h : lookup name pairs = some a) : (name, a) ∈ pairs := by
  induction pairs with
  | nil => cases h
  | cons p rest ih =>
    obtain ⟨n, b⟩ := p
    simp only [lookup] at h
    split at h
    · next hn =>
      cases h
      exact hn ▸ List.mem_cons_self
    · exact List.mem_cons_of_mem _ (ih h)

/-- In a sorted list every pair is found, since no other one has its name. -/
theorem lookup_eq_some_of_mem {name : String} {a : α} {pairs : List (String × α)}
    (hsorted : pairs.Pairwise fun p q => p.1 < q.1) (h : (name, a) ∈ pairs) :
    lookup name pairs = some a := by
  induction pairs with
  | nil => cases h
  | cons p rest ih =>
    obtain ⟨hfirst, hrest⟩ := List.pairwise_cons.1 hsorted
    rcases List.mem_cons.1 h with rfl | h
    · simp [lookup]
    · have hlt : p.1 < name := hfirst (name, a) h
      have hne : p.1 ≠ name := fun e => String.lt_irrefl name (e ▸ hlt)
      simp only [lookup, if_neg hne]
      exact ih hrest h

/-- The pairs of a series are its values by name. -/
theorem mem_toList_iff {s : Series α} {name : String} {a : α} :
    (name, a) ∈ s.toList ↔ s.get? name = some a :=
  ⟨lookup_eq_some_of_mem s.sorted, mem_of_lookup_eq_some⟩

/-- In a sorted list the pairs of one name are the one that is found, or none. -/
theorem filter_eq_of_lookup (name : String) {pairs : List (String × α)}
    (hsorted : pairs.Pairwise fun p q => p.1 < q.1) :
    (pairs.filter fun p => p.1 = name) = ((lookup name pairs).map (Prod.mk name)).toList := by
  induction pairs with
  | nil => rfl
  | cons p rest ih =>
    obtain ⟨n, a⟩ := p
    obtain ⟨hfirst, hrest⟩ := List.pairwise_cons.1 hsorted
    by_cases hn : n = name
    · -- the names behind it are greater
      have hnone : (rest.filter fun p => p.1 = name) = [] := by
        refine List.filter_eq_nil_iff.2 fun p hp hname => ?_
        have hlt : n < p.1 := hfirst p hp
        rw [of_decide_eq_true hname, hn] at hlt
        exact String.lt_irrefl name hlt
      simp [lookup, hn, hnone]
    · simp [lookup, hn, ih hrest]

/-- The pairs of one name: the value at it, if there is one. -/
theorem filter_toList (s : Series α) (name : String) :
    (s.toList.filter fun p => p.1 = name) = ((s.get? name).map (Prod.mk name)).toList :=
  filter_eq_of_lookup name s.sorted

/-- Each name stands once. -/
theorem nodup_names (s : Series α) : (s.toList.map (·.1)).Nodup := by
  rw [List.Nodup, List.pairwise_map]
  refine s.sorted.imp ?_
  intro p q hlt heq
  exact String.lt_irrefl q.1 (heq ▸ hlt)

theorem lookup_map (f : α → β) (name : String) (pairs : List (String × α)) :
    lookup name (pairs.map fun p => (p.1, f p.2)) = (lookup name pairs).map f := by
  induction pairs with
  | nil => rfl
  | cons p rest ih =>
    simp only [List.map_cons, lookup]
    split
    · rfl
    · exact ih

@[simp] theorem get?_map (f : α → β) (s : Series α) (name : String) :
    (s.map f).get? name = (s.get? name).map f :=
  lookup_map f name s.toList

/-- The pairs put one after another into a series that has none of their names. -/
theorem get?_foldl_insert (pairs : List (String × α)) (s : Series α) (name : String)
    (hsorted : pairs.Pairwise fun p q => p.1 < q.1) :
    (pairs.foldl (fun s p => s.insert p.1 p.2) s).get? name
      = (lookup name pairs).or (s.get? name) := by
  induction pairs generalizing s with
  | nil => rfl
  | cons p rest ih =>
    obtain ⟨hfirst, hrest⟩ := List.pairwise_cons.1 hsorted
    rw [List.foldl_cons, ih _ hrest, get?_insert]
    -- Later insertions win, but in a sorted list no name comes twice.
    by_cases hp : p.1 = name
    · have hnone : lookup name rest = none := by
        rw [Option.eq_none_iff_forall_ne_some]
        intro a ha
        have hlt : p.1 < name := hfirst (name, a) (mem_of_lookup_eq_some ha)
        exact String.lt_irrefl name (hp ▸ hlt)
      simp [lookup, hp, hnone]
    · simp [lookup, hp]

/-- The series of the pairs of a series is the series itself. -/
theorem ofList_toList (s : Series α) : ofList s.toList = s :=
  ext fun name => by
    rw [ofList, get?_foldl_insert _ _ _ s.sorted, get?_empty, Option.or_none]
    rfl

/-- Insertions at two names may be swapped. -/
theorem insert_comm {name other : String} (s : Series α) (h : name ≠ other) (a b : α) :
    (s.insert name a).insert other b = (s.insert other b).insert name a := by
  refine ext fun key => ?_
  simp only [get?_insert]
  by_cases hname : name = key
  · have hother : other ≠ key := fun hkey => h (hname.trans hkey.symm)
    simp only [if_pos hname, if_neg hother]
  · simp only [if_neg hname]

/-- The pairs of a series make the series in any order. -/
theorem ofList_of_perm {s : Series α} {pairs : List (String × α)} (h : pairs.Perm s.toList) :
    ofList pairs = s := by
  rw [← ofList_toList s]
  refine List.Perm.foldl_eq' h (fun p hp q hq t => ?_) empty
  by_cases hname : p.1 = q.1
  · -- a name stands once, so this is the same pair
    have heq : p = q := by
      have hfirst := mem_toList_iff.1 (h.mem_iff.1 hp)
      have hsecond := mem_toList_iff.1 (h.mem_iff.1 hq)
      rw [hname, hsecond] at hfirst
      exact Prod.ext hname (Option.some.inj hfirst).symm
    rw [heq]
  · exact insert_comm t hname p.2 q.2

/-- Values that are written and read back one by one are all there again. -/
theorem mapM_pairs_map (f : α → Option β) (g : β → α) (h : ∀ b, f (g b) = some b)
    (pairs : List (String × β)) :
    (pairs.map fun p => (p.1, g p.2)).mapM (fun p => (f p.2).map (Prod.mk p.1)) = some pairs := by
  induction pairs with
  | nil => rfl
  | cons p rest ih => simp [List.mapM_cons, ih, h]

/-- A function that accepts everything in the range of another one takes its map back. -/
theorem mapM?_map (f : α → Option β) (g : β → α) (h : ∀ b, f (g b) = some b) (s : Series β) :
    (s.map g).mapM? f = some s := by
  rw [mapM?, map, mapM_pairs_map f g h, Option.map_some, ofList_toList]

end Series

end Telemetry
