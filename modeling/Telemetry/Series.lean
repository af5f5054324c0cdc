/-!
# Values by name

A `Series α` holds one value for each of finitely many names, in increasing order of the names.
Names are ordered by their code points, which is also the order of their UTF-8 bytes. Because the
order is part of the type, two series with the same values are equal, and every listing comes out
sorted.

`get?` is the view of a series; `get?_insert`, `get?_erase` and `ext` say what the operations do to
it and that it determines the series.
-/

namespace Telemetry

/-- Values by name, sorted by name. -/
structure Series (α : Type) where
  /-- The pairs in increasing order of their names. -/
  toList : List (String × α)
  sorted : toList.Pairwise fun p q => p.1 < q.1

namespace Series

variable {α β : Type}

/-- No names. -/
def empty : Series α := ⟨[], .nil⟩

instance : Inhabited (Series α) := ⟨empty⟩

instance [DecidableEq α] : DecidableEq (Series α) := fun s t =>
  if h : s.toList = t.toList then isTrue (by cases s; cases t; simp_all)
  else isFalse (fun e => h (e ▸ rfl))

/-- The number of names. -/
def size (s : Series α) : Nat := s.toList.length

/-- There are no names. -/
def isEmpty (s : Series α) : Bool := s.toList.isEmpty

/-- The names in increasing order. -/
def names (s : Series α) : List String := s.toList.map (·.1)

/-- The value at a name in a list of pairs. -/
def lookup (name : String) : List (String × α) → Option α
  | [] => none
  | (n, a) :: rest => if n = name then some a else lookup name rest

/-- The value at a name. -/
def get? (s : Series α) (name : String) : Option α := lookup name s.toList

/-- A pair put into its place in a sorted list. -/
def place (name : String) (a : α) : List (String × α) → List (String × α)
  | [] => [(name, a)]
  | (n, b) :: rest =>
    if name < n then (name, a) :: (n, b) :: rest
    else if n = name then (name, a) :: rest
    else (n, b) :: place name a rest

/-- A name taken out of a list. -/
def remove (name : String) (pairs : List (String × α)) : List (String × α) :=
  pairs.filter fun p => p.1 ≠ name

private theorem lt_of_not_lt_of_ne {a b : String} (h : ¬ a < b) (hne : b ≠ a) : b < a := by
  by_cases hba : b < a
  · exact hba
  · exact absurd (String.le_antisymm (String.not_lt.1 h) (String.not_lt.1 hba)) hne

private theorem lt_or_eq_or_gt (a b : String) : a < b ∨ a = b ∨ b < a := by
  by_cases hab : a < b
  · exact .inl hab
  · by_cases heq : a = b
    · exact .inr (.inl heq)
    · exact .inr (.inr (lt_of_not_lt_of_ne hab (Ne.symm heq)))

/-- Placing a pair brings in no other pair. -/
theorem mem_place {name : String} {a : α} {pairs : List (String × α)} {p : String × α}
    (h : p ∈ place name a pairs) : p = (name, a) ∨ p ∈ pairs := by
  induction pairs with
  | nil => simpa [place] using h
  | cons q rest ih =>
    obtain ⟨n, b⟩ := q
    simp only [place] at h
    split at h
    · simpa using h
    · split at h
      · rcases List.mem_cons.1 h with h | h
        · exact .inl h
        · exact .inr (List.mem_cons_of_mem _ h)
      · rcases List.mem_cons.1 h with h | h
        · exact .inr (h ▸ List.mem_cons_self)
        · exact (ih h).imp id (List.mem_cons_of_mem _)

/-- Placing a pair in a sorted list leaves it sorted. -/
theorem pairwise_place {name : String} {a : α} {pairs : List (String × α)}
    (h : pairs.Pairwise fun p q => p.1 < q.1) :
    (place name a pairs).Pairwise fun p q => p.1 < q.1 := by
  induction pairs with
  | nil => simp [place]
  | cons q rest ih =>
    obtain ⟨n, b⟩ := q
    obtain ⟨hn, hrest⟩ := List.pairwise_cons.1 h
    simp only [place]
    split
    · next hlt =>
      refine List.pairwise_cons.2 ⟨fun p hp => ?_, h⟩
      rcases List.mem_cons.1 hp with rfl | hp
      · exact hlt
      · exact String.lt_trans hlt (hn p hp)
    · next hlt =>
      split
      · next heq =>
        subst heq
        exact List.pairwise_cons.2 ⟨hn, hrest⟩
      · next hne =>
        refine List.pairwise_cons.2 ⟨fun p hp => ?_, ih hrest⟩
        -- What stands behind `n` is the new pair or was there before.
        rcases mem_place hp with rfl | hp
        · exact lt_of_not_lt_of_ne hlt hne
        · exact hn p hp

/-- The series with a value at a name, in place of the one that was there. -/
def insert (s : Series α) (name : String) (a : α) : Series α :=
  ⟨place name a s.toList, pairwise_place s.sorted⟩

/-- The series without a name. -/
def erase (s : Series α) (name : String) : Series α :=
  ⟨remove name s.toList, s.sorted.filter _⟩

/-- The series of a list of pairs; of two pairs with one name the later counts. -/
def ofList (pairs : List (String × α)) : Series α :=
  pairs.foldl (fun s p => s.insert p.1 p.2) empty

/-- Every value of a series changed. -/
def map (f : α → β) (s : Series α) : Series β :=
  ⟨s.toList.map fun p => (p.1, f p.2), by
    rw [List.pairwise_map]
    exact s.sorted⟩

/-- Every value of a series changed by a function that may refuse one. -/
def mapM? (f : α → Option β) (s : Series α) : Option (Series β) :=
  (s.toList.mapM fun p => (f p.2).map (Prod.mk p.1)).map ofList

/-! ## The view -/

@[simp] theorem get?_empty (name : String) : (empty : Series α).get? name = none := rfl

/-- A placed pair is found at its name, and nothing else has changed. -/
theorem lookup_place (name other : String) (a : α) (pairs : List (String × α)) :
    lookup other (place name a pairs) = if name = other then some a else lookup other pairs := by
  induction pairs with
  | nil => rfl
  | cons q rest ih =>
    obtain ⟨n, b⟩ := q
    simp only [place]
    split
    · simp [lookup]
    · split
      · next heq => subst heq; simp only [lookup]; split <;> rfl
      · next hne =>
        simp only [lookup, ih]
        by_cases h : n = other
        · subst h
          simp [Ne.symm hne]
        · simp [h]

/-- Inserting changes the value at one name. -/
@[simp] theorem get?_insert (s : Series α) (name other : String) (a : α) :
    (s.insert name a).get? other = if name = other then some a else s.get? other :=
  lookup_place name other a s.toList

/-- A removed name is found no more, and nothing else has changed. -/
theorem lookup_remove (name other : String) (pairs : List (String × α)) :
    lookup other (remove name pairs) = if name = other then none else lookup other pairs := by
  induction pairs with
  | nil => simp [remove, lookup]
  | cons q rest ih =>
    obtain ⟨n, b⟩ := q
    by_cases hn : n = name
    · have hdrop : remove name ((n, b) :: rest) = remove name rest := by simp [remove, hn]
      rw [hdrop, ih]
      subst hn
      simp only [lookup]
      split <;> simp_all
    · have hkeep : remove name ((n, b) :: rest) = (n, b) :: remove name rest := by simp [remove, hn]
      rw [hkeep]
      simp only [lookup, ih]
      by_cases h : n = other
      · subst h
        simp [Ne.symm hn]
      · simp [h]

/-- Erasing removes the value at one name. -/
@[simp] theorem get?_erase (s : Series α) (name other : String) :
    (s.erase name).get? other = if name = other then none else s.get? other :=
  lookup_remove name other s.toList

/-- A name below all names of a list is not in it. -/
private theorem lookup_eq_none_of_lt {name : String} {pairs : List (String × α)}
    (h : ∀ p ∈ pairs, name < p.1) : lookup name pairs = none := by
  induction pairs with
  | nil => rfl
  | cons q rest ih =>
    have hq := h q List.mem_cons_self
    simp only [lookup]
    rw [if_neg fun e : q.1 = name => String.lt_irrefl q.1 (e ▸ hq)]
    exact ih fun p hp => h p (List.mem_cons_of_mem _ hp)

/-- Two sorted lists in which every name finds the same are one list. -/
private theorem toList_eq_of_lookup {xs ys : List (String × α)}
    (hx : xs.Pairwise fun p q => p.1 < q.1) (hy : ys.Pairwise fun p q => p.1 < q.1)
    (h : ∀ name, lookup name xs = lookup name ys) : xs = ys := by
  induction xs generalizing ys with
  | nil =>
    cases ys with
    | nil => rfl
    | cons q ys =>
      have := h q.1
      simp [lookup] at this
  | cons p xs ih =>
    obtain ⟨hpx, hxs⟩ := List.pairwise_cons.1 hx
    cases ys with
    | nil =>
      have := h p.1
      simp [lookup] at this
    | cons q ys =>
      obtain ⟨hqy, hys⟩ := List.pairwise_cons.1 hy
      -- The smaller of the two first names would be found in one list only.
      have hname : p.1 = q.1 := by
        rcases lt_or_eq_or_gt p.1 q.1 with hlt | heq | hgt
        · have hnone : lookup p.1 (q :: ys) = none :=
            lookup_eq_none_of_lt fun r hr => by
              rcases List.mem_cons.1 hr with rfl | hr
              · exact hlt
              · exact String.lt_trans hlt (hqy r hr)
          have hp := h p.1
          rw [hnone] at hp
          simp [lookup] at hp
        · exact heq
        · have hnone : lookup q.1 (p :: xs) = none :=
            lookup_eq_none_of_lt fun r hr => by
              rcases List.mem_cons.1 hr with rfl | hr
              · exact hgt
              · exact String.lt_trans hgt (hpx r hr)
          have hq := h q.1
          rw [hnone] at hq
          simp [lookup] at hq
      have hvalue : p.2 = q.2 := by
        have hp := h p.1
        simpa [lookup, hname] using hp
      have hhead : p = q := Prod.ext hname hvalue
      subst hhead
      congr 1
      -- The first name itself occurs in neither tail, since these are sorted.
      refine ih hxs hys fun name => ?_
      by_cases hn : p.1 = name
      · subst hn
        rw [lookup_eq_none_of_lt hpx, lookup_eq_none_of_lt hqy]
      · have := h name
        simpa [lookup, hn] using this

/-- A series is determined by its values. -/
theorem ext {s t : Series α} (h : ∀ name, s.get? name = t.get? name) : s = t := by
  obtain ⟨xs, hx⟩ := s
  obtain ⟨ys, hy⟩ := t
  have := toList_eq_of_lookup hx hy h
  subst this
  rfl

end Series

end Telemetry
