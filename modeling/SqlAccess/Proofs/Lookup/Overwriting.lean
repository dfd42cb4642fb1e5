/-!
# Pairs that are looked up by name

Pairs of a name and a value say what each name stands for. Among pairs with distinct names every
pair is found under its name. Where pairs are put in one after another, each in place of the one
with its name, the last one of each name is found.
-/

namespace SqlAccess

variable {α β : Type}

/-- A name stands for the value of the first pair if it is the name of that pair. -/
theorem lookup_cons_eq_ite (p : String × α) (pairs : List (String × α)) (name : String) :
    (p :: pairs).lookup name = if name = p.1 then some p.2 else pairs.lookup name := by
  rw [List.lookup_cons]
  by_cases h : name = p.1
  · simp [h]
  · simp [h, beq_eq_false_iff_ne.mpr h]

/-- Putting in a pair changes what its name stands for, and no other name. -/
def Overwrites (put : List (String × α) → String × α → List (String × α)) : Prop :=
  ∀ entries p name,
    (put entries p).lookup name = if name = p.1 then some p.2 else entries.lookup name

/-- After pairs were put in, a name stands for the value of its last pair, and for what it stood for
if it has none. -/
theorem Overwrites.lookup_foldl {put : List (String × α) → String × α → List (String × α)}
    (h : Overwrites put) (pairs entries : List (String × α)) (name : String) :
    (pairs.foldl put entries).lookup name =
      (pairs.reverse.lookup name).or (entries.lookup name) := by
  induction pairs generalizing entries with
  | nil => rfl
  | cons p pairs ih =>
    rw [List.foldl_cons, ih, h, List.reverse_cons, List.lookup_append, lookup_cons_eq_ite,
      Option.or_assoc]
    by_cases hname : name = p.1
    · rw [if_pos hname, if_pos hname, Option.some_or]
    · rw [if_neg hname, if_neg hname, List.lookup_nil, Option.none_or]

/-- What names stand for is changed value by value. -/
theorem lookup_map_snd (f : α → β) (pairs : List (String × α)) (name : String) :
    (pairs.map fun p => (p.1, f p.2)).lookup name = (pairs.lookup name).map f := by
  induction pairs with
  | nil => rfl
  | cons p pairs ih =>
    rw [List.map_cons, lookup_cons_eq_ite, lookup_cons_eq_ite, ih, apply_ite (Option.map f)]
    rfl

/-- A name stands for something exactly if there is a pair with it. -/
theorem isSome_lookup_iff (pairs : List (String × α)) (name : String) :
    (pairs.lookup name).isSome ↔ name ∈ pairs.map (·.1) := by
  simp [List.lookup_isSome_iff]

/-- Among pairs with distinct names every pair is found under its name. -/
theorem mem_iff_lookup {pairs : List (String × α)} (h : (pairs.map (·.1)).Nodup) (name : String)
    (a : α) : (name, a) ∈ pairs ↔ pairs.lookup name = some a := by
  induction pairs with
  | nil => simp
  | cons p pairs ih =>
    obtain ⟨hhead, htail⟩ := List.nodup_cons.mp h
    rw [List.mem_cons, lookup_cons_eq_ite, ih htail, Prod.ext_iff]
    by_cases hname : name = p.1
    · have hnone : pairs.lookup name = none := by
        rw [← Option.not_isSome_iff_eq_none, isSome_lookup_iff, hname]
        exact hhead
      rw [if_pos hname, hnone]
      constructor
      · rintro (⟨-, rfl⟩ | h)
        · rfl
        · cases h
      · exact fun h => .inl ⟨hname, (Option.some.inj h).symm⟩
    · simp [hname]

/-- A name that stands in one pair is found in the same pair from both ends. -/
theorem lookup_reverse_of_count {pairs : List (String × α)} {name : String}
    (h : (pairs.map (·.1)).count name = 1) : pairs.reverse.lookup name = pairs.lookup name := by
  obtain ⟨a, ha⟩ : ∃ a, pairs.lookup name = some a := by
    rw [← Option.isSome_iff_exists, isSome_lookup_iff, ← List.count_pos_iff, h]
    exact Nat.one_pos
  obtain ⟨before, after, rfl, -⟩ := List.lookup_eq_some_iff.mp ha
  have hafter : after.lookup name = none := by
    rw [← Option.not_isSome_iff_eq_none, isSome_lookup_iff, ← List.count_eq_zero]
    rw [List.map_append, List.map_cons, List.count_append, List.count_cons_self] at h
    omega
  have hreverse : after.reverse.lookup name = none := by
    rw [List.lookup_eq_none_iff] at hafter ⊢
    exact fun p hp => hafter p (List.mem_reverse.mp hp)
  rw [ha, List.reverse_append, List.reverse_cons, List.append_assoc, List.lookup_append, hreverse,
    List.singleton_append, lookup_cons_eq_ite, if_pos rfl, Option.none_or]

end SqlAccess
