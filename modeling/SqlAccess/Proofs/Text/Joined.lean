import SqlAccess.Text.Blank

/-!
# Joined texts

The characters of joined texts are those of the texts with the separator between neighbours, so
whatever they hold comes from one of them or from the separator.
-/

namespace SqlAccess.Text

/-- The separator stands between the first text and the others. -/
theorem joinWith_cons_cons (separator s t : String) (ss : List String) :
    joinWith separator (s :: t :: ss) = s ++ separator ++ joinWith separator (t :: ss) := rfl

/-- Joining texts joins their characters. -/
theorem toList_joinWith (separator : String) (ss : List String) :
    (joinWith separator ss).toList = separator.toList.intercalate (ss.map String.toList) := by
  induction ss with
  | nil => rfl
  | cons s ss ih =>
    cases ss with
    | nil => exact List.intercalate_singleton.symm
    | cons t ts =>
      rw [joinWith_cons_cons, String.toList_append, String.toList_append, ih]
      exact List.intercalate_cons_cons.symm

/-- What stands in joined lists stands in one of them or in the separator. -/
theorem mem_of_mem_intercalate {α : Type} {x : α} {separator : List α} {xss : List (List α)}
    (h : x ∈ separator.intercalate xss) : x ∈ separator ∨ ∃ xs ∈ xss, x ∈ xs := by
  induction xss with
  | nil => cases h
  | cons xs xss ih =>
    cases xss with
    | nil =>
      rw [List.intercalate_singleton] at h
      exact .inr ⟨xs, List.mem_cons_self, h⟩
    | cons ys yss =>
      rw [List.intercalate_cons_cons] at h
      rcases List.mem_append.mp h with h | h
      · rcases List.mem_append.mp h with h | h
        · exact .inr ⟨xs, List.mem_cons_self, h⟩
        · exact .inl h
      · rcases ih h with h | ⟨zs, hz, h⟩
        · exact .inl h
        · exact .inr ⟨zs, List.mem_cons_of_mem xs hz, h⟩

/-- Joined texts hold a character only if one of them or the separator does. -/
theorem mem_of_mem_joinWith {c : Char} {separator : String} {ss : List String}
    (h : c ∈ (joinWith separator ss).toList) :
    c ∈ separator.toList ∨ ∃ s ∈ ss, c ∈ s.toList := by
  rw [toList_joinWith] at h
  rcases mem_of_mem_intercalate h with h | ⟨cs, hcs, h⟩
  · exact .inl h
  · obtain ⟨s, hs, rfl⟩ := List.mem_map.mp hcs
    exact .inr ⟨s, hs, h⟩

end SqlAccess.Text
