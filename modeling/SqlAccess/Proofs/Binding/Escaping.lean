import SqlAccess.Binder

/-!
# What the injection filter escapes

A text is its own escaped form exactly if it holds no backslash, no quote and no NUL. Lists of
values are escaped as a whole or not at all, and what decides it is a quote or a backslash in some
text. So each value is escaped on its own account whenever one of them is there, or no text holds
a NUL; a NUL without them is bound as it is.
-/

namespace SqlAccess

/-- The characters that are written with a backslash in front. -/
def isEscaped (c : Char) : Bool := c = '\\' || c = '\'' || c.toNat = 0

namespace Dialect

/-- A character that is not escaped stands for itself. -/
private theorem escapeChar_mysql_of_not_isEscaped {c : Char} (h : isEscaped c = false) :
    mysql.escapeChar c = [c] := by
  simp only [isEscaped, Bool.or_eq_false_iff, decide_eq_false_iff_not] at h
  obtain ⟨⟨hbackslash, hquote⟩, hnul⟩ := h
  simp only [escapeChar, hbackslash, hquote, hnul, if_false]

/-- An escaped character becomes a backslash and one more character. -/
theorem escapeChar_mysql_of_isEscaped {c : Char} (h : isEscaped c = true) :
    ∃ e, mysql.escapeChar c = ['\\', e] := by
  unfold escapeChar
  by_cases hbackslash : c = '\\'
  · exact ⟨'\\', if_pos hbackslash⟩
  by_cases hquote : c = '\''
  · exact ⟨'\'', by rw [if_neg hbackslash, if_pos hquote]⟩
  · have hnul : c.toNat = 0 := by simpa [isEscaped, hbackslash, hquote] using h
    exact ⟨'0', by rw [if_neg hbackslash, if_neg hquote, if_pos hnul]⟩

/-- Escaping does not make a text shorter. -/
theorem length_le_flatMap_escapeChar (cs : List Char) :
    cs.length ≤ (cs.flatMap mysql.escapeChar).length := by
  induction cs with
  | nil => exact Nat.le_refl 0
  | cons c cs ih =>
    rw [List.flatMap_cons, List.length_append, List.length_cons]
    cases h : isEscaped c with
    | false =>
      rw [escapeChar_mysql_of_not_isEscaped h, List.length_singleton]
      omega
    | true =>
      obtain ⟨e, he⟩ := escapeChar_mysql_of_isEscaped h
      rw [he, List.length_cons]
      omega

/-- Characters are their own escaped form exactly if none of them is escaped: behind a backslash the
text has one character too many. -/
theorem flatMap_escapeChar_eq_self_iff (cs : List Char) :
    cs.flatMap mysql.escapeChar = cs ↔ ∀ c ∈ cs, isEscaped c = false := by
  induction cs with
  | nil => simp
  | cons c cs ih =>
    rw [List.flatMap_cons, List.forall_mem_cons]
    cases h : isEscaped c with
    | false =>
      rw [escapeChar_mysql_of_not_isEscaped h, List.singleton_append, List.cons.injEq, ih]
      simp
    | true =>
      obtain ⟨e, he⟩ := escapeChar_mysql_of_isEscaped h
      rw [he]
      constructor
      · intro heq
        have hlength := congrArg List.length heq
        have hle := length_le_flatMap_escapeChar cs
        simp only [List.cons_append, List.nil_append, List.length_cons] at hlength
        omega
      · rintro ⟨hfalse, -⟩
        cases hfalse

end Dialect

/-- A text is its own escaped form exactly if it holds no character that is escaped. -/
theorem escapeInjection_eq_self_iff (s : String) :
    escapeInjection s = s ↔ ∀ c ∈ s.toList, isEscaped c = false := by
  rw [← Dialect.flatMap_escapeChar_eq_self_iff, escapeInjection, Dialect.escape]
  constructor
  · intro h
    rw [← String.toList_ofList (l := s.toList.flatMap Dialect.mysql.escapeChar), h]
  · intro h
    rw [h, String.ofList_toList]

namespace Binder

/-- Whether a value is a text with a NUL. -/
def holdsNul : Value → Bool
  | .text s => s.toList.any fun c => c.toNat = 0
  | _ => false

/-- Escaping leaves a value as it is exactly if it is no text with a quote, a backslash or a NUL. -/
theorem escaped_eq_self_iff (v : Value) :
    escaped v = v ↔ needsEscape v = false ∧ holdsNul v = false := by
  cases v with
  | text s =>
    rw [escaped, Value.text.injEq, escapeInjection_eq_self_iff]
    simp only [needsEscape, holdsNul, isEscaped, List.any_eq_false, Bool.or_eq_true,
      Bool.or_eq_false_iff, decide_eq_true_eq, decide_eq_false_iff_not]
    constructor
    · intro h
      exact ⟨fun c hc => not_or.mpr ⟨(h c hc).1.2, (h c hc).1.1⟩, fun c hc => (h c hc).2⟩
    · rintro ⟨hmarks, hnul⟩ c hc
      have hc' := not_or.mp (hmarks c hc)
      exact ⟨⟨hc'.2, hc'.1⟩, hnul c hc⟩
  | _ => exact iff_of_true rfl ⟨rfl, rfl⟩

/-- Values without a list are not refused. -/
theorem check_of_noList (position : Nat) {values : List Value}
    (h : ∀ items, .list items ∉ values) : (check position values).2 = .ok () := by
  induction values generalizing position with
  | nil => rfl
  | cons v rest ih =>
    have hrest := ih (position + 1) fun items hm => h items (List.mem_cons_of_mem v hm)
    cases v with
    | list items => exact absurd List.mem_cons_self (h items)
    | _ => exact hrest

/-- What passes the check is bound, and escaped as a whole if the filter is on and some text needs
it. -/
theorem bind_snd (b : Binder) (values : List Value) :
    (b.bind values).2 = (check 1 values).2.map fun _ =>
      if b.injectionFilter && values.any needsEscape then ⟨values.map escaped, false⟩
      else ⟨values, true⟩ := rfl

/-- With the filter on, a list of values is escaped as a whole if some text needs it, and else bound
as it was given. -/
private theorem bind_of_noList {values : List Value} (h : ∀ items, .list items ∉ values) :
    ((Binder.mk true).bind values).2 =
      .ok (if values.any needsEscape then ⟨values.map escaped, false⟩ else ⟨values, true⟩) := by
  rw [bind_snd, check_of_noList 1 h, Bool.true_and]
  rfl

/-- With the filter on, values without a list are bound, and each is escaped on its own account
exactly if some text holds a quote or a backslash or none holds a NUL. Where neither is so, all
are bound as they were given. -/
theorem bind_escapes_each_iff {values : List Value} (h : ∀ items, .list items ∉ values) :
    ∃ bound, ((Binder.mk true).bind values).2 = .ok bound ∧
      ((∀ i : Nat, bound.values[i]? = values[i]?.map escaped) ↔
        values.any needsEscape = true ∨ ∀ v ∈ values, holdsNul v = false) ∧
      (values.any needsEscape = false → bound.values = values) := by
  refine ⟨_, bind_of_noList h, ?_, fun hnone => by simp only [hnone, Bool.false_eq_true, if_false]⟩
  cases hany : values.any needsEscape with
  | true =>
    simp only [if_true, true_or, iff_true]
    exact fun i => List.getElem?_map
  | false =>
    have hmarks : ∀ v ∈ values, needsEscape v = false := by
      simpa only [List.any_eq_false, Bool.not_eq_true] using hany
    simp only [Bool.false_eq_true, if_false, false_or]
    constructor
    · intro hall v hv
      obtain ⟨i, hi⟩ := List.getElem?_of_mem hv
      have heq := hall i
      rw [hi, Option.map_some, Option.some.injEq] at heq
      exact ((escaped_eq_self_iff v).mp heq.symm).2
    · intro hnul i
      cases hi : values[i]? with
      | none => rfl
      | some v =>
        have hv := List.mem_of_getElem? hi
        rw [Option.map_some, (escaped_eq_self_iff v).mpr ⟨hmarks v hv, hnul v hv⟩]

/-- A text that needs to be escaped and one with a NUL beside it are both escaped. -/
theorem quote_and_nul_escaped :
    (∀ items, .list items ∉ [Value.text "O'Brien", .text "\x00"]) ∧
    ∃ bound, ((Binder.mk true).bind [.text "O'Brien", .text "\x00"]).2 = .ok bound ∧
      bound.values[1]? = some (.text "\\0") := by
  have hnone : ∀ items, .list items ∉ [Value.text "O'Brien", .text "\x00"] := by simp
  obtain ⟨bound, hbound, heach, -⟩ := bind_escapes_each_iff hnone
  exact ⟨hnone, bound, hbound, (heach.mpr (.inl (by decide))) 1⟩

/-- A NUL is bound as it is when it stands alone, and escaped beside a quote. -/
theorem lone_nul_not_escaped :
    ((Binder.mk true).bind [.text "\x00"]).2 = .ok ⟨[.text "\x00"], true⟩ ∧
    ((Binder.mk true).bind [.text "\x00", .text "'"]).2 =
      .ok ⟨[.text "\\0", .text "\\'"], false⟩ ∧
    [Value.text "\x00"].map escaped ≠ [.text "\x00"] := by
  refine ⟨rfl, rfl, ?_⟩
  intro h
  simp [escaped, escapeInjection, Dialect.escape, Dialect.escapeChar] at h

end Binder

end SqlAccess
