import SqlAccess.Monitor.Basic
import SqlAccess.Proofs.Text.Utf8

/-!
# Texts cut to a number of bytes

A text that is too long is cut at the last place between two characters that does not lie behind the
number of bytes. Characters have four bytes at most, so no more than three bytes are lost by it.
Monitors show statements and keep errors that are cut like this, with three dots behind the cut.
-/

namespace SqlAccess

namespace Text

/-! ## Cutting -/

/-- Going back byte by byte from a byte finds the last place that does not lie behind it. -/
theorem cutBefore_eq_posLE (s : String) (i : Nat) : cutBefore s i = s.posLE ⟨i⟩ := by
  induction i with
  | zero => exact (String.posLE_eq_iff.mpr ⟨Nat.le_refl 0, fun _ hq => hq⟩).symm
  | succ i ih =>
    by_cases hvalid : String.Pos.Raw.IsValid s ⟨i + 1⟩
    · rw [cutBefore, dif_pos hvalid, String.posLE_eq_pos hvalid]
    · rw [cutBefore, dif_neg hvalid, ih]
      refine (String.posLE_eq_iff.mpr ⟨?_, fun q hq => ?_⟩).symm
      · exact Nat.le_succ_of_le (String.offset_posLE_le (s := s) (p := ⟨i⟩))
      · have hne : q.offset ≠ ⟨i + 1⟩ := fun h => hvalid (h ▸ q.isValid)
        have hlt : q.offset.byteIdx ≠ i + 1 := mt String.Pos.Raw.ext hne
        exact String.le_posLE_iff.mpr (Nat.lt_succ_iff.mp (Nat.lt_of_le_of_ne hq hlt))

/-- `t` is the longest part of `s` from its start that ends between two characters and takes at most
`max` bytes. -/
structure IsCut (s : String) (max : Nat) (t : String) : Prop where
  splits : ∃ (p : s.Pos) (rest : String), p.Splits t rest
  fits : t.utf8ByteSize ≤ max
  longest : ∀ u rest, s = u ++ rest → u.utf8ByteSize ≤ max → ∃ more, t = u ++ more
  whole : s.utf8ByteSize ≤ max → t = s
  nearly : max < s.utf8ByteSize → max ≤ t.utf8ByteSize + 3

/-- A text that fits is its own longest part. -/
theorem isCut_self {s : String} {max : Nat} (h : s.utf8ByteSize ≤ max) : IsCut s max s where
  splits := ⟨s.endPos, "", s.splits_endPos⟩
  fits := h
  longest _ rest hs _ := ⟨rest, hs⟩
  whole _ := rfl
  nearly hlt := absurd h (Nat.not_le.mpr hlt)

/-- The next place behind the cut lies behind the number of bytes. -/
theorem lt_cutBefore_add_four {s : String} {max : Nat} (h : max < s.utf8ByteSize) :
    max < (cutBefore s max).offset.byteIdx + 4 := by
  rw [cutBefore_eq_posLE]
  have hle : (s.posLE ⟨max⟩).offset.byteIdx ≤ max := String.offset_posLE_le (s := s) (p := ⟨max⟩)
  have hne : s.posLE ⟨max⟩ ≠ s.endPos := by
    intro heq
    rw [heq] at hle
    exact Nat.not_lt.mpr hle h
  have hnext : max < ((s.posLE ⟨max⟩).next hne).offset.byteIdx := by
    refine Nat.lt_of_not_le fun hback => ?_
    have hstays : (s.posLE ⟨max⟩).next hne ≤ s.posLE ⟨max⟩ := String.le_posLE_iff.mpr hback
    exact Nat.lt_irrefl _ (Nat.lt_of_lt_of_le String.Pos.lt_next hstays)
  rw [String.Pos.byteIdx_offset_next] at hnext
  have hfour := Char.utf8Size_le_four ((s.posLE ⟨max⟩).get hne)
  omega

/-- A text is cut to its longest part that fits. -/
theorem isCut_truncate (s : String) (max : Nat) : IsCut s max (truncate s max) := by
  by_cases h : s.utf8ByteSize ≤ max
  · rw [truncate, if_pos h]
    exact isCut_self h
  · rw [truncate, if_neg h]
    have hsplits := (cutBefore s max).splits
    have hsize : (s.sliceTo (cutBefore s max)).copy.utf8ByteSize =
        (cutBefore s max).offset.byteIdx :=
      (congrArg String.Pos.Raw.byteIdx hsplits.offset_eq_rawEndPos).symm
    have hle : (cutBefore s max).offset.byteIdx ≤ max := by
      rw [cutBefore_eq_posLE]
      exact String.offset_posLE_le (s := s) (p := ⟨max⟩)
    exact {
      splits := ⟨_, _, hsplits⟩
      fits := by rwa [hsize]
      longest := by
        intro u rest hs hu
        have hother := String.Pos.splits_ofEqAppend hs
        have hbefore : String.Pos.ofEqAppend hs ≤ cutBefore s max := by
          rw [cutBefore_eq_posLE]
          refine String.le_posLE_iff.mpr ?_
          rw [hother.offset_eq_rawEndPos]
          exact hu
        obtain ⟨more, hmore, -⟩ := (hother.le_iff_exists_eq_append hsplits).mp hbefore
        exact ⟨more, hmore⟩
      whole := fun hfits => absurd hfits h
      nearly := by
        intro hlt
        have hnext := lt_cutBefore_add_four hlt
        omega }

end Text

/-! ## Statements and errors -/

namespace Outcome

variable {max : Nat} {s : String}

/-- A text that fits is left as it is. -/
theorem shorten_of_le (h : s.utf8ByteSize ≤ max) : shorten max s = s := if_pos h

/-- A text that does not fit is cut, and the cut is marked. -/
theorem shorten_of_lt (h : max < s.utf8ByteSize) : shorten max s = Text.truncate s max ++ "..." :=
  if_neg (Nat.not_le.mpr h)

/-- The dots take three bytes more than the part before them. -/
theorem utf8ByteSize_shorten_le (max : Nat) (s : String) :
    (shorten max s).utf8ByteSize ≤ max + 3 := by
  by_cases h : s.utf8ByteSize ≤ max
  · rw [shorten_of_le h]
    omega
  · rw [shorten_of_lt (Nat.lt_of_not_le h), String.utf8ByteSize_append]
    exact Nat.add_le_add_right (Text.isCut_truncate s max).fits 3

end Outcome

/-- A text is cut to the longest of its prefixes that end between two characters and take at most a
number of bytes. Monitors show a statement whole if it fits or nothing is to be cut, and otherwise
as that prefix with dots behind it. The message of an error is kept whole up to 512 bytes, and
otherwise as the prefix and dots in at most 515 bytes, which can be read as text again. -/
theorem truncation_keeps_longest_prefix :
    (∀ s max, Text.IsCut s max (Text.truncate s max)) ∧
    (∀ (m : TracingMonitor) (sql : String),
      (m.maxSqlBytes = none → m.shownSql sql = sql) ∧
      ∀ max, m.maxSqlBytes = some max →
        (sql.utf8ByteSize ≤ max → m.shownSql sql = sql) ∧
        (max < sql.utf8ByteSize → m.shownSql sql = Text.truncate sql max ++ "...")) ∧
    ∀ message, ∃ kept, Outcome.ofError message = .error kept ∧
      (message.utf8ByteSize ≤ 512 → kept = message) ∧
      (512 < message.utf8ByteSize → kept = Text.truncate message 512 ++ "...") ∧
      kept.utf8ByteSize ≤ 515 ∧ Text.ofUtf8 (Text.utf8 kept) = .ok kept := by
  refine ⟨Text.isCut_truncate, fun m sql => ⟨fun hwhole => ?_, fun max hmax => ⟨fun h => ?_,
    fun h => ?_⟩⟩, fun message => ⟨_, rfl, Outcome.shorten_of_le, Outcome.shorten_of_lt,
      Outcome.utf8ByteSize_shorten_le 512 message, Text.ofUtf8_utf8 _⟩⟩
  · rw [TracingMonitor.shownSql, hwhole]
  · rw [TracingMonitor.shownSql, hmax]
    exact Outcome.shorten_of_le h
  · rw [TracingMonitor.shownSql, hmax]
    exact Outcome.shorten_of_lt h

/-- A limit inside the second character leaves the first one, and one of no bytes leaves nothing. -/
theorem accentedText_is_cut :
    Text.truncate "né" 2 = "n" ∧
    TracingMonitor.shownSql { maxSqlBytes := some 2 } "né" = "n..." ∧
    TracingMonitor.shownSql { maxSqlBytes := some 0 } "né" = "..." ∧
    TracingMonitor.shownSql { maxSqlBytes := none } "né" = "né" := by
  obtain ⟨-, hshown, -⟩ := truncation_keeps_longest_prefix
  have htwo : Text.truncate "né" 2 = "n" := by decide +kernel
  have hzero : Text.truncate "né" 0 = "" := by decide +kernel
  refine ⟨htwo, ?_, ?_, (hshown _ _).1 rfl⟩
  · rw [((hshown _ _).2 2 rfl).2 (by decide), htwo]
    rfl
  · rw [((hshown _ _).2 0 rfl).2 (by decide), hzero]
    rfl

end SqlAccess
