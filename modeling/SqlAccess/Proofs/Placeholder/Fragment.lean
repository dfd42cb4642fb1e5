import Mathlib.Data.List.Range
import SqlAccess.Parameters
import SqlAccess.Proofs.Placeholder.Reading

/-!
# Reading a prepared fragment back

The prepared form of a fragment reads back as its own pieces, one placeholder for each value, when
no fixed text holds the mark of the dialect and no placeholder is followed by a digit. Both
conditions are kept by putting fragments together, so `Carries` collects them with the values that a
fragment binds and the points in time that it compares: every part of a statement gets one such
fact, and the parts compose.
-/

namespace SqlAccess

namespace Segment

/-- No fixed text of a segment holds a character. -/
def Free (c : Char) : Segment → Prop
  | .text s => c ∉ s.toList
  | .bound _ => True
  | .instant column symbol _ => c ∉ column.toList ∧ c ∉ symbol.toList
  | .window _ => True

/-- The points in time that a segment compares directly. -/
def instants : Segment → List Value
  | .instant _ _ v => [v]
  | _ => []

/-- The pieces of a prepared segment whose placeholder has a given position. -/
def pieces (d : Dialect) (position : Nat) : Segment → List Piece
  | .text s => s.toList.map .char
  | .bound _ => [.placeholder (d.placeholder position).toList]
  | .instant column symbol _ =>
    (column ++ " " ++ symbol ++ " ").toList.map .char ++
      [.placeholder (d.placeholder position).toList]
  | .window w => (d.window w).toList.map .char

end Segment

namespace Fragment

/-- No fixed text of a fragment holds a character. -/
def Free (c : Char) (f : Fragment) : Prop := ∀ s ∈ f, s.Free c

/-- The points in time that a fragment compares directly. -/
def instants (f : Fragment) : List Value := f.flatMap Segment.instants

/-- The pieces of a prepared fragment; `used` positions are taken already. -/
def pieces (d : Dialect) (used : Nat) : Fragment → List Piece
  | [] => []
  | s :: rest => s.pieces d (used + 1) ++ pieces d (used + s.values.length) rest

/-- However it is prepared, a fragment does not start with a digit. -/
def Guarded (f : Fragment) : Prop := ∀ d used, NoDigitAhead (f.prepared d used).toList

/-- No placeholder of a fragment is followed by a digit. -/
def Separated : Fragment → Prop
  | [] => True
  | s :: rest => (s.values ≠ [] → Guarded rest) ∧ Separated rest

/-- Fragments one after another are written one after another. -/
theorem literal_append (d : Dialect) (f g : Fragment) :
    (f ++ g).literal d = f.literal d ++ g.literal d := by
  induction f with
  | nil => simp [literal]
  | cons s f ih => rw [List.cons_append, literal, literal, ih, String.append_assoc]

/-- What stands after the first fragment counts on from its values. -/
theorem prepared_append (d : Dialect) (used : Nat) (f g : Fragment) :
    (f ++ g).prepared d used = f.prepared d used ++ g.prepared d (used + f.values.length) := by
  induction f generalizing used with
  | nil => simp [prepared]
  | cons s f ih =>
    rw [List.cons_append, prepared, prepared, ih, String.append_assoc, values_cons,
      List.length_append, Nat.add_assoc]

/-- The empty fragment starts with nothing. -/
theorem guarded_nil : Guarded [] := fun _ _ => noDigitAhead_nil

/-- A text that starts with something else than a digit guards all that follows it. -/
theorem guarded_text_cons {s : String} {c : Char} (hs : s.toList.head? = some c)
    (hc : c.isDigit = false) (f : Fragment) : Guarded (.text s :: f) := by
  intro d used
  obtain ⟨cs, hcs⟩ : ∃ cs, s.toList = c :: cs := by
    cases h : s.toList with
    | nil => simp [h] at hs
    | cons a cs =>
      simp only [h, List.head?_cons, Option.some.injEq] at hs
      exact ⟨cs, by rw [hs]⟩
  rw [prepared, Segment.prepared, String.toList_append, hcs]
  exact noDigitAhead_cons hc

/-- Guarded fragments follow one another. -/
theorem Guarded.append {f g : Fragment} (hf : f.Guarded) (hg : g.Guarded) :
    (f ++ g).Guarded := by
  intro d used
  rw [prepared_append, String.toList_append]
  exact (hf d used).append (hg d _)

/-- A guarded fragment may follow any placeholder. -/
theorem Separated.append {f g : Fragment} (hf : f.Separated) (hg : g.Separated)
    (hgd : g.Guarded) : (f ++ g).Separated := by
  induction f with
  | nil => exact hg
  | cons s f ih => exact ⟨fun hv => (hf.1 hv).append hgd, ih hf.2⟩

/-- A window holds digits and fixed words only. -/
private theorem mark_notMem_window (d : Dialect) (w : Window) : d.mark ∉ (d.window w).toList := by
  have hd (n : Nat) : d.mark ∉ Nat.toDigits 10 n := d.mark_notMem_toDigits n
  obtain ⟨limit, offset⟩ := w
  cases d <;> cases limit <;> cases offset <;> simp only [Dialect.mark] at hd <;>
    simp [Dialect.window, Dialect.mark, hd]

/-- The prepared form of a segment reads back as its pieces. -/
theorem pieces_segment_append {d : Dialect} {s : Segment} (hf : s.Free d.mark) (position : Nat)
    {rest : List Char} (hr : s.values ≠ [] → NoDigitAhead rest) :
    d.pieces ((s.prepared d position).toList ++ rest) = s.pieces d position ++ d.pieces rest := by
  cases s with
  | text t => exact Dialect.pieces_append_of_notMem hf rest
  | bound v => exact d.pieces_placeholder_append position (hr (by simp [Segment.values]))
  | instant column symbol v =>
    have hn : d.mark ∉ (column ++ " " ++ symbol ++ " ").toList := by
      have hb : d.mark ≠ ' ' := by cases d <;> decide
      simpa [hb] using And.intro hf.1 hf.2
    rw [Segment.prepared, String.toList_append, List.append_assoc,
      Dialect.pieces_append_of_notMem hn,
      d.pieces_placeholder_append position (hr (by simp [Segment.values])), Segment.pieces,
      List.append_assoc]
    rfl
  | window w => exact Dialect.pieces_append_of_notMem (mark_notMem_window d w) rest

/-- The prepared form of a fragment reads back as its pieces: nothing but the places of values is
read as a placeholder, and each is read whole. -/
theorem pieces_prepared {d : Dialect} {f : Fragment} (hs : f.Separated) (hf : f.Free d.mark)
    (used : Nat) : d.pieces (f.prepared d used).toList = f.pieces d used := by
  induction f generalizing used with
  | nil => simp [prepared, pieces, Dialect.pieces]
  | cons s f ih =>
    have hfree : s.Free d.mark := hf s List.mem_cons_self
    have hrest : Free d.mark f := fun t ht => hf t (List.mem_cons_of_mem s ht)
    rw [prepared, String.toList_append, pieces_segment_append hfree _ (fun hv => hs.1 hv d _),
      ih hs.2 hrest, pieces]

/-- The placeholders of a fragment are numbered without a gap, one for each value. -/
theorem placeholders_pieces (d : Dialect) (f : Fragment) (used : Nat) :
    (f.pieces d used).filterMap Piece.placeholder? =
      (List.range' (used + 1) f.values.length).map d.placeholder := by
  have hchar (cs : List Char) : (cs.map Piece.char).filterMap Piece.placeholder? = [] := by
    simp [List.filterMap_map, Function.comp_def, Piece.placeholder?]
  induction f generalizing used with
  | nil => rfl
  | cons s f ih =>
    have hs : (s.pieces d (used + 1)).filterMap Piece.placeholder? =
        (List.range' (used + 1) s.values.length).map d.placeholder := by
      cases s with
      | text t => exact hchar t.toList
      | bound v => simp [Segment.pieces, Segment.values, Piece.placeholder?]
      | instant column symbol v =>
        rw [Segment.pieces, List.filterMap_append, hchar]
        simp [Segment.values, Piece.placeholder?]
      | window w => exact hchar (d.window w).toList
    rw [pieces, List.filterMap_append, hs, ih, values_cons, List.length_append,
      ← List.range'_append_1, List.map_append, Nat.add_right_comm]

/-- Filling the values of a fragment into its pieces writes them as literals, unless a point in time
is compared, which is written in another form. -/
theorem fill_pieces (d : Dialect) {f : Fragment} (hi : f.instants = []) (used : Nat) :
    d.fill (f.pieces d used) f.values = (f.literal d).toList := by
  induction f generalizing used with
  | nil => rfl
  | cons s f ih =>
    have hparts : s.instants = [] ∧ instants f = [] := by
      simpa only [instants, List.flatMap_cons, List.append_eq_nil_iff] using hi
    rw [pieces, values_cons, literal, String.toList_append]
    cases s with
    | text t =>
      rw [Segment.pieces, Dialect.fill_map_char]
      exact congrArg _ (ih hparts.2 used)
    | bound v => exact congrArg _ (ih hparts.2 (used + 1))
    | instant column symbol v => cases hparts.1
    | window w =>
      rw [Segment.pieces, Dialect.fill_map_char]
      exact congrArg _ (ih hparts.2 used)

end Fragment

end SqlAccess
