import SqlAccess.Proofs.Placeholder.Fragment
import SqlAccess.Proofs.Statement.Shape

/-!
# What the parts of a statement carry

`Carries` says of a fragment which texts of the caller stand in it, which values it binds, which
points in time it compares, and that none of its placeholders runs into a digit. It composes, and
each function that writes a part of a statement has one lemma: what it writes carries
the outline of that part. Nested filters are covered by induction on their entries.
-/

namespace SqlAccess

namespace Fragment

/-- A fragment holds marks only inside the given texts, binds the given values, compares the given
points in time, and lets no placeholder run into a digit. -/
structure Carries (texts : List String) (bound points : List Value) (f : Fragment) : Prop where
  free : ∀ d : Dialect, (∀ t ∈ texts, d.mark ∉ t.toList) → f.Free d.mark
  values_eq : f.values = bound
  instants_eq : f.instants = points
  separated : f.Separated

/-- What follows a placeholder has to be guarded; otherwise contents just add up. -/
theorem Carries.append {f g : Fragment} {texts texts' : List String}
    {bound bound' points points' : List Value} (hf : f.Carries texts bound points)
    (hg : g.Carries texts' bound' points') (hgd : g.Guarded) :
    (f ++ g).Carries (texts ++ texts') (bound ++ bound') (points ++ points') where
  free d h s hs := by
    rcases List.mem_append.mp hs with hs | hs
    · exact hf.free d (fun t ht => h t (List.mem_append_left texts' ht)) s hs
    · exact hg.free d (fun t ht => h t (List.mem_append_right texts ht)) s hs
  values_eq := by rw [values_append, hf.values_eq, hg.values_eq]
  instants_eq := by
    rw [instants, List.flatMap_append]
    exact congrArg₂ _ hf.instants_eq hg.instants_eq
  separated := hf.separated.append hg.separated hgd

/-- A fragment may be said to hold more of the caller's texts than it does. -/
theorem Carries.mono {f : Fragment} {texts texts' : List String} {bound points : List Value}
    (hf : f.Carries texts bound points) (h : ∀ t ∈ texts, t ∈ texts') :
    f.Carries texts' bound points :=
  ⟨fun d hd => hf.free d fun t ht => hd t (h t ht), hf.values_eq, hf.instants_eq, hf.separated⟩

/-- The empty fragment carries nothing. -/
theorem carries_nil : Carries [] [] [] [] :=
  ⟨fun _ _ _ hs => (nomatch hs), rfl, rfl, trivial⟩

/-- A text in front of a fragment may stand directly before a value or a text. -/
theorem Carries.text_cons {f : Fragment} {s : String} {texts' : List String}
    {bound points : List Value} (texts : List String)
    (hs : ∀ d : Dialect, (∀ t ∈ texts, d.mark ∉ t.toList) → d.mark ∉ s.toList)
    (hf : f.Carries texts' bound points) :
    Carries (texts ++ texts') bound points (.text s :: f) where
  free d h := by
    intro a ha
    rcases List.mem_cons.mp ha with rfl | ha
    · exact hs d fun t ht => h t (List.mem_append_left texts' ht)
    · exact hf.free d (fun t ht => h t (List.mem_append_right texts ht)) a ha
  values_eq := hf.values_eq
  instants_eq := hf.instants_eq
  separated := ⟨fun h => absurd rfl h, hf.separated⟩

/-- A text on its own carries the texts it is made of. -/
theorem carries_text {s : String} (texts : List String)
    (hs : ∀ d : Dialect, (∀ t ∈ texts, d.mark ∉ t.toList) → d.mark ∉ s.toList) :
    Carries texts [] [] [.text s] := by
  simpa only [List.append_nil] using carries_nil.text_cons texts hs

/-- A fixed word of the library carries nothing. -/
theorem Carries.word_cons {f : Fragment} {s : String} {texts : List String}
    {bound points : List Value} (hs : ∀ d : Dialect, d.mark ∉ s.toList)
    (hf : f.Carries texts bound points) : Carries texts bound points (.text s :: f) :=
  Carries.text_cons [] (fun d _ => hs d) hf

/-- A value at the end of a fragment is bound. -/
theorem carries_bound (v : Value) : Carries [] [v] [] [.bound v] where
  free d _ s hs := by
    rw [List.mem_singleton.mp hs]
    trivial
  values_eq := rfl
  instants_eq := rfl
  separated := ⟨fun _ => guarded_nil, trivial⟩

/-- A value is bound in front of a guarded fragment. -/
theorem Carries.bound_cons {f : Fragment} {texts : List String} {bound points : List Value}
    (v : Value) (hf : f.Carries texts bound points) (hg : f.Guarded) :
    Carries texts (v :: bound) points (.bound v :: f) :=
  (carries_bound v).append hf hg

/-- Fragments with a guarded separator between neighbours carry what each of them carries. -/
theorem carries_joinWith {α : Type} {separator : String} {xs : List α} {write : α → Fragment}
    {texts : α → List String} {bound : α → List Value}
    (hs : ∀ d : Dialect, d.mark ∉ separator.toList) (hg : ∀ f, Guarded (.text separator :: f))
    (hx : ∀ x ∈ xs, (write x).Carries (texts x) (bound x) []) :
    (joinWith separator (xs.map write)).Carries (xs.flatMap texts) (xs.flatMap bound) [] := by
  induction xs with
  | nil => exact carries_nil
  | cons x xs ih =>
    have hxs := ih fun y hy => hx y (List.mem_cons_of_mem x hy)
    have hhead := hx x List.mem_cons_self
    cases xs with
    | nil => simpa [joinWith] using hhead
    | cons y ys => exact hhead.append (hxs.word_cons hs) (hg _)

/-- Values between commas are all bound. -/
theorem carries_ofValues {separator : String} {c : Char} (vs : List Value)
    (hs : ∀ d : Dialect, d.mark ∉ separator.toList) (hc : separator.toList.head? = some c)
    (hd : c.isDigit = false) : Carries [] vs [] (ofValues separator vs) := by
  have h : Carries (vs.flatMap fun _ => []) (vs.flatMap fun v => [v]) []
      (joinWith separator (vs.map fun v => [.bound v])) :=
    carries_joinWith hs (guarded_text_cons hc hd) fun v _ => carries_bound v
  rw [List.flatMap_singleton'] at h
  exact h.mono (by simp)

end Fragment

/-- A text that is trimmed holds no new character. -/
theorem Text.mem_of_mem_trim {c : Char} {s : String} (h : c ∈ (Text.trim s).toList) :
    c ∈ s.toList := by
  simp only [Text.trim, Text.trimChars, Text.dropBlanksRight, Text.dropBlanks,
    String.toList_ofList, List.mem_reverse] at h
  have hr := (List.dropWhile_sublist _).subset h
  exact (List.dropWhile_sublist _).subset (List.mem_reverse.mp hr)

/-- No symbol of an operator holds a mark. -/
theorem Operator.mark_notMem_symbol (op : Operator) (d : Dialect) : d.mark ∉ op.symbol.toList := by
  cases d <;> cases op <;> simp [Operator.symbol, Dialect.mark]

namespace Condition

variable {c : Condition}

/-- The column as it is written, with words of the library after it, holds a mark only if
the column does. -/
private theorem mark_notMem_column {d : Dialect} {ending : String} (hc : d.mark ∉ c.column.toList)
    (he : d.mark ∉ ending.toList) : d.mark ∉ (c.trimmedColumn ++ ending).toList := by
  rw [String.toList_append, List.mem_append]
  rintro (h | h)
  · exact hc (Text.mem_of_mem_trim h)
  · exact he h

open Fragment

/-- The column stands in every condition. -/
theorem column_mem_fixedTexts (c : Condition) : c.column ∈ c.fixedTexts := by
  unfold fixedTexts
  split
  · exact List.mem_cons_self
  · split <;> exact List.mem_cons_self

/-- Only a comparison with a point in time compares one. -/
theorem instants_eq_nil (h : c.op.isComparison = false ∨ c.value.isNull = true) :
    c.instants = [] := by
  have hc : c.comparesInstant = false := by
    rcases h with h | h
    · simp [comparesInstant, h]
    · cases hv : c.value <;> simp_all [comparesInstant, Value.isNull, Value.isTemporal, Value.kind]
  simp [instants, hc]

/-- The column with words of the library after it, in front of what a condition writes next. -/
theorem carries_column {ending : String} {f : Fragment} {texts : List String}
    {bound points : List Value} (he : ∀ d : Dialect, d.mark ∉ ending.toList)
    (hf : f.Carries texts bound points) (ht : ∀ t ∈ texts, t ∈ c.fixedTexts) :
    Carries c.fixedTexts bound points (.text (c.trimmedColumn ++ ending) :: f) := by
  have h : Carries ([c.column] ++ texts) bound points (.text (c.trimmedColumn ++ ending) :: f) :=
    hf.text_cons [c.column] fun d hd => mark_notMem_column (hd _ List.mem_cons_self) (he d)
  apply h.mono
  intro t hm
  rcases List.mem_append.mp hm with hm | hm
  · rw [List.mem_singleton.mp hm]
    exact c.column_mem_fixedTexts
  · exact ht t hm

/-- The column, the symbol of the operator and an opening, in front of what comes next. -/
theorem carries_opening {opening : String} {f : Fragment} {texts : List String}
    {bound points : List Value} (op : Operator) (ho : ∀ d : Dialect, d.mark ∉ opening.toList)
    (hf : f.Carries texts bound points) (ht : ∀ t ∈ texts, t ∈ c.fixedTexts) :
    Carries c.fixedTexts bound points
      (.text (c.trimmedColumn ++ " " ++ op.symbol ++ opening) :: f) := by
  rw [String.append_assoc, String.append_assoc]
  apply carries_column _ hf ht
  intro d
  have hb : d.mark ≠ ' ' := by cases d <;> decide
  simp [hb, ho d, op.mark_notMem_symbol d]

/-- A blank holds no mark. -/
theorem mark_notMem_blank (d : Dialect) : d.mark ∉ " ".toList :=
  Dialect.mark_notMem_word (by simp) d

/-- An opening parenthesis holds no mark. -/
theorem mark_notMem_open (d : Dialect) : d.mark ∉ " (".toList :=
  Dialect.mark_notMem_word (by simp) d

/-- A closing parenthesis carries nothing. -/
theorem carries_close : Carries [] [] [] [.text ")"] :=
  carries_nil.word_cons (Dialect.mark_notMem_word (by simp))

/-- A closing parenthesis may follow a value. -/
theorem guarded_close : Guarded [.text ")"] := guarded_text_cons (c := ')') rfl rfl []

/-- A value that is written as it is binds nothing. -/
theorem carries_rawFragment (hr : c.op.isRaw = true) :
    (rawFragment c.trimmedColumn c.op c.value).Carries c.fixedTexts [] [] := by
  have hv : c.value.raw ∈ c.fixedTexts := by simp [fixedTexts, hr]
  unfold rawFragment
  split
  · apply carries_opening c.op mark_notMem_open
    · exact carries_close.text_cons [c.value.raw] fun d hd => hd _ List.mem_cons_self
    · simpa using hv
  · apply carries_opening c.op mark_notMem_blank
    · exact carries_nil.text_cons [c.value.raw] fun d hd => hd _ List.mem_cons_self
    · simpa using hv

/-- A range binds its bounds. -/
theorem carries_rangeFragment {f : Fragment}
    (hf : rangeFragment c.trimmedColumn c.value = .ok f) :
    f.Carries c.fixedTexts (bounds c.value) [] := by
  unfold rangeFragment at hf
  split at hf
  · rename_i low hb
    split at hf
    · cases hf
    · cases hf
      rw [hb]
      exact carries_column (Dialect.mark_notMem_word (by simp)) (carries_bound low)
        (by simp)
  · rename_i low high hb
    cases hf
    rw [hb]
    have hhigh : Carries [] [high] [] [.text " AND ", .bound high] :=
      (carries_bound high).word_cons (Dialect.mark_notMem_word (by simp))
    have hlow := hhigh.bound_cons low (guarded_text_cons (c := ' ') rfl rfl _)
    exact carries_column (Dialect.mark_notMem_word (by simp)) hlow (by simp)
  · cases hf

/-- A membership binds the items of a list or a single value, and writes a joined list as it is. -/
theorem carries_memberFragment (hn : c.value.isNull = false) (hc : c.op = .isIn ∨ c.op = .notIn) :
    (memberFragment c.trimmedColumn c.op c.value).Carries c.fixedTexts c.bindings [] := by
  rw [bindings_of_member hn hc]
  unfold memberFragment
  cases hv : c.value with
  | list items =>
    cases items with
    | nil =>
      apply (Carries.word_cons _ carries_nil).mono (by simp)
      intro d
      split <;> exact Dialect.mark_notMem_word (by simp) d
    | cons v vs =>
      have hvs : Carries [] (v :: vs) [] (ofValues "," (v :: vs)) :=
        carries_ofValues (c := ',') (v :: vs) (Dialect.mark_notMem_word (by simp)) rfl rfl
      have hall : Carries [] (v :: vs) [] (ofValues "," (v :: vs) ++ [.text ")"]) := by
        simpa only [List.append_nil] using hvs.append carries_close guarded_close
      exact carries_opening c.op mark_notMem_open hall (by simp)
  | text joined =>
    apply carries_opening c.op mark_notMem_open
    · exact carries_close.text_cons [joined] fun d hd => hd _ List.mem_cons_self
    · rcases hc with hc | hc <;> simp [fixedTexts, Operator.isRaw, hc, hv]
  | _ =>
    exact carries_opening c.op mark_notMem_open (carries_close.bound_cons _ guarded_close) (by simp)

/-- A point in time is bound like any other value. -/
theorem carries_instant (v : Value) (op : Operator) :
    Carries c.fixedTexts [v] [v] [.instant c.trimmedColumn op.symbol v] where
  free d h s hs := by
    rw [List.mem_singleton.mp hs]
    have hcol : d.mark ∉ c.column.toList := h _ c.column_mem_fixedTexts
    exact ⟨fun hm => hcol (Text.mem_of_mem_trim hm), op.mark_notMem_symbol d⟩
  values_eq := rfl
  instants_eq := rfl
  separated := ⟨fun _ => guarded_nil, trivial⟩

/-- Whatever is written for a condition carries the outline of the condition. -/
theorem carries_of_render {f : Fragment} (h : c.render = .ok f) :
    f.Carries c.fixedTexts c.bindings c.instants := by
  cases shape_of_render h with
  | test ending hend hc =>
    have hi : c.instants = [] := by
      apply instants_eq_nil
      rcases hc with hc | hc | hc
      · exact .inl (by rw [hc]; rfl)
      · exact .inl (by rw [hc]; rfl)
      · exact .inr hc
    rw [bindings_of_test hc, hi]
    apply carries_column _ carries_nil (by simp)
    intro d
    rcases hend with rfl | rfl <;> exact Dialect.mark_notMem_word (by simp) d
  | raw hn hc =>
    have hi : c.op.isComparison = false := by
      cases ho : c.op <;> simp_all [Operator.isRaw, Operator.isComparison]
    rw [bindings_of_isRaw hc, instants_eq_nil (.inl hi)]
    exact carries_rawFragment hc
  | range hn hc hf =>
    rw [bindings_of_between hn hc, instants_eq_nil (.inl (by rw [hc]; rfl))]
    exact carries_rangeFragment hf
  | member hn hc =>
    have hi : c.op.isComparison = false := by
      rcases hc with hc | hc <;> rw [hc] <;> rfl
    rw [instants_eq_nil (.inl hi)]
    exact carries_memberFragment hn hc
  | instant hn hc =>
    have hop : c.op.isComparison = true := (Bool.and_eq_true_iff.mp hc).1
    rw [bindings_of_single hn (.inl hop), instants, if_pos hc]
    exact carries_instant c.value c.op
  | bound hn hc hi hl =>
    rw [bindings_of_single hn hc, instants, hi]
    exact carries_opening c.op mark_notMem_blank (carries_bound c.value) (by simp)

end Condition

end SqlAccess
