import SqlAccess.Proofs.Placeholder.Contents
import SqlAccess.Proofs.Text.Joined

/-!
# What statements carry

Filters carry the leaves of their entries, depth first, and every statement carries its outline:
in front of each clause stands a blank, so no placeholder of one clause runs into the next. The
last theorem says so for everything that is sent.
-/

namespace SqlAccess

/-- What is computed from a result is there only if the result is. -/
theorem exists_of_map_eq_ok {ε α β : Type} {f : α → β} {a : Except ε α} {b : β}
    (h : a.map f = .ok b) : ∃ x, a = .ok x ∧ f x = b := by
  cases a with
  | error e => cases h
  | ok x =>
    cases h
    exact ⟨x, rfl, rfl⟩

namespace Rendering

/-- Two renderings one after another are finished when both are. -/
theorem append_eq_ok {a b : Rendering} {f : Fragment} (h : a ++ b = .ok f) :
    ∃ x y, a = .ok x ∧ b = .ok y ∧ f = x ++ y := by
  cases a with
  | error r => cases h
  | ok x =>
    cases b with
    | error r => cases h
    | ok y =>
      cases h
      exact ⟨x, y, rfl, rfl, rfl⟩

/-- A result is a finished rendering. -/
theorem eq_ok_of_result {a : Rendering} {f : Fragment} (h : a.result = .ok f) : a = .ok f := by
  cases a with
  | error r => cases h
  | ok x =>
    cases h
    rfl

end Rendering

namespace Fragment

/-- A fragment carries what the given leaves of a filter carry. -/
def CarriesLeaves (ls : List FilterLeaf) (f : Fragment) : Prop :=
  f.Carries (ls.flatMap FilterLeaf.fixedTexts) (ls.flatMap FilterLeaf.bindings)
    (ls.flatMap FilterLeaf.instants)

/-- Leaves add up in order. -/
theorem CarriesLeaves.append {ls ms : List FilterLeaf} {f g : Fragment} (hf : f.CarriesLeaves ls)
    (hg : g.CarriesLeaves ms) (hgd : g.Guarded) : (f ++ g).CarriesLeaves (ls ++ ms) := by
  unfold CarriesLeaves
  rw [List.flatMap_append, List.flatMap_append, List.flatMap_append]
  exact Carries.append hf hg hgd

/-- One leaf carries what is its own. -/
private theorem carriesLeaves_singleton {l : FilterLeaf} {f : Fragment}
    (hf : f.Carries l.fixedTexts l.bindings l.instants) : f.CarriesLeaves [l] := by
  simpa only [CarriesLeaves, List.flatMap_singleton] using hf

/-- A text that is empty or starts with something else than a digit is guarded. -/
private theorem guarded_text {s : String} (h : NoDigitAhead s.toList) : Guarded [.text s] := by
  intro d used
  rw [prepared, Segment.prepared, String.toList_append]
  exact h.append noDigitAhead_nil

end Fragment

namespace FilterEntry

open Fragment

/-- A connective is guarded by the blank in front of it. -/
private theorem guarded_token (connective : Connective) (f : Fragment) :
    Guarded (.text connective.token :: f) := by
  cases connective <;> exact guarded_text_cons (c := ' ') rfl rfl f

mutual

/-- An entry carries its leaves. -/
theorem carriesLeaves_of_rendering : (e : FilterEntry) → {f : Fragment} →
    e.rendering = .ok f → f.CarriesLeaves e.leaves
  | .condition c, f, h => by
    apply carriesLeaves_singleton
    apply Condition.carries_of_render
    rw [rendering, Condition.rendering] at h
    split at h
    · rename_i g hg
      cases h
      exact hg
    · cases h
  | .nested connective entries, f, h => by
    rw [rendering] at h
    obtain ⟨g, close, hg, hclose, rfl⟩ := Rendering.append_eq_ok h
    obtain ⟨start, inner, hstart, hinner, rfl⟩ := Rendering.append_eq_ok hg
    cases hstart
    cases hclose
    have hi := carriesLeaves_of_entriesRendering entries hinner
    have hclosing : CarriesLeaves [] [.text ")"] := Condition.carries_close
    have hin : CarriesLeaves (entriesLeaves entries) (inner ++ [.text ")"]) := by
      simpa only [List.append_nil] using hi.append hclosing Condition.guarded_close
    exact hin.word_cons (Dialect.mark_notMem_word (by simp))
  | .raw connective sql, f, h => by
    cases h
    apply carriesLeaves_singleton
    exact carries_text [sql] fun d hd => hd _ List.mem_cons_self

/-- Entries carry their leaves, one entry after another. -/
theorem carriesLeaves_of_entriesRendering : (es : List FilterEntry) → {f : Fragment} →
    entriesRendering es = .ok f → f.CarriesLeaves (entriesLeaves es)
  | [], f, h => by
    cases h
    exact carries_nil
  | e :: es, f, h => by
    rw [entriesRendering] at h
    obtain ⟨first, rest, hfirst, hrest, rfl⟩ := Rendering.append_eq_ok h
    have hr := carriesLeaves_of_followersRendering es hrest
    exact (carriesLeaves_of_rendering e hfirst).append hr.1 hr.2

/-- The entries after the first carry their leaves too, and may stand behind a placeholder. -/
theorem carriesLeaves_of_followersRendering : (es : List FilterEntry) → {f : Fragment} →
    followersRendering es = .ok f → f.CarriesLeaves (entriesLeaves es) ∧ f.Guarded
  | [], f, h => by
    cases h
    exact ⟨carries_nil, guarded_nil⟩
  | e :: es, f, h => by
    rw [followersRendering] at h
    obtain ⟨g, rest, hg, hrest, rfl⟩ := Rendering.append_eq_ok h
    obtain ⟨token, entry, htoken, hentry, rfl⟩ := Rendering.append_eq_ok hg
    cases htoken
    have hr := carriesLeaves_of_followersRendering es hrest
    have hall := (carriesLeaves_of_rendering e hentry).append hr.1 hr.2
    constructor
    · apply Carries.word_cons _ hall
      intro d
      cases d <;> cases e.connective <;> simp [Connective.token, Dialect.mark]
    · exact guarded_token e.connective _

end

end FilterEntry

/-- A filter carries its leaves. -/
theorem Filter.carries_of_rendering {q : Filter} {f : Fragment} (h : q.rendering = .ok f) :
    f.Carries q.fixedTexts q.bindings q.instants :=
  FilterEntry.carriesLeaves_of_entriesRendering q.entries h

namespace Select

open Fragment

/-- The comma between columns holds no mark. -/
theorem mark_notMem_joined {d : Dialect} {ss : List String} (h : ∀ s ∈ ss, d.mark ∉ s.toList) :
    d.mark ∉ (Text.joinWith ", " ss).toList := by
  intro hm
  rcases Text.mem_of_mem_joinWith hm with hm | ⟨s, hs, hm⟩
  · exact Dialect.mark_notMem_word (by simp) d hm
  · exact h s hs hm

/-- A filter behind its keyword carries the leaves of the filter and may follow a placeholder. -/
theorem carries_of_clause {keyword : String} {q : Filter} {f : Fragment}
    (hk : ∀ d : Dialect, d.mark ∉ keyword.toList) (hg : ∀ g, Guarded (.text keyword :: g))
    (h : clause keyword q = .ok f) :
    f.Carries q.fixedTexts q.bindings q.instants ∧ f.Guarded := by
  unfold clause at h
  split at h
  · rename_i he
    cases h
    have hq : q.leaves = [] := by
      rw [Filter.leaves, List.isEmpty_iff.mp he, FilterEntry.entriesLeaves]
    rw [Filter.fixedTexts, Filter.bindings, Filter.instants, hq]
    exact ⟨carries_nil, guarded_nil⟩
  · obtain ⟨word, g, hword, hg', rfl⟩ := Rendering.append_eq_ok h
    cases hword
    exact ⟨(Filter.carries_of_rendering hg').word_cons hk, hg g⟩

/-- The source with its joins is written as it is. -/
theorem carries_sourceText (q : Select) :
    Carries (q.source :: q.joins) [] [] [.text q.sourceText] := by
  apply carries_text
  intro d hd hm
  simp only [sourceText, String.toList_append, String.toList_join, List.mem_append,
    List.mem_flatMap, List.mem_map] at hm
  rcases hm with (hm | hm) | ⟨_, ⟨j, hj, rfl⟩, hm⟩
  · exact Dialect.mark_notMem_word (by simp) d hm
  · exact hd q.source List.mem_cons_self hm
  · rw [String.toList_append, List.mem_append] at hm
    rcases hm with hm | hm
    · exact Condition.mark_notMem_blank d hm
    · exact hd j (List.mem_cons_of_mem q.source hj) hm

/-- A list behind its keyword is written as it is and may follow a placeholder. -/
theorem carries_listText {keyword : String} (ss : List String)
    (hk : ∀ d : Dialect, d.mark ∉ keyword.toList) (hb : keyword.toList.head? = some ' ') :
    Carries ss [] [] [.text (if ss.isEmpty then "" else keyword ++ Text.joinWith ", " ss)] ∧
      Guarded [.text (if ss.isEmpty then "" else keyword ++ Text.joinWith ", " ss)] := by
  split
  · exact ⟨carries_text ss fun d _ => by simp, guarded_text noDigitAhead_nil⟩
  · constructor
    · apply carries_text
      intro d hd
      rw [String.toList_append, List.mem_append, not_or]
      exact ⟨hk d, mark_notMem_joined hd⟩
    · have hh : (keyword ++ Text.joinWith ", " ss).toList.head? = some ' ' := by
        rw [String.toList_append, List.head?_append, hb]
        rfl
      exact guarded_text_cons hh rfl []

/-- The groups of a query. -/
theorem carries_groupText (q : Select) :
    Carries q.groups [] [] [.text q.groupText] ∧ Guarded [.text q.groupText] :=
  carries_listText q.groups (Dialect.mark_notMem_word (by simp)) rfl

/-- The order of a query. -/
theorem carries_orderText (q : Select) :
    Carries q.order [] [] [.text q.orderText] ∧ Guarded [.text q.orderText] :=
  carries_listText q.order (Dialect.mark_notMem_word (by simp)) rfl

/-- A window carries nothing and may follow a placeholder. -/
theorem carries_window (w : Window) : Carries [] [] [] [.window w] ∧ Guarded [.window w] := by
  constructor
  · refine ⟨fun d _ s hs => ?_, rfl, rfl, ⟨fun h => absurd rfl h, trivial⟩⟩
    rw [List.mem_singleton.mp hs]
    trivial
  · intro d used
    obtain ⟨limit, offset⟩ := w
    rw [Fragment.prepared, Segment.prepared, String.toList_append]
    apply NoDigitAhead.append _ noDigitAhead_nil
    cases d <;> cases limit <;> cases offset <;> simp [Dialect.window, NoDigitAhead]

/-- The texts that stand in the body of a query. -/
def bodyTexts (q : Select) : List String :=
  q.source :: q.joins ++ q.filter.fixedTexts ++ q.groups ++ q.groupFilter.fixedTexts

/-- The texts of a query are its columns, those of its body and its order. -/
theorem mem_fixedTexts {q : Select} {t : String} :
    t ∈ q.fixedTexts ↔ t ∈ q.columns ∨ t ∈ q.bodyTexts ∨ t ∈ q.order := by
  simp only [fixedTexts, bodyTexts, List.mem_append, List.mem_cons]
  tauto

/-- The body of a query binds the values of the filter and then those of the filter on groups. -/
theorem carries_of_body {q : Select} {f : Fragment} (h : q.body = .ok f) :
    f.Carries q.bodyTexts q.bindings (q.filter.instants ++ q.groupFilter.instants) := by
  obtain ⟨g, having, hg, hhaving, rfl⟩ :=
    Rendering.append_eq_ok (Rendering.eq_ok_of_result h)
  obtain ⟨g', group, hg', hgroup, rfl⟩ := Rendering.append_eq_ok hg
  obtain ⟨source, filter, hsource, hfilter, rfl⟩ := Rendering.append_eq_ok hg'
  cases hsource
  cases hgroup
  have hw := carries_of_clause (Dialect.mark_notMem_word (by simp))
    (guarded_text_cons (c := ' ') rfl rfl) hfilter
  have hh := carries_of_clause (Dialect.mark_notMem_word (by simp))
    (guarded_text_cons (c := ' ') rfl rfl) hhaving
  have hgr := carries_groupText q
  simpa only [bodyTexts, bindings, List.append_nil, List.nil_append] using
    (((carries_sourceText q).append hw.1 hw.2).append hgr.1 hgr.2).append hh.1 hh.2

/-- The list of selected columns holds a mark only if a column does. -/
private theorem mark_notMem_columnList {q : Select} {d : Dialect}
    (h : ∀ c ∈ q.columns, d.mark ∉ c.toList) : d.mark ∉ q.columnList.toList := by
  rw [columnList, String.toList_append, List.mem_append, not_or]
  refine ⟨?_, mark_notMem_joined h⟩
  split <;> exact Dialect.mark_notMem_word (by simp) d

/-- The selected columns behind a keyword are written as they are. -/
theorem Carries.columns_cons {q : Select} {keyword : String} {f : Fragment} {texts : List String}
    {bound points : List Value} (hk : ∀ d : Dialect, d.mark ∉ keyword.toList)
    (hf : f.Carries texts bound points) :
    Carries (q.columns ++ texts) bound points (.text (keyword ++ q.columnList) :: f) := by
  apply hf.text_cons
  intro d hd
  rw [String.toList_append, List.mem_append, not_or]
  exact ⟨hk d, mark_notMem_columnList hd⟩

/-- A query carries its outline. -/
theorem carries_of_fragment {q : Select} {f : Fragment} (h : q.fragment = .ok f) :
    f.Carries q.fixedTexts q.bindings (q.filter.instants ++ q.groupFilter.instants) := by
  obtain ⟨b, hb, rfl⟩ := exists_of_map_eq_ok h
  have ho := carries_orderText q
  have hw := carries_window q.window
  have hend := (carries_of_body hb).append (ho.1.append hw.1 hw.2) (ho.2.append hw.2)
  simp only [List.append_nil] at hend
  apply (Carries.columns_cons (Dialect.mark_notMem_word (by simp)) hend).mono
  intro t ht
  rw [mem_fixedTexts]
  simpa only [List.mem_append] using ht

/-- The count of a query carries the outline of the query. -/
theorem carries_of_countFragment {q : Select} {f : Fragment} (h : q.countFragment = .ok f) :
    f.Carries q.fixedTexts q.bindings (q.filter.instants ++ q.groupFilter.instants) := by
  obtain ⟨b, hb, rfl⟩ := exists_of_map_eq_ok h
  have hbody := carries_of_body hb
  split
  · have hclose : Carries [] [] [] [.text ") AS t"] :=
      carries_text [] fun d _ => Dialect.mark_notMem_word (by simp) d
    have hend := hbody.append hclose (guarded_text_cons (c := ')') rfl rfl [])
    simp only [List.append_nil] at hend
    apply (Carries.columns_cons (Dialect.mark_notMem_word (by simp)) hend).mono
    intro t ht
    rw [mem_fixedTexts]
    rcases List.mem_append.mp ht with ht | ht
    · exact .inl ht
    · exact .inr (.inl ht)
  · apply (hbody.word_cons (Dialect.mark_notMem_word (by simp))).mono
    intro t ht
    exact mem_fixedTexts.mpr (.inr (.inl ht))

end Select

namespace Insert

open Fragment

/-- An insert carries its table, its columns and their values. -/
theorem carries_of_fragment {q : Insert} {f : Fragment} (h : q.fragment = .ok f) :
    f.Carries q.fixedTexts q.bindings [] := by
  unfold fragment at h
  split at h
  · cases h
  · cases h
    have hvs : Carries [] q.values.values [] (ofValues ", " q.values.values) :=
      carries_ofValues (c := ',') _ (Dialect.mark_notMem_word (by simp)) rfl rfl
    have hend := hvs.append Condition.carries_close Condition.guarded_close
    simp only [List.append_nil] at hend
    apply (hend.text_cons q.fixedTexts _).mono (by simp)
    intro d hd hm
    have hcols : d.mark ∉ (Text.joinWith ", " q.values.columns).toList :=
      Select.mark_notMem_joined fun c hc => hd c (List.mem_cons_of_mem q.table hc)
    have htable : d.mark ∉ q.table.toList := hd q.table List.mem_cons_self
    cases d <;> simp [Dialect.mark] at hm hcols htable <;> tauto

end Insert

namespace Update

open Fragment

/-- An assignment carries its column, its expression and its value. -/
theorem carries_assignment (column : String) (a : Assigned) :
    (assignment column a).Carries (column :: a.fixedTexts) a.bindings [] := by
  have hcol (ending : String) (he : ∀ d : Dialect, d.mark ∉ ending.toList) (d : Dialect)
      (hd : ∀ t ∈ [column], d.mark ∉ t.toList) : d.mark ∉ (column ++ ending).toList := by
    rw [String.toList_append, List.mem_append, not_or]
    exact ⟨hd column List.mem_cons_self, he d⟩
  cases a with
  | value v =>
    exact (carries_bound v).text_cons [column]
      (hcol " = " (Dialect.mark_notMem_word (by simp)))
  | expression sql =>
    apply carries_text
    intro d hd
    have hc := hd column List.mem_cons_self
    have hs := hd sql (List.mem_cons_of_mem column List.mem_cons_self)
    cases d <;> simp_all [Dialect.mark]
  | increment v =>
    apply (carries_bound v).text_cons [column]
    intro d hd
    have hc := hd column List.mem_cons_self
    cases d <;> simp_all [Dialect.mark]

/-- An update carries its table, its assignments and its filter. -/
theorem carries_of_fragment {q : Update} {f : Fragment} (h : q.fragment = .ok f) :
    f.Carries q.fixedTexts q.bindings q.filter.instants := by
  unfold fragment at h
  split at h
  · cases h
  split at h
  · cases h
  obtain ⟨w, hw, rfl⟩ := exists_of_map_eq_ok h
  have hfilter := Filter.carries_of_rendering (Rendering.eq_ok_of_result hw)
  have hwhere : Carries q.filter.fixedTexts q.filter.bindings q.filter.instants
      (.text " WHERE " :: w) := hfilter.word_cons (Dialect.mark_notMem_word (by simp))
  have hset : q.assignmentList.Carries
      (q.assignments.entries.flatMap fun e => e.1 :: e.2.fixedTexts)
      (q.assignments.entries.flatMap fun e => e.2.bindings) [] :=
    carries_joinWith (Dialect.mark_notMem_word (by simp))
      (guarded_text_cons (c := ',') rfl rfl) fun e _ => carries_assignment e.1 e.2
  have hall := hset.append hwhere (guarded_text_cons (c := ' ') rfl rfl w)
  have htable : ∀ d : Dialect, (∀ t ∈ [q.table], d.mark ∉ t.toList) →
      d.mark ∉ ("UPDATE " ++ q.table ++ " SET ").toList := by
    intro d hd
    have ht := hd q.table List.mem_cons_self
    cases d <;> simp_all [Dialect.mark]
  have hb : q.bindings = (q.assignments.entries.flatMap fun e => e.2.bindings) ++
      q.filter.bindings := by
    rw [bindings, Assignments.values, List.flatMap_map]
  rw [hb]
  exact hall.text_cons [q.table] htable

end Update

/-- A delete carries its table and its filter. -/
theorem Delete.carries_of_fragment {q : Delete} {f : Fragment} (h : q.fragment = .ok f) :
    f.Carries q.fixedTexts q.filter.bindings q.filter.instants := by
  unfold Delete.fragment at h
  split at h
  · cases h
  obtain ⟨w, hw, rfl⟩ := exists_of_map_eq_ok h
  apply (Filter.carries_of_rendering (Rendering.eq_ok_of_result hw)).text_cons [q.table]
  intro d hd
  have ht := hd q.table List.mem_cons_self
  cases d <;> simp_all [Dialect.mark]

namespace Form

/-- The points in time that a statement compares. -/
def instants (s : Form) : List Value := s.conditions.flatMap Condition.instants

/-- The points in time of a filter are those of its conditions. -/
theorem flatMap_instants_conditions (q : Filter) :
    q.conditions.flatMap Condition.instants = q.instants := by
  unfold Filter.conditions Filter.instants
  induction q.leaves with
  | nil => rfl
  | cons l ls ih =>
    cases l with
    | condition c =>
      simp only [List.filterMap_cons, FilterLeaf.condition?, List.flatMap_cons, ih]
      rfl
    | raw sql =>
      simp only [List.filterMap_cons, FilterLeaf.condition?, List.flatMap_cons, ih]
      rfl

/-- Everything that is sent carries its outline: the texts of the caller, the values in order, and
the points in time that are compared. -/
theorem carries_of_fragment {s : Form} {f : Fragment} (h : s.fragment = .ok f) :
    f.Carries s.fixedTexts s.bindings s.instants := by
  cases s with
  | select q =>
    rw [instants, conditions, Select.conditions, List.flatMap_append, flatMap_instants_conditions,
      flatMap_instants_conditions]
    exact Select.carries_of_fragment h
  | count q =>
    rw [instants, conditions, Select.conditions, List.flatMap_append, flatMap_instants_conditions,
      flatMap_instants_conditions]
    exact Select.carries_of_countFragment h
  | insert q => exact Insert.carries_of_fragment h
  | update q =>
    rw [instants, conditions, flatMap_instants_conditions]
    exact Update.carries_of_fragment h
  | delete q =>
    rw [instants, conditions, flatMap_instants_conditions]
    exact Delete.carries_of_fragment h

end Form

end SqlAccess
