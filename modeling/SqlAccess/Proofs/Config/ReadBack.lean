import SqlAccess.Config.Reading
import SqlAccess.Proofs.Json.Written

/-!
# Configurations are read back

Each setting is read back from the value it is written as, and giving a setting changes its member
and no other. So a configuration is read back from its members in any order, as long as each known
name stands once: what a left out member would have said the default says, and what an unknown name
says is skipped.
-/

namespace SqlAccess

namespace Json

/-- A member with a new name is put in, and nothing else changes. -/
theorem insertMember_perm {α : Type} {name : String} {a : α} {members : List (String × α)}
    (h : name ∉ members.map (·.1)) : (insertMember name a members).Perm ((name, a) :: members) := by
  fun_induction insertMember name a members with
  | case1 => exact .refl _
  | case2 v rest => exact absurd List.mem_cons_self h
  | case3 n v rest hne hlt => exact .refl _
  | case4 n v rest hne hlt ih =>
    exact ((ih (mt (List.mem_cons_of_mem _) h)).cons _).trans (.swap _ _ _)

/-- Members with distinct names are put in one by one, and all of them are there. -/
theorem foldl_insertMember_perm {α : Type} (more : List (String × α)) {members : List (String × α)}
    (h : ((members ++ more).map (·.1)).Nodup) :
    (more.foldl (fun sorted m => insertMember m.1 m.2 sorted) members).Perm (members ++ more) := by
  induction more generalizing members with
  | nil => rw [List.append_nil]; exact .refl _
  | cons m more ih =>
    have hnew : m.1 ∉ members.map (·.1) := by
      rw [List.map_append, List.map_cons] at h
      exact fun hm => (List.nodup_append.mp h).2.2 _ hm _ List.mem_cons_self rfl
    have hstep := insertMember_perm hnew (a := m.2)
    have hall : (insertMember m.1 m.2 members ++ more).Perm (members ++ m :: more) :=
      (hstep.append_right more).trans List.perm_middle.symm
    exact (ih ((hall.map _).nodup_iff.mpr h)).trans hall

end Json

namespace Config

/-! ## Values of settings -/

/-- A driver reads back from its key. -/
private theorem readDriver_key (d : Dialect) : readDriver (.ofJson (.string d.key)) = some d := by
  cases d <;> rfl

private theorem readBool_bool (b : Bool) : readBool (.ofJson (.bool b)) = some b := rfl

private theorem readText_string (s : String) : readText (.ofJson (.string s)) = some s := rfl

/-- A number below a bound of at most 64 bits is read back. -/
private theorem readWord_int {bound n : Nat} (h : n < bound) (hbound : bound ≤ UInt64.size) :
    readWord bound (.ofJson (.int n)) = some n := by
  have hsize : UInt64.size = NumberText.wordMax + 1 := rfl
  have hvalue : (NumberText.ofInt n).value? = some (.int n) :=
    NumberText.value?_ofInt (by omega) (by omega)
  rw [JsonText.ofJson, readWord, hvalue]
  simp [h]

/-- A port reads back from its number. -/
private theorem readUInt16_int (p : UInt16) : readUInt16 (.ofJson (.int p.toNat)) = some p := by
  rw [readUInt16, readWord_int p.toNat_lt (by decide), Option.map_some, UInt16.ofNat_toNat]

/-- A number of 64 bits reads back, however large it is. -/
theorem readUInt64_wordJson (n : UInt64) : readUInt64 (.ofJson (wordJson n)) = some n := by
  rw [readUInt64, wordJson, readWord_int n.toNat_lt (Nat.le_refl _), Option.map_some,
    UInt64.ofNat_toNat]

/-- A setting that may be null is read back if its values are, none of which is null. -/
theorem readOption_optionJson {α : Type} {read : JsonText → Option α} {write : α → Json}
    (hread : ∀ a, read (.ofJson (write a)) = some a) (hnull : ∀ a, write a ≠ .null)
    (v : Option α) : readOption read (.ofJson (optionJson write v)) = some v := by
  cases v with
  | none => rfl
  | some a =>
    have hne : JsonText.ofJson (write a) ≠ .null := by
      have := hnull a
      cases hw : write a <;> simp_all [JsonText.ofJson]
    rw [optionJson, Option.map_some, Option.getD_some, readOption, hread, Option.map_some]
    exact hne

private theorem readOption_text (v : Option String) :
    readOption readText (.ofJson (optionJson .string v)) = some v :=
  readOption_optionJson readText_string nofun v

private theorem readOption_port (v : Option UInt16) :
    readOption readUInt16 (.ofJson (optionJson (fun p => .int p.toNat) v)) = some v :=
  readOption_optionJson readUInt16_int nofun v

private theorem readOption_word (v : Option UInt64) :
    readOption readUInt64 (.ofJson (optionJson wordJson v)) = some v :=
  readOption_optionJson readUInt64_wordJson nofun v

/-! ## Settings -/

/-- The members of a configuration are written under their names, in order. -/
theorem map_fst_members (c : Config) : c.members.map (·.1) = names := rfl

/-- No name is given twice. -/
theorem nodup_names : names.Nodup := by decide

/-- The JSON form is the object of the members, sorted. -/
theorem toJson_eq_object (c : Config) : ∃ ms, c.toJson = .object ms ∧ ms.Perm c.members :=
  ⟨_, rfl, Json.foldl_insertMember_perm c.members (c.map_fst_members ▸ nodup_names)⟩

/-- Giving a setting the value of a member puts the member in the place of the one of its name. -/
theorem set?_member (a : Config) {c : Config} {m : String × Json} (hm : m ∈ c.members) :
    ∃ b, a.set? m.1 (.ofJson m.2) = some b ∧
      b.members = a.members.map fun p => if p.1 = m.1 then m else p := by
  simp only [members, List.mem_cons, List.not_mem_nil, or_false] at hm
  rcases hm with rfl | rfl | rfl | rfl | rfl | rfl | rfl | rfl | rfl | rfl | rfl | rfl | rfl | rfl |
    rfl | rfl
  all_goals
    refine ⟨_, by simp only [set?, readDriver_key, readBool_bool, readOption_text, readOption_port,
      readOption_word, readUInt64_wordJson, Option.map_some]; rfl, by simp [members]⟩

/-- A name that is no setting's is skipped. -/
private theorem set?_of_notMem (a : Config) {name : String} (h : name ∉ names) (v : JsonText) :
    a.set? name v = some a := by
  unfold set?
  split
  case h_17 => rfl
  all_goals exact absurd (by decide) h

/-- What is read back tells what was written. -/
theorem injective_of_read {α : Type} {read : JsonText → Option α} {write : α → Json}
    (h : ∀ a, read (.ofJson (write a)) = some a) : Function.Injective write :=
  fun a b hab => Option.some.inj ((h a).symm.trans (hab ▸ h b))

/-- A configuration is told by its members. -/
theorem members_injective : Function.Injective members := by
  have hkey := injective_of_read readDriver_key
  have htext := injective_of_read readOption_text
  have hport := injective_of_read readOption_port
  have hword := injective_of_read readUInt64_wordJson
  have htime := injective_of_read readOption_word
  have hbool := injective_of_read readBool_bool
  intro b c h
  simp only [members, List.cons.injEq, Prod.mk.injEq, true_and, and_true] at h
  obtain ⟨driver, url, host, port, database, user, password, least, most, lifetime, idle,
    connection, statement, filter, debug, blob⟩ := h
  cases b
  cases c
  rw [mk.injEq]
  exact ⟨hkey driver, htext url, htext host, hport port, htext database, htext user,
    htext password, hword least, hword most, htime lifetime, htime idle, htime connection,
    htime statement, hbool filter, hbool debug, hword blob⟩

/-! ## Members in any order -/

/-- Members tell a configuration: those with known names are its own and stand once, and what they
leave out is as in the default. -/
structure Tells (ms : List (String × Json)) (c : Config) : Prop where
  known : ∀ m ∈ ms, m.1 ∈ names → m ∈ c.members
  once : ms.Pairwise fun m n => m.1 = n.1 → m.1 ∉ names
  left : ∀ m ∈ c.members, m.1 ∉ ms.map (·.1) → m ∈ ({} : Config).members

/-- Members of `c` with other unknown names are read into any configuration. Each member it has then
is one of `c`, or was there before under a name that is not given. A known name that was seen does
not come again, so each step is a setting of its own. -/
theorem readMembers_known {c : Config} {ms : List (String × Json)}
    (hknown : ∀ m ∈ ms, m.1 ∈ names → m ∈ c.members)
    (honce : ms.Pairwise fun m n => m.1 = n.1 → m.1 ∉ names) (a : Config) {seen : List String}
    (hseen : ∀ m ∈ ms, m.1 ∉ seen) :
    ∃ b, readMembers seen a (JsonText.ofMembers ms) = some b ∧
      ∀ p ∈ b.members, p ∈ c.members ∨ p ∈ a.members ∧ p.1 ∉ ms.map (·.1) := by
  induction ms generalizing a seen with
  | nil => exact ⟨a, rfl, fun p hp => .inr ⟨hp, List.not_mem_nil⟩⟩
  | cons m ms ih =>
    obtain ⟨hhead, honce⟩ := List.pairwise_cons.mp honce
    obtain ⟨hm, hknown⟩ := List.forall_mem_cons.mp hknown
    obtain ⟨hnew, hseen⟩ := List.forall_mem_cons.mp hseen
    have hcontains : seen.contains m.1 = false := by simpa using hnew
    rw [JsonText.ofMembers, readMembers, hcontains]
    by_cases hname : m.1 ∈ names
    · obtain ⟨b, hb, hmembers⟩ := set?_member a (hm hname)
      have hseen' : ∀ n ∈ ms, n.1 ∉ m.1 :: seen := by
        intro n hn hmem
        rcases List.mem_cons.mp hmem with heq | hmem
        · exact hhead n hn heq.symm hname
        · exact hseen n hn hmem
      obtain ⟨d, hd, hsub⟩ := ih hknown honce b hseen'
      refine ⟨d, by simp [hb, hname, hd], fun p hp => ?_⟩
      rcases hsub p hp with hc | ⟨hpb, hpms⟩
      · exact .inl hc
      rw [hmembers] at hpb
      obtain ⟨q, hq, rfl⟩ := List.mem_map.mp hpb
      by_cases heq : q.1 = m.1
      · rw [if_pos heq]
        exact .inl (hm hname)
      · rw [if_neg heq] at hpms ⊢
        exact .inr ⟨hq, List.not_mem_cons_of_ne_of_not_mem heq hpms⟩
    · obtain ⟨d, hd, hsub⟩ := ih hknown honce a hseen
      refine ⟨d, by simp [set?_of_notMem a hname, hname, hd], fun p hp => ?_⟩
      rcases hsub p hp with hc | ⟨hpa, hpms⟩
      · exact .inl hc
      have hpm : p.1 ≠ m.1 := by
        intro heq
        exact hname (heq ▸ a.map_fst_members ▸ List.mem_map_of_mem hpa)
      exact .inr ⟨hpa, List.not_mem_cons_of_ne_of_not_mem hpm hpms⟩

/-- Two members of a configuration with one name are the same. -/
private theorem eq_of_mem_members {c : Config} {m n : String × Json} (hm : m ∈ c.members)
    (hn : n ∈ c.members) (h : m.1 = n.1) : m = n :=
  List.inj_on_of_nodup_map (c.map_fst_members ▸ nodup_names) hm hn h

/-- A configuration without other members than another one is the other. -/
private theorem eq_of_members_subset {b c : Config} (h : b.members ⊆ c.members) : b = c := by
  refine members_injective (List.ext_getElem rfl fun i hb hc => ?_)
  have hname : (b.members.map (·.1))[i]? = (c.members.map (·.1))[i]? := rfl
  rw [List.getElem?_map, List.getElem?_map, List.getElem?_eq_getElem hb,
    List.getElem?_eq_getElem hc] at hname
  exact eq_of_mem_members (h (List.getElem_mem hb)) (List.getElem_mem hc) (Option.some.inj hname)

/-- Members that tell a configuration are read as that configuration. -/
theorem Tells.readMembers_eq {ms : List (String × Json)} {c : Config} (h : Tells ms c) :
    readMembers [] {} (JsonText.ofMembers ms) = some c := by
  obtain ⟨b, hb, hmembers⟩ := readMembers_known h.known h.once {} fun _ _ => List.not_mem_nil
  suffices hsub : b.members ⊆ c.members by rw [hb, eq_of_members_subset hsub]
  intro p hp
  rcases hmembers p hp with hc | ⟨hdefault, hleft⟩
  · exact hc
  have hname : p.1 ∈ c.members.map (·.1) :=
    c.map_fst_members ▸ ({} : Config).map_fst_members ▸ List.mem_map_of_mem hdefault
  obtain ⟨q, hq, hqp⟩ := List.mem_map.mp hname
  have hqdefault := h.left q hq (hqp ▸ hleft)
  rwa [eq_of_mem_members hdefault hqdefault hqp.symm]

/-- The members of a configuration in any order, without some whose values are the defaults and with
others of unknown names between them, tell that configuration. -/
theorem tells_of_perm {c : Config} {kept extra ms : List (String × Json)}
    (hkept : kept.Sublist c.members)
    (hdropped : ∀ m ∈ c.members, m ∉ kept → m ∈ ({} : Config).members)
    (hextra : ∀ m ∈ extra, m.1 ∉ names) (hms : ms.Perm (kept ++ extra)) : Tells ms c where
  known m hm hname := by
    rcases List.mem_append.mp (hms.mem_iff.mp hm) with hm | hm
    · exact hkept.subset hm
    · exact absurd hname (hextra m hm)
  once := by
    have hown : c.members.Pairwise fun m n => m.1 = n.1 → m.1 ∉ names :=
      (List.pairwise_map.mp (c.map_fst_members ▸ nodup_names)).imp fun hne heq => absurd heq hne
    refine (hms.pairwise_iff fun h heq => heq ▸ h heq.symm).mpr (List.pairwise_append.mpr
      ⟨hown.sublist hkept, ?_, fun m _ n hn heq => heq ▸ hextra n hn⟩)
    exact List.pairwise_iff_forall_sublist.mpr fun hsub _ => hextra _ (hsub.subset List.mem_cons_self)
  left m hm hleft := by
    refine hdropped m hm fun hmem => hleft ?_
    exact List.mem_map_of_mem (hms.mem_iff.mpr (List.mem_append_left _ hmem))

/-- A value that may be absent is written with finite numbers if each value is. -/
theorem allFinite_optionJson {α : Type} {write : α → Json} (h : ∀ a, (write a).AllFinite)
    (v : Option α) : (optionJson write v).AllFinite := by
  cases v with
  | none => trivial
  | some a => exact h a

/-- No setting is a floating-point number. -/
theorem allFinite_of_mem_members {c : Config} {m : String × Json} (hm : m ∈ c.members) :
    m.2.AllFinite := by
  simp only [members, List.mem_cons, List.not_mem_nil, or_false] at hm
  rcases hm with rfl | rfl | rfl | rfl | rfl | rfl | rfl | rfl | rfl | rfl | rfl | rfl | rfl | rfl |
    rfl | rfl
  all_goals first | trivial | exact allFinite_optionJson (fun _ => by trivial) _

/-- A text that is read as members that tell a configuration is read as that configuration, or
refused for what is wrong with it. -/
theorem Tells.ofJson_eq {ms : List (String × Json)} {c : Config} (h : Tells ms c)
    {text : String} (htext : JsonText.read text.toList = some (.object (JsonText.ofMembers ms))) :
    ofJson text = c.validate.map fun _ => c := by
  simp only [ofJson, read?, htext, h.readMembers_eq]

/-- Members that tell a configuration are read as it, unless the check of the configuration refuses
it. -/
theorem Tells.ofJson_compact {ms : List (String × Json)} {c : Config} (h : Tells ms c)
    (hms : ∀ m ∈ ms, m.1 ∉ names → m.2.AllFinite) :
    ofJson (Json.object ms).compact = c.validate.map fun _ => c := by
  refine h.ofJson_eq (JsonText.read_compact (Json.membersFinite_iff.mpr fun m hm => ?_))
  by_cases hname : m.1 ∈ names
  · exact allFinite_of_mem_members (h.known m hm hname)
  · exact hms m hm hname

/-- A configuration survives its JSON form. It is read back from its own text if it is valid, and is
refused for what is wrong with it otherwise. So it is from its members in any order, with others of
unknown names anywhere between them, and without some whose values are the defaults. -/
theorem ofJson_written (c : Config) :
    ofJson c.toJson.compact = c.validate.map (fun _ => c) ∧
    ∀ kept extra ms : List (String × Json), kept.Sublist c.members →
      (∀ m ∈ c.members, m ∉ kept → m ∈ ({} : Config).members) →
      (∀ m ∈ extra, m.1 ∉ names ∧ m.2.AllFinite) → ms.Perm (kept ++ extra) →
      ofJson (Json.object ms).compact = c.validate.map fun _ => c := by
  constructor
  · obtain ⟨ms, hjson, hms⟩ := c.toJson_eq_object
    have htells : Tells ms c := tells_of_perm (List.Sublist.refl c.members)
      (fun m hm hout => absurd hm hout) (fun m hm => absurd hm List.not_mem_nil)
      (hms.trans (.of_eq (List.append_nil c.members).symm))
    rw [hjson]
    exact htells.ofJson_compact fun m hm _ => allFinite_of_mem_members (hms.mem_iff.mp hm)
  · intro kept extra ms hkept hdropped hextra hms
    refine (tells_of_perm hkept hdropped (fun m hm => (hextra m hm).1) hms).ofJson_compact
      fun m hm hname => ?_
    rcases List.mem_append.mp (hms.mem_iff.mp hm) with hm | hm
    · exact allFinite_of_mem_members (hkept.subset hm)
    · exact (hextra m hm).2

/-- Three settings in another order, behind a member of an unknown name, are a valid
configuration. -/
theorem mysqlConfig_is_read_back :
    ofJson (Json.object [("note", .float (.ofInt 1)), ("port", .int 3306),
        ("host", .string "db"), ("driver", .string "mysql")]).compact =
      .ok { driver := .mysql, host := some "db", port := some 3306 } := by
  let c : Config := { driver := .mysql, host := some "db", port := some 3306 }
  let kept : List (String × Json) :=
    [("driver", .string "mysql"), ("host", .string "db"), ("port", .int 3306)]
  let extra : List (String × Json) := [("note", .float (.ofInt 1))]
  have hkept : kept.Sublist c.members :=
    .cons_cons _ (.cons _ (.cons_cons _ (.cons_cons _ (List.nil_sublist _))))
  have hdropped : ∀ m ∈ c.members, m ∉ kept → m ∈ ({} : Config).members := by
    simp [c, kept, members, optionJson, Dialect.key]
  have hextra : ∀ m ∈ extra, m.1 ∉ names ∧ m.2.AllFinite := by
    intro m hm
    cases List.mem_singleton.mp hm
    exact ⟨by decide, rfl⟩
  exact (ofJson_written c).2 kept extra _ hkept hdropped hextra
    (List.perm_append_comm.trans ((List.reverse_perm kept).append_right extra))

end Config

end SqlAccess
