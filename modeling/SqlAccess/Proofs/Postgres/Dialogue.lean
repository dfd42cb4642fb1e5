import SqlAccess.Postgres.Link

/-!
# Dialogues with a PostgreSQL server

What was said on a link between two of its states: each request of that time with its reply, in
order. Asking for the end of a statement gets no reply. Every action of a link adds to the requests
and takes a reply for each; a statement is run if the server acknowledges it, and one that controls
transactions succeeds exactly then. A link that was let go sends nothing.
-/

namespace SqlAccess

/-- Whether a reply says that a statement was run. -/
def PgReply.acknowledges : PgReply → Bool
  | .completed _ => true
  | .rows _ => true
  | _ => false

/-- The statement that a request runs. -/
def PgRequest.statement? : PgRequest → Option String
  | .control sql => some sql
  | .run sql _ => some sql
  | _ => none

namespace PgLink

variable {α γ : Type}

/-- The requests that get a reply. -/
def answered (requests : List PgRequest) : List PgRequest := requests.filter (· ≠ .cancel)

/-- The requests of some time with their replies; those that came too late have none. -/
def heard (l : PgLink) (requests : List PgRequest) : List (PgRequest × PgReply) :=
  (answered requests).zip (l.replies.map Prod.snd)

/-- The requests since an earlier state of a link. -/
def since (l l' : PgLink) : List PgRequest := l'.requests.drop l.requests.length

/-- What was said between a state of a link and a later one. -/
def dialogue (l l' : PgLink) : List (PgRequest × PgReply) := l.heard (l.since l')

/-- From one state of a link to a later one requests are sent, and a reply is taken for each. -/
structure Sends (l : PgLink) (sent : List PgRequest) (l' : PgLink) : Prop where
  requests_eq : l'.requests = l.requests ++ sent
  replies_eq : l'.replies = l.replies.drop (answered sent).length

/-- Nothing is sent while the requests and the replies stay as they are. -/
theorem sends_nil {l l' : PgLink} (hrequests : l'.requests = l.requests)
    (hreplies : l'.replies = l.replies) : l.Sends [] l' :=
  ⟨hrequests.trans (List.append_nil _).symm, hreplies⟩

/-- What is sent on the way to a state and what is sent from there on is sent on the whole way. -/
theorem Sends.trans {l l' l'' : PgLink} {sent more : List PgRequest} (h : l.Sends sent l')
    (h' : l'.Sends more l'') : l.Sends (sent ++ more) l'' where
  requests_eq := by rw [h'.requests_eq, h.requests_eq, List.append_assoc]
  replies_eq := by
    rw [h'.replies_eq, h.replies_eq, List.drop_drop, answered, answered, answered,
      List.filter_append, List.length_append]

/-- To let a link go is to send nothing. -/
theorem Sends.letGo {l l' : PgLink} {sent : List PgRequest} (h : l.Sends sent l') :
    l.Sends sent l'.letGo := ⟨h.requests_eq, h.replies_eq⟩

/-- A part of a zipped list goes with the rest that the part before it leaves over. -/
theorem zip_append_drop {xs ys : List α} {zs : List γ} :
    (xs ++ ys).zip zs = xs.zip zs ++ ys.zip (zs.drop xs.length) := by
  induction xs generalizing zs with
  | nil => rfl
  | cons x xs ih =>
    cases zs with
    | nil => simp
    | cons z zs => simp [ih]

/-- What is heard goes on where it stopped. -/
theorem Sends.heard_append {l l' : PgLink} {sent : List PgRequest} (h : l.Sends sent l')
    (more : List PgRequest) : l.heard (sent ++ more) = l.heard sent ++ l'.heard more := by
  rw [heard, heard, heard, h.replies_eq, answered, List.filter_append, zip_append_drop,
    List.map_drop]
  rfl

/-- What was sent is what the requests have grown by. -/
theorem Sends.since_eq {l l' : PgLink} {sent : List PgRequest} (h : l.Sends sent l') :
    l.since l' = sent := by
  rw [since, h.requests_eq, List.drop_left]

/-- What was sent is heard with the replies that the server had for it. -/
theorem Sends.dialogue_eq {l l' : PgLink} {sent : List PgRequest} (h : l.Sends sent l') :
    l.dialogue l' = l.heard sent := by
  rw [dialogue, h.since_eq]

/-- An action sends only requests of a kind, and the link stays held if it was. -/
def Talks (P : PgRequest → Prop) (a : Action PgLink α) : Prop :=
  ∀ l, ∃ sent, l.Sends sent (a.run l).2 ∧ (∀ request ∈ sent, P request) ∧
    (a.run l).2.isHeld = l.isHeld

variable {P : PgRequest → Prop}

/-- Actions one after another talk about the same if each of them does. -/
theorem Talks.bind {a : Action PgLink α} {f : α → Action PgLink γ} (ha : Talks P a)
    (hf : ∀ x, Talks P (f x)) : Talks P (a >>= f) := by
  intro l
  obtain ⟨sent, hsends, hsent, hheld⟩ := ha l
  rcases hx : a.run l with ⟨e | x, l'⟩
  · rw [hx] at hsends hheld
    rw [Action.run_bind_error hx]
    exact ⟨sent, hsends, hsent, hheld⟩
  · rw [hx] at hsends hheld
    obtain ⟨more, hmore, hall, hstill⟩ := hf x l'
    rw [Action.run_bind_ok hx]
    refine ⟨sent ++ more, hsends.trans hmore, ?_, hstill.trans hheld⟩
    intro request hmem
    exact (List.mem_append.mp hmem).elim (hsent request) (hall request)

/-- A result or an error that is known asks for nothing. -/
theorem talks_ofExcept (r : Except DbError α) : Talks P (Action.ofExcept r) :=
  fun _ => ⟨[], sends_nil rfl rfl, by simp, rfl⟩

/-- A result that is known asks for nothing. -/
theorem talks_pure (x : α) : Talks P (pure x : Action PgLink α) := talks_ofExcept _

/-- An error asks for nothing. -/
theorem talks_fail (e : DbError) : Talks P (Action.fail e : Action PgLink α) := talks_ofExcept _

/-- To read something off a link asks for nothing. -/
theorem talks_look (f : PgLink → α) : Talks P (Action.look f) :=
  fun _ => ⟨[], sends_nil rfl rfl, by simp, rfl⟩

/-- A reply that is taken is the one that arrived, unless it is an error; none of those says that a
statement was run. -/
theorem run_receive (reply : PgReply) (l : PgLink) :
    l.Sends [] ((receive reply).run l).2 ∧ ((receive reply).run l).2.isHeld = l.isHeld ∧
      (∀ r, ((receive reply).run l).1 = .ok r → r = reply) ∧
      ∀ e, ((receive reply).run l).1 = .error e → reply.acknowledges = false := by
  cases reply with
  | refused => exact ⟨sends_nil rfl rfl, rfl, nofun, fun _ _ => rfl⟩
  | hungUp => exact ⟨sends_nil rfl rfl, rfl, nofun, fun _ _ => rfl⟩
  | _ => exact ⟨sends_nil rfl rfl, rfl, fun _ h => (Except.ok.inj h).symm, nofun⟩

/-- What asking comes to: either nothing is sent, or the request and nothing else. With a reply the
link is held, and that reply was heard; without a limit of time nothing that was acknowledged is an
error. -/
structure Asked (limit : Option Calendar.Duration) (request : PgRequest) (l : PgLink)
    (sent : List PgRequest) (r : Except DbError PgReply) (l' : PgLink) : Prop where
  sends : l.Sends sent l'
  sent_eq : ∀ q ∈ sent, q = request
  isHeld_eq : l'.isHeld = l.isHeld
  answer : ∀ reply, r = .ok reply → l.isHeld = true ∧ l.heard sent = [(request, reply)]
  failure : limit = none → ∀ e, r = .error e → ∀ x ∈ l.heard sent, x.2.acknowledges = false

/-- A request that fails before it is sent is not asked for. -/
theorem asked_nothing (limit : Option Calendar.Duration) (request : PgRequest) (l : PgLink)
    (e : DbError) : Asked limit request l [] (.error e) l :=
  ⟨sends_nil rfl rfl, by simp, rfl, nofun, fun _ _ _ x hx => by simp [heard, answered] at hx⟩

/-- A link that has sent a request and taken a reply after some time. -/
def exchanged (l : PgLink) (request : PgRequest) (wait : Nat) (rest : List (Nat × PgReply)) :
    PgLink :=
  { l with requests := l.requests ++ [request], replies := rest, spent := l.spent + wait }

section

variable {request : PgRequest} {l : PgLink} {wait : Nat} {reply : PgReply}
  {rest : List (Nat × PgReply)}

/-- A request that is answered is sent, and heard with its reply. -/
theorem sends_exchanged (hne : request ≠ .cancel) (hreplies : l.replies = (wait, reply) :: rest) :
    l.Sends [request] (l.exchanged request wait rest) ∧ l.heard [request] = [(request, reply)] := by
  have hone : answered [request] = [request] := by simp [answered, hne]
  refine ⟨⟨rfl, ?_⟩, ?_⟩
  · rw [hone, hreplies]
    rfl
  · simp [heard, hone, hreplies]

/-- A reply that arrives in time is taken as it is. -/
theorem asked_received (hne : request ≠ .cancel) (hheld : l.isHeld = true)
    (hreplies : l.replies = (wait, reply) :: rest) (limit : Option Calendar.Duration) :
    Asked limit request l [request] ((receive reply).run (l.exchanged request wait rest)).1
      ((receive reply).run (l.exchanged request wait rest)).2 := by
  obtain ⟨hsent, hheard⟩ := sends_exchanged hne hreplies
  obtain ⟨hsends, hsame, hreply, hfailed⟩ := run_receive reply (l.exchanged request wait rest)
  refine ⟨hsent.trans hsends, by simp, hsame, fun r hr => ?_, fun _ e he x hx => ?_⟩
  · rw [hreply r hr]
    exact ⟨hheld, hheard⟩
  · rw [hheard, List.mem_singleton] at hx
    rw [hx]
    exact hfailed e he

end

/-- Whether asking sends anything depends on the link, and what it answers on the next reply. -/
theorem run_ask (limit : Option Calendar.Duration) {request : PgRequest} (hne : request ≠ .cancel)
    (l : PgLink) :
    ∃ sent, Asked limit request l sent ((ask limit request).run l).1
      ((ask limit request).run l).2 := by
  rcases hheld : l.isHeld with _ | _
  · have hrun : (ask limit request).run l = (.error released, l) := by
      simp [ask, Action.run, hheld]
    rw [hrun]
    exact ⟨[], asked_nothing _ _ _ _⟩
  rcases hopen : l.isOpen with _ | _
  · have hrun : (ask limit request).run l = (.error closed, l) := by
      simp [ask, Action.run, hheld, hopen]
    rw [hrun]
    exact ⟨[], asked_nothing _ _ _ _⟩
  refine ⟨[request], ?_⟩
  rcases hreplies : l.replies with _ | ⟨⟨wait, reply⟩, rest⟩
  · have hrun : (ask limit request).run l =
        (.error closed, { l with requests := l.requests ++ [request], isOpen := false }) := by
      simp [ask, Action.run, hheld, hopen, hreplies]
    rw [hrun]
    refine ⟨⟨rfl, ?_⟩, by simp, rfl, fun _ h => ?_, fun _ _ _ x hx => ?_⟩
    · rw [hreplies, List.drop_nil]
    · cases h
    · simp [heard, hreplies] at hx
  rcases limit with _ | d
  · have hrun : (ask none request).run l =
        (receive reply).run (l.exchanged request wait rest) := by
      simp [ask, Action.run, hheld, hopen, hreplies, exchanged]
    rw [hrun]
    exact asked_received hne hheld hreplies none
  by_cases hlate : d.totalNanos ≤ l.spent + wait
  · have hrun : (ask (some d) request).run l =
        (.error (.timeout d), l.exchanged request wait rest) := by
      simp [ask, Action.run, hheld, hopen, hreplies, hlate, exchanged]
    rw [hrun]
    refine ⟨(sends_exchanged hne hreplies).1, by simp, rfl, fun _ h => ?_, fun h => ?_⟩
    · cases h
    · cases h
  · have hrun : (ask (some d) request).run l =
        (receive reply).run (l.exchanged request wait rest) := by
      simp [ask, Action.run, hheld, hopen, hreplies, hlate, exchanged]
    rw [hrun]
    exact asked_received hne hheld hreplies (some d)

/-- A request is sent once, if at all. -/
theorem talks_ask (limit : Option Calendar.Duration) {request : PgRequest} (hP : P request)
    (hne : request ≠ .cancel) : Talks P (ask limit request) := by
  intro l
  obtain ⟨sent, h⟩ := run_ask limit hne l
  exact ⟨sent, h.sends, fun q hq => h.sent_eq q hq ▸ hP, h.isHeld_eq⟩

/-- A change that is not about what is said. -/
theorem talks_change {f : PgLink → PgLink} (hrequests : ∀ l, (f l).requests = l.requests)
    (hreplies : ∀ l, (f l).replies = l.replies) (hheld : ∀ l, (f l).isHeld = l.isHeld) :
    Talks P (Action.change f) :=
  fun l => ⟨[], sends_nil (hrequests l) (hreplies l), by simp, hheld l⟩

/-- The requests that run no other statement than the given one. -/
def IsFor (sql : String) (request : PgRequest) : Prop :=
  request.statement? = none ∨ request.statement? = some sql

/-- To prepare a statement asks for nothing but that statement. -/
theorem talks_prepare (limit : Option Calendar.Duration) (sql : String) (keep : Bool) :
    Talks (IsFor sql) (prepare limit sql keep) := by
  refine (talks_look _).bind fun known => ?_
  cases known with
  | some d => exact talks_pure d
  | none =>
    have hask : Talks (IsFor sql) (ask limit (.prepare sql)) :=
      talks_ask limit (.inl rfl) (by nofun)
    refine hask.bind fun reply => ?_
    cases reply with
    | described d =>
      have hkeep : Talks (IsFor sql)
          (Action.change fun l => { l with prepared := l.prepared ++ [(sql, d)] }) :=
        talks_change (fun _ => rfl) (fun _ => rfl) fun _ => rfl
      cases keep
      · exact talks_pure d
      · exact hkeep.bind fun _ => talks_pure d
    | _ => exact talks_fail unexpected

/-- To start a statement asks for nothing but that statement. -/
theorem talks_start (limit : Option Calendar.Duration) (sql : String) (values : List Value) :
    Talks (IsFor sql) (start limit sql values) := by
  have hfresh : Talks (IsFor sql) (Action.change fresh) :=
    talks_change (fun _ => rfl) (fun _ => rfl) fun _ => rfl
  refine hfresh.bind fun _ => (talks_prepare limit sql _).bind fun d => ?_
  refine (talks_ofExcept _).bind fun bytes => ?_
  have hask : Talks (IsFor sql) (ask limit (.run sql bytes)) :=
    talks_ask limit (.inr rfl) (by nofun)
  exact hask.bind fun reply => talks_pure _

/-- To execute a statement is to run no other one. -/
theorem talks_execute (limit : Option Calendar.Duration) (sql : String) (values : List Value) :
    Talks (IsFor sql) (execute limit sql values) := by
  refine (talks_start limit sql values).bind fun out => ?_
  obtain ⟨d, reply⟩ := out
  cases reply with
  | completed n => exact talks_pure n
  | rows cells => exact talks_pure _
  | _ => exact talks_fail unexpected

/-- To read the rows of a query is to run no other statement. -/
theorem talks_query (limit : Option Calendar.Duration) (maxBlob : Nat) (sql : String)
    (values : List Value) : Talks (IsFor sql) (query limit maxBlob sql values) := by
  refine (talks_start limit sql values).bind fun out => ?_
  obtain ⟨d, reply⟩ := out
  have hevents (events : List Event) :
      Talks (IsFor sql) (Action.change fun l => { l with events }) :=
    talks_change (fun _ => rfl) (fun _ => rfl) fun _ => rfl
  have hread (cells : List (List (Option (List UInt8)))) : Talks (IsFor sql) (do
      Action.change fun l : PgLink => { l with events := (decodeRows maxBlob d.columns cells).1 }
      let rows ← Action.ofExcept (decodeRows maxBlob d.columns cells).2
      pure (RecordSet.ofCells (d.columns.map PgColumn.name) rows)) :=
    (hevents _).bind fun _ => (talks_ofExcept _).bind fun rows => talks_pure _
  cases reply with
  | completed n => exact (talks_pure []).bind hread
  | rows cells => exact (talks_pure cells).bind hread
  | _ => exact (talks_fail unexpected).bind hread

/-- What a statement that controls transactions comes to: it succeeds exactly if the server says
that it was run, and then the link was held. -/
structure Controlled (sql : String) (l : PgLink) (sent : List PgRequest) (r : Except DbError Unit)
    (l' : PgLink) : Prop where
  sends : l.Sends sent l'
  isFor : ∀ q ∈ sent, IsFor sql q
  isHeld_eq : l'.isHeld = l.isHeld
  success : r.isOk = true → l.isHeld = true ∧
    ∃ reply, l.heard sent = [(.control sql, reply)] ∧ reply.acknowledges = true
  failure : r.isOk = false → ∀ x ∈ l.heard sent, x.2.acknowledges = false

/-- A statement that controls transactions is sent by itself, and its reply decides. -/
theorem run_control (sql : String) (l : PgLink) :
    ∃ sent, Controlled sql l sent ((control sql).run l).1 ((control sql).run l).2 := by
  have hne : PgRequest.control sql ≠ .cancel := nofun
  obtain ⟨sent, h⟩ := run_ask none hne l.fresh
  have hsends : l.Sends sent ((ask none (.control sql)).run l.fresh).2 :=
    ⟨h.sends.requests_eq, h.sends.replies_eq⟩
  have hsent : ∀ q ∈ sent, IsFor sql q := fun q hq => h.sent_eq q hq ▸ .inr rfl
  refine ⟨sent, ?_⟩
  unfold control
  rw [Action.run_bind_ok (Action.run_change fresh l)]
  rcases hx : (ask none (.control sql)).run l.fresh with ⟨e | reply, l'⟩
  · rw [hx] at h hsends
    rw [Action.run_bind_error hx]
    exact ⟨hsends, hsent, h.isHeld_eq, nofun, fun _ => h.failure rfl e rfl⟩
  · rw [hx] at h hsends
    rw [Action.run_bind_ok hx]
    obtain ⟨hheld, hheard⟩ := h.answer reply rfl
    have hlast (hr : reply.acknowledges = false) :
        ∀ x ∈ l.heard sent, x.2.acknowledges = false := by
      intro x hmem
      have hmem : x ∈ l.fresh.heard sent := hmem
      rw [hheard, List.mem_singleton] at hmem
      rw [hmem]
      exact hr
    cases reply with
    | completed n =>
      exact ⟨hsends, hsent, h.isHeld_eq, fun _ => ⟨hheld, _, hheard, rfl⟩, nofun⟩
    | rows cells =>
      exact ⟨hsends, hsent, h.isHeld_eq, fun _ => ⟨hheld, _, hheard, rfl⟩, nofun⟩
    | _ => exact ⟨hsends, hsent, h.isHeld_eq, nofun, fun _ => hlast rfl⟩

/-- A link that was let go asks for nothing. -/
theorem run_ask_released {l : PgLink} (h : l.isHeld = false) (limit : Option Calendar.Duration)
    (request : PgRequest) : (ask limit request).run l = (.error released, l) := by
  simp [ask, Action.run, h]

/-- A link that was let go starts no statement. -/
theorem run_start_released {l : PgLink} (h : l.isHeld = false) (limit : Option Calendar.Duration)
    (sql : String) (values : List Value) :
    (start limit sql values).run l = (.error released, l.fresh) := by
  have hlook : (Action.look fun l : PgLink =>
      if !values.isEmpty && l.isHeld then l.prepared.lookup sql else none).run l.fresh =
        (.ok none, l.fresh) := by
    simp [fresh, h]
  have hask := run_ask_released (l := l.fresh) h limit (.prepare sql)
  have hprepare : (prepare limit sql !values.isEmpty).run l.fresh = (.error released, l.fresh) :=
    (Action.run_bind_ok hlook).trans (Action.run_bind_error hask)
  exact (Action.run_bind_ok (Action.run_change fresh l)).trans (Action.run_bind_error hprepare)

/-- On a link that was let go every call fails, and nothing is sent. -/
theorem run_released {l : PgLink} (h : l.isHeld = false) (limit : Option Calendar.Duration)
    (maxBlob : Nat) (sql : String) (values : List Value) :
    (execute limit sql values).run l = (.error released, l.fresh) ∧
      (query limit maxBlob sql values).run l = (.error released, l.fresh) ∧
      (control sql).run l = (.error released, l.fresh) := by
  have hstart := run_start_released h limit sql values
  have hask := run_ask_released (l := l.fresh) h none (.control sql)
  refine ⟨Action.run_bind_error hstart, Action.run_bind_error hstart, ?_⟩
  exact (Action.run_bind_ok (Action.run_change fresh l)).trans (Action.run_bind_error hask)

end PgLink

end SqlAccess
