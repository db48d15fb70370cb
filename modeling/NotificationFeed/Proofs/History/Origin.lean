import NotificationFeed.Proofs.History.Storing
/-!
# Origins — what is known of a stored notification

A notification is stored by one errand of its scene, after the exchanges that
the rule for storing asks for. Later the flag of a notification is all that
changes, and an errand forgets nothing it was told. So at any moment each
notification in the store tells where it is from (`Errand.IsOriginOf`).
-/

namespace NotificationFeed

/-! ## What is stored was asked for -/

/-- A notification shows the draft it was stored from. -/
structure Notification.Shows (n : Notification) (draft : Draft) : Prop where
  userId : n.userId = draft.userId
  kind : n.kind = draft.kind
  payload : n.payload = draft.payload
  createdAt : ∀ t, draft.createdAt = some t → n.createdAt = t

/-- Only a creation gives out a new notification. -/
theorem Store.Request.eq_create_of_deed {r : Store.Request} {a : r.Answer} {id : Int}
    (h : r.deed a = .created id) : ∃ draft, r = .create draft := by
  cases r with
  | create draft => exact ⟨draft, rfl⟩
  | _ => cases h

/-- **What is stored after a call was stored before it**, or it was created by
that call. -/
theorem World.answer_origin (c : Service.Call) (w : World) {n' : Notification}
    (hn' : n' ∈ (answer c w).2.store.rows) :
    (∃ draft, w.exchange c = [⟨.store (.create draft), .ok n'.id⟩] ∧ n'.Shows draft) ∨
      ∃ n ∈ w.store.rows, n.Continues n' := by
  cases c with
  | store request =>
    rcases answer_store request w with ⟨failure, -, -, hstore⟩ | ⟨panic, -, -, hstore⟩ |
      ⟨-, now, hreply, hstore⟩
    · exact .inr ⟨n', hstore ▸ hn', .refl n'⟩
    · exact .inr ⟨n', hstore ▸ hn', .refl n'⟩
    · -- The store was reached: what is new in it is what it was asked to create.
      rw [hstore] at hn'
      rcases (Store.perform_makes now request w.store).origin hn' with ⟨hcreated, -⟩ | hold
      · obtain ⟨draft, rfl⟩ : ∃ draft, request = .create draft := by
          split at hcreated
          · exact Store.Request.eq_create_of_deed hcreated
          · cases hcreated
        rcases Store.mem_create.1 hn' with hn | rfl
        · exact .inr ⟨n', hn, .refl n'⟩
        · refine .inl ⟨draft, ?_, rfl, rfl, rfl, fun t ht => by simp [ht]⟩
          simp only [exchange, hreply]
          rfl
      · exact .inr hold
  | _ => exact .inr ⟨n', hn', .refl n'⟩

/-- An errand was told that a notification is stored, from a draft that it shows. -/
def Errand.Stored (e : Errand) (n : Notification) : Prop :=
  ∃ draft, (⟨.store (.create draft), .ok n.id⟩ : Service.Exchange) ∈ e.heard ∧ n.Shows draft

/-- It was so told for good, whatever becomes of the notification's flag. -/
theorem Errand.Stored.later {e e' : Errand} {n n' : Notification} (h : e.Stored n)
    (he : e.Extends e') (hn : n.Continues n') : e'.Stored n' := by
  obtain ⟨draft, hmem, hshows⟩ := h
  refine ⟨draft, ?_, hn.userId.trans hshows.userId, hn.kind.trans hshows.kind,
    hn.payload.trans hshows.payload, fun t ht => hn.createdAt.trans (hshows.createdAt t ht)⟩
  rw [hn.id]
  exact he.heard.mem hmem

theorem Errand.step_origin (e : Errand) (w : World) {n' : Notification}
    (hn' : n' ∈ (e.step w).2.store.rows) :
    (e.step w).1.Stored n' ∨ ∃ n ∈ w.store.rows, n.Continues n' := by
  rcases e.step_cases w with ⟨call, resume, reply, -, hreply, hstep⟩ |
    ⟨call, resume, panic, -, hpanic, hstep⟩ | hstep
  · rw [hstep] at hn' ⊢
    rcases World.answer_origin call w hn' with ⟨draft, hexchange, hshows⟩ | hold
    · simp only [World.exchange, hreply] at hexchange
      refine .inl ⟨draft, ?_, hshows⟩
      rw [← List.head_eq_of_cons_eq hexchange]
      exact List.mem_append_right _ List.mem_cons_self
    · exact .inr hold
  · rw [hstep] at hn'
    rcases World.answer_origin call w hn' with ⟨draft, hexchange, -⟩ | hold
    · simp [World.exchange, hpanic] at hexchange
    · exact .inr hold
  · rw [hstep] at hn'
    exact .inr ⟨n', hn', .refl n'⟩

/-- **Every notification of a scene was stored by an errand of it.** -/
theorem Scene.run_stored {s : Scene} (hs : ∀ n ∈ s.world.store.rows, ∃ e ∈ s.errands, e.Stored n)
    (happenings : List Happening) :
    ∀ n ∈ (s.run happenings).world.store.rows, ∃ e ∈ (s.run happenings).errands, e.Stored n := by
  induction happenings using List.reverseRecOn with
  | nil => exact hs
  | append_singleton happenings h ih =>
    rw [run_snoc]
    -- A notification that was there before stays with the errand that stored it.
    have hstays : ∀ n ∈ (s.run happenings).world.store.rows, ∀ n', n.Continues n' →
        ∃ e ∈ ((s.run happenings).step h).errands, e.Stored n' := by
      intro n hn n' hc
      obtain ⟨e, he, hstored⟩ := ih n hn
      obtain ⟨e', he', hextends⟩ := (s.run happenings).step_extends h he
      exact ⟨e', he', hstored.later hextends hc⟩
    intro n' hn'
    rcases step_cases (s.run happenings) h with ⟨c, -, hstep⟩ |
      ⟨who, e, directory, disturbance, hwho, hstep⟩ | hstep
    · rw [hstep] at hn'
      exact hstays n' hn' n' (.refl n')
    · rw [hstep] at hn'
      rcases e.step_origin _ hn' with hstored | ⟨n, hn, hc⟩
      · refine ⟨_, ?_, hstored⟩
        rw [hstep]
        exact List.mem_set (List.getElem?_eq_some_iff.1 hwho).1 _
      · exact hstays n hn n' hc
    · rw [hstep] at hn'
      exact hstays n' hn' n' (.refl n')

/-! ## Where a notification is from -/

/-- **What the command that stored a notification makes of it**, by the door it
came through, with the exchanges of the command. -/
def Command.Source (c : Command) (heard : List Service.Exchange) (n : Notification) : Prop :=
  match c with
  | .service (.save draft) => n.userId = draft.userId ∧ n.kind = draft.kind ∧
      n.payload = draft.payload ∧ Service.Dates draft.createdAt heard n.createdAt
  | .remote (.send userId kind payload) => n.userId = userId ∧ n.kind = kind ∧
      payload ≠ [] ∧ n.payload = payload ∧ Service.readings heard = [n.createdAt]
  | .event _ => n.kind = Event.Kind.followCreated.name ∧
      (∃ event, Event.FollowCreated.decode n.payload = some event ∧ event.followeeId = n.userId) ∧
      Service.readings heard = [n.createdAt]
  | _ => False

theorem Command.source_of_wanted {c : Command} {heard : List Service.Exchange} {asked : Draft}
    {n : Notification} (h : c.wanted = some asked) (huser : n.userId = asked.userId)
    (hkind : n.kind = asked.kind) (hpayload : n.payload = asked.payload)
    (hmoment : Service.Dates asked.createdAt heard n.createdAt) : c.Source heard n := by
  cases c with
  | keeper r => cases h
  | service r =>
    cases r with
    | save draft =>
      obtain rfl := Option.some.inj h
      exact ⟨huser, hkind, hpayload, hmoment⟩
    | _ => cases h
  | remote r =>
    obtain ⟨hcheck, hoperation⟩ := Rpc.Request.of_wanted h
    cases r with
    | send userId kind payload =>
      obtain rfl := Option.some.inj hoperation
      exact ⟨huser, hkind, Rpc.Request.payload_ne_nil hcheck, hpayload, hmoment⟩
    | _ => cases hoperation
  | event content =>
    cases hread : Event.read content with
    | error failure =>
      rw [wanted, hread] at h
      cases h
    | ok draft =>
      rw [wanted, hread] at h
      obtain rfl := Option.some.inj h
      obtain ⟨-, -, payload, event, -, -, -, hevent, -, -, rfl⟩ := Event.of_read_eq_ok hread
      refine ⟨hkind, ⟨event, ?_, huser.symm⟩, hmoment⟩
      rw [hpayload]
      exact hevent

/-- **What a stored notification tells of the errand that stored it.** -/
structure Errand.IsOriginOf (e : Errand) (n : Notification) : Prop where
  recipient : 0 < n.userId
  named : n.kind ≠ ""
  /-- The directory knew the user before the notification was asked to be created. -/
  known : ∃ before draft later,
    e.heard = before ++ ⟨.store (.create draft), .ok n.id⟩ :: later ∧ Service.Knew before n.userId
  source : e.command.Source e.heard n

/-- An errand that kept to the rule bears the notifications it stored. -/
theorem Errand.Stored.isOriginOf {e : Errand} {n : Notification} (h : e.Stored n)
    (hlawful : e.Lawful fun c => Service.storing c.wanted) : e.IsOriginOf n := by
  obtain ⟨draft, hmem, hshows⟩ := h
  obtain ⟨before, later, hheard⟩ := List.append_of_mem hmem
  obtain ⟨asked, hwanted, hfit⟩ := hlawful.kept before _ later hheard
  obtain ⟨t, ht, hdates⟩ := hfit.moment
  have hmoment : Service.Dates asked.createdAt e.heard n.createdAt := by
    rw [hshows.createdAt t ht]
    unfold Service.Dates at hdates ⊢
    split at hdates
    · exact hdates
    · -- The clock was read before the notification was created, and not since.
      have hkept := hlawful.kept
      rw [hheard] at hkept ⊢
      rw [Service.readings_eq_of_kept hkept (by rw [hdates]; exact List.cons_ne_nil _ _), hdates]
  refine ⟨?_, ?_, ⟨before, draft, later, hheard, ?_⟩, ?_⟩
  · rw [hshows.userId]
    exact hfit.recipient
  · rw [hshows.kind]
    exact hfit.named
  · rw [hshows.userId]
    exact hfit.known
  · exact Command.source_of_wanted hwanted (hshows.userId.trans hfit.userId)
      (hshows.kind.trans hfit.kind) (hshows.payload.trans hfit.payload) hmoment

/-- **The origin of a notification**, in every scene that begins with nothing
stored and in which no draft is given to the keeper itself. -/
theorem Scene.stored_origin (w : World) (happenings : List Happening)
    (hdoors : ∀ draft, .begins (.keeper (.create draft)) ∉ happenings) :
    ∀ n ∈ (run { world := w.fresh } happenings).world.store.rows,
      ∃ e ∈ (run { world := w.fresh } happenings).errands, e.IsOriginOf n := by
  intro n hn
  have hkeeps : ∀ c, .begins c ∈ happenings →
      c.task.Obeys (Service.storing c.wanted) (fun _ _ => True) [] := by
    intro c hc
    exact Command.task_obeys fun draft hdraft => hdoors draft (hdraft ▸ hc)
  have hlawful : ∀ e ∈ (run { world := w.fresh } happenings).errands,
      e.Lawful fun c => Service.storing c.wanted :=
    run_lawful (fun e he => absurd he List.not_mem_nil) happenings hkeeps
  have hstored : ∀ n ∈ (run { world := w.fresh } happenings).world.store.rows,
      ∃ e ∈ (run { world := w.fresh } happenings).errands, e.Stored n :=
    run_stored (fun n hn => absurd hn List.not_mem_nil) happenings
  obtain ⟨e, he, hsource⟩ := hstored n hn
  exact ⟨e, he, hsource.isOriginOf (hlawful e he)⟩

/-- A remote request, an event and a draft for a user whom the directory does not know; they make
their calls in turn. -/
def mingled : List Happening :=
  let directory : Directory := [(7, .ok ⟨7, "ann", "ann@x"⟩), (42, .ok ⟨42, "bob", "bob@x"⟩)]
  [.begins (.remote (.send 7 "like" [1])), .begins (.event Event.escapedEvent.text),
    .begins (.service (.save ⟨8, "like", none, []⟩))] ++
    (List.range 36).map fun i => .calls (i % 3) directory {}

theorem Scene.stored_origin_mingled :
    ((∀ draft, .begins (.keeper (.create draft)) ∉ mingled) ∧
      ((run { world := ({} : World).fresh } mingled).world.store.rows.map (·.userId)) = [7, 42]) ∧
      ∀ n ∈ (run { world := ({} : World).fresh } mingled).world.store.rows,
        ∃ e ∈ (run { world := ({} : World).fresh } mingled).errands, e.IsOriginOf n := by
  have hdoors : ∀ draft, .begins (.keeper (.create draft)) ∉ mingled := by
    intro draft h
    simp [mingled] at h
  exact ⟨⟨hdoors, by decide +kernel⟩, stored_origin {} mingled hdoors⟩

end NotificationFeed
