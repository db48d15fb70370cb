import NotificationFeed.Proofs.History.Origin
import NotificationFeed.Proofs.Rpc.Abreast
import NotificationFeed.Proofs.Store.Feed
/-!
# Remote requests — payloads are handed through

The payload of a notification is bytes that the service stores and gives back.
To show that it does nothing else with them, every payload that is sent is
replaced by another one, by any rule (`Payload.replace`), and the scene with
the other payloads is run beside the first (`echo`). A creation carries the
other payload there, and what the keeper shows differs in the payloads; all
other calls are the same and are answered the same, because the keeper neither
picks nor orders by a payload (`Store.find?_rewritten`, `Store.feed_rewritten`).
So the worlds are one but for their payloads (`World.Echoes`), and every
request is answered as before, with the other payloads in the places of the
first ones (`Scene.payloads_echoed`).
-/

namespace NotificationFeed

/-! ## Replacing payloads -/

/-- A payload that can be sent: some bytes. -/
abbrev Payload : Type := { bytes : Bytes // bytes ≠ [] }

/-- Puts another payload in the place of one; where there are no bytes there is none. -/
def Payload.replace (f : Payload → Payload) (bytes : Bytes) : Bytes :=
  if h : bytes = [] then [] else (f ⟨bytes, h⟩).1

theorem Payload.replace_of_ne_nil {f : Payload → Payload} {bytes : Bytes} (h : bytes ≠ []) :
    replace f bytes = (f ⟨bytes, h⟩).1 := dif_neg h

theorem Payload.isEmpty_replace (f : Payload → Payload) (bytes : Bytes) :
    (replace f bytes).isEmpty = bytes.isEmpty := by
  by_cases h : bytes = []
  · rw [replace, dif_pos h, h]
  · rw [replace_of_ne_nil h, List.isEmpty_eq_false_iff.2 h, List.isEmpty_eq_false_iff.2 (f _).2]

/-- **One notification is another but for its payload**, which is the image of the other's. -/
def Notification.Echoes (f : Payload → Payload) (n n' : Notification) : Prop :=
  ∃ h : n.payload ≠ [], n' = { n with payload := (f ⟨n.payload, h⟩).1 }

/-- The same page of a feed, but for the payloads on it. -/
structure Feed.Echoes (f : Payload → Payload) (feed feed' : Feed) : Prop where
  notifications : List.Forall₂ (Notification.Echoes f) feed.notifications feed'.notifications
  total : feed.total = feed'.total

namespace Notification

variable {f : Payload → Payload}

/-- A notification with another payload. -/
def rewritten (f : Payload → Payload) (n : Notification) : Notification :=
  { n with payload := Payload.replace f n.payload }

theorem echoes_rewritten {n : Notification} (h : n.payload ≠ []) : n.Echoes f (n.rewritten f) :=
  ⟨h, by rw [rewritten, Payload.replace_of_ne_nil h]⟩

theorem forall₂_echoes_map {rows : List Notification} (h : ∀ n ∈ rows, n.payload ≠ []) :
    List.Forall₂ (Notification.Echoes f) rows (rows.map (·.rewritten f)) := by
  rw [List.forall₂_map_right_iff]
  exact List.forall₂_same.2 fun n hn => echoes_rewritten (h n hn)

end Notification

/-! ## The keeper -/

/-- A draft with another payload. -/
def Draft.rewritten (f : Payload → Payload) (draft : Draft) : Draft :=
  { draft with payload := Payload.replace f draft.payload }

namespace Store

variable {f : Payload → Payload}

/-- A store with other payloads. -/
def rewritten (f : Payload → Payload) (s : Store) : Store :=
  { s with rows := s.rows.map (·.rewritten f) }

/-- Every notification that is stored has a payload. -/
def Filled (s : Store) : Prop := ∀ n ∈ s.rows, n.payload ≠ []

theorem find?_rewritten (s : Store) (id : Int) :
    (s.rewritten f).find? id = (s.find? id).map (·.rewritten f) := List.find?_map ..

theorem ofUser_rewritten (s : Store) (userId : Int) :
    (s.rewritten f).ofUser userId = (s.ofUser userId).map (·.rewritten f) := List.filter_map ..

theorem unread_rewritten (s : Store) (userId : Int) :
    (s.rewritten f).unread userId = (s.unread userId).map (·.rewritten f) := List.filter_map ..

/-- **A feed is in one order whatever the payloads are.** -/
theorem feed_rewritten (s : Store) (userId : Int) :
    (s.rewritten f).feed userId = (s.feed userId).map (·.rewritten f) := by
  have hsort : ((s.ofUser userId).mergeSort precedes).map (·.rewritten f) =
      ((s.ofUser userId).map (·.rewritten f)).mergeSort precedes :=
    List.map_mergeSort fun _ _ _ _ => rfl
  rw [feed, feed, ofUser_rewritten, hsort]

theorem page_rewritten (s : Store) (userId limit offset : Int) :
    (s.rewritten f).page userId limit offset =
      { notifications := (s.page userId limit offset).notifications.map (·.rewritten f)
        total := (s.page userId limit offset).total } := by
  simp only [page, feed_rewritten, List.map_take, List.map_drop, List.length_map]

theorem markWhere_rewritten (s : Store) {which : Notification → Bool}
    (h : ∀ n : Notification, which (n.rewritten f) = which n) :
    (s.rewritten f).markWhere which = (s.markWhere which).rewritten f := by
  simp only [markWhere, rewritten, List.map_map]
  congr 1
  refine List.map_congr_left fun n _ => ?_
  simp only [Function.comp_apply, h]
  split <;> rfl

theorem erase_rewritten (s : Store) (id : Int) :
    (s.rewritten f).erase id = (s.erase id).rewritten f :=
  congrArg (Store.mk s.lastId) (List.filter_map ..)

theorem create_rewritten (s : Store) (draft : Draft) (now : Instant) :
    (s.rewritten f).create (draft.rewritten f) now =
      ((s.create draft now).1, (s.create draft now).2.rewritten f) := by
  simp only [create, rewritten, List.map_append]
  rfl

theorem Filled.feed {s : Store} (h : s.Filled) (userId : Int) :
    ∀ n ∈ s.feed userId, n.payload ≠ [] := by
  intro n hn
  exact h n (mem_ofUser.1 ((feed_perm s userId).mem_iff.1 hn)).1

/-- A request to the keeper with another payload. -/
def Request.rewritten (f : Payload → Payload) : Request → Request
  | .create draft => .create (draft.rewritten f)
  | request => request

end Store

/-! ## Side by side -/

namespace Service

variable {f : Payload → Payload}

/-- A call with another payload. -/
def Call.rewritten (f : Payload → Payload) : Call → Call
  | .store request => .store (request.rewritten f)
  | call => call

/-- Whether a payload is given with a call or comes with its reply. -/
def Call.carriesPayload : Call → Bool
  | .store (.create _) | .store (.find _) | .store (.page ..) => true
  | _ => false

/-- The calls that carry payloads; a draft that is stored has one. -/
inductive Carrying where
  | creation (draft : Draft) (h : draft.payload ≠ [])
  | find (id : Int)
  | page (userId limit offset : Int)

/-- **Side by side but for payloads.** -/
def echo (f : Payload → Payload) : Pairing surroundings where
  Plain c := c.carriesPayload = false
  Link := Carrying
  left
    | .creation draft _ => .store (.create draft)
    | .find id => .store (.find id)
    | .page userId limit offset => .store (.page userId limit offset)
  right
    | .creation draft _ => .store (.create (draft.rewritten f))
    | .find id => .store (.find id)
    | .page userId limit offset => .store (.page userId limit offset)
  Replies
    | .creation .., reply, reply' => reply = reply'
    | .find _, reply, reply' => Outcomes Eq (Notification.Echoes f) reply reply'
    | .page .., reply, reply' => Outcomes Eq (Feed.Echoes f) reply reply'

/-- No payload is carried by a call beside the work. -/
theorem echo_plain_of_isAside (c : Call) (h : c.isAside = true) : (echo f).Plain c := by
  cases c with
  | store request => cases h
  | _ => rfl

theorem save_echoes {draft : Draft} (h : draft.payload ≠ []) :
    Program.Pairs (echo f) (Outcomes Eq Eq) (save draft).run (save (draft.rewritten f)).run := by
  refine save_pairs echo_plain_of_isAside rfl (fun _ => rfl) ?_ fun t => ?_
  · exact .same rfl fun _ => .done (Outcomes.refl (fun _ => rfl) (fun _ => rfl) _)
  · -- What is created with the other payload gets the same identifier.
    refine .linked (P := echo f) (.creation { draft with createdAt := t } h) ?_
    intro reply reply' hreply
    rw [show reply = reply' from hreply]
    exact .done (Outcomes.refl (fun _ => rfl) (fun _ => rfl) _)

theorem find_echoes (id : Int) :
    Program.Pairs (echo f) (Outcomes Eq (Notification.Echoes f)) (ask (.find id)).run
      (ask (.find id)).run :=
  .linked (P := echo f) (.find id) fun _ _ hreplies => .done (hreplies.mapError _)

theorem page_echoes (userId limit offset : Int) :
    Program.Pairs (echo f) (Outcomes Eq (Feed.Echoes f)) (ask (.page userId limit offset)).run
      (ask (.page userId limit offset)).run :=
  .linked (P := echo f) (.page userId limit offset) fun _ _ hreplies => .done (hreplies.mapError _)

/-- An inquiry that carries no payload is beside itself with one answer. -/
theorem inquiry_echoes {α : Type} {name start reason : String} {fields : List (String × String)}
    {subject : Int} {request : Store.Request}
    {finish : request.Answer → String × List (String × String)} {view : request.Answer → α}
    {R : α → α → Prop} (hrequest : (echo f).Plain (.store request)) (hR : ∀ a, R a a) :
    Program.Pairs (echo f) (Outcomes Eq R)
      (inquiry name start fields subject reason request finish view).run
      (inquiry name start fields subject reason request finish view).run := by
  refine inquiry_pairs echo_plain_of_isAside (fun _ => rfl) (ask_pairs hrequest fun _ => rfl) ?_
  rintro a _ rfl
  exact ⟨rfl, hR _⟩

theorem details_echoes (id : Int) :
    Program.Pairs (echo f) (Outcomes Eq (Notification.Echoes f)) (details id).run
      (details id).run := by
  rw [details_eq_inquiry]
  exact inquiry_pairs echo_plain_of_isAside (fun _ => rfl) (find_echoes id) fun _ _ h => ⟨rfl, h⟩

theorem feed_echoes (userId : Int) (limit page : Int32) :
    Program.Pairs (echo f) (Outcomes Eq (Feed.Echoes f)) (feed userId limit page).run
      (feed userId limit page).run := by
  rw [feed_eq_inquiry]
  refine inquiry_pairs echo_plain_of_isAside (fun _ => rfl) (page_echoes userId _ _) ?_
  intro part part' h
  -- The journal shows how many notifications the page has, and how many there are.
  rw [h.notifications.length_eq, h.total]
  exact ⟨rfl, h⟩

end Service

namespace Rpc

variable {f : Payload → Payload}

/-- A notification in a response, but for its payload. -/
def NotificationView.Echoes (f : Payload → Payload) (v v' : NotificationView) : Prop :=
  ∃ h : v.payload ≠ [], v' = { v with payload := (f ⟨v.payload, h⟩).1 }

/-- A page in a response, but for the payloads on it. -/
structure FeedView.Echoes (f : Payload → Payload) (part part' : FeedView) : Prop where
  notifications : List.Forall₂ (NotificationView.Echoes f) part.notifications part'.notifications
  totalCount : part.totalCount = part'.totalCount

theorem NotificationView.echoes_ofNotification {n n' : Notification} (h : n.Echoes f n') :
    (ofNotification n).Echoes f (ofNotification n') := by
  obtain ⟨hpayload, rfl⟩ := h
  exact ⟨hpayload, rfl⟩

theorem FeedView.echoes_ofFeed {feed feed' : Feed} (h : feed.Echoes f feed') :
    (ofFeed feed).Echoes f (ofFeed feed') := by
  refine ⟨?_, h.total⟩
  rw [ofFeed, ofFeed, List.forall₂_map_left_iff, List.forall₂_map_right_iff]
  exact h.notifications.imp fun _ _ => NotificationView.echoes_ofNotification

namespace Request

/-- **The same request with another payload**, if it sends one. -/
def rewritten (f : Payload → Payload) : Request → Request
  | .send userId kind payload => .send userId kind (Payload.replace f payload)
  | r => r

/-- **What two responses have in common**: everything but the payloads they show, and these are
images of each other. -/
def Echoes (f : Payload → Payload) : (r : Request) → r.method.Response →
    (r.rewritten f).method.Response → Prop
  | .send .., id, id' => id = id'
  | .details _, v, v' => v.Echoes f v'
  | .feed .., part, part' => part.Echoes f part'
  | .read _, _, _ | .readAll _, _, _ | .remove _, _, _ => True
  | .unread _, count, count' => count = count'

/-- The shape of a request does not depend on its payload, if it has one. -/
theorem check_rewritten (r : Request) : (r.rewritten f).check = r.check := by
  cases r with
  | send userId kind payload => simp only [rewritten, check, Payload.isEmpty_replace]
  | _ => rfl

open Service (echo echo_plain_of_isAside)

theorem serve_echoes {r : Request} (hcheck : r.check = .ok ()) :
    Program.Pairs (echo f) (Outcomes Eq (r.Echoes f)) r.serve.run (r.rewritten f).serve.run := by
  cases r with
  | send userId kind payload =>
    have hpayload : payload ≠ [] := payload_ne_nil hcheck
    exact Service.save_echoes (show
      ({ userId, kind, createdAt := none, payload } : Draft).payload ≠ [] from hpayload)
  | details id =>
    show Program.Pairs (echo f) (Outcomes Eq (NotificationView.Echoes f))
      (NotificationView.ofNotification <$> Service.details id).run
      (NotificationView.ofNotification <$> Service.details id).run
    rw [map_eq_pure_bind]
    exact (Service.details_echoes id).run_bind fun _ _ h =>
      .done (.ok (NotificationView.echoes_ofNotification h))
  | feed userId limit page =>
    show Program.Pairs (echo f) (Outcomes Eq (FeedView.Echoes f))
      (FeedView.ofFeed <$> Service.feed userId limit page).run
      (FeedView.ofFeed <$> Service.feed userId limit page).run
    rw [map_eq_pure_bind]
    exact (Service.feed_echoes userId limit page).run_bind fun _ _ h =>
      .done (.ok (FeedView.echoes_ofFeed h))
  | read id =>
    show Program.Pairs (echo f) _ (Service.read id).run (Service.read id).run
    rw [Service.read_eq_inquiry]
    exact Service.inquiry_echoes rfl fun _ => trivial
  | readAll userId =>
    show Program.Pairs (echo f) _ (Service.readAll userId).run (Service.readAll userId).run
    rw [Service.readAll_eq_inquiry]
    exact Service.inquiry_echoes rfl fun _ => trivial
  | remove id =>
    show Program.Pairs (echo f) _ (Service.remove id).run (Service.remove id).run
    rw [Service.remove_eq_inquiry]
    exact Service.inquiry_echoes rfl fun _ => trivial
  | unread userId =>
    show Program.Pairs (echo f) _ (Service.unread userId).run (Service.unread userId).run
    rw [Service.unread_eq_inquiry]
    exact Service.inquiry_echoes rfl fun _ => rfl

theorem perform_echoes (r : Request) :
    Program.Pairs (echo f) (Outcomes Eq (r.Echoes f)) r.perform.run
      (r.rewritten f).perform.run := by
  unfold perform
  rw [check_rewritten]
  cases hcheck : r.check with
  | error failure => exact .done (.error rfl)
  | ok _ => exact serve_echoes hcheck

/-- **A handler does the same with another payload**, and answers with it where it answers with the
first. -/
theorem handle_echoes (r : Request) :
    Program.Pairs (echo f) (Outcomes Eq (r.Echoes f)) (handle r) (handle (r.rewritten f)) := by
  have hrefuse : ∀ failure failure' : Failure, failure = failure' →
      Program.Pairs (echo f) Eq (refuse failure) (refuse failure') := by
    rintro failure _ rfl
    exact .same rfl fun _ => .done rfl
  -- Both requests are of one method, which shows for each method by itself.
  have hperform := perform_echoes (f := f) r
  cases r <;> exact observed_pairs echo_plain_of_isAside _ hrefuse hperform

end Request

end Rpc

/-! ## Worlds and scenes -/

namespace World

variable {f : Payload → Payload} {w v : World}

/-- A world with other payloads in its store and on record. -/
def rewritten (f : Payload → Payload) (w : World) : World :=
  { w with store := w.store.rewritten f, past := w.past.map (·.rewritten f) }

/-- **One world is another but for its payloads.** -/
structure Echoes (f : Payload → Payload) (w v : World) : Prop where
  rewritten : v = w.rewritten f
  filled : w.store.Filled

/-- A creation gives out the same identifier under another payload. -/
theorem perform_create_rewritten (draft : Draft) (w : World) :
    (w.rewritten f).perform (.create (draft.rewritten f)) =
      ((w.perform (.create draft)).1, (w.perform (.create draft)).2.rewritten f) := by
  obtain ⟨userId, kind, createdAt, payload⟩ := draft
  cases createdAt with
  | none =>
    have hcreate := w.store.create_rewritten (f := f) ⟨userId, kind, none, payload⟩ w.readClock.1
    simp only [perform, Draft.rewritten, Store.perform, rewritten, readClock] at hcreate ⊢
    rw [hcreate]
  | some t =>
    have hcreate := w.store.create_rewritten (f := f) ⟨userId, kind, some t, payload⟩ ⟨0⟩
    simp only [perform, Draft.rewritten, Store.perform, rewritten] at hcreate ⊢
    rw [hcreate]

/-- **A request that carries no payload** is replied the same and leaves the same but for
payloads. -/
theorem perform_rewritten {request : Store.Request}
    (h : (Service.Call.store request).carriesPayload = false) (w : World) :
    (w.rewritten f).perform request =
      ((w.perform request).1, (w.perform request).2.rewritten f) := by
  cases request with
  | create draft => cases h
  | find id => cases h
  | page userId limit offset => cases h
  | markRead id =>
    simp only [perform, Store.perform, rewritten, Store.find?_rewritten]
    cases w.store.find? id with
    | none => rfl
    | some n =>
      simp only [Option.map_some]
      rw [Store.markWhere_rewritten w.store fun _ => rfl]
  | markAllRead userId =>
    simp only [perform, Store.perform, rewritten, Store.unread_rewritten, List.length_map]
    rw [Store.markWhere_rewritten w.store fun _ => rfl]
  | delete id =>
    simp only [perform, Store.perform, rewritten, Store.find?_rewritten]
    cases w.store.find? id with
    | none => rfl
    | some n => simp only [Option.map_some, Store.erase_rewritten]
  | countUnread userId =>
    simp only [perform, Store.perform, rewritten, Store.unread_rewritten, List.length_map]

/-- The notification that is found is the same but for its payload. -/
theorem perform_find_echoes (h : w.store.Filled) (id : Int) :
    Outcomes Eq (Notification.Echoes f) (w.perform (.find id)).1
        ((w.rewritten f).perform (.find id)).1 ∧
      ((w.rewritten f).perform (.find id)).2 = (w.perform (.find id)).2.rewritten f := by
  simp only [perform, Store.perform, rewritten, Store.find?_rewritten]
  cases hfind : w.store.find? id with
  | none => exact ⟨.error rfl, rfl⟩
  | some n =>
    have hn := h n (Store.mem_of_find? hfind).1
    exact ⟨.ok (Notification.echoes_rewritten hn), rfl⟩

/-- So is the page that is shown. -/
theorem perform_page_echoes (h : w.store.Filled) (userId limit offset : Int) :
    Outcomes Eq (Feed.Echoes f) (w.perform (.page userId limit offset)).1
        ((w.rewritten f).perform (.page userId limit offset)).1 ∧
      ((w.rewritten f).perform (.page userId limit offset)).2 =
        (w.perform (.page userId limit offset)).2.rewritten f := by
  refine ⟨?_, rfl⟩
  simp only [perform, Store.perform, rewritten, Store.page_rewritten]
  refine .ok ⟨Notification.forall₂_echoes_map fun n hn => ?_, rfl⟩
  exact h n (Store.mem_of_mem_page hn)

/-- **What hits a request hits it with any payload**: two requests are refused or thrown alike, or
replied as the stores reply. -/
theorem answer_store_echoes (request request' : Store.Request)
    {T : request.Reply → request'.Reply → Prop} (hrequest : request' = request.rewritten f)
    (hrefused : ∀ failure, T (.error failure) (.error failure))
    (hperform : ∀ u : World, u.store = w.store → T (u.perform request).1
        ((u.rewritten f).perform request').1 ∧
      ((u.rewritten f).perform request').2 = (u.perform request).2.rewritten f) :
    Outcomes Eq T (answer (.store request) w).1 (answer (.store request') (w.rewritten f)).1 ∧
      (answer (.store request') (w.rewritten f)).2 =
        (answer (.store request) w).2.rewritten f := by
  subst hrequest
  obtain ⟨hreply, hleft⟩ :=
    hperform ((w.record (.store request)).elapse w.disturbance.delay) rfl
  simp only [answer, record, elapse, rewritten] at hreply hleft ⊢
  cases w.disturbance.fault with
  | none => exact ⟨.ok hreply, hleft⟩
  | some fault =>
    cases fault with
    | refuse failure => exact ⟨.ok (hrefused failure), rfl⟩
    | throw panic => exact ⟨.error rfl, rfl⟩

/-- **No empty payload comes into the store** by a call that creates none. -/
theorem answer_filled (h : w.store.Filled) {c : Service.Call}
    (hc : ∀ draft, c = .store (.create draft) → draft.payload ≠ []) :
    (answer c w).2.store.Filled := by
  intro n' hn'
  rcases answer_origin c w hn' with ⟨draft, hexchange, hshows⟩ | ⟨n, hn, hcontinues⟩
  · rw [hshows.payload]
    refine hc draft ?_
    unfold exchange at hexchange
    split at hexchange
    · exact congrArg Exchange.call (List.head_eq_of_cons_eq hexchange)
    · cases hexchange
  · rw [hcontinues.payload]
    exact h n hn

/-- **Two such worlds answer side by side.** -/
theorem answered (f : Payload → Payload) : (Service.echo f).Answered (Echoes f) answer answer where
  same {c} hc {w v} h := by
    obtain ⟨rfl, hfilled⟩ := h
    have hstays : (answer c w).2.store.Filled := by
      refine answer_filled hfilled ?_
      rintro draft rfl
      cases hc
    cases c with
    | store request =>
      have hrequest : request = request.rewritten f := by
        cases request with
        | create draft => cases hc
        | _ => rfl
      obtain ⟨hreply, hleft⟩ := answer_store_echoes request request (T := Eq) hrequest
        (fun _ => rfl) fun u _ => by
          rw [perform_rewritten hc u]
          exact ⟨rfl, rfl⟩
      exact ⟨hreply, hleft, hstays⟩
    | _ => exact ⟨.ok rfl, rfl, hstays⟩
  linked l {w v} h := by
    obtain ⟨rfl, hfilled⟩ := h
    cases l with
    | creation draft hpayload =>
      obtain ⟨hreply, hleft⟩ := answer_store_echoes (w := w) (.create draft)
        (.create (draft.rewritten f)) (T := Eq) rfl (fun _ => rfl) fun u _ => by
          rw [perform_create_rewritten draft u]
          exact ⟨rfl, rfl⟩
      refine ⟨hreply, hleft, answer_filled hfilled fun stored hstored => ?_⟩
      obtain rfl := Store.Request.create.inj (Service.Call.store.inj hstored)
      exact hpayload
    | find id =>
      obtain ⟨hreply, hleft⟩ := answer_store_echoes (w := w) (f := f) (.find id) (.find id) rfl
        (fun _ => .error rfl) fun u hu => perform_find_echoes (hu ▸ hfilled) id
      exact ⟨hreply, hleft, answer_filled hfilled fun draft hdraft => by cases hdraft⟩
    | page userId limit offset =>
      obtain ⟨hreply, hleft⟩ := answer_store_echoes (w := w) (f := f)
        (.page userId limit offset) (.page userId limit offset) rfl (fun _ => .error rfl)
        fun u hu => perform_page_echoes (hu ▸ hfilled) userId limit offset
      exact ⟨hreply, hleft, answer_filled hfilled fun draft hdraft => by cases hdraft⟩

end World

/-- **The same happens with other payloads**: remote requests are begun, and errands take their
turns, before one directory and under one disturbance. -/
inductive Happening.Rewritten (f : Payload → Payload) : Happening → Happening → Prop
  | begins (r : Rpc.Request) :
      Rewritten f (.begins (.remote r)) (.begins (.remote (r.rewritten f)))
  | calls (who : Nat) (directory : Directory) (disturbance : Disturbance) :
      Rewritten f (.calls who directory disturbance) (.calls who directory disturbance)

namespace Errand

variable {f : Payload → Payload}

/-- Two errands with one remote request but for its payload, side by side. -/
inductive Beside (f : Payload → Payload) : Errand → Errand → Prop
  | mk {r : Rpc.Request} {heard heard' : List Service.Exchange}
      {rest : Thread Service.surroundings (Except Status r.method.Response)}
      {rest' : Thread Service.surroundings (Except Status (r.rewritten f).method.Response)}
      (h : Outcomes Eq (Program.Pairs (Service.echo f) (Outcomes Eq (r.Echoes f))) rest rest') :
      Beside f ⟨.remote r, heard, rest⟩ ⟨.remote (r.rewritten f), heard', rest'⟩

/-- **Two errands with one remote request but for its payload** that have been answered alike, with
a response or with the same status, or both not yet. -/
inductive Echoes (f : Payload → Payload) : Errand → Errand → Prop
  | mk {r : Rpc.Request} {heard heard' : List Service.Exchange}
      {rest : Thread Service.surroundings (Except Status r.method.Response)}
      {rest' : Thread Service.surroundings (Except Status (r.rewritten f).method.Response)}
      (h : Option.Rel (Outcomes Eq (Outcomes Eq (r.Echoes f))) rest.result? rest'.result?) :
      Echoes f ⟨.remote r, heard, rest⟩ ⟨.remote (r.rewritten f), heard', rest'⟩

theorem Beside.echoes {e e' : Errand} (h : e.Beside f e') : e.Echoes f e' := by
  cases h with
  | mk h => exact .mk (Program.Pairs.result?_rel h)

/-- **Two errands side by side stay so**, and so do the worlds they leave. -/
theorem Beside.step {e e' : Errand} (h : e.Beside f e') {w v : World} (hw : w.Echoes f v) :
    (e.step w).1.Beside f (e'.step v).1 ∧ (e.step w).2.Echoes f (e'.step v).2 := by
  cases h with
  | mk h =>
    obtain ⟨hrest, hworld⟩ := Program.Pairs.step (World.answered f) h hw
    exact ⟨.mk hrest, hworld⟩

end Errand

namespace Scene

variable {f : Payload → Payload}

/-- What happens with other payloads keeps scenes side by side. -/
theorem abreast_rewritten {s s' : Scene} (h : Abreast (World.Echoes f) (Errand.Beside f) s s')
    {x x' : Happening} (hx : x.Rewritten f x') :
    Abreast (World.Echoes f) (Errand.Beside f) (s.step x) (s'.step x') := by
  cases hx with
  | begins r => exact h.begins (.mk (.ok (Rpc.Request.handle_echoes r)))
  | calls who directory disturbance =>
    have hmeet : World.Echoes f { s.world with directory, disturbance }
        { s'.world with directory, disturbance } := by
      refine ⟨?_, h.world.filled⟩
      rw [h.world.rewritten]
      rfl
    exact h.calls (fun he hw => he.step hw) hmeet who

/-- **Payloads are handed through.** Where remote requests are begun and take their turns in any
order, from an empty store on, and the payloads that are sent are replaced by their images under
any function, nothing changes but payloads. Every request is answered as before, with the same
identifier, count, total or status, and the same notifications in the same order, each with the
image of its payload. The same calls are made, to the directory and the metrics too, but for the
images in the creations. The store holds the same notifications, and every user's feed lists them
in the same order, each with the image of its payload. -/
theorem payloads_echoed (w : World) (f : Payload → Payload) {xs xs' : List Happening}
    (h : List.Forall₂ (Happening.Rewritten f) xs xs') :
    let start : Scene := { world := { w.fresh with past := [] } }
    List.Forall₂ (Errand.Echoes f) (start.run xs).errands (start.run xs').errands ∧
      (start.run xs').world.trace = (start.run xs).world.trace.map (·.rewritten f) ∧
      (start.run xs').world.registry = (start.run xs).world.registry ∧
      (start.run xs').world.store.lastId = (start.run xs).world.store.lastId ∧
      List.Forall₂ (Notification.Echoes f) (start.run xs).world.store.rows
        (start.run xs').world.store.rows ∧
      ∀ userId, List.Forall₂ (Notification.Echoes f) ((start.run xs).world.store.feed userId)
        ((start.run xs').world.store.feed userId) := by
  intro start
  have hstart : Abreast (World.Echoes f) (Errand.Beside f) start start :=
    ⟨⟨rfl, fun n hn => absurd hn List.not_mem_nil⟩, .nil⟩
  obtain ⟨⟨hworld, hfilled⟩, herrands⟩ := Abreast.run (fun h hx => abreast_rewritten h hx) hstart h
  rw [hworld]
  refine ⟨herrands.imp fun _ _ he => he.echoes, ?_, rfl, rfl,
    Notification.forall₂_echoes_map hfilled, fun userId => ?_⟩
  · exact List.map_reverse.symm
  · show List.Forall₂ _ _ (((start.run xs).world.store.rewritten f).feed userId)
    rw [Store.feed_rewritten]
    exact Notification.forall₂_echoes_map (hfilled.feed userId)

/-- Two notifications are sent to a user, call by call in turn, and then the feed is asked for. -/
def postings (first second : Bytes) : List Happening :=
  let directory : Directory := [(7, .ok ⟨7, "ann", "ann@x"⟩)]
  .begins (.remote (.send 7 "like" first)) :: .begins (.remote (.send 7 "like" second)) ::
    ((List.replicate 11 [0, 1]).flatten.map (.calls · directory {}) ++
      .begins (.remote (.feed 7 0 0)) :: List.replicate 9 (.calls 2 directory {}))

/-- Puts a zero before a payload. -/
def zeroed (payload : Payload) : Payload := ⟨0 :: payload.1, List.cons_ne_nil _ _⟩

theorem payloads_echoed_postings :
    List.Forall₂ (Happening.Rewritten zeroed) (postings [1] [2]) (postings [0, 1] [0, 2]) ∧
      List.Forall₂ (Errand.Echoes zeroed)
        (run { world := { ({} : World).fresh with past := [] } } (postings [1] [2])).errands
        (run { world := { ({} : World).fresh with past := [] } } (postings [0, 1] [0, 2])).errands ∧
      (run { world := { ({} : World).fresh with past := [] } }
        (postings [1] [2])).world.store.rows.map (·.payload) = [[1], [2]] ∧
      (run { world := { ({} : World).fresh with past := [] } }
        (postings [0, 1] [0, 2])).world.store.rows.map (·.payload) = [[0, 1], [0, 2]] ∧
      (run { world := { ({} : World).fresh with past := [] } }
        (postings [0, 1] [0, 2])).errands.map (·.rest.result?.isSome) = [true, true, true] := by
  have hrewritten : List.Forall₂ (Happening.Rewritten zeroed) (postings [1] [2])
      (postings [0, 1] [0, 2]) := by
    refine .cons (.begins _) (.cons (.begins _) (List.rel_append ?_ (.cons (.begins _) ?_)))
    · rw [List.forall₂_map_left_iff, List.forall₂_map_right_iff]
      exact List.forall₂_same.2 fun who _ => .calls who _ _
    · refine List.forall₂_same.2 fun x hx => ?_
      rw [List.eq_of_mem_replicate hx]
      exact .calls _ _ _
  obtain ⟨hanswers, -⟩ := payloads_echoed {} zeroed hrewritten
  exact ⟨hrewritten, hanswers, by decide +kernel, by decide +kernel, by decide +kernel⟩

end Scene

end NotificationFeed
