import NotificationFeed.Proofs.World.Yields
/-!
# Operations — what each comes to

Six of the seven operations have one shape: they check that one number is
positive, make one request and hand on what its answer shows. `inquiry` is
that shape, and what it comes to is said once. The seventh, `save`, checks a
draft, looks its user up, gives it a moment and then makes its one request.
-/

namespace NotificationFeed

namespace Service

variable {α : Type} {w v : World}

/-- Refuses a number that is not positive. -/
def checkPositive (n : Int) (reason : String) : Operation Unit :=
  if 0 < n then pure () else throw (.invalidInput reason)

/-- The shape of an operation that makes one request: `subject` has to be
positive, `finish` is the journal entry of its end, `view` what it gives. -/
def inquiry (name start : String) (fields : List (String × String)) (subject : Int)
    (reason : String) (request : Store.Request)
    (finish : request.Answer → String × List (String × String)) (view : request.Answer → α) :
    Operation α :=
  counted name do
    tell start fields
    checkPositive subject reason
    let answer ← ask request
    tell (finish answer).1 (finish answer).2
    return view answer

theorem yields_checkPositive {n : Int} {reason : String} (h : 0 < n) (w : World) :
    World.Yields (checkPositive n reason).run w (.ok (.ok ())) w := by
  rw [checkPositive, if_pos h]
  exact .run_pure () w

theorem yields_checkPositive_refused {n : Int} {reason : String} (h : ¬ 0 < n) (w : World) :
    World.Yields (checkPositive n reason).run w (.ok (.error (.invalidInput reason))) w := by
  rw [checkPositive, if_neg h]
  exact .run_throw _ w

section Inquiry

variable {name start reason : String} {fields : List (String × String)} {subject : Int}
variable {request : Store.Request} {finish : request.Answer → String × List (String × String)}
variable {view : request.Answer → α}

/-- **An inquiry about a positive number comes to its view of the reply.** -/
theorem yields_inquiry (h : 0 < subject) (w : World) :
    World.Yields (inquiry name start fields subject reason request finish view).run w
      ((World.answer (.store request) w).1.map
        fun reply => (reply.mapError StoreFailure.toFailure).map view)
      (World.answer (.store request) w).2 := by
  have hask := (World.Yields.ask request w).run_bind_map (g := view)
    (f := fun answer => do
      tell (finish answer).1 (finish answer).2
      return view answer)
    fun answer => (World.Yields.tell _ _ _).run_bind (.run_pure _ _)
  have hmap : ∀ o : Except Panic request.Reply,
      (o.map (·.mapError StoreFailure.toFailure)).map (·.map view) =
        o.map fun reply => (reply.mapError StoreFailure.toFailure).map view := by
    intro o
    cases o <;> rfl
  rw [hmap] at hask
  exact .counted name ((World.Yields.tell start fields w).run_bind
    ((yields_checkPositive h w).run_bind hask))

/-- An inquiry about any other number is refused, and nothing is asked. -/
theorem yields_inquiry_refused (h : ¬ 0 < subject) (w : World) :
    World.Yields (inquiry name start fields subject reason request finish view).run w
      (.ok (.error (.invalidInput reason))) w :=
  .counted name ((World.Yields.tell start fields w).run_bind
    (yields_checkPositive_refused h w).run_bind_failure)

/-- **An inquiry does to the store what its answer says.** -/
theorem inquiry_makes {deed : α → Store.Deed}
    (hdeed : ∀ answer, deed (view answer) = request.deed answer) (w : World) :
    ∃ o v, World.Yields
        (inquiry name start fields subject reason request finish view).run w o v ∧
      (World.deedOf deed o).Makes w.store v.store := by
  by_cases h : 0 < subject
  · refine ⟨_, _, yields_inquiry h w, ?_⟩
    rw [World.deedOf_map request.deed]
    · exact World.answer_store_makes request w
    · exact fun answer => ⟨view answer, rfl, hdeed answer⟩
    · exact fun e => ⟨e.toFailure, rfl⟩
  · exact ⟨_, w, yields_inquiry_refused h w, rfl⟩

/-- **An inquiry that no fault hits** shows what the store answers, at some moment. -/
theorem inquiry_clear (h : 0 < subject) (hfault : w.disturbance.fault = none) :
    ∃ now v, World.Yields (inquiry name start fields subject reason request finish view).run w
        (.ok (((Store.perform now request w.store).1.mapError StoreFailure.toFailure).map view)) v ∧
      v.store = (Store.perform now request w.store).2 := by
  obtain ⟨now, hreply, hstore⟩ := World.answer_store_clear request hfault
  have hyields : World.Yields
      (inquiry name start fields subject reason request finish view).run w _ _ :=
    yields_inquiry h w
  rw [hreply] at hyields
  exact ⟨now, _, hyields, hstore⟩

/-- One about a notification that is not there is told so. -/
theorem inquiry_absent (h : request.subject? = some subject) (hpositive : 0 < subject)
    (habs : ∀ n ∈ w.store.rows, n.id ≠ subject) (hfault : w.disturbance.fault = none) :
    ∃ v, World.Yields (inquiry name start fields subject reason request finish view).run w
      (.ok (.error .notificationNotFound)) v := by
  obtain ⟨now, v, hyields, -⟩ := inquiry_clear hpositive hfault
  rw [Store.perform_absent h habs now] at hyields
  exact ⟨v, hyields⟩

end Inquiry

/-! ## The six members -/

theorem details_eq_inquiry (id : Int) :
    details id = inquiry "get_notification_details" "finding notification" [("id", toString id)]
      id "id must be positive" (.find id)
      (fun _ => ("found notification", [("id", toString id)])) (fun n => n) := rfl

theorem feed_eq_inquiry (userId : Int) (limit page : Int32) :
    feed userId limit page = inquiry "get_user_notification_feed" "finding notifications feed"
      [("user_id", toString userId), ("limit", toString limit.toInt),
        ("page", toString page.toInt)]
      userId "user_id must be positive"
      (.page userId (Window.ofPage limit page).limit (Window.ofPage limit page).offset)
      (fun feed => ("found notifications feed",
        [("user_id", toString userId), ("count", toString feed.notifications.length),
          ("total", toString feed.total)]))
      (fun feed => feed) := rfl

theorem read_eq_inquiry (id : Int) :
    read id = inquiry "read_notification" "marking notification as read" [("id", toString id)]
      id "id must be positive" (.markRead id)
      (fun _ => ("marked notification as read", [("id", toString id)])) (fun _ => ()) := by
  simp [read, inquiry, checkId, checkPositive]

theorem readAll_eq_inquiry (userId : Int) :
    readAll userId = inquiry "read_all_user_notifications" "marking all notifications as read"
      [("user_id", toString userId)] userId "user_id must be positive" (.markAllRead userId)
      (fun updated => ("marked all notifications as read",
        [("user_id", toString userId), ("updated", toString (updated : Nat))]))
      (fun _ => ()) := by
  simp [readAll, inquiry, checkUserId, checkPositive]

theorem remove_eq_inquiry (id : Int) :
    remove id = inquiry "remove_notification" "removing notification" [("id", toString id)]
      id "id must be positive" (.delete id)
      (fun _ => ("removed notification", [("id", toString id)])) (fun _ => ()) := by
  simp [remove, inquiry, checkId, checkPositive]

theorem unread_eq_inquiry (userId : Int) :
    unread userId = inquiry "get_unread_count" "counting unread notifications"
      [("user_id", toString userId)] userId "user_id must be positive" (.countUnread userId)
      (fun count => ("counted unread notifications",
        [("user_id", toString userId), ("count", toString count)]))
      (fun count => count) := rfl

/-! ## Saving a draft -/

/-- Whom a draft is for, if it may be stored: the first fault of a draft
counts, and the directory is asked last. -/
def recipient (directory : Directory) (draft : Draft) : Except Failure User := do
  if 0 < draft.userId then pure () else throw (.invalidInput "user_id must be positive")
  if draft.kind.isEmpty then throw (.invalidInput "notification type is empty")
  directory.lookUp draft.userId

/-- A draft with its moment, and the world in which that was read. -/
def dating (draft : Draft) (w : World) : Draft × World :=
  match draft.createdAt with
  | some _ => (draft, w)
  | none => ({ draft with createdAt := some w.readClock.1 }, w.readClock.2)

theorem yields_dated (draft : Draft) (w : World) :
    World.Yields (dated draft).run w (.ok (.ok (dating draft w).1)) (dating draft w).2 := by
  rw [dated, dating]
  cases h : draft.createdAt with
  | some t => exact .run_pure _ _
  | none => exact (World.Yields.readClock w).lift.run_bind (.run_pure _ _)

theorem dating_store (draft : Draft) (w : World) : (dating draft w).2.store = w.store := by
  unfold dating
  split <;> rfl

/-- What is asked before a draft is stored. -/
def admission (draft : Draft) : Operation User := do
  checkDraft draft
  findUser draft.userId

/-- What is done with a draft that was admitted. -/
def keep (draft : Draft) : Operation Int := do
  let draft ← dated draft
  let id ← ask (.create draft)
  tell "saved notification" [("id", toString id)]
  return id

theorem save_eq_keep (draft : Draft) :
    save draft = counted "save_notification" (do
      tell "saving notification" [("user_id", toString draft.userId)]
      let _ ← admission draft
      keep draft) := by
  simp [save, admission, keep]

/-- The check of a draft and the look-up of its user come to what `recipient` says. -/
theorem yields_admission (draft : Draft) (w : World) :
    World.Yields (admission draft).run w (.ok (recipient w.directory draft)) w := by
  unfold admission checkDraft checkUserId recipient
  by_cases huser : 0 < draft.userId
  · cases hkind : draft.kind.isEmpty with
    | true =>
      simp only [huser, if_true]
      exact ((World.Yields.run_pure () w).run_bind (.run_throw _ w)).run_bind_failure
    | false =>
      simp only [huser, if_true]
      exact ((World.Yields.run_pure () w).run_bind (.run_pure () w)).run_bind (.findUser _ w)
  · simp only [huser, if_false]
    exact (World.Yields.run_throw _ w).run_bind_failure.run_bind_failure

/-- An admitted draft is stored with its moment, and the store's reply is handed on. -/
theorem yields_keep (draft : Draft) (w : World) :
    World.Yields (keep draft).run w
      ((World.answer (.store (.create (dating draft w).1)) (dating draft w).2).1.map
        (·.mapError StoreFailure.toFailure))
      (World.answer (.store (.create (dating draft w).1)) (dating draft w).2).2 := by
  have hask := (World.Yields.ask (.create (dating draft w).1) (dating draft w).2).run_bind_map
    (g := fun id => id) (f := fun id => do
      tell "saved notification" [("id", toString id)]
      return id)
    fun id => (World.Yields.tell _ _ _).run_bind (.run_pure _ _)
  have hmap : ∀ o : Except Panic (Except Failure Int), o.map (·.map fun id => id) = o := by
    rintro (_ | _ | _) <;> rfl
  rw [hmap] at hask
  exact (yields_dated draft w).run_bind hask

/-- A draft that is not admitted fails for that reason, and nothing is stored. -/
theorem yields_save_refused {draft : Draft} {failure : Failure}
    (h : recipient w.directory draft = .error failure) :
    World.Yields (save draft).run w (.ok (.error failure)) w := by
  have hadmit := yields_admission draft w
  rw [h] at hadmit
  rw [save_eq_keep]
  refine .counted _ ((World.Yields.tell _ _ w).run_bind ?_)
  exact hadmit.run_bind_failure

/-- **A draft that is admitted comes to the reply of the store**, which is
asked to create it with its moment. -/
theorem yields_save {draft : Draft} {user : User} (h : recipient w.directory draft = .ok user) :
    World.Yields (save draft).run w
      ((World.answer (.store (.create (dating draft w).1)) (dating draft w).2).1.map
        (·.mapError StoreFailure.toFailure))
      (World.answer (.store (.create (dating draft w).1)) (dating draft w).2).2 := by
  have hadmit := yields_admission draft w
  rw [h] at hadmit
  rw [save_eq_keep]
  refine .counted _ ((World.Yields.tell _ _ w).run_bind ?_)
  exact hadmit.run_bind (yields_keep draft w)

/-- **Saving does to the store what its answer says**: a draft that was saved
is a new notification under the identifier in the answer. -/
theorem save_makes (draft : Draft) (w : World) :
    ∃ o v, World.Yields (save draft).run w o v ∧
      (World.deedOf Store.Deed.created o).Makes w.store v.store := by
  cases h : recipient w.directory draft with
  | error failure => exact ⟨_, w, yields_save_refused h, rfl⟩
  | ok user =>
    refine ⟨_, _, yields_save h, ?_⟩
    rw [World.deedOf_map (Store.Request.create (dating draft w).1).deed,
      ← dating_store draft w]
    · exact World.answer_store_makes _ _
    · exact fun id => ⟨id, rfl, rfl⟩
    · exact fun e => ⟨e.toFailure, rfl⟩

end Service

end NotificationFeed
