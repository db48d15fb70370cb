import NotificationFeed.Proofs.History.Errand
import NotificationFeed.Proofs.History.Core
import NotificationFeed.Proofs.Program.Pairing
/-!
# Remote requests — two runs side by side

What two runs may differ in is a pairing. If the calls beside the work are no
part of it, what is reported of a request and the count of an operation keep
two of them side by side; what is left to show is the one request an operation
makes to the keeper, and for a draft the lookup before it (`inquiry_pairs`,
`save_pairs`, `observed_pairs`). In a scene a related happening moves one
errand on either side, in the same place of the row (`Scene.Abreast.calls`).
-/

namespace NotificationFeed

/-! ## Operations -/

namespace Service

variable {α β : Type} {P : Pairing surroundings} {E : Failure → Failure → Prop} {R : α → β → Prop}

/-- An entry of the journal is written by both. -/
theorem tell_pairs (haside : ∀ c, Call.isAside c = true → P.Plain c) (message : String)
    (fields : List (String × String)) :
    Program.Pairs P (Outcomes E Eq) (tell message fields).run (tell message fields).run :=
  .same (haside _ rfl) fun _ => .done (.ok rfl)

/-- A request to the keeper in which nothing may differ. -/
theorem ask_pairs {request : Store.Request} (hplain : P.Plain (.store request))
    (hE : ∀ failure, E failure failure) :
    Program.Pairs P (Outcomes E Eq) (ask request).run (ask request).run :=
  .same hplain fun _ => .done (Outcomes.refl hE (fun _ => rfl) _)

/-- **An operation is counted** by whether it failed, so the count keeps two operations side by
side. -/
theorem counted_pairs (haside : ∀ c, Call.isAside c = true → P.Plain c) (name : String)
    {body : Operation α} {body' : Operation β}
    (h : Program.Pairs P (Outcomes E R) body.run body'.run) :
    Program.Pairs P (Outcomes E R) (counted name body).run (counted name body').run := by
  refine Program.Pairs.bind h fun result result' houtcomes => ?_
  cases houtcomes with
  | ok h => exact .same (haside _ rfl) fun _ => .done (.ok h)
  | error h => exact .same (haside _ rfl) fun _ => .done (.error h)

/-- **An inquiry stays beside itself** if its request does, and if related answers read the same in
the journal. -/
theorem inquiry_pairs {name start reason : String} {fields : List (String × String)}
    {subject : Int} {request : Store.Request}
    {finish : request.Answer → String × List (String × String)} {view : request.Answer → α}
    {A : request.Answer → request.Answer → Prop} {R : α → α → Prop}
    (haside : ∀ c, Call.isAside c = true → P.Plain c) (hE : ∀ failure, E failure failure)
    (hask : Program.Pairs P (Outcomes E A) (ask request).run (ask request).run)
    (hanswer : ∀ a a', A a a' → finish a = finish a' ∧ R (view a) (view a')) :
    Program.Pairs P (Outcomes E R)
      (inquiry name start fields subject reason request finish view).run
      (inquiry name start fields subject reason request finish view).run := by
  have hcheck : Program.Pairs P (Outcomes E Eq) (checkPositive subject reason).run
      (checkPositive subject reason).run := by
    unfold checkPositive
    split
    · exact .done (.ok rfl)
    · exact .done (.error (hE _))
  refine counted_pairs haside name ((tell_pairs haside start fields).run_bind fun _ _ _ => ?_)
  refine hcheck.run_bind fun _ _ _ => hask.run_bind fun a a' h => ?_
  obtain ⟨hfinish, hview⟩ := hanswer a a' h
  rw [hfinish]
  exact (tell_pairs haside _ _).run_bind fun _ _ _ => .done (.ok hview)

section Saving

variable {draft : Draft} {payload : Bytes}

theorem dated_pairs (hclock : P.Plain .readClock) :
    Program.Pairs P (Outcomes E fun d d' => ∃ t, d = { draft with createdAt := t } ∧
        d' = { draft with createdAt := t, payload })
      (dated draft).run (dated { draft with payload }).run := by
  unfold dated
  cases hmoment : draft.createdAt with
  | some t => exact .done (.ok ⟨some t, by rw [← hmoment], by rw [← hmoment]⟩)
  | none => exact .same hclock fun now => .done (.ok ⟨some now, rfl, rfl⟩)

theorem admission_pairs (hE : ∀ failure, E failure failure)
    (hfind : Program.Pairs P (Outcomes E Eq) (findUser draft.userId).run
      (findUser draft.userId).run) :
    Program.Pairs P (Outcomes E Eq) (admission draft).run
      (admission { draft with payload }).run := by
  have hcheck : Program.Pairs P (Outcomes E Eq) (checkDraft draft).run (checkDraft draft).run := by
    unfold checkDraft checkUserId
    refine Program.Pairs.of_asksOnly ?_ (Outcomes.refl hE fun _ => rfl)
    refine Program.AsksOnly.run_bind ?_ fun _ => ?_
    · split <;> trivial
    · split <;> trivial
  exact hcheck.run_bind fun _ _ _ => hfind

/-- **Saving a draft stays beside saving it with another payload** if the directory keeps them
there, and the creation does. -/
theorem save_pairs (haside : ∀ c, Call.isAside c = true → P.Plain c)
    (hclock : P.Plain .readClock) (hE : ∀ failure, E failure failure)
    (hfind : Program.Pairs P (Outcomes E Eq) (findUser draft.userId).run
      (findUser draft.userId).run)
    (hcreate : ∀ t, Program.Pairs P (Outcomes E Eq)
      (ask (.create { draft with createdAt := t })).run
      (ask (.create { draft with createdAt := t, payload })).run) :
    Program.Pairs P (Outcomes E Eq) (save draft).run (save { draft with payload }).run := by
  rw [save_eq_keep, save_eq_keep]
  refine counted_pairs haside _ ((tell_pairs haside _ _).run_bind fun _ _ _ => ?_)
  refine (admission_pairs hE hfind).run_bind fun _ _ _ => ?_
  refine (dated_pairs hclock).run_bind fun dated dated' h => ?_
  obtain ⟨t, rfl, rfl⟩ := h
  refine (hcreate t).run_bind fun id id' h => ?_
  subst h
  exact (tell_pairs haside _ _).run_bind fun _ _ _ => .done (.ok rfl)

end Saving

end Service

/-! ## Handlers -/

namespace Rpc

variable {α β : Type} {P : Pairing Service.surroundings} {E : Failure → Failure → Prop}
variable {R : α → β → Prop}

/-- What is reported of a request shows its code and nothing else of the answer. -/
theorem report_pairs (haside : ∀ c, Service.Call.isAside c = true → P.Plain c) (method : Method)
    (started : Span) {answer : Except Status α} {answer' : Except Status β}
    (h : Outcomes Eq R answer answer') :
    Program.Pairs P (Outcomes Eq R) (report method started answer)
      (report method started answer') := by
  have hcode : codeOf answer = codeOf answer' := by
    cases h with
    | ok h => rfl
    | error h => exact congrArg Status.code h
  unfold report
  rw [hcode]
  exact .same (haside _ rfl) fun _ => .same (haside _ rfl) fun _ =>
    .same (haside _ rfl) fun _ => .same (haside _ rfl) fun _ => .done h

/-- **What is observed of a request** keeps two of them side by side, if refusals do. -/
theorem observed_pairs (haside : ∀ c, Service.Call.isAside c = true → P.Plain c) (method : Method)
    {work : Service.Operation α} {work' : Service.Operation β}
    (hrefuse : ∀ failure failure', E failure failure' →
      Program.Pairs P Eq (refuse failure) (refuse failure'))
    (h : Program.Pairs P (Outcomes E R) work.run work'.run) :
    Program.Pairs P (Outcomes Eq R) (observed method work) (observed method work') := by
  refine .same (haside _ rfl) fun started =>
    Program.Pairs.bind (p := work.run) (q := work'.run) h fun result result' houtcomes => ?_
  cases houtcomes with
  | ok h => exact report_pairs haside method started (.ok h)
  | @error failure failure' h =>
    have hrest := (hrefuse failure failure' h).bind (S := Outcomes Eq R)
      (f := fun status => report method started (.error status))
      (g := fun status => report method started (.error status))
      fun _ _ hstatus => report_pairs haside method started (.error hstatus)
    exact hrest

end Rpc

/-! ## Scenes -/

namespace Scene

variable {W : World → World → Prop} {E : Errand → Errand → Prop} {s s' : Scene}

/-- **Two scenes abreast**: their worlds are related, and so are their errands, one by one. -/
structure Abreast (W : World → World → Prop) (E : Errand → Errand → Prop) (s s' : Scene) :
    Prop where
  world : W s.world s'.world
  errands : List.Forall₂ E s.errands s'.errands

/-- Two rows of related errands hold related errands at the same places, if any. -/
theorem getElem?_cases {es es' : List Errand} (h : List.Forall₂ E es es') (who : Nat) :
    (es[who]? = none ∧ es'[who]? = none) ∨
      ∃ e e', es[who]? = some e ∧ es'[who]? = some e' ∧ E e e' := by
  induction h generalizing who with
  | nil => exact .inl ⟨rfl, rfl⟩
  | cons h _ ih =>
    cases who with
    | zero => exact .inr ⟨_, _, rfl, rfl, h⟩
    | succ who => exact ih who

/-- And stay related when related errands take the same place. -/
theorem forall₂_set {es es' : List Errand} (h : List.Forall₂ E es es') {e e' : Errand}
    (he : E e e') (who : Nat) : List.Forall₂ E (es.set who e) (es'.set who e') := by
  induction h generalizing who with
  | nil => exact .nil
  | cons h hrest ih =>
    cases who with
    | zero => exact .cons he hrest
    | succ who => exact .cons h (ih who)

/-- A command is begun on either side. -/
theorem Abreast.begins (h : Abreast W E s s') {c c' : Command} (hc : E (.begin c) (.begin c')) :
    Abreast W E (s.step (.begins c)) (s'.step (.begins c')) :=
  ⟨h.world, List.rel_append h.errands (.cons hc .nil)⟩

/-- **The errand at one place takes its turn on either side**, in worlds that are related then. -/
theorem Abreast.calls (h : Abreast W E s s')
    (hstep : ∀ {e e' : Errand} {w v : World}, E e e' → W w v →
      E (e.step w).1 (e'.step v).1 ∧ W (e.step w).2 (e'.step v).2)
    {directory directory' : Directory} {disturbance : Disturbance}
    (hmeet : W { s.world with directory, disturbance }
      { s'.world with directory := directory', disturbance }) (who : Nat) :
    Abreast W E (s.step (.calls who directory disturbance))
      (s'.step (.calls who directory' disturbance)) := by
  simp only [step]
  rcases getElem?_cases h.errands who with ⟨hnone, hnone'⟩ | ⟨e, e', hsome, hsome', he⟩
  · rw [hnone, hnone']
    exact h
  · rw [hsome, hsome']
    obtain ⟨hnext, hleft⟩ := hstep he hmeet
    exact ⟨hleft, forall₂_set h.errands hnext who⟩

/-- **Scenes abreast stay so** through related happenings, if each of them keeps them there. -/
theorem Abreast.run {H : Happening → Happening → Prop}
    (hstep : ∀ {s s' : Scene} {x x' : Happening}, Abreast W E s s' → H x x' →
      Abreast W E (s.step x) (s'.step x'))
    (h : Abreast W E s s') {xs xs' : List Happening} (hxs : List.Forall₂ H xs xs') :
    Abreast W E (s.run xs) (s'.run xs') := by
  induction hxs generalizing s s' with
  | nil => exact h
  | cons hx _ ih => exact ih (hstep h hx)

end Scene

end NotificationFeed
