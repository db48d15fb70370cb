import NotificationFeed.Proofs.Program.Calls
/-!
# Programs — the calls that replies allow

A call with its reply is one exchange, and what a program asks for next
depends on its exchanges so far. A rule says which call is allowed after
which exchanges. That a program keeps to a rule (`Obeys`) is a fact about its
tree: nothing is said about who answers, so it holds in every run, alone or
beside other programs.
-/

namespace NotificationFeed

/-- A call and what it was answered. -/
structure Exchange (I : Interface) where
  call : I.Call
  reply : I.Reply call

namespace Program

variable {I : Interface} {α β ε : Type} {rule : List (Exchange I) → I.Call → Prop}
variable {past : List (Exchange I)} {goal mid : α → List (Exchange I) → Prop}

/-- **A program keeps to a rule**: every call it makes is allowed after the
exchanges before it, those of `past` first, and whatever it ends with, then
`goal` holds of it. -/
def Obeys (rule : List (Exchange I) → I.Call → Prop) (goal : α → List (Exchange I) → Prop) :
    Program I α → List (Exchange I) → Prop
  | done a, past => goal a past
  | ask c k, past => rule past c ∧ ∀ r, (k r).Obeys rule goal (past ++ [⟨c, r⟩])

/-- **A rule was kept to**: every exchange was allowed after those before it. -/
def Kept (rule : List (Exchange I) → I.Call → Prop) (past : List (Exchange I)) : Prop :=
  ∀ before x later, past = before ++ x :: later → rule before x.call

theorem kept_nil : Kept rule [] := fun before x later h => by cases before <;> cases h

theorem Kept.of_append {later : List (Exchange I)} (h : Kept rule (past ++ later)) :
    Kept rule past :=
  fun before x rest hpast => h before x (rest ++ later) (by simp [hpast])

/-- One more exchange, allowed after the others. -/
theorem Kept.snoc {x : Exchange I} (h : Kept rule past) (hx : rule past x.call) :
    Kept rule (past ++ [x]) := by
  intro before y later hpast
  rcases List.eq_nil_or_concat later with rfl | ⟨later, z, rfl⟩
  · obtain ⟨rfl, hy⟩ := List.append_inj' hpast rfl
    obtain rfl := List.head_eq_of_cons_eq hy
    exact hx
  · rw [List.concat_eq_append, ← List.cons_append, ← List.append_assoc] at hpast
    exact h before y later (List.append_inj' hpast rfl).1

/-- What is only asked of a success. -/
def onSuccess (goal : α → List (Exchange I) → Prop) : Except ε α → List (Exchange I) → Prop
  | .ok a, past => goal a past
  | .error _, _ => True

namespace Obeys

theorem mono {p : Program I α} {goal' : α → List (Exchange I) → Prop}
    (hp : p.Obeys rule goal past) (h : ∀ a past, goal a past → goal' a past) :
    p.Obeys rule goal' past := by
  induction p generalizing past with
  | done a => exact h a past hp
  | ask c k ih => exact ⟨hp.1, fun r => ih r (hp.2 r)⟩

/-- **In sequence**: the second program starts from the exchanges of the first. -/
theorem bind {p : Program I α} {f : α → Program I β} {goal : β → List (Exchange I) → Prop}
    (hp : p.Obeys rule mid past) (hf : ∀ a past, mid a past → (f a).Obeys rule goal past) :
    (p >>= f).Obeys rule goal past := by
  induction p generalizing past with
  | done a => exact hf a past hp
  | ask c k ih => exact ⟨hp.1, fun r => ih r (hp.2 r)⟩

/-- After a failure nothing is asked any more. -/
theorem run_bind {x : ExceptT ε (Program I) α} {f : α → ExceptT ε (Program I) β}
    (hx : x.run.Obeys rule (onSuccess mid) past)
    (hf : ∀ a past, mid a past → (f a).run.Obeys rule (fun _ _ => True) past) :
    (x >>= f).run.Obeys rule (fun _ _ => True) past := by
  rw [ExceptT.run_bind]
  refine hx.bind fun r past h => ?_
  cases r with
  | ok a => exact hf a past h
  | error e => trivial

/-- A program all of whose calls are always allowed. -/
theorem of_asksOnly {P : I.Call → Prop} {p : Program I α} (hp : p.AsksOnly P)
    (hrule : ∀ past c, P c → rule past c) : p.Obeys rule (fun _ _ => True) past := by
  induction p generalizing past with
  | done a => trivial
  | ask c k ih => exact ⟨hrule past c hp.1, fun r => ih r (hp.2 r)⟩

/-- Where both parts are only asked of a success. -/
theorem run_bind_onSuccess {x : ExceptT ε (Program I) α} {f : α → ExceptT ε (Program I) β}
    {goal : β → List (Exchange I) → Prop} (hx : x.run.Obeys rule (onSuccess mid) past)
    (hf : ∀ a past, mid a past → (f a).run.Obeys rule (onSuccess goal) past) :
    (x >>= f).run.Obeys rule (onSuccess goal) past := by
  rw [ExceptT.run_bind]
  refine hx.bind fun r past h => ?_
  cases r with
  | ok a => exact hf a past h
  | error e => trivial

end Obeys

/-! ## Runs -/

/-- The answerer that replies as it is told, knowing what was exchanged before, and keeps every
exchange. -/
def replying (reply : List (Exchange I) → (c : I.Call) → I.Reply c) :
    Answerer I (List (Exchange I)) :=
  fun c past => (.ok (reply past c), past ++ [⟨c, reply past c⟩])

/-- **Whatever is replied**, a program that keeps to a rule comes to its end, and the rule was
kept to. -/
theorem Obeys.run {p : Program I α} (hp : p.Obeys rule goal past) (hpast : Kept rule past)
    (reply : List (Exchange I) → (c : I.Call) → I.Reply c) :
    ∃ a later, p.run (replying reply) past = (.ok a, later) ∧ Kept rule later ∧ goal a later := by
  induction p generalizing past with
  | done a => exact ⟨a, past, rfl, hpast, hp⟩
  | ask c k ih => exact ih (reply past c) (hp.2 _) (hpast.snoc hp.1)

/-- What holds of every reply that is given holds of every exchange that is kept. -/
theorem forall_run_replying (sure : Exchange I → Prop)
    {reply : List (Exchange I) → (c : I.Call) → I.Reply c} (hreply : ∀ past c, sure ⟨c, reply past c⟩)
    (p : Program I α) (hpast : ∀ x ∈ past, sure x) :
    ∀ x ∈ (p.run (replying reply) past).2, sure x := by
  induction p generalizing past with
  | done a => exact hpast
  | ask c k ih =>
    refine ih (reply past c) fun x hx => ?_
    rcases List.mem_append.1 hx with hx | hx
    · exact hpast x hx
    · exact List.mem_singleton.1 hx ▸ hreply past c

end Program

end NotificationFeed
