import Mathlib.Data.Option.Defs
import NotificationFeed.Program.Thread
import NotificationFeed.Proofs.Program.Calls
/-!
# Programs — two side by side

Two programs stay side by side (`Pairs`) if they make the same calls, or calls
that are linked, and go on side by side whatever related replies they get; at
the end their results are related. Which calls are linked, and which replies
to them are related, is left open (`Pairing`).

It is a fact about two trees. Two states that answer linked calls with related
replies, and stay related themselves (`Pairing.Answered`), carry it along
every step of two threads, alone or beside others (`Pairs.step`).
-/

namespace NotificationFeed

/-- **What two programs may do differently**: the calls in which they may differ, or which may be
answered differently, each with the replies that are related. A plain call is made by both and
answered the same. -/
structure Pairing (I : Interface) where
  Plain : I.Call → Prop
  Link : Type
  left : Link → I.Call
  right : Link → I.Call
  Replies : (l : Link) → I.Reply (left l) → I.Reply (right l) → Prop

/-- **Two outcomes of one kind**, with related errors or related values. -/
inductive Outcomes {ε ε' α β : Type} (E : ε → ε' → Prop) (R : α → β → Prop) :
    Except ε α → Except ε' β → Prop
  | ok {a : α} {b : β} (h : R a b) : Outcomes E R (.ok a) (.ok b)
  | error {e : ε} {e' : ε'} (h : E e e') : Outcomes E R (.error e) (.error e')

theorem Outcomes.refl {ε α : Type} {E : ε → ε → Prop} {R : α → α → Prop} (hE : ∀ e, E e e)
    (hR : ∀ a, R a a) (x : Except ε α) : Outcomes E R x x := by
  cases x with
  | ok a => exact .ok (hR a)
  | error e => exact .error (hE e)

/-- Errors that are one stay so, whatever is made of them. -/
theorem Outcomes.mapError {ε δ α β : Type} {R : α → β → Prop} {x : Except ε α} {y : Except ε β}
    (h : Outcomes Eq R x y) (g : ε → δ) : Outcomes Eq R (x.mapError g) (y.mapError g) := by
  cases h with
  | ok h => exact .ok h
  | error h => exact .error (congrArg g h)

/-- Outcomes that agree in their errors and in their values are one. -/
theorem Outcomes.eq {ε α : Type} {x y : Except ε α} (h : Outcomes Eq Eq x y) : x = y := by
  cases h with
  | ok h => rw [h]
  | error h => rw [h]

/-- **Two ways of answering** that keep two states related. -/
structure Pairing.Answered {I : Interface} {σ τ : Type} (P : Pairing I) (W : σ → τ → Prop)
    (answer : Program.Answerer I σ) (answer' : Program.Answerer I τ) : Prop where
  same : ∀ {c}, P.Plain c → ∀ {s t}, W s t →
    Outcomes Eq Eq (answer c s).1 (answer' c t).1 ∧ W (answer c s).2 (answer' c t).2
  linked : ∀ l {s t}, W s t →
    Outcomes Eq (P.Replies l) (answer (P.left l) s).1 (answer' (P.right l) t).1 ∧
      W (answer (P.left l) s).2 (answer' (P.right l) t).2

namespace Program

variable {I : Interface} {P : Pairing I} {α α' β β' ε ε' σ τ : Type}
variable {R : α → α' → Prop} {S : β → β' → Prop} {E : ε → ε' → Prop}

/-- **Two programs side by side.** -/
inductive Pairs (P : Pairing I) (R : α → α' → Prop) : Program I α → Program I α' → Prop
  | done {a : α} {a' : α'} (h : R a a') : Pairs P R (.done a) (.done a')
  | same {c : I.Call} (hc : P.Plain c) {k : I.Reply c → Program I α} {k' : I.Reply c → Program I α'}
      (hk : ∀ r, Pairs P R (k r) (k' r)) : Pairs P R (.ask c k) (.ask c k')
  | linked (l : P.Link) {k : I.Reply (P.left l) → Program I α}
      {k' : I.Reply (P.right l) → Program I α'}
      (hk : ∀ r r', P.Replies l r r' → Pairs P R (k r) (k' r')) :
      Pairs P R (.ask (P.left l) k) (.ask (P.right l) k')

namespace Pairs

variable {p : Program I α} {q : Program I α'}

/-- A program that makes plain calls and no others stays beside itself. -/
theorem of_asksOnly {R : α → α → Prop} (hp : p.AsksOnly P.Plain) (hR : ∀ a, R a a) :
    Pairs P R p p := by
  induction p with
  | done a => exact .done (hR a)
  | ask c k ih => exact .same hp.1 fun r => ih r (hp.2 r)

/-- What relates the results may be weakened. -/
theorem mono {R' : α → α' → Prop} (h : Pairs P R p q) (hR : ∀ a a', R a a' → R' a a') :
    Pairs P R' p q := by
  induction h with
  | done h => exact .done (hR _ _ h)
  | same hc _ ih => exact .same hc ih
  | linked l _ ih => exact .linked l ih

/-- **In sequence**, what comes behind stays side by side from related results on. -/
theorem bind {f : α → Program I β} {g : α' → Program I β'} (h : Pairs P R p q)
    (hf : ∀ a a', R a a' → Pairs P S (f a) (g a')) : Pairs P S (p >>= f) (q >>= g) := by
  induction h with
  | done h => exact hf _ _ h
  | same hc _ ih => exact .same hc ih
  | linked l _ ih => exact .linked l ih

/-- In sequence, where the first may fail. -/
theorem run_bind {x : ExceptT ε (Program I) α} {y : ExceptT ε' (Program I) α'}
    {f : α → ExceptT ε (Program I) β} {g : α' → ExceptT ε' (Program I) β'}
    (h : Pairs P (Outcomes E R) x.run y.run)
    (hf : ∀ a a', R a a' → Pairs P (Outcomes E S) (f a).run (g a').run) :
    Pairs P (Outcomes E S) (x >>= f).run (y >>= g).run := by
  rw [ExceptT.run_bind, ExceptT.run_bind]
  refine h.bind fun _ _ houtcomes => ?_
  cases houtcomes with
  | ok h => exact hf _ _ h
  | error h => exact .done (.error h)

/-- **Two threads stay side by side**, and their states related, when each makes its next call. -/
theorem step {W : σ → τ → Prop} {answer : Answerer I σ} {answer' : Answerer I τ}
    (hanswered : P.Answered W answer answer') {x : Thread I α} {y : Thread I α'}
    (h : Outcomes Eq (Pairs P R) x y) {s : σ} {t : τ} (hw : W s t) :
    Outcomes Eq (Pairs P R) (Thread.step answer x s).1 (Thread.step answer' y t).1 ∧
      W (Thread.step answer x s).2 (Thread.step answer' y t).2 := by
  cases h with
  | error h => exact ⟨.error h, hw⟩
  | ok h =>
    cases h with
    | done h => exact ⟨.ok (.done h), hw⟩
    | @same c hc k k' hk =>
      obtain ⟨hreplies, hstates⟩ := hanswered.same hc hw
      simp only [Thread.step]
      rcases ha : answer c s with ⟨x, s'⟩
      rcases hb : answer' c t with ⟨y, t'⟩
      rw [ha, hb] at hreplies hstates
      replace hreplies : Outcomes Eq Eq x y := hreplies
      cases hreplies with
      | ok h =>
        subst h
        exact ⟨.ok (hk _), hstates⟩
      | error h => exact ⟨.error h, hstates⟩
    | @linked l k k' hk =>
      obtain ⟨hreplies, hstates⟩ := hanswered.linked l hw
      simp only [Thread.step]
      rcases ha : answer (P.left l) s with ⟨x, s'⟩
      rcases hb : answer' (P.right l) t with ⟨y, t'⟩
      rw [ha, hb] at hreplies hstates
      replace hreplies : Outcomes Eq (P.Replies l) x y := hreplies
      cases hreplies with
      | ok h => exact ⟨.ok (hk _ _ h), hstates⟩
      | error h => exact ⟨.error h, hstates⟩

/-- **Two threads side by side have come to related ends**, or both have not ended yet. -/
theorem result?_rel {x : Thread I α} {y : Thread I α'} (h : Outcomes Eq (Pairs P R) x y) :
    Option.Rel (Outcomes Eq R) x.result? y.result? := by
  cases h with
  | error h => exact .some (.error h)
  | ok h =>
    cases h with
    | done h => exact .some (.ok h)
    | same => exact .none
    | linked => exact .none

/-- Where the results are the same, they have come to the same. -/
theorem result?_eq {x y : Thread I α} (h : Outcomes Eq (Pairs P Eq) x y) :
    x.result? = y.result? := by
  have hrel := result?_rel h
  generalize x.result? = r at hrel
  generalize y.result? = r' at hrel
  cases hrel with
  | none => rfl
  | some h => rw [h.eq]

end Pairs

end Program

end NotificationFeed
