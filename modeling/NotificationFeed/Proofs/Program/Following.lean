import NotificationFeed.Program.Refine
import NotificationFeed.Proofs.Program.Exchanges
/-!
# Programs — what they are without their asides

Some calls stand beside the work of a program: whatever they are answered, it
goes on as it would have. Without them a smaller program is left, which the
first one follows (`Follows`). So the work of a program is found out once, by
its shape, and the exchanges that were no asides are exchanges of the smaller
program (`Follows.reaches`).
-/

namespace NotificationFeed

namespace Program

variable {I : Interface} {α β : Type}

/-! ## Where exchanges lead -/

/-- **Where a program is after some exchanges.** -/
inductive Reaches : Program I α → List (Exchange I) → Program I α → Prop
  | here (p : Program I α) : Reaches p [] p
  | after {c : I.Call} {k : I.Reply c → Program I α} {r : I.Reply c} {xs : List (Exchange I)}
      {q : Program I α} (h : Reaches (k r) xs q) : Reaches (ask c k) (⟨c, r⟩ :: xs) q

variable {aside : I.Call → Bool} {p p' q : Program I α}

/-- One more exchange. -/
theorem Reaches.snoc {xs : List (Exchange I)} {c : I.Call} {k : I.Reply c → Program I α}
    (h : p.Reaches xs (ask c k)) (r : I.Reply c) : p.Reaches (xs ++ [⟨c, r⟩]) (k r) := by
  generalize hq : ask c k = q at h
  induction h with
  | here p =>
    subst hq
    exact .after (.here _)
  | after _ ih => exact .after (ih hq)

/-- Nothing comes after the end. -/
theorem Reaches.of_done {a : α} {xs : List (Exchange I)} (h : (done a).Reaches xs q) :
    xs = [] ∧ q = done a := by
  cases h
  exact ⟨rfl, rfl⟩

/-- The end is reached by an answer to what is asked first. -/
theorem Reaches.of_ask {c : I.Call} {k : I.Reply c → Program I α} {xs : List (Exchange I)} {a : α}
    (h : (ask c k).Reaches xs (done a)) :
    ∃ r later, xs = ⟨c, r⟩ :: later ∧ (k r).Reaches later (done a) := by
  cases h with
  | after h => exact ⟨_, _, rfl, h⟩

/-- **In sequence**, the exchanges of the first program come before those of the second. -/
theorem reaches_bind_iff {f : α → Program I β} {xs : List (Exchange I)} {b : β} :
    (p >>= f).Reaches xs (done b) ↔
      ∃ a ys zs, xs = ys ++ zs ∧ p.Reaches ys (done a) ∧ (f a).Reaches zs (done b) := by
  induction p generalizing xs with
  | done a =>
    constructor
    · exact fun h => ⟨a, [], xs, rfl, .here _, h⟩
    · rintro ⟨_, ys, zs, rfl, hdone, h⟩
      obtain ⟨rfl, ⟨⟩⟩ := hdone.of_done
      exact h
  | ask c k ih =>
    constructor
    · intro h
      obtain ⟨r, later, rfl, hlater⟩ := h.of_ask
      obtain ⟨a, ys, zs, rfl, hk, hf⟩ := (ih r).1 hlater
      exact ⟨a, ⟨c, r⟩ :: ys, zs, rfl, .after hk, hf⟩
    · rintro ⟨a, ys, zs, rfl, hask, hf⟩
      obtain ⟨r, later, rfl, hk⟩ := hask.of_ask
      exact .after ((ih r).2 ⟨a, later, zs, rfl, hk, hf⟩)

/-- In sequence, where the first program may fail: then its exchanges are all there are. -/
theorem reaches_run_bind_iff {ε : Type} {x : ExceptT ε (Program I) α}
    {f : α → ExceptT ε (Program I) β} {xs : List (Exchange I)} {r : Except ε β} :
    (x >>= f).run.Reaches xs (done r) ↔
      (∃ a ys zs, xs = ys ++ zs ∧ x.run.Reaches ys (done (.ok a)) ∧
        (f a).run.Reaches zs (done r)) ∨
      ∃ e, r = .error e ∧ x.run.Reaches xs (done (.error e)) := by
  rw [ExceptT.run_bind, reaches_bind_iff]
  constructor
  · rintro ⟨result, ys, zs, rfl, hx, hf⟩
    cases result with
    | ok a => exact .inl ⟨a, ys, zs, rfl, hx, hf⟩
    | error e =>
      obtain ⟨rfl, ⟨⟩⟩ := Reaches.of_done hf
      exact .inr ⟨e, rfl, by rwa [List.append_nil]⟩
  · rintro (⟨a, ys, zs, rfl, hx, hf⟩ | ⟨e, rfl, hx⟩)
    · exact ⟨.ok a, ys, zs, rfl, hx, hf⟩
    · exact ⟨.error e, xs, [], (List.append_nil xs).symm, hx, .here _⟩

/-- **A program that always gets a reply comes to its end**, and what every call keeps holds there;
so does, of each exchange, what every call makes sure of. -/
theorem reaches_run {σ : Type} {answer : Answerer I σ} {keeps : σ → Prop} {sure : Exchange I → Prop}
    (hanswer : ∀ c s, keeps s → ∃ r s', answer c s = (.ok r, s') ∧ keeps s' ∧ sure ⟨c, r⟩)
    (p : Program I α) {s : σ} (hs : keeps s) :
    ∃ a xs s', p.run answer s = (.ok a, s') ∧ p.Reaches xs (done a) ∧ keeps s' ∧
      ∀ x ∈ xs, sure x := by
  induction p generalizing s with
  | done a => exact ⟨a, [], s, rfl, .here _, hs, nofun⟩
  | ask c k ih =>
    obtain ⟨r, s', hreply, hs', hr⟩ := hanswer c s hs
    obtain ⟨a, xs, s'', hrun, hreaches, hs'', hxs⟩ := ih r hs'
    refine ⟨a, ⟨c, r⟩ :: xs, s'', ?_, .after hreaches, hs'', List.forall_mem_cons.2 ⟨hr, hxs⟩⟩
    rw [run_ask, hreply]
    exact hrun

/-- **Any replies are the exchanges of a program**, as they were kept. -/
theorem reaches_run_replying (reply : List (Exchange I) → (c : I.Call) → I.Reply c)
    (p : Program I α) (past : List (Exchange I)) :
    ∃ a xs, p.run (replying reply) past = (.ok a, past ++ xs) ∧ p.Reaches xs (done a) := by
  induction p generalizing past with
  | done a => exact ⟨a, [], by rw [run_done, List.append_nil], .here _⟩
  | ask c k ih =>
    obtain ⟨a, xs, hrun, hreaches⟩ := ih (reply past c) (past ++ [⟨c, reply past c⟩])
    exact ⟨a, _ :: xs, by rw [List.append_cons]; exact hrun, .after hreaches⟩

/-- **And exchanges that lead to an end come about**: there are replies that make them. -/
theorem Reaches.exists_replies [DecidableEq I.Call] [∀ c, Nonempty (I.Reply c)] {a : α}
    {xs : List (Exchange I)} (h : p.Reaches xs (done a)) :
    ∃ reply, p.run (replying reply) [] = (.ok a, xs) := by
  -- The reply is read off the row of exchanges, at the place that comes next.
  let reply : List (Exchange I) → (c : I.Call) → I.Reply c := fun past c =>
    match xs[past.length]? with
    | some x => if hc : x.call = c then hc ▸ x.reply else Classical.choice inferInstance
    | none => Classical.choice inferInstance
  have hreply : ∀ (q : Program I α) (before later : List (Exchange I)), xs = before ++ later →
      q.Reaches later (done a) → q.run (replying reply) before = (.ok a, xs) := by
    intro q
    induction q with
    | done b =>
      intro before later hxs hq
      obtain ⟨rfl, ⟨⟩⟩ := hq.of_done
      rw [run_done, hxs, List.append_nil]
    | ask c k ih =>
      intro before later hxs hq
      obtain ⟨r, later, rfl, hk⟩ := hq.of_ask
      have hr : reply before c = r := by simp [reply, hxs]
      have hnext := ih r (before ++ [⟨c, r⟩]) later (by rw [hxs, List.append_cons]) hk
      rw [← hr] at hnext
      exact hnext
  exact ⟨reply, hreply p [] xs rfl h⟩

/-! ## Following -/

/-- **A program does what a smaller one does**, with asides before, between and
behind. -/
inductive Follows (aside : I.Call → Bool) : Program I α → Program I α → Prop
  | done (a : α) : Follows aside (.done a) (.done a)
  | skip {c : I.Call} {k : I.Reply c → Program I α} {q : Program I α} (hc : aside c = true)
      (hk : ∀ r, Follows aside (k r) q) : Follows aside (ask c k) q
  | both {c : I.Call} {k k' : I.Reply c → Program I α} (hc : aside c = false)
      (hk : ∀ r, Follows aside (k r) (k' r)) : Follows aside (ask c k) (ask c k')

namespace Follows

theorem eq_done {a : α} (h : Follows aside (.done a) q) : q = .done a := by
  cases h
  rfl

/-- **In sequence**, each part follows its own. -/
theorem bind {f g : α → Program I β} (hp : Follows aside p q)
    (hf : ∀ a, Follows aside (f a) (g a)) : Follows aside (p >>= f) (q >>= g) := by
  induction hp with
  | done a => exact hf a
  | skip hc _ ih => exact .skip hc ih
  | both hc _ ih => exact .both hc ih

/-- A program that makes asides and nothing else can stand before another. -/
theorem skips {p : Program I β} {k : β → Program I α} (hp : p.AsksOnly fun c => aside c = true)
    (hk : ∀ b, Follows aside (k b) q) : Follows aside (p >>= k) q := by
  induction p with
  | done b => exact hk b
  | ask c k ih => exact .skip hp.1 fun r => ih r (hp.2 r)

/-- **In finer steps** a program follows the smaller one as its steps do: what stands in the place
of an aside is made of asides. -/
theorem refine {J : Interface} {aside' : J.Call → Bool}
    {f g : (c : I.Call) → Program J (I.Reply c)} (h : Follows aside p q)
    (hskip : ∀ c, aside c = true → (f c).AsksOnly fun d => aside' d = true)
    (hboth : ∀ c, aside c = false → Follows aside' (f c) (g c)) :
    Follows aside' (p.refine f) (q.refine g) := by
  induction h with
  | done a => exact .done a
  | skip hc _ ih => exact skips (hskip _ hc) ih
  | both hc _ ih => exact (hboth _ hc).bind ih

/-- **The exchanges of a program**, its asides apart, are exchanges of the one
it follows, and it goes on following. -/
theorem reaches {xs : List (Exchange I)} (h : Follows aside p q) (hreaches : p.Reaches xs p') :
    ∃ q', q.Reaches (xs.filter fun x => !aside x.call) q' ∧ Follows aside p' q' := by
  induction hreaches generalizing q with
  | here p => exact ⟨q, .here q, h⟩
  | after _ ih =>
    cases h with
    | skip hc hk =>
      obtain ⟨q', hq', hfollows⟩ := ih (hk _)
      refine ⟨q', ?_, hfollows⟩
      simpa [hc] using hq'
    | both hc hk =>
      obtain ⟨q', hq', hfollows⟩ := ih (hk _)
      refine ⟨q', ?_, hfollows⟩
      simpa [hc] using hq'.after

end Follows

end Program

end NotificationFeed
