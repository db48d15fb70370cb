/-!
# Programs over atomic calls

An operation of the service is a program: it either is done, or asks its
surroundings for one thing and goes on with the reply. Everything that can
happen between two requests happens between two calls, so a program is also
the unit of interleaving.

`Program.run` answers the calls one after another from a state. A call may
also fail to return at all; the run then stops there with what was thrown.
-/

namespace NotificationFeed

/-- What a program may ask for, and the type of each reply. -/
structure Interface where
  Call : Type
  Reply : Call → Type

/-- A sequential operation that talks to its surroundings by calls. -/
inductive Program (I : Interface) (α : Type) : Type where
  | done (result : α)
  | ask (call : I.Call) (resume : I.Reply call → Program I α)

/-- What a call that never returns throws: a text, or something without one. -/
structure Panic where
  text : Option String
  deriving DecidableEq, Repr, Inhabited

namespace Program

variable {I : Interface} {α β γ σ : Type}

/-- Goes on with the result of a program. -/
def bind : Program I α → (α → Program I β) → Program I β
  | done a, f => f a
  | ask c k, f => ask c fun r => (k r).bind f

instance : Monad (Program I) where
  pure := done
  bind := bind

/-- The program that makes one call. -/
def call (c : I.Call) : Program I (I.Reply c) := ask c done

@[simp] theorem pure_eq (a : α) : (pure a : Program I α) = done a := rfl
@[simp] theorem done_bind (a : α) (f : α → Program I β) : (done a >>= f) = f a := rfl
@[simp] theorem ask_bind (c : I.Call) (k : I.Reply c → Program I α) (f : α → Program I β) :
    (ask c k >>= f) = ask c fun r => k r >>= f := rfl

theorem bind_done (p : Program I α) : p >>= done = p := by
  induction p with
  | done => rfl
  | ask c k ih => simp [ih]

theorem bind_assoc (p : Program I α) (f : α → Program I β) (g : β → Program I γ) :
    p >>= f >>= g = p >>= fun a => f a >>= g := by
  induction p with
  | done => rfl
  | ask c k ih => simp [ih]

instance : LawfulMonad (Program I) :=
  LawfulMonad.mk' _ (fun p => bind_done p) (fun _ _ => rfl) bind_assoc

/-- How a state answers one call: with a reply, or by throwing. -/
abbrev Answerer (I : Interface) (σ : Type) : Type :=
  (c : I.Call) → σ → Except Panic (I.Reply c) × σ

/-- Runs a program to its end, or to the first call that throws. -/
def run (answer : Answerer I σ) : Program I α → σ → Except Panic α × σ
  | done a, s => (.ok a, s)
  | ask c k, s =>
    match answer c s with
    | (.ok r, s') => (k r).run answer s'
    | (.error e, s') => (.error e, s')

@[simp] theorem run_done (answer : Answerer I σ) (a : α) (s : σ) :
    (done a).run answer s = (.ok a, s) := rfl

theorem run_ask (answer : Answerer I σ) (c : I.Call) (k : I.Reply c → Program I α) (s : σ) :
    (ask c k).run answer s =
      match answer c s with
      | (.ok r, s') => (k r).run answer s'
      | (.error e, s') => (.error e, s') := by
  rw [run]

/-- A run of two programs in sequence is a run of the first and then of the second. -/
theorem run_bind (answer : Answerer I σ) (p : Program I α) (f : α → Program I β) (s : σ) :
    (p >>= f).run answer s =
      match p.run answer s with
      | (.ok a, s') => (f a).run answer s'
      | (.error e, s') => (.error e, s') := by
  induction p generalizing s with
  | done => rfl
  | ask c k ih =>
    simp only [ask_bind, run_ask]
    split
    · rename_i r s' _; exact ih r s'
    · rfl

end Program

end NotificationFeed
