import NotificationFeed.Program
/-!
# Programs — the calls they can make

What a program asks for depends on the replies it gets. A condition that
holds of every call on every branch holds of every call of every run, so it
is established once, by the shape of the program, and never by running it.
-/

namespace NotificationFeed

namespace Program

variable {I : Interface} {α β ε : Type} {P : I.Call → Prop}

/-- **Every call a program can make satisfies `P`**, whatever it is answered. -/
def AsksOnly (P : I.Call → Prop) : Program I α → Prop
  | done _ => True
  | ask c k => P c ∧ ∀ r, (k r).AsksOnly P

@[simp] theorem asksOnly_call {c : I.Call} : (call c).AsksOnly P ↔ P c :=
  ⟨fun h => h.1, fun h => ⟨h, fun _ => trivial⟩⟩

theorem AsksOnly.bind {p : Program I α} {f : α → Program I β} (hp : p.AsksOnly P)
    (hf : ∀ a, (f a).AsksOnly P) : (p >>= f).AsksOnly P := by
  induction p with
  | done a => exact hf a
  | ask c k ih => exact ⟨hp.1, fun r => ih r (hp.2 r)⟩

/-- A step for each element of a list asks for what the steps ask for. -/
theorem AsksOnly.forM {f : α → Program I PUnit} (h : ∀ a, (f a).AsksOnly P) (xs : List α) :
    (xs.forM f).AsksOnly P := by
  induction xs with
  | nil => trivial
  | cons a rest ih => exact (h a).bind fun _ => ih

/-- A step that may fail asks for what its first part asks for and for what comes after. -/
theorem AsksOnly.run_bind {x : ExceptT ε (Program I) α} {f : α → ExceptT ε (Program I) β}
    (hx : x.run.AsksOnly P) (hf : ∀ a, (f a).run.AsksOnly P) : (x >>= f).run.AsksOnly P := by
  rw [ExceptT.run_bind]
  refine hx.bind fun r => ?_
  cases r with
  | ok a => exact hf a
  | error e => trivial

end Program

end NotificationFeed
