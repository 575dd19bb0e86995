/-!
# Interactions

A program that talks to a system: it asks, gets a reply, and goes on.  What the
system replies is left open.  A handler decides it; where a handler has no reply
the program does not go on.
-/

namespace JobShell

inductive Interaction (Op : Type) (Reply : Op → Type) (α : Type) where
  | ret (value : α)
  | call (op : Op) (next : Reply op → Interaction Op Reply α)

namespace Interaction

variable {Op Op' : Type} {Reply : Op → Type} {Reply' : Op' →
  Type} {α β σ : Type}

def bind : Interaction Op Reply α → (α → Interaction Op Reply β) →
    Interaction Op Reply β
  | ret value, continuation => continuation value
  | call op next, continuation =>
    call op fun reply => (next reply).bind continuation

instance : Monad (Interaction Op Reply) where
  pure := ret
  bind := bind

/-- Asks once. -/
def ask (op : Op) : Interaction Op Reply (Reply op) := call op ret

/-- Runs a program with a handler that may keep a state of its own. -/
def run (handler : (op : Op) → σ → Option (Reply op × σ)) :
    Interaction Op Reply α → σ → Option (α × σ)
  | ret value, state => some (value, state)
  | call op next, state =>
    match handler op state with
    | none => none
    | some (reply, state) => (next reply).run handler state

/-- Replaces each question by a program that finds the reply. -/
def expand {M : Type → Type} [Monad M] (answer : (op : Op) → M (Reply op)) :
    Interaction Op Reply α → M α
  | ret value => pure value
  | call op next => do
    let reply ← answer op
    (next reply).expand answer

theorem bind_ret (program : Interaction Op Reply α) :
    program.bind ret = program := by
  induction program with
  | ret => rfl
  | call op next induction => simp only [bind, induction]

theorem bind_assoc {γ : Type} (program : Interaction Op Reply α)
    (first : α → Interaction Op Reply β) (second : β → Interaction Op Reply γ) :
    (program.bind first).bind second = program.bind fun value =>
      (first value).bind second := by
  induction program with
  | ret => rfl
  | call op next induction => simp only [bind, induction]

instance : LawfulMonad (Interaction Op Reply) :=
  LawfulMonad.mk' _
    (fun program => bind_ret program)
    (fun _ _ => rfl)
    (fun program first second => bind_assoc program first second)

/-- The parts of a program run one after the other. -/
theorem run_bind (handler : (op : Op) → σ → Option (Reply op × σ))
    (program : Interaction Op Reply α)
    (continuation : α → Interaction Op Reply β) (state : σ) :
    (program.bind continuation).run handler state =
      (program.run handler state).bind fun result =>
        (continuation result.1).run handler result.2 := by
  induction program generalizing state with
  | ret value => rfl
  | call op next induction =>
    simp only [bind, run]
    cases handler op state with
    | none => rfl
    | some outcome => exact induction outcome.1 outcome.2

end Interaction

end JobShell
