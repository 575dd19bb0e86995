import JobShell.Proofs.System.Outcome

/-!
# Questions and replies on the way

A program comes to a value by way of questions and the replies to them.  `Goes`
says which ones, in their order, so that more can be said of a run than what it
comes to: what was asked, and what was learnt from which reply.  A part of a
program goes through a part of the exchanges.
-/

namespace JobShell

namespace Interaction

variable {Op : Type} {Reply : Op → Type} {α β : Type}

/-- These replies to these questions lead the program to this value. -/
def Goes : Interaction Op Reply α → List ((op : Op) × Reply op) → α → Prop
  | ret value, exchanges, result => exchanges = [] ∧ result = value
  | call op next, exchanges, result =>
    ∃ reply rest,
      exchanges = ⟨op, reply⟩ :: rest ∧ (next reply).Goes rest result

variable {exchanges : List ((op : Op) × Reply op)}

@[simp] theorem goes_pure {value result : α} :
    (pure value : Interaction Op Reply α).Goes exchanges result ↔
      exchanges = [] ∧ result = value :=
  Iff.rfl

@[simp] theorem goes_ask {op : Op} {reply : Reply op} :
    (ask op : Interaction Op Reply (Reply op)).Goes exchanges reply ↔
      exchanges = [⟨op, reply⟩] := by
  constructor
  · rintro ⟨_, _, rfl, rfl, rfl⟩
    rfl
  · rintro rfl
    exact ⟨reply, [], rfl, rfl, rfl⟩

/-- The exchanges of two programs, one after the other, are those of the first
and then those of the second. -/
theorem goes_bind {program : Interaction Op Reply α}
    {continuation : α → Interaction Op Reply β} {result : β} :
    (program >>= continuation).Goes exchanges result ↔
      ∃ first second value,
        exchanges = first ++ second ∧ program.Goes first value ∧
        (continuation value).Goes second result := by
  induction program generalizing exchanges with
  | ret value =>
      constructor
      · intro goes
        exact ⟨[], exchanges, value, rfl, ⟨rfl, rfl⟩, goes⟩
      · rintro ⟨_, second, _, rfl, ⟨rfl, rfl⟩, goes⟩
        exact goes
  | call op next induction =>
      constructor
      · rintro ⟨reply, rest, rfl, goes⟩
        obtain ⟨first, second, value, rfl, firstGoes, secondGoes⟩ :=
          (induction reply).mp goes
        exact ⟨⟨op, reply⟩ :: first, second, value, rfl,
          ⟨reply, first, rfl, firstGoes⟩, secondGoes⟩
      · rintro ⟨_, second, value, rfl,
          ⟨reply, first, rfl, firstGoes⟩, secondGoes⟩
        exact ⟨reply, first ++ second, rfl,
          (induction reply).mpr ⟨first, second, value, rfl, firstGoes,
            secondGoes⟩⟩

theorem mayYield_of_goes {program : Interaction Op Reply α} {value : α}
    (goes : program.Goes exchanges value) : program.MayYield value := by
  induction program generalizing exchanges with
  | ret => exact goes.2
  | call op next induction =>
      obtain ⟨reply, rest, _, goes⟩ := goes
      exact ⟨reply, induction reply goes⟩

theorem exists_goes {program : Interaction Op Reply α} {value : α}
    (yields : program.MayYield value) :
    ∃ exchanges, program.Goes exchanges value := by
  induction program with
  | ret => exact ⟨[], rfl, yields⟩
  | call op next induction =>
      obtain ⟨reply, yields⟩ := yields
      obtain ⟨rest, goes⟩ := induction reply yields
      exact ⟨⟨op, reply⟩ :: rest, reply, rest, rfl, goes⟩

/-- A handler that takes down the questions with its replies. -/
def recording {σ : Type} (handler : (op : Op) → σ → Option (Reply op × σ))
    (op : Op) (state : σ × List ((op : Op) × Reply op)) :
    Option (Reply op × σ × List ((op : Op) × Reply op)) :=
  (handler op state.1).map fun (reply, next) =>
    (reply, next, state.2 ++ [⟨op, reply⟩])

theorem exists_goes_of_run {σ : Type}
    {handler : (op : Op) → σ → Option (Reply op × σ)}
    {program : Interaction Op Reply α} {value : α} {before after : σ}
    {taken all : List ((op : Op) × Reply op)}
    (computed : program.run (recording handler) (before, taken) =
      some (value, after, all)) :
    ∃ exchanges, all = taken ++ exchanges ∧ program.Goes exchanges value := by
  induction program generalizing before taken with
  | ret result =>
      cases computed
      exact ⟨[], (List.append_nil _).symm, rfl, rfl⟩
  | call op next induction =>
      rw [run, recording] at computed
      cases replied : handler op before with
      | none =>
          rw [replied] at computed
          cases computed
      | some found =>
          obtain ⟨reply, between⟩ := found
          rw [replied] at computed
          obtain ⟨rest, rfl, goes⟩ := induction reply computed
          exact ⟨⟨op, reply⟩ :: rest, List.append_assoc .., reply, rest, rfl,
            goes⟩

/-- A run that has been computed goes through what was taken down of it. -/
theorem goes_of_run {σ : Type} {handler : (op : Op) → σ → Option (Reply op × σ)}
    {program : Interaction Op Reply α} {value : α} {before after : σ}
    (computed : program.run (recording handler) (before, []) =
      some (value, after, exchanges)) : program.Goes exchanges value := by
  obtain ⟨_, rfl, goes⟩ := exists_goes_of_run computed
  exact goes

end Interaction

/-- One call, and the reply to it. -/
abbrev Exchange := (call : Call) × call.Reply

/-- A world with nothing in its tree. -/
def World.bare : World :=
  { files := { root := .directory [], contents := #[] }
    place := .root, environment := [], accountHome := "/" }

/-- Replies that are laid ready for the calls that can be answered in many ways,
each kind in the order of its calls. -/
structure Supplies where
  world : World := .bare
  pipes : List (Except Errno (Descriptor × Descriptor)) := []
  children : List (Except Errno Pid) := []
  files : List (Except FileError Descriptor) := []
  answers : List WaitAnswer := []

/-- What is laid ready is used up; a call that can only succeed or be refused
succeeds. -/
def Supplies.reply (call : Call) (supplies : Supplies) :
    Option (call.Reply × Supplies) :=
  match call with
  | .observe => some (supplies.world, supplies)
  | .openPipe =>
    match supplies.pipes with
    | [] => none
    | first :: pipes => some (first, { supplies with pipes })
  | .fork _ =>
    match supplies.children with
    | [] => none
    | first :: children => some (first, { supplies with children })
  | .openFile .. =>
    match supplies.files with
    | [] => none
    | first :: files => some (first, { supplies with files })
  | .wait .. =>
    match supplies.answers with
    | [] => none
    | first :: answers => some (first, { supplies with answers })
  | .write .. | .joinGroup .. | .giveTerminal _ | .signalGroup .. =>
    some (.ok (), supplies)
  | .close _ | .setForeground _ => some ((), supplies)
  | _ => none

namespace Shell

variable {α β : Type} {before after : Session} {exchanges : List Exchange}

/-- The action goes through these exchanges from the session `before` to this
outcome and to the session `after`. -/
def Goes (action : Shell α) (before : Session) (exchanges : List Exchange)
    (outcome : Except Failure α) (after : Session) : Prop :=
  (action.run.run before : Activity (Except Failure α × Session)).Goes exchanges
    (outcome, after)

theorem mayEnd_of_goes {action : Shell α} {outcome : Except Failure α}
    (goes : action.Goes before exchanges outcome after) :
    action.MayEnd before outcome after :=
  Interaction.mayYield_of_goes goes

theorem exists_goes_of_mayEnd {action : Shell α} {outcome : Except Failure α}
    (ends : action.MayEnd before outcome after) :
    ∃ exchanges, action.Goes before exchanges outcome after :=
  Interaction.exists_goes ends

/-- A run with supplies that has been computed. -/
theorem goes_of_supplies {action : Shell α} {outcome : Except Failure α}
    {left : Supplies} (supplies : Supplies)
    (computed :
      (action.run.run before : Activity (Except Failure α × Session)).run
      (Interaction.recording Supplies.reply) (supplies, []) =
        some ((outcome, after), left, exchanges)) :
    action.Goes before exchanges outcome after :=
  Interaction.goes_of_run computed

@[simp] theorem goes_pure {value : α} {outcome : Except Failure α} :
    (pure value : Shell α).Goes before exchanges outcome after ↔
      exchanges = [] ∧ outcome = .ok value ∧ after = before := by
  change exchanges = [] ∧ (outcome, after) = (Except.ok value, before) ↔ _
  rw [Prod.mk.injEq]

@[simp] theorem goes_throw {failure : Failure} {outcome : Except Failure α} :
    (throw failure : Shell α).Goes before exchanges outcome after ↔
      exchanges = [] ∧ outcome = .error failure ∧ after = before := by
  change exchanges = [] ∧ (outcome, after) = (Except.error failure, before) ↔ _
  rw [Prod.mk.injEq]

@[simp] theorem goes_ofOutcome {ended outcome : Except Failure α} :
    (ofOutcome ended).Goes before exchanges outcome after ↔
      exchanges = [] ∧ outcome = ended ∧ after = before := by
  cases ended with
  | ok value => exact goes_pure
  | error failure => exact goes_throw

/-- An action goes on after a success, and a failure ends it. -/
theorem goes_bind {action : Shell α} {next : α → Shell β}
    {outcome : Except Failure β} :
    (action >>= next).Goes before exchanges outcome after ↔
      (∃ first second value between, exchanges = first ++ second ∧
        action.Goes before first (.ok value) between ∧
        (next value).Goes between second outcome after) ∨
      (∃ failure, action.Goes before exchanges (.error failure) after ∧
        outcome = .error failure) := by
  change Interaction.Goes
    ((action.run.run before : Activity _) >>= fun result =>
      (ExceptT.bindCont next result.1).run result.2) exchanges
        (outcome, after) ↔ _
  rw [Interaction.goes_bind]
  constructor
  · rintro ⟨first, second, ⟨ended, between⟩, rfl, goes, goesOn⟩
    cases ended with
    | ok value => exact .inl ⟨first, second, value, between, rfl, goes, goesOn⟩
    | error failure =>
        obtain ⟨rfl, same⟩ := goesOn
        cases same
        rw [List.append_nil]
        exact .inr ⟨failure, goes, rfl⟩
  · rintro (⟨first, second, value, between, rfl, goes,
      goesOn⟩ | ⟨failure, goes, rfl⟩)
    · exact ⟨first, second, (.ok value, between), rfl, goes, goesOn⟩
    · exact ⟨exchanges, [], (.error failure, after), (List.append_nil _).symm,
        goes, rfl, rfl⟩

@[simp] theorem goes_get_bind {next : Session → Shell α}
    {outcome : Except Failure α} :
    (get >>= next).Goes before exchanges outcome after ↔
      (next before).Goes before exchanges outcome after :=
  Iff.rfl

@[simp] theorem goes_modifyJobs_bind {change : JobTable → JobTable}
    {next : Unit → Shell α} {outcome : Except Failure α} :
    (modifyJobs change >>= next).Goes before exchanges outcome after ↔
      (next ()).Goes { before with jobs := change before.jobs } exchanges
        outcome after :=
  Iff.rfl

@[simp] theorem goes_lift {activity : Activity α} {outcome : Except Failure α} :
    (liftM activity : Shell α).Goes before exchanges outcome after ↔
      ∃ value, activity.Goes exchanges value ∧ outcome = .ok value ∧
        after = before := by
  change Interaction.Goes
    ((activity >>= fun value => pure (value, before)) >>=
      fun result : α × Session => pure (Except.ok result.1, result.2)) exchanges
    (outcome, after) ↔ _
  simp only [bind_assoc, pure_bind, Interaction.goes_bind,
    Interaction.goes_pure, Prod.mk.injEq]
  constructor
  · rintro ⟨first, _, value, rfl, goes, rfl, ended⟩
    rw [List.append_nil]
    exact ⟨value, goes, ended⟩
  · rintro ⟨value, goes, ended⟩
    exact ⟨exchanges, [], value, (List.append_nil _).symm, goes, rfl, ended⟩

theorem goes_lift_bind {activity : Activity α} {next : α → Shell β}
    {outcome : Except Failure β} :
    (liftM activity >>= next : Shell β).Goes before exchanges outcome after ↔
      ∃ first second value,
        exchanges = first ++ second ∧ activity.Goes first value ∧
        (next value).Goes before second outcome after := by
  rw [goes_bind]
  constructor
  · rintro (⟨first, second, value, between, rfl, goes,
      goesOn⟩ | ⟨failure, goes, _⟩)
    · obtain ⟨_, goes, same, rfl⟩ := goes_lift.mp goes
      cases same
      exact ⟨first, second, value, rfl, goes, goesOn⟩
    · obtain ⟨_, _, impossible, _⟩ := goes_lift.mp goes
      cases impossible
  · rintro ⟨first, second, value, rfl, goes, goesOn⟩
    exact .inl ⟨first, second, value, before, rfl,
      goes_lift.mpr ⟨value, goes, rfl, rfl⟩, goesOn⟩

/-- An action that begins with a call. -/
@[simp] theorem goes_ask_bind {call : Call} {next : call.Reply → Shell β}
    {outcome : Except Failure β} :
    (liftM call.ask >>= next : Shell β).Goes before exchanges outcome after ↔
      ∃ reply rest, exchanges = ⟨call, reply⟩ :: rest ∧
        (next reply).Goes before rest outcome after := by
  rw [goes_lift_bind]
  constructor
  · rintro ⟨first, second, reply, rfl, asked, goesOn⟩
    rw [Interaction.goes_ask.mp asked]
    exact ⟨reply, second, rfl, goesOn⟩
  · rintro ⟨reply, rest, rfl, goesOn⟩
    exact ⟨[⟨call, reply⟩], rest, reply, rfl,
      Interaction.goes_ask.mpr rfl, goesOn⟩

theorem goes_attempt_bind {action : Shell α} {next : Except Failure α → Shell β}
    {outcome : Except Failure β} :
    (attempt action >>= next).Goes before exchanges outcome after ↔
      ∃ first second ended between, exchanges = first ++ second ∧
        action.Goes before first ended between ∧
        (next ended).Goes between second outcome after := by
  change Interaction.Goes
    (((action.run.run before : Activity _) >>= fun result =>
        pure (Except.ok result.1, result.2)) >>=
          fun result : Except Failure _ × Session =>
      (ExceptT.bindCont next result.1).run result.2) exchanges
        (outcome, after) ↔ _
  simp only [bind_assoc, pure_bind]
  rw [Interaction.goes_bind]
  constructor
  · rintro ⟨first, second, ⟨ended, between⟩, rfl, goes, goesOn⟩
    exact ⟨first, second, ended, between, rfl, goes, goesOn⟩
  · rintro ⟨first, second, ended, between, rfl, goes, goesOn⟩
    exact ⟨first, second, (ended, between), rfl, goes, goesOn⟩

/-- A call whose reply does not matter. -/
theorem goes_discard_ask_bind {call : Call} {next : Unit → Shell β}
    {outcome : Except Failure β} :
    (discard (liftM call.ask : Shell call.Reply) >>= next).Goes before exchanges
      outcome after ↔
      ∃ reply rest, exchanges = ⟨call, reply⟩ :: rest ∧
        (next ()).Goes before rest outcome after := by
  rw [discard_eq_bind, bind_assoc, goes_ask_bind]
  simp only [pure_bind]

theorem goes_discard_ask {call : Call} {outcome : Except Failure Unit} :
    (discard (liftM call.ask : Shell call.Reply)).Goes before exchanges
      outcome after ↔
      ∃ reply,
        exchanges = [⟨call, reply⟩] ∧ outcome = .ok () ∧ after = before := by
  rw [discard_eq_bind, goes_ask_bind]
  constructor
  · rintro ⟨reply, _, rfl, goesOn⟩
    obtain ⟨rfl, ended⟩ := goes_pure.mp goesOn
    exact ⟨reply, rfl, ended⟩
  · rintro ⟨reply, rfl, ended⟩
    exact ⟨reply, [], rfl, goes_pure.mpr ⟨rfl, ended⟩⟩

end Shell

end JobShell
