import JobShell.System.Call

/-!
# Possible outcomes

What a program can come to when nothing is assumed of the system: every call may
be given every reply.  An action of the shell is described by the session that
it starts from, its outcome, and the session that it leaves behind.
-/

namespace JobShell

namespace Interaction

variable {Op : Type} {Reply : Op → Type} {α β : Type}

/-- Some replies lead the program to this value. -/
def MayYield : Interaction Op Reply α → α → Prop
  | ret value, result => result = value
  | call _ next, result => ∃ reply, (next reply).MayYield result

@[simp] theorem mayYield_pure {value result : α} :
    (pure value : Interaction Op Reply α).MayYield result ↔ result = value :=
  Iff.rfl

@[simp] theorem mayYield_bind {program : Interaction Op Reply α}
    {continuation : α → Interaction Op Reply β} {result : β} :
    (program >>= continuation).MayYield result ↔
      ∃ value,
        program.MayYield value ∧ (continuation value).MayYield result := by
  induction program with
  | ret value =>
      constructor
      · intro yields
        exact ⟨value, rfl, yields⟩
      · rintro ⟨_, rfl, yields⟩
        exact yields
  | call op next induction =>
      constructor
      · rintro ⟨reply, yields⟩
        obtain ⟨value, first, second⟩ := (induction reply).mp yields
        exact ⟨value, ⟨reply, first⟩, second⟩
      · rintro ⟨value, ⟨reply, first⟩, second⟩
        exact ⟨reply, (induction reply).mpr ⟨value, first, second⟩⟩

/-- Whatever the replies are, the value has this property. -/
inductive Ensures (post : α → Prop) : Interaction Op Reply α → Prop where
  | ret {value : α} (holds : post value) : Ensures post (.ret value)
  | call {op : Op} {next : Reply op → Interaction Op Reply α}
      (goOn : ∀ reply, Ensures post (next reply)) : Ensures post (.call op next)

namespace Ensures

theorem trivial (program : Interaction Op Reply α) :
    program.Ensures fun _ => True := by
  induction program with
  | ret value => exact .ret True.intro
  | call op next induction => exact .call induction

theorem of_forall {program : Interaction Op Reply α} {post : α → Prop}
    (all : ∀ value, program.MayYield value → post value) :
    program.Ensures post := by
  induction program with
  | ret value => exact .ret (all value rfl)
  | call op next induction =>
      exact .call fun reply =>
        induction reply fun value yields => all value ⟨reply, yields⟩

theorem bind {program : Interaction Op Reply α}
    {next : α → Interaction Op Reply β} {middle : α → Prop} {post : β → Prop}
    (first : program.Ensures middle)
    (goOn : ∀ value, middle value → (next value).Ensures post) :
    (program >>= next).Ensures post := by
  induction first with
  | ret holds => exact goOn _ holds
  | call _ induction => exact .call induction

theorem mono {program : Interaction Op Reply α} {post weaker : α → Prop}
    (ensures : program.Ensures post)
    (weaken : ∀ value, post value → weaker value) :
    program.Ensures weaker := by
  induction ensures with
  | ret holds => exact .ret (weaken _ holds)
  | call _ induction => exact .call induction

theorem and {program : Interaction Op Reply α} {post other : α → Prop}
    (first : program.Ensures post) (second : program.Ensures other) :
    program.Ensures fun value => post value ∧ other value := by
  induction first with
  | ret holds =>
      cases second with
      | ret otherHolds => exact .ret ⟨holds, otherHolds⟩
  | call _ induction =>
      cases second with
      | call goOn => exact .call fun reply => induction reply (goOn reply)

/-- What every value has, a value that the program may come to has. -/
theorem of_mayYield {program : Interaction Op Reply α} {post : α → Prop}
    (ensures : program.Ensures post) {value : α}
    (yields : program.MayYield value) :
    post value := by
  induction ensures with
  | ret holds =>
      cases yields
      exact holds
  | call _ induction =>
      obtain ⟨reply, rest⟩ := yields
      exact induction reply rest

end Ensures

/-- What a handler makes of a program is among its possible values. -/
theorem mayYield_of_run {σ : Type}
    {handler : (op : Op) → σ → Option (Reply op × σ)}
    {program : Interaction Op Reply α} {state after : σ} {result : α}
    (ran : program.run handler state = some (result, after)) :
    program.MayYield result := by
  induction program generalizing state with
  | ret value =>
      cases ran
      exact rfl
  | call op next induction =>
      rw [run] at ran
      cases handled : handler op state with
      | none => simp [handled] at ran
      | some outcome =>
          obtain ⟨reply, state⟩ := outcome
          rw [handled] at ran
          exact ⟨reply, induction reply ran⟩

end Interaction

namespace Shell

variable {α β : Type} {before after : Session}

/-- Some replies of the system lead the action from the session `before` to this
outcome and to the session `after`. -/
def MayEnd (action : Shell α) (before : Session) (outcome : Except Failure α)
    (after : Session) : Prop :=
  (action.run.run before : Activity (Except Failure α × Session)).MayYield
    (outcome, after)

@[simp] theorem mayEnd_pure {value : α} {outcome : Except Failure α} :
    (pure value : Shell α).MayEnd before outcome after ↔
      outcome = .ok value ∧ after = before :=
  Prod.mk.injEq .. ▸ Iff.rfl

@[simp] theorem mayEnd_throw {failure : Failure} {outcome : Except Failure α} :
    (throw failure : Shell α).MayEnd before outcome after ↔
      outcome = .error failure ∧ after = before :=
  Prod.mk.injEq .. ▸ Iff.rfl

@[simp] theorem mayEnd_get {outcome : Except Failure Session} :
    (get : Shell Session).MayEnd before outcome after ↔
      outcome = .ok before ∧ after = before :=
  Prod.mk.injEq .. ▸ Iff.rfl

@[simp] theorem mayEnd_modify {change : Session → Session}
    {outcome : Except Failure PUnit} :
    (modify change : Shell PUnit).MayEnd before outcome after ↔
      outcome = .ok () ∧ after = change before :=
  Prod.mk.injEq .. ▸ Iff.rfl

@[simp] theorem mayEnd_modifyJobs {change : JobTable → JobTable}
    {outcome : Except Failure Unit} :
    (modifyJobs change).MayEnd before outcome after ↔
      outcome = .ok () ∧ after = { before with jobs := change before.jobs } :=
  mayEnd_modify

@[simp] theorem mayEnd_lift {activity : Activity α}
    {outcome : Except Failure α} :
    (liftM activity : Shell α).MayEnd before outcome after ↔
      ∃ value,
        activity.MayYield value ∧ outcome = .ok value ∧ after = before := by
  change Interaction.MayYield
    ((activity >>= fun value => pure (value, before)) >>=
      fun result : α × Session => pure (Except.ok result.1, result.2))
      (outcome, after) ↔ _
  simp only [bind_assoc, pure_bind, Interaction.mayYield_bind,
    Interaction.mayYield_pure, Prod.mk.injEq]

@[simp] theorem mayEnd_attempt {action : Shell α}
    {outcome : Except Failure (Except Failure α)} :
    (attempt action).MayEnd before outcome after ↔
      ∃ ended, action.MayEnd before ended after ∧ outcome = .ok ended := by
  change Interaction.MayYield
    ((action.run.run before : Activity _) >>=
      fun result => pure (Except.ok result.1, result.2)) (outcome, after) ↔ _
  rw [Interaction.mayYield_bind]
  constructor
  · rintro ⟨⟨ended, between⟩, ends, same⟩
    cases same
    exact ⟨ended, ends, rfl⟩
  · rintro ⟨ended, ends, rfl⟩
    exact ⟨(ended, after), ends, rfl⟩

/-- An action goes on after a success, and a failure ends it. -/
theorem mayEnd_bind {action : Shell α} {next : α → Shell β}
    {outcome : Except Failure β} :
    (action >>= next).MayEnd before outcome after ↔
      (∃ value between, action.MayEnd before (.ok value) between ∧
        (next value).MayEnd between outcome after) ∨
      (∃ failure, action.MayEnd before (.error failure) after ∧
        outcome = .error failure) := by
  change Interaction.MayYield
    ((action.run.run before : Activity _) >>= fun result =>
      (ExceptT.bindCont next result.1).run result.2) (outcome, after) ↔ _
  rw [Interaction.mayYield_bind]
  constructor
  · rintro ⟨⟨ended, between⟩, ends, continues⟩
    cases ended with
    | ok value => exact .inl ⟨value, between, ends, continues⟩
    | error failure =>
        cases continues
        exact .inr ⟨failure, ends, rfl⟩
  · rintro (⟨value, between, ends, continues⟩ | ⟨failure, ends, rfl⟩)
    · exact ⟨(.ok value, between), ends, continues⟩
    · exact ⟨(.error failure, after), ends, rfl⟩

@[simp] theorem mayEnd_map {action : Shell α} {change : α → β}
    {outcome : Except Failure β} :
    (change <$> action).MayEnd before outcome after ↔
      ∃ ended, action.MayEnd before ended after ∧
        outcome = ended.map change := by
  rw [← bind_pure_comp, mayEnd_bind]
  constructor
  · rintro (⟨value, _, ends, goesOn⟩ | ⟨failure, ends, rfl⟩)
    · obtain ⟨rfl, rfl⟩ := mayEnd_pure.mp goesOn
      exact ⟨.ok value, ends, rfl⟩
    · exact ⟨.error failure, ends, rfl⟩
  · rintro ⟨ended, ends, rfl⟩
    cases ended with
    | ok value =>
        exact .inl ⟨value, after, ends, mayEnd_pure.mpr ⟨rfl, rfl⟩⟩
    | error failure => exact .inr ⟨failure, ends, rfl⟩

theorem discard_eq_bind (action : Shell α) :
    discard action = action >>= fun _ => pure () := by
  rw [bind_pure_comp, Functor.discard, map_const]
  rfl

@[simp] theorem mayEnd_get_bind {next : Session → Shell α}
    {outcome : Except Failure α} :
    (get >>= next).MayEnd before outcome after ↔
      (next before).MayEnd before outcome after := by
  simp [mayEnd_bind, and_assoc]

@[simp] theorem mayEnd_lift_bind {activity : Activity α} {next : α → Shell β}
    {outcome : Except Failure β} :
    (liftM activity >>= next : Shell β).MayEnd before outcome after ↔
      ∃ value,
        activity.MayYield value ∧ (next value).MayEnd before outcome after := by
  rw [mayEnd_bind]
  constructor
  · rintro (⟨value, between, ends, continues⟩ | ⟨failure, ends, _⟩)
    · obtain ⟨_, yields, same, rfl⟩ := mayEnd_lift.mp ends
      cases same
      exact ⟨value, yields, continues⟩
    · obtain ⟨_, _, impossible, _⟩ := mayEnd_lift.mp ends
      cases impossible
  · rintro ⟨value, yields, continues⟩
    exact .inl ⟨value, before,
      mayEnd_lift.mpr ⟨value, yields, rfl, rfl⟩, continues⟩

@[simp] theorem mayEnd_modify_bind {change : Session → Session}
    {next : PUnit → Shell α} {outcome : Except Failure α} :
    (modify change >>= next : Shell α).MayEnd before outcome after ↔
      (next ()).MayEnd (change before) outcome after := by
  rw [mayEnd_bind]
  constructor
  · rintro (⟨value, between, ends, continues⟩ | ⟨failure, ends, _⟩)
    · obtain ⟨_, rfl⟩ := mayEnd_modify.mp ends
      exact continues
    · simp at ends
  · intro continues
    exact .inl ⟨(), _, mayEnd_modify.mpr ⟨rfl, rfl⟩, continues⟩

@[simp] theorem mayEnd_modifyJobs_bind {change : JobTable → JobTable}
    {next : Unit → Shell α} {outcome : Except Failure α} :
    (modifyJobs change >>= next).MayEnd before outcome after ↔
      (next ()).MayEnd { before with jobs := change before.jobs }
        outcome after :=
  mayEnd_modify_bind

@[simp] theorem mayEnd_attempt_bind {action : Shell α}
    {next : Except Failure α → Shell β} {outcome : Except Failure β} :
    (attempt action >>= next).MayEnd before outcome after ↔
      ∃ ended between, action.MayEnd before ended between ∧
        (next ended).MayEnd between outcome after := by
  simp [mayEnd_bind]

end Shell

end JobShell
