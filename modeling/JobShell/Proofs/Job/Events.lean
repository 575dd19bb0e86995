import JobShell.Proofs.Job.Scene

/-!
# Events of children

The shell takes down the flag that the signals set before it looks at the first
child, so a change that comes too late for its look sets the flag again.  Every
change is looked at.  It comes to the table if it has a name; the end by a
signal without one is answered with a failure, and the event is lost.
-/

namespace JobShell.Scene

/-- `origin` is the table at first, and `awaited` are the children that are
still to be looked at. -/
structure Guarded (origin : JobTable) (scene : Scene) (awaited : List Pid) :
    Prop where
  relay : scene.session.relay.isSome
  handler : scene.signals.dispositions .chld = .noteChild
  sound : scene.session.jobs.Sound
  stands : Stands scene.session scene.answers scene.left awaited
  ours : ∀ pid serial, scene.table.owner? pid = some serial →
    origin.owner? pid = some serial
  noted : ∀ pid serial, origin.owner? pid = some serial →
    (scene.children pid).Noted scene.table serial pid
  awaits : ∀ pid ∈ awaited, pid ∈ scene.table.registered
  covered : ∀ pid serial, origin.owner? pid = some serial →
    (scene.children pid).untold = true →
      pid ∈ scene.undelivered ∨ scene.signals.childEvent = true ∨ pid ∈ awaited

section Guarded

variable {look : Pid → Child → WaitAnswer} {origin : JobTable}
  {scene next : Scene} {awaited : List Pid}

theorem sound_table (sound : scene.session.jobs.Sound) : scene.table.Sound :=
  sound.records (JobTable.records_recordAnswers _ _)

theorem table_of_noAnswers (noAnswers : scene.answers = []) :
    scene.table = scene.session.jobs := by
  rw [Scene.table, noAnswers]
  rfl

theorem Settled.guarded (settled : scene.Settled) :
    Guarded scene.table scene [] where
  relay := settled.relay
  handler := settled.handler
  sound := settled.reachable.sound
  stands := by
    rw [settled.noAnswers, settled.resting]
    exact .resting
  ours _ _ owner := owner
  noted pid serial owner := by
    obtain ⟨told, recorded, state, named, shows⟩ :=
      settled.known pid serial owner
    have consistent := (sound_table settled.reachable.sound).consistent
    refine .known told (Bool.eq_false_iff.mpr recorded) named ⟨?_, shows⟩
    rw [shows.isFinished consistent owner, if_neg Bool.false_ne_true]
    exact owner
  awaits := nofun
  covered pid serial owner untold := by
    cases (settled.known pid serial owner).1.symm.trans untold

theorem Guarded.stirs (guarded : Guarded origin scene awaited)
    (stirs : Stirs scene next) : Guarded origin next awaited := by
  cases stirs with
  | @change pid registered alive state =>
      obtain ⟨owned, owner⟩ := JobTable.mem_registered_iff.mp registered
      exact { guarded with
        noted := (Function.forall_update_iff _ fun other (child : Child) =>
          ∀ serial, origin.owner? other = some serial →
            child.Noted scene.table serial other).mpr
            ⟨fun serial known => by
              cases (guarded.ours pid owned owner).symm.trans known
              exact .awaited rfl rfl owner, fun other _ => guarded.noted other⟩
        covered := (Function.forall_update_iff _ fun other (child : Child) =>
          ∀ serial, origin.owner? other = some serial → child.untold = true →
            other ∈ scene.undelivered ++ [pid] ∨
            scene.signals.childEvent = true ∨
              other ∈ awaited).mpr
            ⟨fun _ _ _ => .inl (by simp), fun other _ serial known untold =>
              (guarded.covered other serial known untold).imp_left
                (List.mem_append_left _)⟩ }
  | deliver fewer _ =>
      have received : (scene.signals.receive .chld).2 =
          { scene.signals with childEvent := true } := by
        simp [SignalState.receive, guarded.handler]
      exact { guarded with
        handler := by rw [received]; exact guarded.handler
        covered := fun _ _ _ _ => .inr (.inl (by rw [received])) }

theorem Guarded.begins (guarded : Guarded origin scene awaited)
    (resting : scene.left = none) : Guarded origin scene.begun [] := by
  have stands := guarded.stands
  rw [resting] at stands
  obtain ⟨noAnswers, rfl⟩ := stands.of_none
  have table : scene.begun.table = scene.table :=
    (table_of_noAnswers noAnswers).symm
  exact {
    relay := guarded.relay
    handler := guarded.handler
    sound := guarded.sound
    stands := .begun
    ours := fun pid serial owner => guarded.ours pid serial (table ▸ owner)
    noted := fun pid serial owner => table ▸ guarded.noted pid serial owner
    awaits := nofun
    covered := guarded.covered }

/-- When the flag has been taken, all that it has stood for are still to be
looked at. -/
theorem Guarded.take (guarded : Guarded origin scene awaited)
    {next : Bool → Shell.Sync}
    (left : scene.left = some (.call .takeChildEvent next)) :
    ∃ later, Guarded origin { scene with
      signals := scene.signals.takeChildEvent.2
      left := some (next scene.signals.takeChildEvent.1) } later := by
  have stands := guarded.stands
  rw [left] at stands
  obtain ⟨noAnswers, rfl, rfl⟩ := stands.of_take guarded.relay
  have table := table_of_noAnswers noAnswers
  cases flag : scene.signals.childEvent with
  | true =>
      refine ⟨scene.session.jobs.registered, { guarded with
        stands := ?_, awaits := ?_, covered := ?_ }⟩
      · simp only [SignalState.takeChildEvent, flag, if_true, noAnswers]
        exact .looking (List.nil_append _)
      · exact fun pid member => table ▸ member
      · intro pid serial owner untold
        have registered := JobTable.mem_registered_iff.mpr
          ⟨serial, (guarded.noted pid serial owner).owner_of_untold untold⟩
        exact .inr (.inr (table ▸ registered))
  | false =>
      refine ⟨[], { guarded with stands := ?_, awaits := nofun, covered := ?_ }⟩
      · simp only [SignalState.takeChildEvent, flag, noAnswers]
        exact .passing
      · intro pid serial owner untold
        rcases guarded.covered pid serial owner untold with waiting |
          flagged | member
        · exact .inl waiting
        · rw [flag] at flagged
          cases flagged
        · cases member

/-- A child that is looked at is told; it may have changed since the flag was
taken, or its signal may still come. -/
theorem Guarded.looks (guarded : Guarded origin scene awaited)
    (tells : TellsChanges look) {pid : Pid} {next : WaitAnswer → Shell.Sync}
    (left : scene.left = some (.call (.wait pid .poll) next))
    {answer : WaitAnswer} (answered : look pid (scene.children pid) = answer) :
    ∃ later, Guarded origin { scene with
      children :=
        Function.update scene.children pid
          ((scene.children pid).lookedAt answer)
      answers := scene.answers ++ [(pid, answer)]
      left := some (next answer) } later := by
  have stands := guarded.stands
  rw [left] at stands
  obtain ⟨later, rfl, order, rfl⟩ := stands.of_look guarded.relay
  have consistent := (sound_table guarded.sound).consistent
  obtain ⟨owned, owner⟩ :=
    JobTable.mem_registered_iff.mp (guarded.awaits pid List.mem_cons_self)
  have about : answer.IsAbout pid := answered ▸ tells.isAbout pid _
  have once : pid ∉ later := by
    have distinct := order ▸ guarded.sound.consistent.registeredOnce
    exact (List.nodup_cons.mp (List.nodup_append.mp distinct).2.1).1
  have table :
      scene.session.jobs.recordAnswers (scene.answers ++ [(pid, answer)]) =
      scene.table.recordAnswer pid answer := JobTable.recordAnswers_concat ..
  refine ⟨later, { guarded with
    stands := ?_, ours := ?_, noted := ?_, awaits := ?_, covered := ?_ }⟩
  · exact .looking (by rw [List.map_append, List.append_assoc]; exact order)
  · intro other serial known
    change (scene.session.jobs.recordAnswers _).owner? other =
      some serial at known
    rw [table] at known
    exact guarded.ours other serial
      (JobTable.owner?_of_recordAnswer consistent about known)
  · change ∀ other serial, origin.owner? other = some serial →
      Child.Noted (scene.session.jobs.recordAnswers _) serial other
        (Function.update scene.children pid _ other)
    rw [table]
    refine (Function.forall_update_iff _ fun other (child : Child) =>
      ∀ serial, origin.owner? other = some serial →
        child.Noted (scene.table.recordAnswer pid answer) serial other).mpr
        ⟨fun serial known => ?_, fun other different serial known =>
          (guarded.noted other serial known).recordAnswer consistent
            about different⟩
    cases (guarded.ours pid owned owner).symm.trans known
    subst answered
    exact (guarded.noted pid owned known).lookedAt consistent tells owner
  · intro other member
    change other ∈ (scene.session.jobs.recordAnswers _).registered
    have different : other ≠ pid := fun same => once (same ▸ member)
    rw [table, JobTable.mem_registered_iff,
      JobTable.owner?_recordAnswer_of_ne consistent about different,
      ← JobTable.mem_registered_iff]
    exact guarded.awaits other (List.mem_cons_of_mem _ member)
  · refine (Function.forall_update_iff _ fun other (child : Child) =>
      ∀ serial, origin.owner? other = some serial → child.untold = true →
        other ∈ scene.undelivered ∨ scene.signals.childEvent = true ∨
          other ∈ later).mpr ⟨nofun,
          fun other different serial known untold => ?_⟩
    rcases guarded.covered other serial known untold with waiting |
      flagged | member
    · exact .inl waiting
    · exact .inr (.inl flagged)
    · exact .inr (.inr (List.mem_of_ne_of_mem different member))

/-- Settling moves nobody on or off the register. -/
theorem Guarded.finish (guarded : Guarded origin scene awaited)
    {outcome : Except Failure (List Job)} {after : Session}
    (left : scene.left = some (.ret (outcome, after))) :
    Guarded origin { scene with
      session := after, left := none, answers := [] } [] := by
  have stands := guarded.stands
  rw [left] at stands
  obtain ⟨rfl, ⟨noAnswers, rfl⟩ | rfl⟩ := stands.of_ret guarded.relay
  · have table := table_of_noAnswers noAnswers
    exact { guarded with
      stands := .resting
      ours := fun pid serial owner => guarded.ours pid serial (table ▸ owner)
      noted := fun pid serial owner =>
        (table ▸ guarded.noted pid serial owner :)
      awaits := nofun }
  · have reaps := JobTable.reaps guarded.sound scene.answers
    have consistent := (sound_table guarded.sound).consistent
    have later :
        JobTable.Consistent (scene.session.jobs.reap scene.answers).2 :=
      guarded.sound.consistent.of_changes (JobTable.changes_reap _ _)
    exact { guarded with
      relay := guarded.relay
      sound := ⟨later, reaps.unreported⟩
      stands := .resting
      ours := fun pid serial owner =>
        guarded.ours pid serial
          ((reaps.owner?_eq consistent later pid).symm.trans owner)
      noted := fun pid serial owner =>
        (guarded.noted pid serial owner).reaps reaps consistent later
      awaits := nofun }

theorem Guarded.works (guarded : Guarded origin scene awaited)
    (tells : TellsChanges look) (works : Works look scene next) :
    ∃ later, Guarded origin next later := by
  cases works with
  | take left => exact guarded.take left
  | look left answered => exact guarded.looks tells left answered
  | finish left => exact ⟨[], guarded.finish left⟩

theorem Guarded.step (guarded : Guarded origin scene awaited)
    (tells : TellsChanges look) (step : Step look scene next) :
    ∃ later, Guarded origin next later := by
  cases step with
  | stirs stirs => exact ⟨awaited, guarded.stirs stirs⟩
  | works works => exact guarded.works tells works
  | begins resting => exact ⟨[], guarded.begins resting⟩

theorem Guarded.run (guarded : Guarded origin scene awaited)
    (tells : TellsChanges look)
    (run : Relation.ReflTransGen (Step look) scene next) :
    ∃ later, Guarded origin next later := by
  induction run with
  | refl => exact ⟨awaited, guarded⟩
  | tail _ step induction =>
      obtain ⟨_, guarded⟩ := induction
      exact guarded.step tells step

end Guarded

section Ends

variable {look : Pid → Child → WaitAnswer} {origin : JobTable}
  {scene next final : Scene} {awaited : List Pid} {pid : Pid} {serial : Nat}

theorem works_begun
    (begun : scene.left = some (Shell.syncJobs.run.run scene.session))
    (relay : scene.session.relay.isSome) :
    Works look scene { scene with
      signals := scene.signals.takeChildEvent.2
      left := some (if scene.signals.childEvent
        then Shell.looking scene.session [] scene.session.jobs.registered
        else .ret (.ok [], scene.session)) } := by
  rw [Shell.run_syncJobs relay] at begun
  exact .take begun

theorem works_looking {session : Session} {answers : List (Pid × WaitAnswer)}
    {pid : Pid} {answer : WaitAnswer}
    (looking : scene.left =
      some (Shell.looking session answers (pid :: awaited)))
    (answered : look pid (scene.children pid) = answer) :
    Works look scene { scene with
      children :=
        Function.update scene.children pid
          ((scene.children pid).lookedAt answer)
      answers := scene.answers ++ [(pid, answer)]
      left :=
        some (Shell.looking session
          (answers ++ [(pid, answer)]) awaited) } := by
  rw [Shell.looking_cons] at looking
  exact .look looking answered

theorem works_looked {session : Session} {answers : List (Pid × WaitAnswer)}
    (looking : scene.left = some (Shell.looking session answers [])) :
    Works look scene { scene with
      session := Shell.withLook session answers, left := none,
      answers := [] } := by
  rw [Shell.looking_nil] at looking
  exact .finish looking

theorem Ends.head (works : Works look scene next)
    (ends : next.Ends look final) :
    scene.Ends look final :=
  ⟨.head works ends.1, ends.2⟩

theorem exists_ends_of_looking {session : Session}
    {answers : List (Pid × WaitAnswer)}
    (looking : scene.left = some (Shell.looking session answers awaited)) :
    ∃ final, scene.Ends look final := by
  induction awaited generalizing scene answers with
  | nil => exact ⟨_, .single (works_looked looking), rfl⟩
  | cons pid later induction =>
      have works : Works look scene _ := works_looking looking rfl
      suffices goesOn : ∃ final, Ends look _ final by
        obtain ⟨final, ends⟩ := goesOn
        exact ⟨final, ends.head works⟩
      exact induction rfl

theorem Guarded.exists_ends (guarded : Guarded origin scene awaited) :
    ∃ final, scene.Ends look final := by
  have stands := guarded.stands
  generalize found : scene.left = left at stands
  generalize scene.answers = answers at stands
  cases stands with
  | resting => exact ⟨scene, .refl, found⟩
  | passing => exact ⟨_, .single (.finish found), rfl⟩
  | looking => exact exists_ends_of_looking found
  | begun =>
      have works : Works look scene _ := works_begun found guarded.relay
      suffices goesOn : ∃ final, Ends look _ final by
        obtain ⟨final, ends⟩ := goesOn
        exact ⟨final, ends.head works⟩
      cases scene.signals.childEvent with
      | true => exact exists_ends_of_looking rfl
      | false => exact ⟨_, .single (.finish rfl), rfl⟩

/-- No signal is to come, and the flag is down or is about to be taken. -/
def Quiet (scene : Scene) : Prop :=
  scene.undelivered = [] ∧ (scene.signals.childEvent = false ∨
    ∃ next, scene.left = some (.call .takeChildEvent next))

theorem Quiet.works (quiet : scene.Quiet) (works : Works look scene next) :
    next.Quiet := by
  obtain ⟨delivered, down | ⟨_, taking⟩⟩ := quiet
  · cases works with
    | take _ => exact ⟨delivered, .inl rfl⟩
    | look _ _ => exact ⟨delivered, .inl down⟩
    | finish _ => exact ⟨delivered, .inl down⟩
  · cases works with
    | take _ => exact ⟨delivered, .inl rfl⟩
    | look left _ =>
        rw [left] at taking
        cases taking
    | finish left =>
        rw [left] at taking
        cases taking

theorem Guarded.ends (guarded : Guarded origin scene awaited)
    (tells : TellsChanges look) (ends : scene.Ends look final) :
    Guarded origin final [] := by
  obtain ⟨run, rested⟩ := ends
  have steps : Relation.ReflTransGen (Step look) scene final :=
    Relation.ReflTransGen.mono (fun _ _ => Step.works) _ _ run
  obtain ⟨later, guarded⟩ := guarded.run tells steps
  have stands := guarded.stands
  rw [rested] at stands
  exact stands.of_none.2 ▸ guarded

theorem Quiet.ends (quiet : scene.Quiet) (ends : scene.Ends look final) :
    final.undelivered = [] ∧ final.signals.childEvent = false := by
  obtain ⟨run, rested⟩ := ends
  have kept : final.Quiet := by
    clear rested
    induction run with
    | refl => exact quiet
    | tail _ works induction => exact induction.works works
  obtain ⟨delivered, down | ⟨_, taking⟩⟩ := kept
  · exact ⟨delivered, down⟩
  · rw [rested] at taking
    cases taking

theorem undelivered_of_works
    (run : Relation.ReflTransGen (Works look) scene final) :
    final.undelivered = scene.undelivered := by
  induction run with
  | refl => rfl
  | tail _ works induction =>
      rw [← induction]
      cases works <;> rfl

/-- A sync changes no child. -/
theorem state_of_works (run : Relation.ReflTransGen (Works look) scene final)
    (pid : Pid) : (final.children pid).state = (scene.children pid).state := by
  induction run with
  | refl => rfl
  | @tail middle _ _ works induction =>
      rw [← induction]
      cases works with
      | take _ => rfl
      | finish _ => rfl
      | @look other _ _ _ _ =>
          change (Function.update middle.children other _ pid).state = _
          by_cases same : pid = other
          · rw [same, Function.update_self]
            rfl
          · rw [Function.update_of_ne same]

theorem Guarded.upToDate (guarded : Guarded origin scene awaited)
    (owner : origin.owner? pid = some serial)
    (recorded : ¬scene.Unrecorded pid) :
    scene.UpToDate serial pid := by
  cases guarded.noted pid serial owner with
  | awaited _ unrecorded _ => exact absurd unrecorded recorded
  | missed _ unrecorded _ _ => exact absurd unrecorded recorded
  | mistaken _ unrecorded _ _ => exact absurd unrecorded recorded
  | known _ _ named has =>
      exact ⟨_, named, has, has.isSome (sound_table guarded.sound).consistent⟩

/-- What is not recorded has still to be told, or is lost. -/
theorem Guarded.unrecorded_iff (guarded : Guarded origin scene awaited)
    (owner : origin.owner? pid = some serial) :
    scene.Unrecorded pid ↔
      (scene.children pid).untold = true ∨ scene.Lost serial pid := by
  cases guarded.noted pid serial owner with
  | awaited untold unrecorded _ =>
      exact iff_of_true unrecorded (.inl untold)
  | known told recorded named _ =>
      refine iff_of_false (Bool.eq_false_iff.mp recorded) ?_
      rintro (untold | lost)
      · cases told.symm.trans untold
      · cases lost.nameless.symm.trans named
  | missed told unrecorded nameless own =>
      exact iff_of_true unrecorded (.inr ⟨told, nameless, .inl own⟩)
  | mistaken told unrecorded nameless has =>
      exact iff_of_true unrecorded (.inr ⟨told, nameless, .inr has⟩)

theorem Guarded.stillPolls (guarded : Guarded origin scene awaited)
    (member : pid ∈ awaited) : scene.StillPolls pid := by
  have stands := guarded.stands
  generalize left : scene.left = left at stands
  generalize scene.answers = answers at stands
  cases stands with
  | looking => exact ⟨_, left, Shell.mustAsk_looking member _ _⟩
  | resting => cases member
  | begun => cases member
  | passing => cases member

/-- Whose signal has come, and is not kept by the flag any more, has been looked
at. -/
theorem Guarded.told (guarded : Guarded origin scene awaited)
    (tells : TellsChanges look) (quiet : scene.Quiet)
    (ends : scene.Ends look final) (owner : origin.owner? pid = some serial) :
    (final.children pid).untold = false := by
  rw [Bool.eq_false_iff]
  intro untold
  obtain ⟨delivered, down⟩ := quiet.ends ends
  rcases (guarded.ends tells ends).covered pid serial owner untold with
    waiting | flagged | member
  · rw [delivered] at waiting
    cases waiting
  · rw [down] at flagged
    cases flagged
  · cases member

end Ends

/-- Whatever comes between the calls, of a change that has still to be told the
signal is still to come, or it has set the flag, or the child is still to be
looked at.  A change that has been told is in the table if it has a name, and is
lost if it has none.  When all signals have come and the children change no
more, a sync leaves unrecorded exactly the ends without a name. -/
theorem lost_iff_nameless {look : Pid → Child → WaitAnswer}
    (tells : TellsChanges look) {start scene : Scene} (settled : start.Settled)
    (run : Relation.ReflTransGen (Step look) start scene) :
    (∀ pid serial, start.table.owner? pid = some serial →
      (scene.Unrecorded pid ↔
        (scene.children pid).untold = true ∨ scene.Lost serial pid) ∧
      ((scene.children pid).untold = true →
        pid ∈ scene.undelivered ∨ scene.signals.childEvent = true ∨
          scene.StillPolls pid) ∧
      (¬scene.Unrecorded pid → scene.UpToDate serial pid)) ∧
    (scene.undelivered = [] →
      (∃ rested, scene.Ends look rested) ∧
      ∀ rested, scene.Ends look rested →
        (∃ final, rested.begun.Ends look final) ∧
        ∀ final, rested.begun.Ends look final →
          ∀ pid serial, start.table.owner? pid = some serial →
            (final.Unrecorded pid ↔ (scene.children pid).state.state? = none) ∧
            (final.Unrecorded pid → final.Lost serial pid) ∧
            (¬final.Unrecorded pid → final.UpToDate serial pid)) := by
  obtain ⟨awaited, guarded⟩ := settled.guarded.run tells run
  refine ⟨fun pid serial owner =>
    ⟨guarded.unrecorded_iff owner, fun untold => ?_, guarded.upToDate owner⟩,
    fun delivered => ⟨guarded.exists_ends, fun rested ends => ?_⟩⟩
  · rcases guarded.covered pid serial owner untold with waiting |
      flagged | member
    · exact .inl waiting
    · exact .inr (.inl flagged)
    · exact .inr (.inr (guarded.stillPolls member))
  · have begun := (guarded.ends tells ends).begins ends.2
    refine ⟨begun.exists_ends, fun final sync pid serial owner => ?_⟩
    have quiet : rested.begun.Quiet :=
      ⟨(undelivered_of_works ends.1).trans delivered,
        .inr ⟨_, congrArg some (Shell.run_syncJobs begun.relay)⟩⟩
    have told := begun.told tells quiet sync owner
    have ended := begun.ends tells sync
    have lost : final.Unrecorded pid → final.Lost serial pid :=
      fun unrecorded =>
        ((ended.unrecorded_iff owner).mp unrecorded).resolve_left
          fun untold => by
            cases told.symm.trans untold
    have upToDate := ended.upToDate owner
    have same : (final.children pid).state = (scene.children pid).state :=
      (state_of_works sync.1 pid).trans (state_of_works ends.1 pid)
    rw [← same]
    refine ⟨⟨fun unrecorded => (lost unrecorded).nameless, fun nameless => ?_⟩,
      lost, upToDate⟩
    by_contra recorded
    obtain ⟨_, named, _⟩ := upToDate recorded
    cases nameless.symm.trans named

/-- How a machine answers a look at a child. -/
def answerOfMachine (pid : Pid) (child : Child) : WaitAnswer :=
  match child.untold, child.state with
  | true, .running => .changed pid .running
  | true, .stopped signal => .changed pid (.stopped signal)
  | true, .ended outcome => Machine.answerOfEnd pid outcome
  | false, .ended _ => .failed .noChild
  | false, _ => .noChange

theorem tellsChanges_answerOfMachine : TellsChanges answerOfMachine where
  news := by
    rintro pid ⟨child, _, _⟩ state rfl named
    cases child with
    | running =>
        cases named
        rfl
    | stopped signal =>
        cases named
        rfl
    | ended outcome => exact tellsEnds_answerOfEnd.named named
  nameless := by
    rintro pid ⟨child, _, _⟩ rfl nameless
    cases child with
    | running => cases nameless
    | stopped signal => cases nameless
    | ended outcome =>
        obtain ⟨errno, failed, _, isChild⟩ :=
          tellsEnds_answerOfEnd.nameless pid nameless
        exact ⟨errno, failed, isChild⟩
  quiet := by
    rintro pid ⟨child, _, _⟩ rfl alive
    cases child with
    | running => rfl
    | stopped signal => rfl
    | ended outcome => cases alive
  gone := by
    rintro pid ⟨child, _, _⟩ rfl finished
    cases child with
    | running => cases finished
    | stopped signal => cases finished
    | ended outcome => rfl

/-- A job of two processes is running, and some signal has set the flag. -/
def twoRunning : Scene where
  session := { Session.fresh 50 "/" ⟨[], 0, none⟩ with
    jobs := (JobTable.empty.add 100 [100, 101] "a" true).2
    relay := some ⟨[]⟩ }
  children := fun _ => ⟨.running, false, false⟩
  undelivered := []
  signals :=
    { (SignalState.initial.install fun _ => none).2 with childEvent := true }
  left := none
  answers := []

theorem settled_twoRunning : twoRunning.Settled := by
  refine ⟨rfl, rfl, ?_, rfl, rfl, rfl, ?_⟩
  · exact .single (.add 100 [100, 101] "a" true (by decide) (by decide))
  · refine fun pid serial owner =>
      ⟨rfl, nofun, .running, rfl, fun job found => ?_⟩
    have running : ∀ entry ∈ twoRunning.table.owners,
        (twoRunning.table.get? entry.2).all
          fun job => job.processes.contains ⟨entry.1, .running⟩ := by decide
    have member := (lookup_eq_some_iff_mem (by decide)).mp owner
    have listed := running _ member
    rw [found] at listed
    exact List.contains_iff_mem.mp listed

/-- The first process exits when it has just been looked at, and its signal
arrives before the second is.  The sync ends without it, and the next one finds
it. -/
theorem lost_iff_nameless_exitBehindLook :
    TellsChanges answerOfMachine ∧ twoRunning.Settled ∧
    ∃ scene, Relation.ReflTransGen (Step answerOfMachine) twoRunning scene ∧
      scene.left = none ∧ scene.Unrecorded 100 ∧ scene.undelivered = [] ∧
      scene.signals.childEvent = true ∧
      ∃ final,
        scene.begun.Ends answerOfMachine final ∧ final.UpToDate 1 100 := by
  let session := twoRunning.session
  let silent : Pid → Pid × WaitAnswer := fun pid => (pid, .noChange)
  let quiet : Child := ⟨.running, false, false⟩
  let taken : Scene := { twoRunning with
    signals := twoRunning.signals.takeChildEvent.2
    left := some (Shell.looking session [] [100, 101]) }
  let between : Scene := { taken with
    children := Function.update taken.children 100 quiet
    answers := [silent 100]
    left := some (Shell.looking session [silent 100] [101]) }
  let exited : Scene := { between with
    children :=
      Function.update between.children 100 (.changed (.ended (.exited 3)))
    undelivered := [100] }
  let signalled : Scene := { exited with
    undelivered := []
    signals := (exited.signals.receive .chld).2 }
  let asked : Scene := { signalled with
    children := Function.update signalled.children 101 quiet
    answers := [silent 100, silent 101]
    left := some (Shell.looking session [silent 100, silent 101] []) }
  let scene : Scene := { asked with
    session := Shell.withLook session [silent 100, silent 101]
    left := none
    answers := [] }
  have take : Works answerOfMachine twoRunning.begun taken :=
    works_begun rfl rfl
  have first : Works answerOfMachine taken between :=
    works_looking (rfl : taken.left =
      some (Shell.looking session [] [100, 101])) rfl
  have exit : Stirs between exited :=
    .change (by decide) rfl (.ended (.exited 3))
  have arrive : Stirs exited signalled := .deliver (.cons 100 .slnil) nofun
  have second : Works answerOfMachine signalled asked :=
    works_looking
      (rfl : signalled.left =
        some (Shell.looking session [silent 100] [101])) rfl
  have finish : Works answerOfMachine asked scene :=
    works_looked
      (rfl : asked.left =
        some (Shell.looking session [silent 100, silent 101] []))
  have run : Relation.ReflTransGen (Step answerOfMachine) twoRunning scene :=
    ((((((Relation.ReflTransGen.single (.begins rfl)).tail (.works take)).tail
      (.works first)).tail (.stirs exit)).tail (.stirs arrive)).tail
      (.works second)).tail (.works finish)
  obtain ⟨_, afterwards⟩ :=
    lost_iff_nameless tellsChanges_answerOfMachine settled_twoRunning run
  obtain ⟨⟨final, sync⟩, always⟩ := (afterwards rfl).2 scene ⟨.refl, rfl⟩
  obtain ⟨unrecorded, _, upToDate⟩ := always final sync 100 1 rfl
  have recorded : ¬final.Unrecorded 100 :=
    fun lost => nomatch unrecorded.mp lost
  exact ⟨tellsChanges_answerOfMachine, settled_twoRunning, scene, run,
    rfl, rfl, rfl, rfl, final, sync, upToDate recorded⟩

/-- The first process is ended by a signal without a name.  Its signal arrives,
it is looked at, and the next sync does not look again. -/
theorem exists_lost :
    ∃ scene final,
      Relation.ReflTransGen (Step answerOfMachine) twoRunning scene ∧
      scene.left = none ∧ scene.undelivered = [] ∧
      scene.signals.childEvent = false ∧ scene.Unrecorded 100 ∧
      scene.begun.Ends answerOfMachine final ∧ final.Unrecorded 100 := by
  let session := twoRunning.session
  let answers : List (Pid × WaitAnswer) :=
    [(100, .failed .invalidArgument), (101, .noChange)]
  let ended : Child := .changed (.ended (.killed 34))
  let killed : Scene := { twoRunning with
    children := Function.update twoRunning.children 100 ended
    undelivered := [100] }
  let signalled : Scene := { killed with
    undelivered := []
    signals := (killed.signals.receive .chld).2 }
  let taken : Scene := { signalled with
    signals := signalled.signals.takeChildEvent.2
    left := some (Shell.looking session [] [100, 101]) }
  let missed : Scene := { taken with
    children := Function.update taken.children 100
      (ended.lookedAt (.failed .invalidArgument))
    answers := answers.take 1
    left := some (Shell.looking session (answers.take 1) [101]) }
  let asked : Scene := { missed with
    children := Function.update missed.children 101 ⟨.running, false, false⟩
    answers := answers
    left := some (Shell.looking session answers []) }
  let scene : Scene := { asked with
    session := Shell.withLook session answers
    left := none
    answers := [] }
  let passed : Scene := { scene with
    signals := scene.signals.takeChildEvent.2
    left := some (.ret (.ok [], scene.session)) }
  have kill : Stirs twoRunning killed :=
    .change (by decide) rfl (.ended (.killed 34))
  have arrive : Stirs killed signalled := .deliver (.cons 100 .slnil) nofun
  have take : Works answerOfMachine signalled.begun taken := works_begun rfl rfl
  have first : Works answerOfMachine taken missed :=
    works_looking (rfl : taken.left =
      some (Shell.looking session [] [100, 101])) rfl
  have second : Works answerOfMachine missed asked :=
    works_looking
      (rfl : missed.left =
        some (Shell.looking session (answers.take 1) [101])) rfl
  have finish : Works answerOfMachine asked scene :=
    works_looked (rfl : asked.left = some (Shell.looking session answers []))
  have run : Relation.ReflTransGen (Step answerOfMachine) twoRunning scene :=
    ((((((Relation.ReflTransGen.single (.stirs kill)).tail (.stirs arrive)).tail
      (.begins rfl)).tail (.works take)).tail (.works first)).tail
      (.works second)).tail (.works finish)
  have takeAgain : Works answerOfMachine scene.begun passed :=
    works_begun rfl rfl
  have pass : Works answerOfMachine passed { passed with left := none } :=
    .finish rfl
  exact ⟨scene, _, run, rfl, rfl, rfl, rfl,
    ⟨(Relation.ReflTransGen.single takeAgain).tail pass, rfl⟩, rfl⟩

/-- The end by such a signal is lost: nothing stands for it any more, and a
further sync leaves it unrecorded. -/
theorem not_no_change_lost :
    (¬∀ (look : Pid → Child → WaitAnswer) (start scene : Scene),
      TellsChanges look → start.Settled →
      Relation.ReflTransGen (Step look) start scene →
      ∀ pid, scene.Unrecorded pid →
        pid ∈ scene.undelivered ∨ scene.signals.childEvent = true ∨
          scene.StillPolls pid) ∧
    ¬∀ (look : Pid → Child → WaitAnswer) (start scene final : Scene),
      TellsChanges look → start.Settled →
      Relation.ReflTransGen (Step look) start scene →
      scene.undelivered = [] → scene.left = none →
      scene.begun.Ends look final → ∀ pid, ¬final.Unrecorded pid := by
  obtain ⟨scene, final, run, rested, delivered, down, lost, sync, lostStill⟩ :=
    exists_lost
  constructor
  · intro all
    rcases all _ _ _ tellsChanges_answerOfMachine settled_twoRunning run
      100 lost with
      waiting | flagged | ⟨_, polling, _⟩
    · rw [delivered] at waiting
      cases waiting
    · cases down.symm.trans flagged
    · cases rested.symm.trans polling
  · intro all
    exact all _ _ _ _ tellsChanges_answerOfMachine settled_twoRunning
      run delivered rested sync 100 lostStill

end JobShell.Scene
