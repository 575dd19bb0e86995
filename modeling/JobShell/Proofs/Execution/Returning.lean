import JobShell.Builtin.Run
import JobShell.Proofs.Files.Standing

/-!
# There and back again

A process walks about in files that nobody changes.  Whatever way it has gone to
a directory, `cd -` leads it back to where it has come from, and once more `cd
-` leads it to the same directory again.
-/

namespace JobShell

open World

/-- What a process sees on its way through files that stay as they are, and what
it has written so far. -/
structure Visit where
  world : World
  written : List (Descriptor × ByteArray)

namespace Visit

/-- Looks at the files, changes of the directory and output are what there is to
do. -/
def answer : (call : Call) → Visit → Option (call.Reply × Visit)
  | .observe, visit => some (visit.world, visit)
  | .changeDirectory path, visit =>
    match visit.world.enter path with
    | .ok world => some (.ok (), { visit with world })
    | .error error => some (.error error, visit)
  | .write descriptor bytes, visit =>
    some (.ok (),
      { visit with written := visit.written ++ [(descriptor, bytes)] })
  | _, _ => none

def movedTo (visit : Visit) (location : List String) : Visit :=
  { visit with world := visit.world.movedTo location }

def said (visit : Visit) (out : Descriptor) (line : String) : Visit :=
  { visit with written := visit.written ++ [(out, (line ++ "\n").toUTF8)] }

end Visit

/-- The session after a directory has been left. -/
def Session.leaving (session : Session) (path : String) : Session :=
  { session with
    directories := { session.directories with previous := some path } }

namespace Shell

variable {α β : Type} {session between after : Session}
  {visit later last : Visit}

/-- How an action goes in a session on a visit. -/
def onVisit (action : Shell α) (session : Session) (visit : Visit) :
    Option ((Except Failure α × Session) × Visit) :=
  (action.run.run session : Activity (Except Failure α × Session)).run
    Visit.answer visit

theorem onVisit_get_bind {next : Session → Shell α} :
    (get >>= next).onVisit session visit =
      (next session).onVisit session visit :=
  rfl

theorem onVisit_observe_bind {next : World → Shell α} :
    (liftM Activity.observe >>= next : Shell α).onVisit session visit =
      (next visit.world).onVisit session visit :=
  rfl

theorem onVisit_ask {call : Call} :
    (liftM call.ask : Shell call.Reply).onVisit session visit =
      (Visit.answer call visit).map fun answered =>
        ((.ok answered.1, session), answered.2) := by
  change (Interaction.call call fun reply =>
    Interaction.ret (Except.ok reply, session)).run Visit.answer visit = _
  rw [Interaction.run]
  cases Visit.answer call visit with
  | none => rfl
  | some answered => rfl

/-- What comes of two actions, one after the other, comes of the second one,
unless the first one has failed. -/
theorem exists_onVisit_of_bind {action : Shell α} {next : α → Shell β}
    {value : β}
    (went : (action >>= next).onVisit session visit =
      some ((.ok value, after), last)) :
    ∃ first between later,
      action.onVisit session visit = some ((.ok first, between), later) ∧
      (next first).onVisit between later = some ((.ok value, after), last) := by
  change (Interaction.bind _ _).run Visit.answer visit = _ at went
  rw [Interaction.run_bind, Option.bind_eq_some_iff] at went
  obtain ⟨⟨⟨outcome, between⟩, later⟩, went, wentOn⟩ := went
  cases outcome with
  | ok first => exact ⟨first, between, later, went, wentOn⟩
  | error failure => cases wentOn

theorem onVisit_bind_of_ok {action : Shell α} {next : α → Shell β} {value : α}
    (went : action.onVisit session visit = some ((.ok value, between), later)) :
    (action >>= next).onVisit session visit =
      (next value).onVisit between later := by
  change (Interaction.bind _ _).run Visit.answer visit = _
  rw [Interaction.run_bind]
  change (action.onVisit session visit).bind _ = _
  rw [went]
  rfl

variable {location : List String}

/-- Who goes to a directory by its path comes to it. -/
theorem onVisit_changeDirectory_of_admits
    (present : visit.world.place.isRemoved = false)
    (admits : visit.world.Admits location) :
    (Shell.changeDirectory (pathOf location)).onVisit session visit =
      some ((.ok (.ok (pathOf location)),
        session.leaving (pathOf visit.world.place.location)),
        visit.movedTo location) := by
  have entered : (liftM (Activity.changeDirectory (pathOf location)) :
      Shell (Except FileError Unit)).onVisit session visit =
        some ((.ok (.ok ()), session), visit.movedTo location) := by
    unfold Activity.changeDirectory
    rw [onVisit_ask]
    simp only [Visit.answer, admits.enter]
    rfl
  unfold Shell.changeDirectory
  rw [onVisit_observe_bind]
  simp only [admits.canonicalize, admits.isDirectory,
    currentDirectory_of_present present]
  rw [if_neg (by simp), onVisit_bind_of_ok entered]
  rfl

/-- Who comes to a directory has gone there by its path. -/
theorem exists_location_of_changeDirectory {target path : String}
    (present : visit.world.place.isRemoved = false)
    (here : visit.world.Admits visit.world.place.location)
    (went : (Shell.changeDirectory target).onVisit session visit =
      some ((.ok (.ok path), after), later)) :
    ∃ location, visit.world.Admits location ∧ later = visit.movedTo location ∧
      after = session.leaving (pathOf visit.world.place.location) := by
  unfold Shell.changeDirectory at went
  rw [onVisit_observe_bind] at went
  cases resolved : visit.world.canonicalize target with
  | error error =>
      simp only [resolved] at went
      cases went
  | ok canonical =>
      simp only [resolved] at went
      split at went
      · cases went
      · obtain ⟨reply, between, moved, asked, wentOn⟩ :=
          exists_onVisit_of_bind went
        unfold Activity.changeDirectory at asked
        rw [onVisit_ask] at asked
        cases entered : visit.world.enter canonical with
        | error error =>
            simp only [Visit.answer, entered] at asked
            cases asked
            cases wentOn
        | ok world =>
            simp only [Visit.answer, entered] at asked
            cases asked
            obtain ⟨location, rfl, rfl, admits⟩ :=
              admits_of_canonicalize present here resolved entered
            simp only [currentDirectory_of_present present] at wentOn
            cases wentOn
            exact ⟨location, admits, rfl, rfl⟩

theorem onVisit_cdTarget {argument : Option String} {target : String × Bool}
    (went : (Builtin.cdTarget argument).onVisit session visit =
      some ((.ok target, after), later)) :
    after = session ∧ later = visit := by
  unfold Builtin.cdTarget at went
  split at went
  · cases went
    exact ⟨rfl, rfl⟩
  · rw [onVisit_get_bind] at went
    cases previous : session.directories.previous with
    | none =>
        simp only [previous] at went
        cases went
    | some path =>
        simp only [previous] at went
        cases went
        exact ⟨rfl, rfl⟩
  · cases went
    exact ⟨rfl, rfl⟩

theorem exists_location_of_cd {arguments : List String} {out : Descriptor}
    {dispatched : Dispatch} (present : visit.world.place.isRemoved = false)
    (here : visit.world.Admits visit.world.place.location)
    (went : (Builtin.dispatch ("cd" :: arguments) out).onVisit session visit =
      some ((.ok dispatched, after), later)) :
    ∃ location,
      visit.world.Admits location ∧ later.world = visit.world.movedTo location ∧
      after = session.leaving (pathOf visit.world.place.location) := by
  have known : Builtin.ofName? "cd" = some .cd := Builtin.ofName?_name .cd
  simp only [Builtin.dispatch, known] at went
  split at went
  · cases went
  · obtain ⟨status, between, gone, ran, ended⟩ := exists_onVisit_of_bind went
    cases ended
    unfold Builtin.run Builtin.runCd at ran
    obtain ⟨⟨target, announced⟩, _, _, named, changed⟩ :=
      exists_onVisit_of_bind ran
    obtain ⟨rfl, rfl⟩ := onVisit_cdTarget named
    obtain ⟨answered, between, reached, moved, told⟩ :=
      exists_onVisit_of_bind changed
    cases answered with
    | error error => cases told
    | ok path =>
        obtain ⟨location, admits, rfl, rfl⟩ :=
          exists_location_of_changeDirectory present here moved
        refine ⟨location, admits, ?_⟩
        dsimp only at told
        split at told
        · cases told
          exact ⟨rfl, rfl⟩
        · cases told
          exact ⟨rfl, rfl⟩

/-- The way back, with the line that says where one is. -/
theorem onVisit_back {out : Descriptor}
    (present : visit.world.place.isRemoved = false)
    (admits : visit.world.Admits location)
    (previous : session.directories.previous = some (pathOf location)) :
    (Builtin.dispatch ["cd", "-"] out).onVisit session visit =
      some ((.ok (.ran 0), session.leaving (pathOf visit.world.place.location)),
        (visit.movedTo location).said out
          (visit.world.tildify (pathOf location))) := by
  have known : Builtin.ofName? "cd" = some .cd := Builtin.ofName?_name .cd
  have named : (Builtin.cdTarget (some "-")).onVisit session visit =
      some ((.ok (pathOf location, true), session), visit) := by
    simp only [Builtin.cdTarget]
    rw [onVisit_get_bind]
    simp only [previous]
    rfl
  have ran : (Builtin.runCd (some "-") out).onVisit session visit =
      some ((.ok 0, session.leaving (pathOf visit.world.place.location)),
        (visit.movedTo location).said out
          (visit.world.tildify (pathOf location))) := by
    unfold Builtin.runCd
    rw [onVisit_bind_of_ok named]
    dsimp only
    rw [onVisit_bind_of_ok (onVisit_changeDirectory_of_admits present admits)]
    rfl
  simp only [Builtin.dispatch, known]
  exact onVisit_bind_of_ok ran

/-- Wherever `cd` has led from a directory that is there, `cd -` leads back to
it and says so; and done twice, it changes neither the directory nor the one
that was left before. -/
theorem back_and_forth {session left : Session} {visit there : Visit}
    {arguments : List String} {out : Descriptor} {dispatched : Dispatch}
    (present : visit.world.place.isRemoved = false)
    (admits : visit.world.Admits visit.world.place.location)
    (went : (Builtin.dispatch ("cd" :: arguments) out).onVisit session visit =
      some ((.ok dispatched, left), there)) (back again : Descriptor) :
    ∃ here gone, visit.world.currentDirectory = .ok here ∧
      there.world.currentDirectory = .ok gone ∧
      left.directories.previous = some here ∧
      (Builtin.dispatch ["cd", "-"] back).onVisit left there =
        some ((.ok (.ran 0), left.leaving gone),
          { (there.said back (visit.world.tildify here)) with
            world := visit.world }) ∧
      (Builtin.dispatch ["cd", "-"] back >>= fun _ =>
          Builtin.dispatch ["cd", "-"] again).onVisit left there =
        some ((.ok (.ran 0), left),
          (there.said back (visit.world.tildify here)).said again
            (there.world.tildify gone)) := by
  obtain ⟨location, admitsThere, moved, rfl⟩ :=
    exists_location_of_cd present admits went
  obtain ⟨world, written⟩ := there
  obtain rfl : world = visit.world.movedTo location := moved
  have here := currentDirectory_of_present present
  have returned : Visit.movedTo ⟨visit.world.movedTo location, written⟩
      visit.world.place.location = ⟨visit.world, written⟩ :=
    congrArg (Visit.mk · written) (movedTo_home present)
  have first : (Builtin.dispatch ["cd", "-"] back).onVisit
      (session.leaving (pathOf visit.world.place.location))
      ⟨visit.world.movedTo location, written⟩ =
        some ((.ok (.ran 0),
          (session.leaving (pathOf visit.world.place.location)).leaving
            (pathOf location)),
          Visit.said ⟨visit.world, written⟩ back
            (visit.world.tildify (pathOf visit.world.place.location))) := by
    rw [onVisit_back rfl (admits.movedTo location) rfl, returned]
    rfl
  refine ⟨_, pathOf location, here, rfl, rfl, first, ?_⟩
  rw [onVisit_bind_of_ok first]
  exact onVisit_back present admitsThere rfl

/-- A home directory with a directory in it, a place somewhere else, and a link
that leads home. -/
def linkedHome : World :=
  { files :=
      { root := .directory
          [("home", .directory [("sub", .directory [])]),
            ("tmp", .directory []), ("link", .link "home")]
        contents := #[] }
    place := { location := ["tmp"], removed := 0 }
    environment := [("HOME", "/home")]
    accountHome := "/" }

theorem admits_linkedHome : linkedHome.Admits ["tmp"] := by
  refine ⟨?_, by decide, _, rfl⟩
  intro name member
  rw [List.mem_singleton.mp member]
  exact ⟨by decide, by decide, by decide, by decide⟩

/-- Through a link, up again, and back. -/
theorem back_and_forth_linkedHome :
    (Builtin.dispatch ["cd", "../link/sub"] 1).onVisit (.fresh 1 "/home" .empty)
      ⟨linkedHome, []⟩ =
        some ((.ok (.ran 0), (Session.fresh 1 "/home" .empty).leaving "/tmp"),
          ⟨linkedHome.movedTo ["home", "sub"], []⟩) ∧
      (Builtin.dispatch ["cd", "-"] 1 >>=
        fun _ => Builtin.dispatch ["cd", "-"] 1).onVisit
          ((Session.fresh 1 "/home" .empty).leaving "/tmp")
          ⟨linkedHome.movedTo ["home", "sub"], []⟩ =
        some ((.ok (.ran 0), (Session.fresh 1 "/home" .empty).leaving "/tmp"),
          (Visit.said ⟨linkedHome.movedTo ["home", "sub"], []⟩ 1 "/tmp").said 1
            "~/sub") := by
  have went :
      (Builtin.dispatch ["cd", "../link/sub"] 1).onVisit
      (.fresh 1 "/home" .empty)
      ⟨linkedHome, []⟩ =
        some ((.ok (.ran 0), (Session.fresh 1 "/home" .empty).leaving "/tmp"),
        ⟨linkedHome.movedTo ["home", "sub"], []⟩) := rfl
  refine ⟨went, ?_⟩
  obtain ⟨here, gone, isHere, isGone, _, _, twice⟩ :=
    back_and_forth rfl admits_linkedHome went 1 1
  cases isHere
  cases isGone
  exact twice

end Shell

end JobShell
