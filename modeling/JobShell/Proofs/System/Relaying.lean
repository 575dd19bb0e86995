import JobShell.System.Relay

/-!
# Relays come and go

A process may install relays and drop them again as it likes.  There is never
more than one, and when it has gone, nothing is left of it.  That is so too when
a signal refuses in the middle of an installation: what has been set until then
is taken back by the relay that has saved it.
-/

namespace JobShell

namespace SignalState

/-- The state that a relay leaves, apart from the dispositions. -/
def vacated (state : SignalState) : SignalState :=
  { state with foreground := none, installed := false }

/-- The dispositions are set one after the other. -/
def setEach (state : SignalState)
    (entries : List (Signal × Disposition)) : SignalState :=
  entries.foldl (fun state entry => state.setDisposition entry.1 entry.2) state

/-- The first refusal that an installation meets. -/
def refusal? (refused : Signal → Option Errno) : Option Errno :=
  relayed.findSome? fun entry => refused entry.1

section Set

variable {state other : SignalState}

theorem uninstall_eq (state : SignalState) (relay : Relay) :
    state.uninstall relay = (state.setEach relay.saved).vacated :=
  rfl

/-- Nothing but dispositions is set. -/
theorem setEach_eq (state : SignalState)
    (entries : List (Signal × Disposition)) :
    state.setEach entries =
      { state with dispositions := (state.setEach entries).dispositions } := by
  induction entries generalizing state with
  | nil => rfl
  | cons entry entries induction =>
      exact induction (state.setDisposition entry.1 entry.2)

/-- What the dispositions become depends on nothing but the dispositions. -/
theorem dispositions_setEach_congr
    (same : other.dispositions = state.dispositions)
    (entries : List (Signal × Disposition)) :
    (other.setEach entries).dispositions =
      (state.setEach entries).dispositions := by
  induction entries generalizing state other with
  | nil => exact same
  | cons entry entries induction =>
      have first : (other.setDisposition entry.1 entry.2).dispositions =
          (state.setDisposition entry.1 entry.2).dispositions := by
        simp only [setDisposition, same]
      exact induction first

theorem setDisposition_back (state : SignalState) (signal : Signal)
    (disposition : Disposition) :
    (state.setDisposition signal disposition).setDisposition signal
      (state.dispositions signal) =
      state := by
  have same : (fun other => if other = signal then state.dispositions signal
      else if other = signal then disposition else state.dispositions other) =
        state.dispositions := by
    funext other
    by_cases itself : other = signal
    · rw [if_pos itself, itself]
    · rw [if_neg itself, if_neg itself]
  unfold setDisposition
  rw [same]

/-- What was saved last is put back first, so it is as if it had never been
set. -/
theorem uninstall_setDisposition (state : SignalState) (signal : Signal)
    (disposition : Disposition) (saved : List (Signal × Disposition)) :
    (state.setDisposition signal disposition).uninstall
        ⟨(signal, state.dispositions signal) :: saved⟩ =
          state.uninstall ⟨saved⟩ := by
  rw [uninstall_eq, uninstall_eq, setEach, List.foldl_cons, setDisposition_back]
  rfl

/-- The dispositions are set up to the first refusal, and either way the relay
takes back what has been set. -/
theorem setAll_cases (refused : Signal → Option Errno) (state : SignalState)
    (relay : Relay) (entries : List (Signal × Disposition)) :
    (∃ errno, entries.findSome? (fun entry => refused entry.1) = some errno ∧
      setAll refused state relay entries =
        (.error errno, state.uninstall relay)) ∨
    (entries.findSome? (fun entry => refused entry.1) = none ∧ ∃ filled,
      setAll refused state relay entries = (.ok filled, state.setEach entries) ∧
      (state.setEach entries).uninstall filled = state.uninstall relay) := by
  induction entries generalizing state relay with
  | nil => exact .inr ⟨rfl, relay, rfl, rfl⟩
  | cons entry entries induction =>
      obtain ⟨signal, disposition⟩ := entry
      cases refuses : refused signal with
      | some errno =>
          exact .inl ⟨errno, by simp [refuses], by simp [setAll, refuses]⟩
      | none =>
          have later := induction (state.setDisposition signal disposition)
            ⟨(signal, state.dispositions signal) :: relay.saved⟩
          rw [uninstall_setDisposition] at later
          simpa [setAll, setEach, refuses] using later

/-- Where no relay is installed, an installation fails only with a refusal, and
then it has changed no disposition. -/
theorem install_cases (idle : state.installed = false)
    (refused : Signal → Option Errno) :
    (∃ errno, refusal? refused = some errno ∧
      state.install refused = (.error errno, state.vacated)) ∨
    (refusal? refused = none ∧ ∃ relay,
      state.install refused =
        (.ok relay, { state with installed := true }.setEach relayed) ∧
      ({ state with installed := true }.setEach relayed).uninstall relay =
        state.vacated) := by
  have free : ¬state.installed = true := by simp [idle]
  rw [install, if_neg free]
  exact setAll_cases refused { state with installed := true } ⟨[]⟩ relayed

/-- No signal is in the list of the relay twice, so each keeps what it is
given. -/
theorem dispositions_setEach_relayed (state : SignalState) :
    ∀ entry ∈ relayed,
      (state.setEach relayed).dispositions entry.1 = entry.2 := by
  unfold relayed
  simp only [List.forall_mem_cons, setEach, List.foldl_cons, List.foldl_nil]
  exact ⟨rfl, rfl, rfl, rfl, rfl, rfl, rfl, nofun⟩

theorem dispositions_receive (state : SignalState) (signal : Signal) :
    (state.receive signal).2.dispositions = state.dispositions ∧
      (state.receive signal).2.installed = state.installed := by
  unfold receive
  split
  · exact ⟨rfl, rfl⟩
  · exact ⟨rfl, rfl⟩
  · exact ⟨rfl, rfl⟩
  · split
    · exact ⟨rfl, rfl⟩
    · dsimp only
      split
      · exact ⟨rfl, rfl⟩
      · exact ⟨rfl, rfl⟩
  · exact ⟨rfl, rfl⟩

end Set

end SignalState

namespace Relay

/-- A relay that has been installed, and the dispositions that there were
before. -/
structure Held where
  relay : Relay
  found : Signal → Disposition

/-- How a process handles signals, with the relays that it has not dropped
yet. -/
structure Holder where
  signals : SignalState
  alive : List Held

/-- What happens to the relays of a process, and what happens to it meanwhile.
A relay is dropped that stands at some place among those that are alive. -/
inductive Event where
  | install (refused : Signal → Option Errno)
  | drop (place : Nat)
  | setForeground (group : Option Pid)
  | receive (signal : Signal)

namespace Holder

def meet (holder : Holder) : Event → Holder
  | .install refused =>
    match holder.signals.install refused with
    | (.ok relay, signals) =>
      { signals, alive := ⟨relay, holder.signals.dispositions⟩ :: holder.alive }
    | (.error _, signals) => { holder with signals }
  | .drop place =>
    match holder.alive[place]? with
    | some held =>
      { signals := holder.signals.uninstall held.relay,
        alive := holder.alive.eraseIdx place }
    | none => holder
  | .setForeground group =>
    { holder with signals := { holder.signals with foreground := group } }
  | .receive signal =>
    { holder with signals := (holder.signals.receive signal).2 }

/-- A process that begins without a relay, behind some events. -/
def behind (start : SignalState) (events : List Event) : Holder :=
  events.foldl meet { signals := start, alive := [] }

/-- No relay is alive, the dispositions are as they were found, and nothing is
handed on. -/
structure IsRid (holder : Holder) (found : Signal → Disposition) : Prop where
  alive : holder.alive = []
  dispositions : ∀ signal, holder.signals.dispositions signal = found signal
  foreground : holder.signals.foreground = none

/-- A process whose relays are in order.  `dropped` and `failed` are the two
ways for a relay to go, and `free` says that behind them only a signal can
refuse the next one. -/
structure IsClean (holder : Holder) : Prop where
  atMostOne : holder.alive.length ≤ 1
  handles : holder.alive ≠ [] →
    ∀ entry ∈ SignalState.relayed, holder.signals.dispositions entry.1 = entry.2
  busy : holder.alive ≠ [] →
    ∀ refused, holder.signals.install refused = (.error .busy, holder.signals)
  dropped : ∀ {place : Nat} {held : Held}, holder.alive[place]? = some held →
    (holder.meet (.drop place)).IsRid held.found
  failed : holder.alive = [] →
    ∀ {refused : Signal → Option Errno} {errno : Errno},
    (holder.signals.install refused).1 = .error errno →
      (holder.meet (.install refused)).IsRid holder.signals.dispositions
  free : holder.alive = [] →
    ∀ (refused : Signal → Option Errno) (errno : Errno),
    (holder.signals.install refused).1 = .error errno ↔
      SignalState.refusal? refused = some errno

/-- The flag tells whether a relay is alive, and the one that is restores what
it has found. -/
inductive Orderly : Holder → Prop where
  | without {signals : SignalState} (idle : signals.installed = false) :
      Orderly { signals, alive := [] }
  | holding {signals : SignalState} {held : Held}
      (installed : signals.installed = true)
      (handles : ∀ entry ∈ SignalState.relayed, signals.dispositions entry.1 =
        entry.2)
      (restores : (signals.setEach held.relay.saved).dispositions =
        held.found) :
      Orderly { signals, alive := [held] }

section Orderly

variable {holder : Holder}

/-- What leaves the dispositions and the flag alone keeps the relays in
order. -/
theorem Orderly.withSignals (orderly : holder.Orderly) {signals : SignalState}
    (dispositions : signals.dispositions = holder.signals.dispositions)
    (installed : signals.installed = holder.signals.installed) :
    Orderly { holder with signals } := by
  cases orderly with
  | without idle => exact .without (installed.trans idle)
  | @holding before held isInstalled handles restores =>
      refine .holding (installed.trans isInstalled) ?_ ?_
      · rw [dispositions]
        exact handles
      · rw [SignalState.dispositions_setEach_congr dispositions]
        exact restores

theorem Orderly.install (orderly : holder.Orderly)
    (refused : Signal → Option Errno) :
    (holder.meet (.install refused)).Orderly := by
  cases orderly with
  | @without signals idle =>
      rcases SignalState.install_cases idle refused with
        ⟨errno, _, fails⟩ | ⟨_, relay, succeeds, restores⟩
      · simp only [meet, fails]
        exact .without rfl
      · simp only [meet, succeeds]
        refine .holding ?_ (SignalState.dispositions_setEach_relayed _) ?_
        · rw [SignalState.setEach_eq]
        · have same := congrArg SignalState.dispositions restores
          exact same
  | @holding signals held installed handles restores =>
      have busy : signals.install refused = (.error .busy, signals) :=
        if_pos installed
      simp only [meet, busy]
      exact .holding installed handles restores

theorem Orderly.drop (orderly : holder.Orderly) (place : Nat) :
    (holder.meet (.drop place)).Orderly := by
  cases orderly with
  | without idle => exact .without idle
  | holding installed handles restores =>
      cases place with
      | zero => exact .without rfl
      | succ place => exact .holding installed handles restores

theorem Orderly.meet (orderly : holder.Orderly)
    (event : Event) : (holder.meet event).Orderly := by
  cases event with
  | install refused => exact orderly.install refused
  | drop place => exact orderly.drop place
  | setForeground group => exact orderly.withSignals rfl rfl
  | receive signal =>
      obtain ⟨dispositions, installed⟩ :=
        holder.signals.dispositions_receive signal
      exact orderly.withSignals dispositions installed

theorem Orderly.foldl_meet (orderly : holder.Orderly) (events : List Event) :
    (events.foldl Holder.meet holder).Orderly := by
  induction events generalizing holder with
  | nil => exact orderly
  | cons event events induction => exact induction (orderly.meet event)

theorem Orderly.isClean (orderly : holder.Orderly) : holder.IsClean := by
  cases orderly with
  | @without signals idle =>
      have cases := SignalState.install_cases idle
      refine ⟨Nat.zero_le _, nofun, nofun, nofun,
        fun _ refused errno fails => ?_, fun _ refused errno => ?_⟩
      · rcases cases refused with ⟨other, _, same⟩ | ⟨_, relay, same, _⟩
        · simp only [Holder.meet, same]
          exact ⟨rfl, fun _ => rfl, rfl⟩
        · rw [same] at fails
          cases fails
      · rcases cases refused with ⟨other, refuses, same⟩ |
          ⟨nobody, relay, same, _⟩
        · rw [same, refuses]
          simp
        · rw [same, nobody]
          simp
  | @holding signals held installed handles restores =>
      refine ⟨Nat.le_refl _, fun _ => handles,
        fun _ refused => if_pos installed, ?_, nofun, nofun⟩
      intro place other there
      cases place with
      | zero =>
          obtain rfl : held = other := Option.some.inj there
          exact ⟨rfl, fun signal => congrFun restores signal, rfl⟩
      | succ place => cases there

end Orderly

/-- Whatever relays are installed and dropped, and whatever happens in between:
at most one is alive, a second one is refused and changes nothing, and a relay
that has been dropped, or that could not be installed, leaves everything as it
found it and the way free for the next one. -/
theorem isClean_behind {start : SignalState} (idle : start.installed = false)
    (events : List Event) : (behind start events).IsClean := by
  have orderly := (Orderly.without idle).foldl_meet events
  exact orderly.isClean

/-- A signal that is asked for late in the installation refuses. -/
def refusesTtou (signal : Signal) : Option Errno :=
  if signal = .ttou then some .invalidArgument else none

/-- An installation that breaks off, one that succeeds, and a job in the
foreground. -/
def secondTry : List Event :=
  [.install refusesTtou, .install fun _ => none, .setForeground (some 7),
    .receive .chld]

/-- While the second relay is alive no third one comes, and behind it, or behind
one more that breaks off, the shell ignores the loss of a reader and nothing
else, as at its start. -/
theorem isClean_behind_secondTry :
    SignalState.initial.installed = false ∧
    (behind .initial secondTry).alive.length = 1 ∧
    (behind .initial secondTry).signals.install refusesTtou =
      (.error .busy, (behind .initial secondTry).signals) ∧
    ((behind .initial secondTry).meet (.drop 0)).IsRid
      SignalState.initial.dispositions ∧
    ((behind .initial (secondTry ++ [.drop 0])).meet
      (.install refusesTtou)).IsRid
      SignalState.initial.dispositions := by
  have idle : SignalState.initial.installed = false := rfl
  have begun := isClean_behind idle []
  have clean := isClean_behind idle secondTry
  have later := isClean_behind idle (secondTry ++ [.drop 0])
  have one : (behind .initial secondTry).alive.length = 1 := rfl
  have alive : (behind .initial secondTry).alive ≠ [] :=
    List.ne_nil_of_length_pos (by omega)
  have gone : (behind .initial (secondTry ++ [.drop 0])).alive = [] := rfl
  have refuses : SignalState.refusal? refusesTtou = some .invalidArgument := rfl
  have first := begun.failed rfl ((begun.free rfl _ _).mpr refuses)
  -- the relay has found what the one before it has left
  obtain ⟨held, there, found⟩ : ∃ held,
    (behind .initial secondTry).alive[0]? = some held ∧
      held.found =
        ((behind .initial []).meet
          (.install refusesTtou)).signals.dispositions :=
    ⟨_, rfl, rfl⟩
  have dropped := clean.dropped there
  have restored : ∀ signal,
      held.found signal = SignalState.initial.dispositions signal :=
    fun signal => (congrFun found signal).trans (first.dispositions signal)
  have failed := later.failed gone ((later.free gone _ _).mpr refuses)
  refine ⟨idle, one, clean.busy alive _,
    ⟨dropped.alive, fun signal => ?_, dropped.foreground⟩, failed.alive,
    fun signal => ?_, failed.foreground⟩
  · exact (dropped.dispositions signal).trans (restored signal)
  · rw [failed.dispositions signal]
    exact (dropped.dispositions signal).trans (restored signal)

end Holder

end Relay

end JobShell
