import Vifu.Foundation.Machine

/-!
# The status watcher

A thread of the gateway host polls the gateway and stores each new device token.  It looks at the stop flag before it
reads the status, so a token that arrives after its last reading is stored by nobody.
-/

namespace Vifu.Sdk

open Foundation

/-- Where the thread of `spawn_status_watcher` stands. -/
inductive WatcherPhase where
  | check | poll | save | sleep | finished
  deriving DecidableEq

/-- How far `run` has come with its ending. -/
inductive RunPhase where
  | serving | stopping | joining | returned
  deriving DecidableEq

structure WatchedHost where
  /-- The token of the latest authorization that the gateway has received. -/
  authorization : Option String
  shutdown : Bool
  main : RunPhase
  watcher : WatcherPhase
  /-- The token in the credentials that the watcher holds. -/
  deviceToken : Option String
  /-- The token in the stored credentials. -/
  stored : Option String
  deriving DecidableEq

inductive WatchAction where
  | receive (deviceToken : String)
  | check
  | poll (available : Bool)
  | save
  | wake
  | shutDown
  | stop (succeeds : Bool)
  | join
  deriving DecidableEq

namespace WatchedHost

/-- The host as `start_gateway` leaves it, with the credentials it has saved. -/
def started (deviceToken : Option String) : WatchedHost where
  authorization := none
  shutdown := false
  main := .serving
  watcher := .check
  deviceToken := deviceToken
  stored := deviceToken

def readStatus (host : WatchedHost) : WatchedHost :=
  match host.authorization with
  | none => { host with watcher := .sleep }
  | some deviceToken =>
    if host.deviceToken = some deviceToken then { host with watcher := .sleep }
    else { host with deviceToken := some deviceToken, watcher := .save }

/-- The process ends when `run` returns, and the watcher with it. -/
def step (host : WatchedHost) (action : WatchAction) : Option WatchedHost :=
  if host.main = .returned then none else
  match action with
  -- the gateway runs until `stop` has waited for its worker
  | .receive deviceToken =>
    if host.main = .serving ∨ host.main = .stopping then some { host with authorization := some deviceToken } else none
  | .check =>
    if host.watcher = .check then some { host with watcher := if host.shutdown then .finished else .poll } else none
  | .poll available =>
    if host.watcher = .poll then some (if available then host.readStatus else { host with watcher := .sleep }) else none
  | .save => if host.watcher = .save then some { host with stored := host.deviceToken, watcher := .sleep } else none
  | .wake => if host.watcher = .sleep then some { host with watcher := .check } else none
  | .shutDown => if host.main = .serving then some { host with shutdown := true, main := .stopping } else none
  -- `run` returns at once when the gateway cannot be stopped
  | .stop succeeds =>
    if host.main = .stopping then some { host with main := if succeeds then .joining else .returned } else none
  | .join => if host.main = .joining ∧ host.watcher = .finished then some { host with main := .returned } else none

def machine : Machine WatchedHost WatchAction where
  start host := ∃ deviceToken, host = started deviceToken
  step := step

/-- When `run` has returned, the latest token is stored. -/
def KeepsToken (host : WatchedHost) : Prop :=
  host.main = .returned → ∀ deviceToken, host.authorization = some deviceToken → host.stored = some deviceToken

def UpToDate (host : WatchedHost) : Prop :=
  ∀ deviceToken, host.authorization = some deviceToken → host.deviceToken = some deviceToken

/-- The flag is set, and later tokens arrive, when the watcher has the latest token or still reads the status; it reads
it then, and `run` does not return before a token is stored. -/
def Timely (host : WatchedHost) : WatchAction → Prop
  | .receive deviceToken => host.shutdown = true → host.deviceToken = some deviceToken ∨ host.watcher = .poll
  | .shutDown => UpToDate host ∨ host.watcher = .poll
  | .poll false => host.shutdown = true → UpToDate host
  | .stop false => UpToDate host ∧ host.watcher ≠ .save
  | .poll true | .stop true | .check | .save | .wake | .join => True

structure Watched (host : WatchedHost) : Prop where
  saved : host.watcher ≠ .save → host.stored = host.deviceToken
  closing : host.shutdown = true → UpToDate host ∨ host.watcher = .poll
  finished : host.watcher = .finished → host.shutdown = true
  keeps : host.KeepsToken

theorem Watched.start (deviceToken : Option String) : Watched (started deviceToken) :=
  ⟨fun _ => rfl, by simp [started], by simp [started], by simp [started, KeepsToken]⟩

theorem upToDate_readStatus (host : WatchedHost) : UpToDate host.readStatus := by
  rw [readStatus]
  split
  next none => simp [UpToDate, none]
  next deviceToken received => split <;> simp_all [UpToDate]

theorem Watched.step {host next : WatchedHost} {action : WatchAction} (watched : Watched host)
    (timely : Timely host action) (stepped : host.step action = some next) : Watched next := by
  obtain ⟨saved, closing, finished, keeps⟩ := watched
  unfold WatchedHost.step at stepped
  split at stepped
  next => cases stepped
  next running =>
    cases action
    all_goals
      simp only [Option.ite_none_right_eq_some, Option.some.injEq] at stepped
      obtain ⟨enabled, rfl⟩ := stepped
    case receive deviceToken =>
      refine ⟨saved, fun isSet => ?_, finished, fun isReturned => absurd isReturned running⟩
      cases timely isSet with
      | inl same => exact .inl (by simpa [UpToDate] using same)
      | inr reads => exact .inr reads
    case check =>
      refine ⟨fun _ => saved (by simp [enabled]), fun isSet => ?_, fun ends => ?_, fun isReturned => absurd isReturned running⟩
      · exact .inl ((closing isSet).resolve_right (by simp [enabled]))
      · cases set : host.shutdown with
        | true => rfl
        | false => simp [set] at ends
    case poll available =>
      have same := saved (by simp [enabled])
      cases available with
      | false => exact ⟨fun _ => same, fun isSet => .inl (timely isSet), by simp, fun isReturned => absurd isReturned running⟩
      | true =>
        refine ⟨?_, fun _ => .inl (upToDate_readStatus host), ?_, ?_⟩
        · grind [readStatus]
        · grind [readStatus]
        · grind [readStatus, KeepsToken]
    case save =>
      exact ⟨fun _ => rfl, fun isSet => .inl ((closing isSet).resolve_right (by simp [enabled])), by simp,
        fun isReturned => absurd isReturned running⟩
    case wake =>
      exact ⟨fun _ => saved (by simp [enabled]), fun isSet => .inl ((closing isSet).resolve_right (by simp [enabled])), by simp,
        fun isReturned => absurd isReturned running⟩
    case shutDown => exact ⟨saved, fun _ => timely, fun _ => rfl, by simp [KeepsToken]⟩
    case stop succeeds =>
      refine ⟨saved, closing, finished, fun isReturned deviceToken received => ?_⟩
      cases succeeds with
      | true => simp at isReturned
      | false => exact (saved timely.2).trans (timely.1 deviceToken received)
    case join =>
      refine ⟨saved, closing, finished, fun _ deviceToken received => ?_⟩
      -- the watcher has finished, so it does not read the status any more
      have upToDate := (closing (finished enabled.2)).resolve_right (by simp [enabled.2])
      exact (saved (by simp [enabled.2])).trans (upToDate deviceToken received)

/-- In every run whose steps are timely, the latest token is stored when `run` has returned. -/
theorem token_kept (host : WatchedHost) (reachable : machine.Reachable Timely host) : host.KeepsToken := by
  have watched : Watched host := reachable.invariant
    (by rintro _ ⟨deviceToken, rfl⟩; exact .start deviceToken) (fun _ _ _ watched timely stepped => watched.step timely stepped)
  exact watched.keeps

instance (host : WatchedHost) : Decidable (UpToDate host) :=
  match received : host.authorization with
  | none => .isTrue (by simp [UpToDate, received])
  | some deviceToken =>
    decidable_of_iff (host.deviceToken = some deviceToken) (by simp [UpToDate, received])

instance (host : WatchedHost) : ∀ action, Decidable (Timely host action)
  | .receive deviceToken =>
    inferInstanceAs (Decidable (host.shutdown = true → host.deviceToken = some deviceToken ∨ host.watcher = .poll))
  | .shutDown => inferInstanceAs (Decidable (UpToDate host ∨ host.watcher = .poll))
  | .poll false => inferInstanceAs (Decidable (host.shutdown = true → UpToDate host))
  | .stop false => inferInstanceAs (Decidable (UpToDate host ∧ host.watcher ≠ .save))
  | .poll true | .stop true | .check | .save | .wake | .join => .isTrue trivial

/-- A token is read and saved while the gateway stops. -/
theorem token_kept_read :
    ∃ host, (machine.Reachable Timely host ∧ host.main = .returned ∧ host.authorization = some "second") ∧ host.KeepsToken := by
  obtain ⟨host, reachable, passes⟩ := machine.reachable_of_execute Timely
    (show machine.start (started (some "first")) from ⟨_, rfl⟩)
    [.check, .shutDown, .receive "second", .poll true, .stop true, .save, .wake, .check, .join]
    (fun host => decide (host.main = .returned ∧ host.authorization = some "second")) (by decide)
  exact ⟨host, ⟨reachable, of_decide_eq_true passes⟩, token_kept host reachable⟩

/-- A token arrives while the watcher sleeps, and the host stops. -/
theorem token_lost : ∃ host, machine.Reachable Machine.always host ∧ ¬host.KeepsToken := by
  obtain ⟨host, reachable, passes⟩ := machine.reachable_of_execute Machine.always
    (show machine.start (started (some "first")) from ⟨_, rfl⟩)
    [.check, .poll true, .receive "second", .shutDown, .wake, .check, .stop true, .join]
    (fun host => decide (host.main = .returned ∧ host.authorization = some "second" ∧ host.stored = some "first"))
    (by decide)
  obtain ⟨returned, received, stored⟩ := of_decide_eq_true passes
  exact ⟨host, reachable, fun keeps => by simpa [stored] using keeps returned "second" received⟩

end WatchedHost

end Vifu.Sdk
