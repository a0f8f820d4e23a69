import Mathlib.Data.List.Sort
import Vifu.Foundation.LastWrite
import Vifu.Foundation.Machine
import Vifu.Gateway.Command

/-!
# The monitor hub and its clients

The hub keeps the connected gateways in a map and broadcasts what happens to them.  To publish an event is to change
the map and then to send the event, and other sockets may come in between.  A client subscribes, reads a snapshot of
the map, and follows the broadcast from where it subscribed.  A client that falls behind the ring of the broadcast
goes on at its oldest event with a fresh snapshot.

A client of the whole deployment gets every event as it is.
-/

namespace Vifu.Server

open Foundation
open Vifu.Gateway

@[ext]
structure GatewayMonitorSnapshot where
  gatewayId : String
  agents : List AgentDescriptor
  deriving DecidableEq

inductive ServerMonitorEvent where
  | snapshot (gateways : List GatewayMonitorSnapshot)
  | gatewayConnected (gatewayId : String) (agents : List AgentDescriptor)
  | gatewayDisconnected (gatewayId : String)
  | gatewayEnrolled (gatewayId : String) (enrollmentId : Uuid)
  | runtimeTelemetry (gatewayId : String) (batch : RuntimeTelemetryBatch)

namespace ServerMonitorEvent

def isSnapshot : ServerMonitorEvent → Bool
  | .snapshot _ => true
  | _ => false

def write? : ServerMonitorEvent → Option (Write String (List AgentDescriptor))
  | .gatewayConnected gatewayId agents => some ⟨gatewayId, some agents⟩
  | .gatewayDisconnected gatewayId => some ⟨gatewayId, none⟩
  | .snapshot _ | .gatewayEnrolled _ _ | .runtimeTelemetry _ _ => none

end ServerMonitorEvent

abbrev Gateways := AList fun _ : String => List AgentDescriptor

def gatewayWrites (events : List ServerMonitorEvent) : List (Write String (List AgentDescriptor)) :=
  events.filterMap ServerMonitorEvent.write?

/-- The map, the events that were sent since the start, and those that are in the map and not sent yet, in the order
of their writes. -/
structure ServerMonitorHub where
  gateways : Gateways
  sent : List ServerMonitorEvent
  publishing : List ServerMonitorEvent

namespace ServerMonitorHub

def new : ServerMonitorHub where
  gateways := ∅
  sent := []
  publishing := []

variable (hub : ServerMonitorHub)

/-- The first half of `publish`. -/
def update (event : ServerMonitorEvent) : ServerMonitorHub :=
  match event with
  | .gatewayConnected gatewayId agents =>
    { hub with
      gateways := hub.gateways.insert gatewayId agents
      publishing := hub.publishing ++ [event] }
  | .gatewayDisconnected gatewayId =>
    { hub with
      gateways := hub.gateways.erase gatewayId
      publishing := hub.publishing ++ [event] }
  | .snapshot _ | .gatewayEnrolled _ _ | .runtimeTelemetry _ _ =>
    { hub with publishing := hub.publishing ++ [event] }

def send (index : ℕ) : Option ServerMonitorHub :=
  (hub.publishing[index]?).map fun event =>
    { hub with
      sent := hub.sent ++ [event]
      publishing := hub.publishing.eraseIdx index }

def snapshot : ServerMonitorEvent :=
  .snapshot ((hub.gateways.entries.map fun entry =>
    { gatewayId := entry.1, agents := entry.2 : GatewayMonitorSnapshot }).insertionSort fun left right =>
      left.gatewayId ≤ right.gatewayId)

end ServerMonitorHub

/-! ## A client -/

inductive ClientPhase where
  | away
  | subscribed
  | sending (event : ServerMonitorEvent)
  | listening

def ClientPhase.isListening : ClientPhase → Bool
  | .listening => true
  | _ => false

structure MonitorClient where
  phase : ClientPhase
  position : ℕ
  gateways : Gateways

def hear (gateways : Gateways) : ServerMonitorEvent → Gateways
  | .snapshot listed => listed.foldl (fun known gateway => known.insert gateway.gatewayId gateway.agents) ∅
  | .gatewayConnected gatewayId agents => gateways.insert gatewayId agents
  | .gatewayDisconnected gatewayId => gateways.erase gatewayId
  | .gatewayEnrolled _ _ | .runtimeTelemetry _ _ => gateways

structure MonitorState where
  hub : ServerMonitorHub
  client : MonitorClient

namespace MonitorState

inductive Action where
  | update (event : ServerMonitorEvent)
  | send (index : ℕ)
  | subscribe
  | readSnapshot
  | deliver
  | receive
  | leave

variable (capacity : ℕ) (state : MonitorState)

/-- `events.recv()`. -/
def receive : Option MonitorState :=
  if state.client.position + capacity < state.hub.sent.length then
    some { state with
      client := { state.client with
        phase := .subscribed
        position := state.hub.sent.length - capacity } }
  else
    (state.hub.sent[state.client.position]?).map fun event =>
      { state with
        client := { state.client with
          phase := .sending event
          position := state.client.position + 1 } }

/-- Sockets publish anything but snapshots. -/
def step : Action → Option MonitorState
  | .update event => if event.isSnapshot then none else some { state with hub := state.hub.update event }
  | .send index => (state.hub.send index).map fun hub => { state with hub }
  | .subscribe =>
    match state.client.phase with
    | .away => some { state with client := ⟨.subscribed, state.hub.sent.length, ∅⟩ }
    | _ => none
  | .readSnapshot =>
    match state.client.phase with
    | .subscribed => some { state with client := { state.client with phase := .sending state.hub.snapshot } }
    | _ => none
  | .deliver =>
    match state.client.phase with
    | .sending event =>
      some { state with
        client := { state.client with
          phase := .listening
          gateways := hear state.client.gateways event } }
    | _ => none
  | .receive =>
    match state.client.phase with
    | .listening => state.receive capacity
    | _ => none
  | .leave => some { state with client := { state.client with phase := .away } }

end MonitorState

def monitorMachine (capacity : ℕ) : Machine MonitorState MonitorState.Action where
  start state := state = { hub := .new, client := ⟨.away, 0, ∅⟩ }
  step := MonitorState.step capacity

/-! ## Convergence -/

@[simp] theorem gatewayWrites_append (events later : List ServerMonitorEvent) :
    gatewayWrites (events ++ later) = gatewayWrites events ++ gatewayWrites later :=
  List.filterMap_append

theorem gatewayWrites_cons (event : ServerMonitorEvent) (events : List ServerMonitorEvent) :
    gatewayWrites (event :: events) = gatewayWrites [event] ++ gatewayWrites events :=
  gatewayWrites_append [event] events

variable {event : ServerMonitorEvent} {gatewayId : String}

theorem lookup_hear (published : event.isSnapshot = false) (gateways : Gateways) (gatewayId : String) :
    (hear gateways event).lookup gatewayId = settle (gateways.lookup gatewayId) (gatewayWrites [event]) gatewayId := by
  cases event with
  | snapshot => cases published
  | gatewayConnected connected agents =>
    exact Write.lookup_apply ⟨connected, some agents⟩ gateways gatewayId
  | gatewayDisconnected disconnected =>
    exact Write.lookup_apply ⟨disconnected, none⟩ gateways gatewayId
  | gatewayEnrolled => rfl
  | runtimeTelemetry => rfl

theorem ServerMonitorHub.update_gateways {hub : ServerMonitorHub}
    (published : event.isSnapshot = false) : (hub.update event).gateways = hear hub.gateways event := by
  cases event with
  | snapshot => cases published
  | _ => rfl

theorem ServerMonitorHub.update_publishing (hub : ServerMonitorHub) (event : ServerMonitorEvent) :
    (hub.update event).publishing = hub.publishing ++ [event] := by
  cases event <;> rfl

theorem ServerMonitorHub.update_sent (hub : ServerMonitorHub) (event : ServerMonitorEvent) :
    (hub.update event).sent = hub.sent := by
  cases event <;> rfl

theorem lookup_foldl_insert {listed : List GatewayMonitorSnapshot} {known : Gateways}
    {agents : List AgentDescriptor} (distinct : (listed.map GatewayMonitorSnapshot.gatewayId).Nodup) :
    (listed.foldl (fun known gateway => known.insert gateway.gatewayId gateway.agents) known).lookup gatewayId =
        some agents ↔
      { gatewayId, agents } ∈ listed ∨
        gatewayId ∉ listed.map GatewayMonitorSnapshot.gatewayId ∧ known.lookup gatewayId = some agents := by
  induction listed generalizing known with
  | nil => simp
  | cons gateway listed ih =>
    rw [List.map_cons, List.nodup_cons] at distinct
    rw [List.foldl_cons, ih distinct.2, List.map_cons, List.mem_cons, List.mem_cons]
    by_cases isGateway : gatewayId = gateway.gatewayId
    · have notLater : { gatewayId, agents } ∉ listed := fun mem =>
        distinct.1 (isGateway ▸ List.mem_map_of_mem (f := GatewayMonitorSnapshot.gatewayId) mem)
      subst isGateway
      simp [notLater, distinct.1, GatewayMonitorSnapshot.ext_iff, eq_comm]
    · simp [isGateway, GatewayMonitorSnapshot.ext_iff]

theorem lookup_hear_snapshot (hub : ServerMonitorHub) (gateways : Gateways) (gatewayId : String) :
    (hear gateways hub.snapshot).lookup gatewayId = hub.gateways.lookup gatewayId := by
  have sorted := List.perm_insertionSort (fun left right : GatewayMonitorSnapshot => left.gatewayId ≤ right.gatewayId)
    (hub.gateways.entries.map fun entry => { gatewayId := entry.1, agents := entry.2 })
  have keys : (hub.gateways.entries.map fun entry => entry.1).Nodup := hub.gateways.nodupKeys
  have distinct : ((hub.gateways.entries.map fun entry =>
      { gatewayId := entry.1, agents := entry.2 : GatewayMonitorSnapshot }).map
        GatewayMonitorSnapshot.gatewayId).Nodup := by
    rw [List.map_map]
    exact keys
  ext agents
  have stored : hub.gateways.lookup gatewayId = some agents ↔ ⟨gatewayId, agents⟩ ∈ hub.gateways.entries :=
    AList.mem_lookup_iff
  rw [ServerMonitorHub.snapshot, hear, lookup_foldl_insert ((sorted.map _).nodup_iff.mpr distinct), sorted.mem_iff,
    stored, AList.lookup_empty]
  simp only [reduceCtorEq, and_false, or_false, List.mem_map]
  constructor
  · rintro ⟨entry, mem, isEntry⟩
    cases isEntry
    exact mem
  · intro mem
    exact ⟨⟨gatewayId, agents⟩, mem, rfl⟩

/-! ## What a client has still to hear -/

namespace MonitorState

variable {capacity : ℕ} {state next : MonitorState}

/-- The events after a client's position, and those that are not sent yet. -/
def pending (state : MonitorState) : List ServerMonitorEvent :=
  state.hub.sent.drop state.client.position ++ state.hub.publishing

/-- What a client knows once it has got the event that is on its way. -/
def knows? (state : MonitorState) : Option Gateways :=
  match state.client.phase with
  | .away | .subscribed => none
  | .sending event => some (hear state.client.gateways event)
  | .listening => some state.client.gateways

/-- The map is what the events say, and what a client knows lacks only the events before it. -/
structure Follows (state : MonitorState) : Prop where
  published : ∀ event ∈ state.hub.sent ++ state.hub.publishing, event.isSnapshot = false
  position : state.client.position ≤ state.hub.sent.length
  settled : ∀ gatewayId, settle none (gatewayWrites (state.hub.sent ++ state.hub.publishing)) gatewayId =
    state.hub.gateways.lookup gatewayId
  heard : ∀ known, state.knows? = some known → ∀ gatewayId,
    settle (known.lookup gatewayId) (gatewayWrites state.pending) gatewayId = state.hub.gateways.lookup gatewayId

/-- No event is sent before an older one that says something else about its gateway and would be the last to be
heard. -/
def SendsInOrder (state : MonitorState) : Action → Prop
  | .send index =>
    ∀ write ∈ gatewayWrites (state.hub.publishing[index]?).toList,
      MayOvertake (gatewayWrites (state.hub.publishing.take index))
        (gatewayWrites (state.hub.publishing.drop (index + 1))) write
  | _ => True

instance : ∀ (state : MonitorState) (action : Action), Decidable (state.SendsInOrder action) := by
  intro state action
  cases action
  case send index =>
    exact inferInstanceAs (Decidable (∀ write ∈ gatewayWrites (state.hub.publishing[index]?).toList,
      MayOvertake (gatewayWrites (state.hub.publishing.take index))
        (gatewayWrites (state.hub.publishing.drop (index + 1))) write))
  all_goals exact .isTrue trivial

theorem follows_start : Follows { hub := .new, client := ⟨.away, 0, ∅⟩ } where
  published := by simp [ServerMonitorHub.new]
  position := Nat.zero_le _
  settled _ := rfl
  heard known isKnown := by simp [knows?] at isKnown

theorem follows_update (published : event.isSnapshot = false) (follows : Follows state) :
    Follows { state with hub := state.hub.update event } where
  published other mem := by
    rw [ServerMonitorHub.update_sent, ServerMonitorHub.update_publishing, ← List.append_assoc, List.mem_append,
      List.mem_singleton] at mem
    rcases mem with mem | rfl
    · exact follows.published other mem
    · exact published
  position := by
    rw [ServerMonitorHub.update_sent]
    exact follows.position
  settled gatewayId := by
    rw [ServerMonitorHub.update_sent, ServerMonitorHub.update_publishing, ServerMonitorHub.update_gateways published,
      ← List.append_assoc, gatewayWrites_append, settle_append, follows.settled, lookup_hear published]
  heard known isKnown gatewayId := by
    rw [pending, ServerMonitorHub.update_sent, ServerMonitorHub.update_publishing,
      ServerMonitorHub.update_gateways published, ← List.append_assoc, gatewayWrites_append, settle_append,
      lookup_hear published]
    exact congrArg (settle · _ gatewayId) (follows.heard known isKnown gatewayId)

theorem settle_send {base : Option (List AgentDescriptor)} {earlier before after : List ServerMonitorEvent}
    (inOrder : ∀ write ∈ gatewayWrites [event], MayOvertake (gatewayWrites before) (gatewayWrites after) write) :
    settle base (gatewayWrites (earlier ++ [event] ++ (before ++ after))) gatewayId =
      settle base (gatewayWrites (earlier ++ (before ++ event :: after))) gatewayId := by
  have sent : gatewayWrites (earlier ++ [event] ++ (before ++ after)) =
      gatewayWrites earlier ++ (gatewayWrites [event] ++ gatewayWrites before ++ gatewayWrites after) := by
    simp only [gatewayWrites_append, List.append_assoc]
  have waiting : gatewayWrites (earlier ++ (before ++ event :: after)) =
      gatewayWrites earlier ++ (gatewayWrites before ++ (gatewayWrites [event] ++ gatewayWrites after)) := by
    rw [gatewayWrites_append, gatewayWrites_append, gatewayWrites_cons]
  rw [sent, waiting, settle_append base (gatewayWrites earlier), settle_append base (gatewayWrites earlier)]
  cases isWrite : event.write? with
  | none => simp [gatewayWrites, isWrite]
  | some write =>
    have writes : gatewayWrites [event] = [write] := by simp [gatewayWrites, isWrite]
    rw [writes] at inOrder ⊢
    exact settle_overtake (inOrder write List.mem_cons_self) gatewayId

theorem follows_send {index : ℕ} (inOrder : state.SendsInOrder (.send index))
    (stepped : state.step capacity (.send index) = some next) (follows : Follows state) : Follows next := by
  obtain ⟨hub, sent, rfl⟩ := Option.map_eq_some_iff.mp stepped
  obtain ⟨event, found, rfl⟩ := Option.map_eq_some_iff.mp sent
  obtain ⟨inRange, isEvent⟩ := List.getElem?_eq_some_iff.mp found
  have publishing : state.hub.publishing =
      state.hub.publishing.take index ++ event :: state.hub.publishing.drop (index + 1) := by
    rw [← isEvent, ← List.drop_eq_getElem_cons inRange, List.take_append_drop]
  have erased : state.hub.publishing.eraseIdx index =
      state.hub.publishing.take index ++ state.hub.publishing.drop (index + 1) := List.eraseIdx_eq_take_drop_succ ..
  simp only [SendsInOrder, found, Option.toList_some] at inOrder
  constructor
  · intro other mem
    refine follows.published other ?_
    rw [publishing]
    simp only [erased, List.mem_append, List.mem_cons] at mem ⊢
    tauto
  · simp only [List.length_append, List.length_singleton]
    exact Nat.le_succ_of_le follows.position
  · intro gatewayId
    have settled := follows.settled gatewayId
    rw [publishing] at settled
    rw [erased, settle_send inOrder, settled]
  · intro known isKnown gatewayId
    have heard := follows.heard known isKnown gatewayId
    rw [pending, publishing] at heard
    rw [pending, erased, List.drop_append_of_le_length follows.position, settle_send inOrder, heard]

theorem follows_receive (listening : state.client.phase = .listening) (stepped : state.receive capacity = some next)
    (follows : Follows state) : Follows next := by
  simp only [receive] at stepped
  split at stepped
  next =>
    cases stepped
    exact
      { published := follows.published
        position := Nat.sub_le _ _
        settled := follows.settled
        heard := by
          intro known isKnown
          simp [knows?] at isKnown }
  next =>
    obtain ⟨event, found, rfl⟩ := Option.map_eq_some_iff.mp stepped
    obtain ⟨inRange, isEvent⟩ := List.getElem?_eq_some_iff.mp found
    have published := follows.published event (List.mem_append_left _ (List.mem_of_getElem? found))
    refine ⟨follows.published, inRange, follows.settled, ?_⟩
    intro known isKnown gatewayId
    cases isKnown
    have heard := follows.heard state.client.gateways (by simp [knows?, listening]) gatewayId
    rw [pending, List.drop_eq_getElem_cons inRange, isEvent, List.cons_append, gatewayWrites_cons, settle_append,
      ← lookup_hear published] at heard
    exact heard

theorem follows_step {action : Action} (inOrder : state.SendsInOrder action)
    (stepped : state.step capacity action = some next) (follows : Follows state) : Follows next := by
  cases action with
  | update event =>
    simp only [step] at stepped
    split at stepped
    next => cases stepped
    next published =>
      cases stepped
      exact follows_update (by simpa using published) follows
  | send index => exact follows_send inOrder stepped follows
  | subscribe =>
    cases phase : state.client.phase with
    | away =>
      simp only [step, phase, Option.some.injEq] at stepped
      subst stepped
      exact ⟨follows.published, Nat.le_refl _, follows.settled, by simp [knows?]⟩
    | _ => simp [step, phase] at stepped
  | readSnapshot =>
    cases phase : state.client.phase with
    | subscribed =>
      simp only [step, phase, Option.some.injEq] at stepped
      subst stepped
      refine ⟨follows.published, follows.position, follows.settled, ?_⟩
      intro known isKnown gatewayId
      cases isKnown
      -- The snapshot contains what the client is still going to hear.
      rw [lookup_hear_snapshot, ← follows.settled gatewayId]
      have split : state.hub.sent ++ state.hub.publishing =
          state.hub.sent.take state.client.position ++ state.pending := by
        rw [pending, ← List.append_assoc, List.take_append_drop]
      rw [split, gatewayWrites_append]
      exact settle_replay
    | _ => simp [step, phase] at stepped
  | deliver =>
    cases phase : state.client.phase with
    | sending event =>
      simp only [step, phase, Option.some.injEq] at stepped
      subst stepped
      refine ⟨follows.published, follows.position, follows.settled, ?_⟩
      intro known isKnown
      cases isKnown
      exact follows.heard (hear state.client.gateways event) (by simp [knows?, phase])
    | _ => simp [step, phase] at stepped
  | receive =>
    cases phase : state.client.phase with
    | listening =>
      simp only [step, phase] at stepped
      exact follows_receive phase stepped follows
    | _ => simp [step, phase] at stepped
  | leave =>
    cases stepped
    exact ⟨follows.published, follows.position, follows.settled, by simp [knows?]⟩

/-- No publish is in progress, and the client has received every event. -/
def Settled (state : MonitorState) : Prop :=
  state.hub.publishing.isEmpty = true ∧ state.client.phase.isListening = true ∧
    state.client.position = state.hub.sent.length

instance (state : MonitorState) : Decidable state.Settled := inferInstanceAs (Decidable (_ ∧ _ ∧ _))

theorem Settled.knows {state : MonitorState} (settled : state.Settled) : state.knows? = some state.client.gateways := by
  have listening := settled.2.1
  cases phase : state.client.phase with
  | listening => simp [knows?, phase]
  | _ => simp [ClientPhase.isListening, phase] at listening

end MonitorState

open MonitorState

/-- A client that has heard everything knows the hub's map, if the last event sent about a gateway is always the last
one written. -/
theorem client_converges (capacity : ℕ) {state : MonitorState}
    (reachable : (monitorMachine capacity).Reachable SendsInOrder state) (settled : state.Settled)
    (gatewayId : String) : state.client.gateways.lookup gatewayId = state.hub.gateways.lookup gatewayId := by
  have follows : state.Follows := by
    apply reachable.invariant
    · rintro state rfl
      exact follows_start
    · intro state action next follows inOrder stepped
      exact follows_step inOrder stepped follows
  have heard := follows.heard state.client.gateways settled.knows gatewayId
  rw [pending, List.isEmpty_iff.mp settled.1, settled.2.2, List.drop_length] at heard
  exact heard

def connects : List MonitorState.Action :=
  [.subscribe, .readSnapshot, .deliver, .update (.gatewayConnected "laptop" []), .send 0, .receive, .deliver]

theorem client_converges_connected : ∃ state, (monitorMachine 64).Reachable SendsInOrder state ∧ state.Settled ∧
      (∀ gatewayId, state.client.gateways.lookup gatewayId = state.hub.gateways.lookup gatewayId) ∧
      state.client.gateways.lookup "laptop" = some [] := by
  obtain ⟨state, reachable, checked⟩ := (monitorMachine 64).reachable_of_execute SendsInOrder rfl connects
    (fun state => decide (state.Settled ∧ state.client.gateways.lookup "laptop" = some [])) (by decide +kernel)
  obtain ⟨settled, known⟩ := of_decide_eq_true checked
  exact ⟨state, reachable, settled, client_converges 64 reachable settled, known⟩

/-- A socket of a gateway takes it off the map, another one puts it back and sends its event first. -/
def overtakes : List MonitorState.Action :=
  [.update (.gatewayConnected "laptop" []), .send 0, .subscribe, .readSnapshot, .deliver,
    .update (.gatewayDisconnected "laptop"), .update (.gatewayConnected "laptop" []), .send 1, .send 0,
    .receive, .deliver, .receive, .deliver]

theorem client_misses_gateway :
    ¬ ∀ (capacity : ℕ) (state : MonitorState), (monitorMachine capacity).Reachable Machine.always state →
      state.Settled → ∀ gatewayId, gatewayId ∈ state.client.gateways ↔ gatewayId ∈ state.hub.gateways := by
  intro converges
  obtain ⟨state, reachable, checked⟩ := (monitorMachine 64).reachable_of_execute Machine.always rfl overtakes
    (fun state => decide (state.Settled ∧ state.client.gateways.lookup "laptop" = none ∧
      state.hub.gateways.lookup "laptop" = some [])) (by decide +kernel)
  obtain ⟨settled, missing, connected⟩ := of_decide_eq_true checked
  have known := (converges 64 state reachable settled "laptop").mpr (AList.lookup_isSome.mp (by simp [connected]))
  have isKnown := AList.lookup_isSome.mpr known
  rw [missing] at isKnown
  cases isKnown

end Vifu.Server
