import Vifu.Gateway.Checks

/-!
# Gateway sessions

The table `agent_gateway_sessions`: session ids are unique, and so is the connected session of a gateway.
Both are constraints of the table, so a table that breaks them cannot be built.
-/

namespace Vifu.Server

open Vifu.Gateway

@[ext]
structure AgentGatewaySession where
  sessionId : Uuid
  gatewayId : String
  connected : Bool
  deriving DecidableEq

structure SessionTable where
  rows : List AgentGatewaySession
  /-- `session_id BLOB NOT NULL UNIQUE`. -/
  distinct : (rows.map AgentGatewaySession.sessionId).Nodup
  /-- `agent_gateway_sessions_one_connected_idx`. -/
  oneConnected : ∀ row ∈ rows, ∀ other ∈ rows, row.gatewayId = other.gatewayId → row.connected = true →
    other.connected = true → row.sessionId = other.sessionId

namespace SessionTable

def empty : SessionTable where
  rows := []
  distinct := List.nodup_nil
  oneConnected := by simp

def setStatus (connected : Bool) (passes : AgentGatewaySession → Bool) (rows : List AgentGatewaySession) :
    List AgentGatewaySession :=
  rows.map fun row => if passes row then { row with connected } else row

section

variable {connected : Bool} {passes : AgentGatewaySession → Bool} {rows : List AgentGatewaySession}
  {row : AgentGatewaySession}

@[simp] theorem setStatus_ids : (setStatus connected passes rows).map AgentGatewaySession.sessionId =
    rows.map AgentGatewaySession.sessionId := by
  rw [setStatus, List.map_map]
  apply List.map_congr_left
  intro row _
  dsimp only [Function.comp_apply]
  split <;> rfl

theorem mem_setStatus : row ∈ setStatus connected passes rows ↔
    ∃ earlier ∈ rows, row.sessionId = earlier.sessionId ∧ row.gatewayId = earlier.gatewayId ∧
      row.connected = if passes earlier then connected else earlier.connected := by
  rw [setStatus, List.mem_map]
  apply exists_congr
  intro earlier
  apply and_congr_right
  intro _
  split <;> simp only [AgentGatewaySession.ext_iff, eq_comm]

theorem setStatus_mem (mem : row ∈ rows) :
    { row with connected := if passes row then connected else row.connected } ∈ setStatus connected passes rows :=
  mem_setStatus.mpr ⟨row, mem, rfl, rfl, rfl⟩

theorem setStatus_belongs (gatewayId : String) (sessionId : Uuid) :
    (∃ row ∈ setStatus connected passes rows, row.sessionId = sessionId ∧ row.gatewayId = gatewayId) ↔
      ∃ row ∈ rows, row.sessionId = sessionId ∧ row.gatewayId = gatewayId := by
  constructor
  · rintro ⟨row, mem, id, gateway⟩
    obtain ⟨earlier, isEarlier, sameId, sameGateway, -⟩ := mem_setStatus.mp mem
    exact ⟨earlier, isEarlier, sameId ▸ id, sameGateway ▸ gateway⟩
  · rintro ⟨row, mem, id, gateway⟩
    exact ⟨_, setStatus_mem mem, id, gateway⟩

end

variable (table : SessionTable)

def disconnect (passes : AgentGatewaySession → Bool) : SessionTable where
  rows := setStatus false passes table.rows
  distinct := by
    rw [setStatus_ids]
    exact table.distinct
  oneConnected := by
    intro row member other isOther same isConnected alsoConnected
    obtain ⟨earlier, isEarlier, id, gateway, status⟩ := mem_setStatus.mp member
    obtain ⟨before, isBefore, otherId, otherGateway, otherStatus⟩ := mem_setStatus.mp isOther
    rw [id, otherId]
    rw [gateway, otherGateway] at same
    rw [status] at isConnected
    rw [otherStatus] at alsoConnected
    apply table.oneConnected earlier isEarlier before isBefore same
    · exact (ite_eq_iff.mp isConnected).elim (fun isFalse => by cases isFalse.2) And.right
    · exact (ite_eq_iff.mp alsoConnected).elim (fun isFalse => by cases isFalse.2) And.right

/-- Whether a gateway has no connected session other than the one given. -/
def FreeFor (gatewayId : String) (sessionId : Uuid) : Prop :=
  ∀ row ∈ table.rows, row.gatewayId = gatewayId → row.connected = true → row.sessionId = sessionId

instance decidableFreeFor (gatewayId : String) (sessionId : Uuid) : Decidable (table.FreeFor gatewayId sessionId) :=
  List.decidableBAll _ table.rows

def connect (gatewayId : String) (sessionId : Uuid) (free : table.FreeFor gatewayId sessionId) : SessionTable where
  rows := setStatus true (fun row => row.sessionId == sessionId && row.gatewayId == gatewayId) table.rows
  distinct := by
    rw [setStatus_ids]
    exact table.distinct
  oneConnected := by
    have own : ∀ row ∈ setStatus true (fun row => row.sessionId == sessionId && row.gatewayId == gatewayId) table.rows,
        row.connected = true → (row.gatewayId = gatewayId ∧ row.sessionId = sessionId) ∨
          row.gatewayId ≠ gatewayId ∧ ∃ earlier ∈ table.rows, earlier.connected = true ∧
            earlier.gatewayId = row.gatewayId ∧ earlier.sessionId = row.sessionId := by
      intro row member isConnected
      obtain ⟨earlier, isEarlier, id, gateway, status⟩ := mem_setStatus.mp member
      rw [isConnected] at status
      rw [id, gateway]
      by_cases same : earlier.gatewayId = gatewayId
      · refine .inl ⟨same, ?_⟩
        split at status
        next isPassing => simp_all
        next => exact free earlier isEarlier same status.symm
      · simp only [same, beq_eq_false_iff_ne.mpr same, Bool.and_false, Bool.false_eq_true, if_false] at status ⊢
        exact .inr ⟨same, earlier, isEarlier, status.symm, rfl, rfl⟩
    intro row member other isOther same isConnected alsoConnected
    obtain ⟨gateway, id⟩ | ⟨apart, earlier, isEarlier, status, gateway, id⟩ := own row member isConnected
    · obtain ⟨-, otherId⟩ | ⟨otherApart, -⟩ := own other isOther alsoConnected
      · exact id.trans otherId.symm
      · exact absurd (same.symm.trans gateway) otherApart
    · obtain ⟨otherGateway, -⟩ | ⟨-, before, isBefore, otherStatus, otherGateway, otherId⟩ := own other isOther alsoConnected
      · exact absurd (same.trans otherGateway) apart
      · rw [← id, ← otherId]
        exact table.oneConnected earlier isEarlier before isBefore (by rw [gateway, otherGateway, same]) status otherStatus

def insert (gatewayId : String) (sessionId : Uuid) (fresh : sessionId ∉ table.rows.map AgentGatewaySession.sessionId)
    (idle : ∀ row ∈ table.rows, row.gatewayId = gatewayId → row.connected = false) : SessionTable where
  rows := table.rows ++ [{ sessionId, gatewayId, connected := true }]
  distinct := by
    rw [List.map_append, List.nodup_append]
    refine ⟨table.distinct, List.nodup_singleton _, ?_⟩
    intro id member other isOther same
    rw [List.map_singleton, List.mem_singleton] at isOther
    rw [same, isOther] at member
    exact fresh member
  oneConnected := by
    intro row member other isOther same isConnected alsoConnected
    rw [List.mem_append, List.mem_singleton] at member isOther
    cases member with
    | inl isRow =>
      cases isOther with
      | inl alsoRow => exact table.oneConnected row isRow other alsoRow same isConnected alsoConnected
      | inr isNew =>
        subst isNew
        rw [idle row isRow same] at isConnected
        cases isConnected
    | inr isNew =>
      subst isNew
      cases isOther with
      | inl alsoRow =>
        rw [idle other alsoRow same.symm] at alsoConnected
        cases alsoConnected
      | inr alsoNew => rw [alsoNew]

def Connected (gatewayId : String) (sessionId : Uuid) : Prop :=
  ∃ row ∈ table.rows, row.sessionId = sessionId ∧ row.gatewayId = gatewayId ∧ row.connected = true

instance decidableConnected (gatewayId : String) (sessionId : Uuid) : Decidable (table.Connected gatewayId sessionId) :=
  List.decidableBEx _ table.rows

def BelongsTo (gatewayId : String) (sessionId : Uuid) : Prop :=
  ∃ row ∈ table.rows, row.sessionId = sessionId ∧ row.gatewayId = gatewayId

instance decidableBelongsTo (gatewayId : String) (sessionId : Uuid) : Decidable (table.BelongsTo gatewayId sessionId) :=
  List.decidableBEx _ table.rows

def disconnectGateway (gatewayId : String) : SessionTable :=
  table.disconnect fun row => row.gatewayId == gatewayId && row.connected

theorem disconnectGateway_idle (gatewayId : String) :
    ∀ row ∈ (table.disconnectGateway gatewayId).rows, row.gatewayId = gatewayId → row.connected = false := by
  intro row mem same
  obtain ⟨earlier, -, -, gateway, status⟩ := mem_setStatus.mp mem
  rw [status]
  split
  next => rfl
  next other => simpa [← gateway, same] using other

theorem freeFor_of_idle {gatewayId : String}
    (idle : ∀ row ∈ table.rows, row.gatewayId = gatewayId → row.connected = false) (sessionId : Uuid) :
    table.FreeFor gatewayId sessionId := by
  intro row mem same isConnected
  rw [idle row mem same] at isConnected
  cases isConnected

/-- `open_agent_gateway_session`: a session of the gateway is resumed, or a new one inserted. -/
def openSession (gatewayId : String) (resumeSessionId : Option Uuid) (sessionId : Uuid)
    (fresh : sessionId ∉ table.rows.map AgentGatewaySession.sessionId) : SessionTable × Uuid × Bool :=
  let disconnected := table.disconnectGateway gatewayId
  let inserted := disconnected.insert gatewayId sessionId (by simpa [disconnected, disconnectGateway, disconnect] using fresh)
    (table.disconnectGateway_idle gatewayId)
  match resumeSessionId with
  | none => (inserted, sessionId, false)
  | some resumed =>
    if disconnected.BelongsTo gatewayId resumed then
      (disconnected.connect gatewayId resumed (disconnected.freeFor_of_idle (table.disconnectGateway_idle gatewayId) resumed),
        resumed, true)
    else (inserted, sessionId, false)

/-- `touch_agent_gateway_session`, which fails when another session of the gateway is connected. -/
def touchSession (sessionId : Uuid) : Option SessionTable :=
  match table.rows.find? fun row => row.sessionId == sessionId with
  | none => some table
  | some row =>
    if free : table.FreeFor row.gatewayId sessionId then some (table.connect row.gatewayId sessionId free) else none

/-- `close_agent_gateway_session`. -/
def closeSession (sessionId : Uuid) : SessionTable := table.disconnect fun row => row.sessionId == sessionId

/-! ## What the statements do -/

section

variable {table} {gatewayId otherGateway : String} {sessionId otherId : Uuid}

theorem Connected.belongs (connected : table.Connected gatewayId sessionId) : table.BelongsTo gatewayId sessionId := by
  obtain ⟨row, mem, id, gateway, -⟩ := connected
  exact ⟨row, mem, id, gateway⟩

theorem BelongsTo.unique (belongs : table.BelongsTo gatewayId sessionId) (others : table.BelongsTo otherGateway sessionId) :
    gatewayId = otherGateway := by
  obtain ⟨row, mem, id, gateway⟩ := belongs
  obtain ⟨other, isOther, otherId, otherGatewayIs⟩ := others
  have same := List.inj_on_of_nodup_map table.distinct mem isOther (id.trans otherId.symm)
  rw [← gateway, ← otherGatewayIs, same]

theorem disconnect_belongs (passes : AgentGatewaySession → Bool) :
    (table.disconnect passes).BelongsTo gatewayId sessionId ↔ table.BelongsTo gatewayId sessionId :=
  setStatus_belongs gatewayId sessionId

theorem disconnect_connected (passes : AgentGatewaySession → Bool) :
    (table.disconnect passes).Connected gatewayId sessionId ↔
      ∃ row ∈ table.rows, row.sessionId = sessionId ∧ row.gatewayId = gatewayId ∧ row.connected = true ∧
        passes row = false := by
  constructor
  · rintro ⟨row, mem, id, gateway, status⟩
    obtain ⟨earlier, isEarlier, sameId, sameGateway, sameStatus⟩ := mem_setStatus.mp mem
    rw [sameStatus] at status
    split at status
    next => cases status
    next spared => exact ⟨earlier, isEarlier, sameId ▸ id, sameGateway ▸ gateway, status, by simpa using spared⟩
  · rintro ⟨row, mem, id, gateway, status, spared⟩
    exact ⟨_, setStatus_mem mem, id, gateway, by simp [spared, status]⟩

theorem connect_belongs (free : table.FreeFor gatewayId sessionId) :
    (table.connect gatewayId sessionId free).BelongsTo otherGateway otherId ↔ table.BelongsTo otherGateway otherId :=
  setStatus_belongs otherGateway otherId

theorem connect_connected (free : table.FreeFor gatewayId sessionId) :
    (table.connect gatewayId sessionId free).Connected otherGateway otherId ↔
      table.Connected otherGateway otherId ∨
        (otherGateway = gatewayId ∧ otherId = sessionId ∧ table.BelongsTo gatewayId sessionId) := by
  constructor
  · rintro ⟨row, mem, id, gateway, status⟩
    obtain ⟨earlier, isEarlier, sameId, sameGateway, sameStatus⟩ := mem_setStatus.mp mem
    rw [sameId] at id
    rw [sameGateway] at gateway
    rw [sameStatus] at status
    split at status
    next passes =>
      simp only [Bool.and_eq_true, beq_iff_eq] at passes
      exact .inr ⟨gateway.symm.trans passes.2, id.symm.trans passes.1, earlier, isEarlier, passes.1, passes.2⟩
    next => exact .inl ⟨earlier, isEarlier, id, gateway, status⟩
  · rintro (⟨row, mem, id, gateway, status⟩ | ⟨rfl, rfl, row, mem, id, gateway⟩)
    · exact ⟨_, setStatus_mem mem, id, gateway, by simp [status]⟩
    · exact ⟨_, setStatus_mem mem, id, gateway, by simp [id, gateway]⟩

section

variable (fresh : sessionId ∉ table.rows.map AgentGatewaySession.sessionId)
  (idle : ∀ row ∈ table.rows, row.gatewayId = gatewayId → row.connected = false)
include fresh idle

theorem insert_belongs : (table.insert gatewayId sessionId fresh idle).BelongsTo otherGateway otherId ↔
      table.BelongsTo otherGateway otherId ∨ (otherGateway = gatewayId ∧ otherId = sessionId) := by
  simp only [BelongsTo, insert, List.mem_append, List.mem_singleton, or_and_right, exists_or, exists_eq_left]
  rw [eq_comm (a := gatewayId), eq_comm (a := sessionId), and_comm (a := otherId = sessionId)]

theorem insert_connected : (table.insert gatewayId sessionId fresh idle).Connected otherGateway otherId ↔
      table.Connected otherGateway otherId ∨ (otherGateway = gatewayId ∧ otherId = sessionId) := by
  simp only [Connected, insert, List.mem_append, List.mem_singleton, or_and_right, exists_or, exists_eq_left, and_true]
  rw [eq_comm (a := gatewayId), eq_comm (a := sessionId), and_comm (a := otherId = sessionId)]

end

theorem disconnectGateway_connected : (table.disconnectGateway gatewayId).Connected otherGateway otherId ↔
      table.Connected otherGateway otherId ∧ otherGateway ≠ gatewayId := by
  rw [disconnectGateway, disconnect_connected]
  constructor
  · rintro ⟨row, mem, id, gateway, status, spared⟩
    exact ⟨⟨row, mem, id, gateway, status⟩, by simpa [status, gateway] using spared⟩
  · rintro ⟨⟨row, mem, id, gateway, status⟩, different⟩
    exact ⟨row, mem, id, gateway, status, by simp [gateway, different]⟩

theorem openSession_connected (resumeSessionId : Option Uuid) (fresh : sessionId ∉ table.rows.map AgentGatewaySession.sessionId) :
    (table.openSession gatewayId resumeSessionId sessionId fresh).1.Connected otherGateway otherId ↔
      (otherGateway ≠ gatewayId ∧ table.Connected otherGateway otherId) ∨
        (otherGateway = gatewayId ∧ otherId = (table.openSession gatewayId resumeSessionId sessionId fresh).2.1) := by
  have disconnected {gatewayId : String} : (table.disconnectGateway gatewayId).Connected otherGateway otherId ↔
      otherGateway ≠ gatewayId ∧ table.Connected otherGateway otherId := disconnectGateway_connected.trans and_comm
  cases resumeSessionId with
  | none =>
    simp only [openSession]
    rw [insert_connected, disconnected]
  | some resumed =>
    simp only [openSession]
    split
    next belongs =>
      rw [connect_connected, disconnected]
      simp only [belongs, and_true]
    next => rw [insert_connected, disconnected]

theorem openSession_belongs (resumeSessionId : Option Uuid) (fresh : sessionId ∉ table.rows.map AgentGatewaySession.sessionId) :
    (table.openSession gatewayId resumeSessionId sessionId fresh).1.BelongsTo gatewayId
      (table.openSession gatewayId resumeSessionId sessionId fresh).2.1 :=
  ((openSession_connected resumeSessionId fresh).mpr (.inr ⟨rfl, rfl⟩)).belongs

theorem BelongsTo.openSession (belongs : table.BelongsTo otherGateway otherId) (resumeSessionId : Option Uuid)
    (fresh : sessionId ∉ table.rows.map AgentGatewaySession.sessionId) :
    (table.openSession gatewayId resumeSessionId sessionId fresh).1.BelongsTo otherGateway otherId := by
  have kept : (table.disconnectGateway gatewayId).BelongsTo otherGateway otherId := (disconnect_belongs _).mpr belongs
  cases resumeSessionId with
  | none =>
    simp only [SessionTable.openSession]
    rw [insert_belongs]
    exact .inl kept
  | some resumed =>
    simp only [SessionTable.openSession]
    split
    next =>
      rw [connect_belongs]
      exact kept
    next =>
      rw [insert_belongs]
      exact .inl kept

theorem closeSession_connected : (table.closeSession sessionId).Connected otherGateway otherId ↔
    table.Connected otherGateway otherId ∧ otherId ≠ sessionId := by
  rw [closeSession, disconnect_connected]
  constructor
  · rintro ⟨row, mem, id, gateway, status, spared⟩
    exact ⟨⟨row, mem, id, gateway, status⟩, by simpa [id] using spared⟩
  · rintro ⟨⟨row, mem, id, gateway, status⟩, different⟩
    exact ⟨row, mem, id, gateway, status, by simp [id, different]⟩

theorem touchSession_cases (belongs : table.BelongsTo gatewayId sessionId) :
    (∃ connected, table.Connected gatewayId connected ∧ connected ≠ sessionId ∧ table.touchSession sessionId = none) ∨
      ∃ free, table.touchSession sessionId = some (table.connect gatewayId sessionId free) := by
  obtain ⟨row, mem, id, rfl⟩ := belongs
  have isFound : table.rows.find? (fun row => row.sessionId == sessionId) = some row := by
    cases found : table.rows.find? fun row => row.sessionId == sessionId with
    | none => exact absurd (beq_iff_eq.mpr id) (List.find?_eq_none.mp found row mem)
    | some other =>
      have isOther : other.sessionId = sessionId := by simpa using List.find?_some found
      rw [List.inj_on_of_nodup_map table.distinct (List.mem_of_find?_eq_some found) mem (isOther.trans id.symm)]
  rw [touchSession, isFound]
  dsimp only
  split
  next free => exact .inr ⟨free, rfl⟩
  next taken =>
    rw [FreeFor] at taken
    push Not at taken
    obtain ⟨other, isOther, gateway, status, different⟩ := taken
    exact .inl ⟨other.sessionId, ⟨other, isOther, rfl, gateway, status⟩, different, rfl⟩

end

end SessionTable

end Vifu.Server
