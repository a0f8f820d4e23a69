import Vifu.Server.Keys.Edits

/-!
# Edits of a key are kept

An update that leaves a field out writes back what it has read.  As long as nobody has changed the field in between,
what an update has set stays until a later one names it; and as long as no lookup crosses an edit of both the row and
the selected profiles, it returns a record that the key had while it ran.
-/

namespace Vifu.Server

open Foundation
open Vifu.Gateway

def ApiKeyPatch.Of (patch : ApiKeyPatch) (input : UpdateApiKey) : Prop :=
  patch.projectId = input.projectId ∧ input.agentScope.mapM normalizeApiKeyAgentScope = .ok patch.agentScope

namespace KeyState

variable (state : KeyState)

/-- What an update that succeeded has set is there until a later edit names it. -/
def EditsKept : Prop :=
  ∀ (index : ℕ) (call : UpdateCall) (record : ApiKeyRecord), state.calls[index]? = some (.update call) →
    call.phase = .returned (.ok record) →
    ∃ before patch after, state.edits = before ++ (index, patch) :: after ∧ patch.Of call.input ∧
      ((∀ later ∈ after, later.2.projectId = none) →
        ∀ projectId ∈ patch.projectId, state.tables.key.projectId = projectId) ∧
      ((∀ later ∈ after, later.2.agentScope = none) →
        ∀ agentScope ∈ patch.agentScope, state.tables.Has agentScope)

/-- A record that a lookup returned was committed at a moment while it ran. -/
def SeenWhole : Prop :=
  ∀ (index : ℕ) (call : LookupCall) (record : ApiKeyRecord) (moment : ℕ), state.calls[index]? = some (.lookup call) →
    call.phase = .returned (.ok record) moment →
    ∃ seen tables, call.since ≤ seen ∧ seen ≤ moment ∧ state.history[seen]? = some tables ∧
      tables.record = .ok record

/-- An update writes back only what the key still has, and a lookup reads the selected profiles only while the key
still has the row that it read, or the profiles that it had then. -/
def UndisturbedCall (answer : Bool) : KeyCall → Prop
  | .update ⟨_, _, .writing patch projectId agentScope⟩ =>
    answer = true → state.tables.key.revokedAt = none →
      (patch.projectId = none → state.tables.key.projectId = projectId) ∧
        (patch.agentScope = none → state.tables.Has agentScope)
  | .lookup ⟨_, .readRow row moment⟩ =>
    state.tables.key = row ∨ (state.history[moment]?).map KeyTables.profileIds = some state.tables.profileIds
  | _ => True

/-- A step is taken by a call that nobody disturbs. -/
def Undisturbed : Action → Prop
  | .next index answer _ => ∀ call ∈ state.calls[index]?, state.UndisturbedCall answer call
  | .update _ _ | .revoke | .lookup | .fail _ => True

end KeyState

def lastNamed {α : Type} (field : ApiKeyPatch → Option α) (edits : List (ℕ × ApiKeyPatch)) : Option α :=
  edits.foldl (fun value edit => (field edit.2).or value) none

variable {α : Type}

theorem lastNamed_concat (field : ApiKeyPatch → Option α) (edits : List (ℕ × ApiKeyPatch))
    (edit : ℕ × ApiKeyPatch) : lastNamed field (edits ++ [edit]) = (field edit.2).or (lastNamed field edits) := by
  rw [lastNamed, List.foldl_append]
  rfl

theorem lastNamed_of_later {field : ApiKeyPatch → Option α} {before after : List (ℕ × ApiKeyPatch)}
    {edit : ℕ × ApiKeyPatch} {value : α} (names : field edit.2 = some value)
    (silent : ∀ later ∈ after, field later.2 = none) : lastNamed field (before ++ edit :: after) = some value := by
  rw [lastNamed, List.foldl_append, List.foldl_cons, names]
  induction after with
  | nil => rfl
  | cons later after ih =>
    rw [List.forall_mem_cons] at silent
    rw [List.foldl_cons, silent.1]
    exact ih silent.2

/-! ## The invariant -/

def KeyState.Sound (state : KeyState) (index : ℕ) : KeyCall → Prop
  | .update ⟨_, input, phase⟩ =>
    match phase with
    | .started | .readRow _ | .findingProject _ => True
    | .patched patch | .patchedRow patch _ => patch.Of input
    | .validating patch projectId agentScope | .writing patch projectId agentScope =>
      patch.Of input ∧ (∀ named ∈ patch.projectId, projectId = named) ∧ ∀ named ∈ patch.agentScope, agentScope = named
    | .written | .writtenRow _ | .returned (.ok _) => ∃ patch, (index, patch) ∈ state.edits ∧ patch.Of input
    | .returned (.error _) => True
  | .revoke _ => True
  | .lookup ⟨since, phase⟩ =>
    match phase with
    | .started => since ≤ state.moment
    | .readRow row moment => since ≤ moment ∧ moment ≤ state.moment ∧
      ∃ tables, state.history[moment]? = some tables ∧ tables.key = row
    | .returned (.ok record) moment => ∃ seen tables, since ≤ seen ∧ seen ≤ moment ∧
      state.history[seen]? = some tables ∧ tables.record = .ok record
    | .returned (.error _) _ => True

structure KeyState.Kept (state : KeyState) : Prop where
  project : ∀ projectId ∈ lastNamed ApiKeyPatch.projectId state.edits, state.tables.key.projectId = projectId
  scope : ∀ agentScope ∈ lastNamed ApiKeyPatch.agentScope state.edits, state.tables.Has agentScope
  calls : ∀ index call, state.calls[index]? = some call → state.Sound index call

/-- A later state has the same past. -/
structure KeyState.Extends (state next : KeyState) : Prop where
  history : ∀ (moment : ℕ) (tables : KeyTables), state.history[moment]? = some tables → next.history[moment]? = some tables
  edits : ∀ edit ∈ state.edits, edit ∈ next.edits
  moment : state.moment ≤ next.moment

variable {call : KeyCall} {patch : ApiKeyPatch} {current : ApiKeyRecord}

theorem KeyState.Sound.later {state next : KeyState} {index : ℕ} (sound : state.Sound index call)
    (growth : state.Extends next) : next.Sound index call := by
  cases call with
  | revoke phase => trivial
  | update call =>
    obtain ⟨required, input, phase⟩ := call
    have logged : (∃ patch, (index, patch) ∈ state.edits ∧ patch.Of input) →
        ∃ patch, (index, patch) ∈ next.edits ∧ patch.Of input := by
      rintro ⟨patch, mem, isPatch⟩
      exact ⟨patch, growth.edits _ mem, isPatch⟩
    cases phase with
    | started | readRow | findingProject => trivial
    | patched | patchedRow | validating | writing => exact sound
    | written | writtenRow => exact logged sound
    | returned result =>
      cases result with
      | ok record => exact logged sound
      | error => trivial
  | lookup call =>
    obtain ⟨since, phase⟩ := call
    cases phase with
    | started => exact le_trans sound growth.moment
    | readRow row moment =>
      obtain ⟨early, late, tables, stored, isRow⟩ := sound
      exact ⟨early, late.trans growth.moment, tables, growth.history _ _ stored, isRow⟩
    | returned result moment =>
      cases result with
      | ok record =>
        obtain ⟨seen, tables, early, late, stored, isRecord⟩ := sound
        exact ⟨seen, tables, early, late, growth.history _ _ stored, isRecord⟩
      | error => trivial

theorem KeyState.history_moment (state : KeyState) : state.history[state.moment]? = some state.tables := by
  simp [KeyState.history, KeyState.moment]

theorem KeyState.growthafter (state : KeyState) (index : ℕ) (turn : Turn) : state.Extends (state.after index turn) := by
  refine ⟨?_, ?_, ?_⟩
  · intro moment tables stored
    cases written : turn.tables with
    | none => simpa [KeyState.history, KeyState.after, written] using stored
    | some next =>
      have grows : (state.after index turn).history = state.history ++ [next] := by
        simp [KeyState.history, KeyState.after, written]
      rw [grows, List.getElem?_append_left (List.getElem?_eq_some_iff.mp stored).1]
      exact stored
  · intro edit mem
    exact List.mem_append_left _ mem
  · simp only [KeyState.moment, KeyState.after, KeyState.history]
    split <;> simp

/-! ## What a step keeps -/

theorem UpdateApiKey.patch_of {input : UpdateApiKey}
    (patches : input.patch current = .ok patch) : patch.Of input := by
  simp only [UpdateApiKey.patch, bind_ok, pure_ok] at patches
  obtain ⟨_, _, agentScope, isScope, name, _, rfl⟩ := patches
  exact ⟨rfl, isScope⟩

theorem ApiKeyPatch.merged_ok {phase : UpdatePhase} (merges : patch.merged current = .ok phase) :
    ∃ projectId agentScope, (phase = .validating patch projectId agentScope ∨ phase = .writing patch projectId agentScope) ∧
      (∀ named ∈ patch.projectId, projectId = named) ∧ ∀ named ∈ patch.agentScope, agentScope = named := by
  simp only [ApiKeyPatch.merged, bind_ok] at merges
  obtain ⟨_, _, _, _, isPhase⟩ := merges
  have projects : ∀ named ∈ patch.projectId, patch.projectId.getD current.projectId = named := by
    intro named isNamed
    rw [isNamed, Option.getD_some]
  have scopes : ∀ named ∈ patch.agentScope, patch.agentScope.getD current.agentScope = named := by
    intro named isNamed
    rw [isNamed, Option.getD_some]
  refine ⟨patch.projectId.getD current.projectId, patch.agentScope.getD current.agentScope, ?_, projects, scopes⟩
  cases isScope : patch.agentScope.getD current.agentScope with
  | all =>
    rw [isScope] at isPhase
    exact .inr (pure_ok.mp isPhase).symm
  | selected profileIds =>
    rw [isScope] at isPhase
    exact .inl (pure_ok.mp isPhase).symm

namespace KeyState

variable {state : KeyState} {index : ℕ}

section

variable (kept : state.Kept) {turn : Turn} {now : ℕ} {answer : Bool}
include kept

theorem Kept.reads (noTables : turn.tables = none) (noEdit : turn.edit = none)
    (sound : (state.after index turn).Sound index turn.call) : (state.after index turn).Kept := by
  have sameTables : (state.after index turn).tables = state.tables := by simp [after, noTables]
  have sameEdits : (state.after index turn).edits = state.edits := by simp [after, noEdit]
  refine ⟨?_, ?_, ?_⟩
  · rw [sameTables, sameEdits]
    exact kept.project
  · rw [sameTables, sameEdits]
    exact kept.scope
  · intro place call stored
    obtain ⟨rfl, rfl⟩ | ⟨-, earlier⟩ := getElem?_set_cases stored
    · exact sound
    · exact (kept.calls place call earlier).later (state.growthafter index turn)

theorem Kept.advanceWith (call : UpdateCall) {result : Except RequestError α} {phase : α → UpdatePhase}
    (sound : ∀ value, result = .ok value → ∀ next : KeyState,
      next.Sound index (.update { call with phase := phase value })) :
    (state.after index (call.advanceWith result phase)).Kept := by
  apply kept.reads rfl rfl
  cases result with
  | ok value => exact sound value rfl _
  | error error => trivial

theorem Kept.writes {projectId : Uuid} {agentScope : ApiKeyAgentScope}
    (project : ∀ named ∈ patch.projectId, projectId = named)
    (scope : ∀ named ∈ patch.agentScope, agentScope = named)
    (sameProject : patch.projectId = none → state.tables.key.projectId = projectId)
    (sameScope : patch.agentScope = none → state.tables.Has agentScope)
    (sound : ∀ next : KeyState, (index, patch) ∈ next.edits → next.Sound index call) :
    (state.after index ⟨call, some (patch.apply projectId agentScope state.tables), some patch⟩).Kept := by
  refine ⟨?_, ?_, ?_⟩
  · show ∀ named ∈ lastNamed ApiKeyPatch.projectId (state.edits ++ [(index, patch)]), projectId = named
    rw [lastNamed_concat]
    intro named isNamed
    cases isPatch : patch.projectId with
    | some value =>
      rw [isPatch, Option.some_or, Option.mem_some_iff] at isNamed
      rw [← isNamed]
      exact project value isPatch
    | none =>
      rw [isPatch] at isNamed
      rw [← sameProject isPatch]
      exact kept.project named isNamed
  · show ∀ named ∈ lastNamed ApiKeyPatch.agentScope (state.edits ++ [(index, patch)]),
      (patch.apply projectId agentScope state.tables).Has named
    rw [lastNamed_concat]
    intro named isNamed
    cases isPatch : patch.agentScope with
    | some value =>
      rw [isPatch, Option.some_or, Option.mem_some_iff] at isNamed
      rw [← isNamed, ← scope value isPatch]
      exact ⟨rfl, rfl⟩
    | none =>
      rw [isPatch] at isNamed
      -- The key has both the scope that is written back and the one that was named last.
      obtain ⟨mode, profiles⟩ := sameScope isPatch
      obtain ⟨namedMode, namedProfiles⟩ := kept.scope named isNamed
      exact ⟨mode.symm.trans namedMode, profiles.symm.trans namedProfiles⟩
  · intro place other stored
    obtain ⟨rfl, rfl⟩ | ⟨-, earlier⟩ := getElem?_set_cases stored
    · exact sound _ (List.mem_append_right _ (List.mem_singleton.mpr rfl))
    · exact (kept.calls place other earlier).later (state.growthafter index _)

theorem Kept.update {call : UpdateCall} (stored : state.calls[index]? = some (.update call))
    (undisturbed : state.Undisturbed (.next index answer now))
    (turns : call.next state.tables answer = some turn) : (state.after index turn).Kept := by
  have sound := kept.calls index _ stored
  obtain ⟨required, input, phase⟩ := call
  cases phase with
  | started =>
    cases turns
    exact kept.reads rfl rfl trivial
  | readRow row =>
    cases turns
    apply kept.advanceWith
    intro phase isPhase next
    obtain ⟨current, -, checks⟩ := bind_ok.mp isPhase
    simp only [UpdateCall.checked, bind_ok] at checks
    obtain ⟨_, -, isChecked⟩ := checks
    split at isChecked
    · cases isChecked
      trivial
    · obtain ⟨patch, patches, same⟩ := bind_ok.mp isChecked
      cases same
      exact UpdateApiKey.patch_of (mapError_ok.mp patches)
  | findingProject current =>
    cases turns
    apply kept.advanceWith
    intro patch isPatch next
    obtain ⟨_, _, patches⟩ := bind_ok.mp isPatch
    exact UpdateApiKey.patch_of (mapError_ok.mp patches)
  | patched patch =>
    cases turns
    exact kept.reads rfl rfl sound
  | patchedRow patch row =>
    cases turns
    apply kept.advanceWith
    intro phase isPhase next
    obtain ⟨current, -, merges⟩ := bind_ok.mp isPhase
    obtain ⟨projectId, agentScope, isNext, project, scope⟩ := ApiKeyPatch.merged_ok merges
    cases isNext with
    | inl isNext =>
      rw [isNext]
      exact ⟨sound, project, scope⟩
    | inr isNext =>
      rw [isNext]
      exact ⟨sound, project, scope⟩
  | validating patch projectId agentScope =>
    cases turns
    exact kept.advanceWith _ fun _ _ _ => sound
  | writing patch projectId agentScope =>
    obtain ⟨isPatch, project, scope⟩ := sound
    simp only [UpdateCall.next] at turns
    split at turns
    · cases turns
      exact kept.reads rfl rfl trivial
    next active =>
      split at turns
      next answered =>
        cases turns
        have undisturbed := undisturbed _ stored
        obtain ⟨sameProject, sameScope⟩ := undisturbed answered (not_not.mp active)
        exact kept.writes project scope sameProject sameScope fun next mem => ⟨patch, mem, isPatch⟩
      next =>
        cases turns
        exact kept.reads rfl rfl trivial
  | written =>
    cases turns
    exact kept.reads rfl rfl (sound.later (state.growthafter index _))
  | writtenRow row =>
    cases turns
    apply kept.reads rfl rfl
    obtain ⟨patch, mem, isPatch⟩ := sound
    show (state.after index _).Sound index (.update ⟨required, input, .returned (row.intoRecord state.tables.profileIds)⟩)
    cases row.intoRecord state.tables.profileIds with
    | ok record => exact ⟨patch, List.mem_append_left _ mem, isPatch⟩
    | error => trivial
  | returned => cases turns

theorem Kept.revoke {phase : RevokePhase}
    (turns : phase.next state.tables now = some turn) : (state.after index turn).Kept := by
  cases phase with
  | started =>
    cases turns
    refine ⟨?_, ?_, ?_⟩
    · simpa [after] using kept.project
    · simpa [after, KeyTables.Has] using kept.scope
    · intro place other found
      obtain ⟨rfl, rfl⟩ | ⟨-, earlier⟩ := getElem?_set_cases found
      · trivial
      · exact (kept.calls place other earlier).later (state.growthafter index _)
  | revoked =>
    cases turns
    exact kept.reads rfl rfl trivial
  | revokedRow row =>
    cases turns
    exact kept.reads rfl rfl trivial
  | returned => cases turns

theorem Kept.lookup {call : LookupCall} (stored : state.calls[index]? = some (.lookup call))
    (undisturbed : state.Undisturbed (.next index answer now))
    (turns : call.next state.tables state.moment = some turn) : (state.after index turn).Kept := by
  have sound := kept.calls index _ stored
  obtain ⟨since, phase⟩ := call
  cases phase with
  | started =>
    simp only [LookupCall.next] at turns
    split at turns
    · cases turns
      refine kept.reads rfl rfl ⟨sound, le_rfl, state.tables, ?_, rfl⟩
      exact (state.growthafter index _).history _ _ state.history_moment
    · cases turns
      exact kept.reads rfl rfl trivial
  | readRow row moment =>
    obtain ⟨early, late, tables, isTables, isRow⟩ := sound
    have undisturbed := undisturbed _ stored
    cases turns
    apply kept.reads rfl rfl
    have later := (state.growthafter index
      ⟨.lookup ⟨since, .returned (row.intoRecord state.tables.profileIds) state.moment⟩, none, none⟩).history
    show (state.after index _).Sound index (.lookup ⟨since, .returned (row.intoRecord state.tables.profileIds) state.moment⟩)
    cases isRecord : row.intoRecord state.tables.profileIds with
    | error => trivial
    | ok record =>
      cases undisturbed with
      | inl sameRow =>
        refine ⟨state.moment, state.tables, early.trans late, le_rfl, later _ _ state.history_moment, ?_⟩
        rw [KeyTables.record, sameRow, isRecord]
      | inr sameProfiles =>
        rw [isTables, Option.map_some, Option.some.injEq] at sameProfiles
        refine ⟨moment, tables, early, late, later _ _ isTables, ?_⟩
        rw [KeyTables.record, isRow, sameProfiles, isRecord]
  | returned => cases turns

theorem Kept.calling (sound : state.Sound state.calls.length call) :
    KeyState.Kept { state with calls := state.calls ++ [call] } := by
  refine ⟨kept.project, kept.scope, ?_⟩
  intro place other found
  obtain earlier | ⟨rfl, rfl⟩ := getElem?_append_cases found
  · exact (kept.calls place other earlier).later ⟨fun _ _ => id, fun _ => id, le_rfl⟩
  · exact sound.later ⟨fun _ _ => id, fun _ => id, le_rfl⟩

theorem Kept.step {next : KeyState} {action : Action} (undisturbed : state.Undisturbed action)
    (steps : state.step action = some next) : next.Kept := by
  cases action with
  | update requiredProjectId input =>
    cases steps
    exact kept.calling trivial
  | revoke =>
    cases steps
    exact kept.calling trivial
  | lookup =>
    cases steps
    exact kept.calling (le_refl state.moment)
  | next index answer now =>
    obtain ⟨call, stored, turned⟩ := Option.bind_eq_some_iff.mp steps
    obtain ⟨turn, turns, rfl⟩ := Option.map_eq_some_iff.mp turned
    cases call with
    | update call => exact kept.update stored undisturbed turns
    | revoke phase => exact kept.revoke turns
    | lookup call => exact kept.lookup stored undisturbed turns
  | fail index =>
    obtain ⟨call, failing, rfl⟩ := Option.map_eq_some_iff.mp steps
    obtain ⟨before, -, fails⟩ := Option.bind_eq_some_iff.mp failing
    refine ⟨kept.project, kept.scope, ?_⟩
    intro place other found
    obtain ⟨rfl, rfl⟩ | ⟨-, earlier⟩ := getElem?_set_cases found
    · unfold failed at fails
      split at fails
      all_goals cases fails
      all_goals trivial
    · exact (kept.calls place other earlier).later ⟨fun _ _ => id, fun _ => id, le_rfl⟩

theorem Kept.promised : state.EditsKept ∧ state.SeenWhole := by
  constructor
  · intro index call record stored returned
    obtain ⟨required, input, phase⟩ := call
    have sound := kept.calls index _ stored
    rw [show phase = .returned (.ok record) from returned] at sound
    obtain ⟨patch, mem, isPatch⟩ := sound
    obtain ⟨before, after, split⟩ := List.append_of_mem mem
    refine ⟨before, patch, after, split, isPatch, ?_, ?_⟩
    · intro silent projectId named
      apply kept.project
      rw [split]
      exact lastNamed_of_later named silent
    · intro silent agentScope named
      apply kept.scope
      rw [split]
      exact lastNamed_of_later named silent
  · intro index call record moment stored returned
    obtain ⟨since, phase⟩ := call
    have sound := kept.calls index _ stored
    rw [show phase = .returned (.ok record) moment from returned] at sound
    exact sound

end

end KeyState

/-- In every run in which updates write back only what the key still has and lookups do not cross an edit, edits are
kept and lookups see whole records. -/
theorem key_edits_kept {state : KeyState} (reachable : keyMachine.Reachable KeyState.Undisturbed state) :
    state.EditsKept ∧ state.SeenWhole := by
  have kept : state.Kept := by
    apply reachable.invariant
    · rintro state ⟨-, noEdits, noCalls⟩
      refine ⟨?_, ?_, ?_⟩
      · simp [noEdits, lastNamed]
      · simp [noEdits, lastNamed]
      · simp [noCalls]
    · intro state action next kept undisturbed steps
      exact kept.step undisturbed steps
  exact kept.promised

/-! ## Two updates and a lookup -/

instance (state : KeyState) (answer : Bool) (call : KeyCall) : Decidable (state.UndisturbedCall answer call) := by
  unfold KeyState.UndisturbedCall
  split <;> infer_instance

instance (state : KeyState) (action : KeyState.Action) : Decidable (state.Undisturbed action) := by
  cases action <;> unfold KeyState.Undisturbed <;> infer_instance

def KeyCall.updated : KeyCall → Option ApiKeyRecord
  | .update ⟨_, _, .returned (.ok record)⟩ => some record
  | _ => none

def KeyCall.found : KeyCall → Option ApiKeyRecord
  | .lookup ⟨_, .returned (.ok record) _⟩ => some record
  | _ => none

theorem KeyCall.updated_eq_some {record : ApiKeyRecord} (isUpdated : call.updated = some record) :
    ∃ update : UpdateCall, call = .update update ∧ update.phase = .returned (.ok record) := by
  unfold updated at isUpdated
  split at isUpdated
  · cases isUpdated
    exact ⟨_, rfl, rfl⟩
  · cases isUpdated

def keyProject : Uuid := ⟨"0190f2c4-7b1e-7c3a-9d52-1f6a0e8b4e19", by decide⟩

def keyProfile : Uuid := ⟨"0190f2c4-7b1e-7c3a-9d52-1f6a0e8b4e20", by decide⟩

def keyPermissions : ApiKeyPermissions := ⟨.access, .access, .none, .none, .none, .none, .none, .none⟩

def wideKey : KeyState := ⟨⟨⟨keyProject, "Project key", .all, keyPermissions, none⟩, []⟩, [], [], []⟩

def narrowKey : UpdateApiKey := ⟨none, none, some (.selected [keyProfile]), none⟩

def renameKey : UpdateApiKey := ⟨none, some "Guide key", none, none⟩

/-- The key is narrowed to one profile, and looked up. -/
theorem key_edits_kept_narrowed :
    ∃ state, keyMachine.Reachable KeyState.Undisturbed state ∧ (state.EditsKept ∧ state.SeenWhole) ∧
      (state.calls[1]?).bind KeyCall.found =
        some ⟨keyProject, "Project key", .selected [keyProfile], keyPermissions, none⟩ := by
  obtain ⟨state, reachable, passes⟩ := keyMachine.reachable_of_execute KeyState.Undisturbed
    (show keyMachine.start wideKey from ⟨rfl, rfl, rfl⟩)
    (List.flatten [[.update none narrowKey, .lookup], List.replicate 8 (.next 0 true 0), List.replicate 2 (.next 1 true 0)])
    (fun state => decide ((state.calls[1]?).bind KeyCall.found =
      some ⟨keyProject, "Project key", .selected [keyProfile], keyPermissions, none⟩)) (by decide +kernel)
  exact ⟨state, reachable, key_edits_kept reachable, of_decide_eq_true passes⟩

/-- The key is renamed while it is narrowed: the update of the name writes the old scope back. -/
theorem key_widened_by_rename :
    ¬∀ state, keyMachine.Reachable Machine.always state → state.EditsKept ∧ state.SeenWhole := by
  intro promised
  obtain ⟨state, reachable, passes⟩ := keyMachine.reachable_of_execute Machine.always
    (show keyMachine.start wideKey from ⟨rfl, rfl, rfl⟩)
    (List.flatten [[.update none renameKey, .update none narrowKey], List.replicate 4 (.next 0 true 0),
      List.replicate 8 (.next 1 true 0), List.replicate 3 (.next 0 true 0)])
    (fun state => decide (((state.calls[1]?).bind KeyCall.updated).isSome = true ∧
      state.edits.map (fun edit => (edit.1, edit.2.agentScope)) = [(1, some (.selected [keyProfile])), (0, none)] ∧
      state.tables.key.scopeMode = .all)) (by decide +kernel)
  obtain ⟨isUpdated, edits, mode⟩ := of_decide_eq_true passes
  obtain ⟨record, isRecord⟩ := Option.isSome_iff_exists.mp isUpdated
  obtain ⟨call, stored, returned⟩ := Option.bind_eq_some_iff.mp isRecord
  obtain ⟨update, rfl, isOk⟩ := KeyCall.updated_eq_some returned
  obtain ⟨before, patch, after, split, -, -, scope⟩ := (promised state reachable).1 1 update record stored isOk
  rw [split, List.map_append] at edits
  cases before with
  | nil =>
    obtain ⟨isPatch, isAfter⟩ := List.cons.inj edits
    have silent : ∀ later ∈ after, later.2.agentScope = none := by
      intro later member
      have found := List.mem_map_of_mem (f := fun edit : ℕ × ApiKeyPatch => (edit.1, edit.2.agentScope)) member
      rw [isAfter, List.mem_singleton] at found
      exact congrArg Prod.snd found
    have narrowed := (scope silent (.selected [keyProfile]) (congrArg Prod.snd isPatch)).1
    rw [mode] at narrowed
    cases narrowed
  | cons first before =>
    obtain ⟨-, rest⟩ := List.cons.inj edits
    cases before with
    | nil => exact absurd (show (1 : ℕ) = 0 from congrArg Prod.fst (List.cons.inj rest).1) Nat.one_ne_zero
    | cons second before => simp at rest

end Vifu.Server
