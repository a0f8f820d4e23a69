import Vifu.Server.Keys.Edits
import Vifu.Server.Traces.Pagination

/-!
# Traces that a scoped key reads

The three handlers through which a key of a project reads traces.  The profiles that the key is limited to go into the
query itself, ahead of its limit, and are compared with the profile of a trace whose spans or scores are asked for.
-/

namespace Vifu.Server

open Foundation
open Vifu.Gateway
open Vifu.Runtime hiding validateIdentifier

/-! ## Rows -/

structure TraceScore where
  id : Uuid
  traceId : Uuid
  spanId : Option Uuid
  name : String
  dataType : String
  value : Value
  source : String
  createdAt : Timestamp
  deriving DecidableEq

/-- The primary key and `UNIQUE (trace_id, name, source)`. -/
instance : Keyed TraceScore where
  Key := Uuid × String × String × Uuid
  key row := (row.id, row.name, row.source, row.traceId)
  conflicts first second := first.1 == second.1 || first.2 == second.2
  symmetric _ _ := congrArg₂ or Bool.beq_comm Bool.beq_comm
  reflexive key := by rw [beq_self_eq_true, Bool.true_or]

structure TraceStore extends TraceTables where
  traceScores : Rows TraceScore

/-- The columns of a listed trace that other tables have. -/
structure JoinedColumns where
  gatewayId : Option String
  gatewayName : Option String
  gatewayMetadata : Option Value
  profileSlug : Option String
  profileName : Option String
  profileVersionNumber : Option ℕ
  providerName : Option String
  deriving DecidableEq

structure ListedTrace where
  trace : EndpointTrace
  joined : JoinedColumns
  model : Option String
  completionStartMs : Option ℕ
  usage : Option Value
  decodeMs : Option ℕ
  appOutcome : Option String
  deriving DecidableEq

structure SessionIdentity where
  gatewayId : String
  metadata : Value

/-- What the handlers read from the headers and from the tables without traces. -/
structure ProjectReads where
  deploymentCredential : Option String
  bearerToken : Option String
  projectBySlug : String → Except RequestError Project
  authorizeProject : Project → Except RequestError Unit
  activeApiKey : (token : String) → Except RequestError ApiKeyRecord
  projectEndpoint : (projectId endpointId : Uuid) → Except RequestError Unit
  gatewaySessions : Project → Except RequestError (List SessionIdentity)
  joined : EndpointTrace → JoinedColumns

def appFeedbackNames : List String := ["OUTPUT_ACCEPTED", "ACTION_APPLIED", "FRAME_PRESENTED"]

/-- `app_outcome`, of the application's scores of a trace. -/
def appOutcome (scores : List TraceScore) : Option String :=
  let feedback := scores.filter fun score => score.source == "application" && appFeedbackNames.contains score.name
  let complete := (feedback.map (·.name)).dedup.length = 3
  if feedback.any (·.value == .string "fail") then some "fail"
  else if feedback.any (·.value == .string "unknown") then some "unknown"
  else if complete ∧ feedback.any (·.value == .string "pass") then some "pass"
  else if complete ∧ ¬feedback.any (fun score => score.value != .null && score.value != .string "notApplicable") then
    some "notApplicable"
  else if feedback ≠ [] then some "unknown"
  else none

namespace TraceStore

variable (store : TraceStore) (traceId : Uuid)

def spansOf : List TraceSpan := store.traceSpans.filter (·.traceId == traceId)

def scoresOf : List TraceScore := store.traceScores.filter (·.traceId == traceId)

/-- `ORDER BY created_at ASC`, with equal times in the order of the table. -/
def listTraceSpans : List TraceSpan :=
  (store.spansOf traceId).insertionSort fun first second => ¬second.createdAt.text < first.createdAt.text

def listTraceScores : List TraceScore :=
  (store.scoresOf traceId).insertionSort fun first second => first.createdAt.text < second.createdAt.text ∨
    first.createdAt.text = second.createdAt.text ∧ ¬Uuid.Less second.id first.id

def getTraceIdentity : Except RequestError (Option Uuid × Option Uuid) :=
  okOr (.api .notFound) ((store.endpointTraces.find? (·.id == traceId)).map fun trace => (trace.projectId, trace.profileId))

def listed (joined : EndpointTrace → JoinedColumns) (trace : EndpointTrace) : ListedTrace :=
  let spans := store.spansOf trace.id
  let root := ((spans.filter (·.parentSpanId.isNone)).insertionSort fun first second => first.place.Earlier second.place).head?
  let decode := ((spans.filter fun span => span.kind == "provider_stage" && span.name == "Decode").insertionSort
    fun first second => second.place.Earlier first.place).head?
  { trace
    joined := joined trace
    model := root.bind (·.model)
    completionStartMs := root.bind (·.completionStartMs)
    usage := root.bind (·.usage)
    decodeMs := decode.bind (·.durationMs)
    appOutcome := appOutcome (store.scoresOf trace.id) }

/-- The rows of `list_traces`. -/
def listTraceRows (joined : EndpointTrace → JoinedColumns) (options : TraceListOptions) :
    Except RequestError (List ListedTrace) :=
  ((store.listTraces options).map fun traces => traces.map (store.listed joined)).mapError .api

end TraceStore

/-! ## Handlers -/

structure TraceQuery where
  endpointId : Option Uuid
  projectId : Option Uuid
  requestId : Option Uuid
  traceId : Option Uuid
  from_ : Option DateTime
  to_ : Option DateTime
  beforeCreatedAt : Option DateTime
  beforeTraceId : Option Uuid
  limit : Option ℤ

def DateTime.parts (time : DateTime) : List ℤ :=
  [time.year, time.month, time.day, time.hour, time.minute, time.second, time.nanosecond]

namespace TraceQuery

variable (query : TraceQuery)

def validate : Except RequestError Unit := do
  ensure (query.beforeCreatedAt.isSome = query.beforeTraceId.isSome)
    (.api (.invalid "beforeCreatedAt and beforeTraceId must be provided together"))
  ensure (∀ from_ ∈ query.from_, ∀ to_ ∈ query.to_, from_.parts < to_.parts) (.api (.invalid "from must be earlier than to"))
  let exact := query.requestId.isSome || query.traceId.isSome
  let ranged := query.from_.isSome || query.to_.isSome || query.beforeCreatedAt.isSome || query.beforeTraceId.isSome
  ensure ((exact && ranged) = false)
    (.api (.invalid "exact trace lookup cannot be combined with date or cursor filters"))

def cursor : Option TraceCursor := do
  return { createdAt := ← query.beforeCreatedAt, traceId := ← query.beforeTraceId }

def pageLimit : ℕ := (max 1 (min 500 (query.limit.getD 100))).toNat

end TraceQuery

structure TracePage where
  traces : List ListedTrace
  nextCursor : Option TraceCursor
  deriving DecidableEq

def tracePagePayload (traces : List ListedTrace) (limit : ℕ) : TracePage where
  traces := traces.take limit
  nextCursor :=
    if limit < traces.length then
      (traces.take limit).getLast?.map fun listed => ⟨listed.trace.createdAt.read, listed.trace.id⟩
    else none

def textField (key : String) (value : Value) : Option String :=
  match getField key (fieldsOf value) with
  | some (.string text) => if trim text = "" then none else some (trim text)
  | _ => none

def hydrateTraceGatewayIdentity (sessions : List SessionIdentity) (listed : ListedTrace) : ListedTrace :=
  match listed.joined.gatewayId.or (textField "gatewayId" listed.trace.request) with
  | none => listed
  | some gatewayId =>
    let joined := { listed.joined with gatewayId := some gatewayId }
    match sessions.find? (·.gatewayId == gatewayId) with
    | none => { listed with joined }
    | some session =>
      { listed with
        joined := { joined with
          gatewayName := joined.gatewayName.or ((textField "name" session.metadata).or (some gatewayId))
          gatewayMetadata := joined.gatewayMetadata.or (some session.metadata) } }

inductive TraceProfileScope where
  | all
  | selected (profileIds : List Uuid)

namespace TraceProfileScope

def fromAgentScope : ApiKeyAgentScope → TraceProfileScope
  | .all => all
  | .selected profileIds => selected profileIds

def allowedProfileIds : TraceProfileScope → Option (List Uuid)
  | all => none
  | selected profileIds => some profileIds

def allows (profileId : Option Uuid) : TraceProfileScope → Bool
  | all => true
  | selected profileIds => profileId.any profileIds.contains

end TraceProfileScope

structure AuthorizedProjectTraceRead where
  project : Project
  profileScope : TraceProfileScope

def TraceQuery.options (query : TraceQuery) (authorized : AuthorizedProjectTraceRead) : TraceListOptions where
  endpointId := query.endpointId
  projectId := some authorized.project.id
  requestId := query.requestId
  traceId := query.traceId
  allowedProfileIds := authorized.profileScope.allowedProfileIds
  createdFrom := query.from_
  createdBefore := query.to_
  cursor := query.cursor
  limit := query.pageLimit + 1

namespace ProjectReads

variable (reads : ProjectReads) (slug : String)

def authorizedProjectTraceRead : Except RequestError AuthorizedProjectTraceRead := do
  let _ ← okOr (.api .unauthorized) reads.deploymentCredential
  let project ← reads.projectBySlug slug
  match reads.authorizeProject project with
  | .ok () => return ⟨project, .all⟩
  | .error deploymentError =>
    let token ← okOr deploymentError (reads.bearerToken.filter ("vifu_pk_".toList.isPrefixOf ·.toList))
    let key ← reads.activeApiKey token
    ensure (key.projectId = project.id) .agentAccessDenied
    ensure (key.permissions.project = .read ∨ key.permissions.project = .write) .endpointAccessDenied
    return ⟨project, .fromAgentScope key.agentScope⟩

def listProjectTraces (store : TraceStore) (query : TraceQuery) : Except RequestError TracePage := do
  let authorized ← reads.authorizedProjectTraceRead slug
  query.validate
  ensure (∀ projectId ∈ query.projectId, projectId = authorized.project.id)
    (.api (.invalid "projectId does not match the project route"))
  query.endpointId.elim (.ok ()) (reads.projectEndpoint authorized.project.id)
  let rows ← store.listTraceRows reads.joined (query.options authorized)
  let sessions ← reads.gatewaySessions authorized.project
  return tracePagePayload (rows.map (hydrateTraceGatewayIdentity sessions)) query.pageLimit

/-- What `list_project_trace_spans` and `list_project_trace_scores` check. -/
def checkTraceRead (store : TraceStore) (traceId : Uuid) : Except RequestError Unit := do
  let authorized ← reads.authorizedProjectTraceRead slug
  let identity ← store.getTraceIdentity traceId
  ensure (identity.1 = some authorized.project.id ∧ authorized.profileScope.allows identity.2 = true) (.api .notFound)

def listProjectTraceSpans (store : TraceStore) (traceId : Uuid) : Except RequestError (List TraceSpan) := do
  reads.checkTraceRead slug store traceId
  return store.listTraceSpans traceId

def listProjectTraceScores (store : TraceStore) (traceId : Uuid) : Except RequestError (List TraceScore) := do
  reads.checkTraceRead slug store traceId
  return store.listTraceScores traceId

end ProjectReads

/-! ## Two databases -/

def InScope (profileIds : List Uuid) (trace : EndpointTrace) : Prop := trace.profileId.any profileIds.contains = true

/-- Two databases that differ only in the traces outside the scope, and in the spans and the scores of these. -/
structure AgreeWithin (profileIds : List Uuid) (first second : TraceStore) : Prop where
  traces : ∀ trace, InScope profileIds trace → (trace ∈ first.endpointTraces ↔ trace ∈ second.endpointTraces)
  spans : ∀ trace ∈ first.endpointTraces, InScope profileIds trace → first.spansOf trace.id = second.spansOf trace.id
  scores : ∀ trace ∈ first.endpointTraces, InScope profileIds trace → first.scoresOf trace.id = second.scoresOf trace.id

variable {options : TraceListOptions} {trace : EndpointTrace} {traceId : Uuid}

theorem TraceListOptions.inScope {profileIds : List Uuid}
    (limited : options.allowedProfileIds = some profileIds) (selected : options.selects trace = true) :
    InScope profileIds trace := by
  simp only [TraceListOptions.selects, Bool.and_eq_true, limited, Option.all_some] at selected
  exact selected.1.1.1.2

section

variable {profileIds : List Uuid} {first second : TraceStore} (agree : AgreeWithin profileIds first second)
include agree

theorem AgreeWithin.symm : AgreeWithin profileIds second first where
  traces trace inScope := (agree.traces trace inScope).symm
  spans trace stored inScope := (agree.spans trace ((agree.traces trace inScope).mpr stored) inScope).symm
  scores trace stored inScope := (agree.scores trace ((agree.traces trace inScope).mpr stored) inScope).symm

theorem AgreeWithin.listed (stored : trace ∈ first.endpointTraces)
    (inScope : InScope profileIds trace) (joined : EndpointTrace → JoinedColumns) :
    first.listed joined trace = second.listed joined trace := by
  rw [TraceStore.listed, TraceStore.listed, agree.spans trace stored inScope, agree.scores trace stored inScope]

theorem AgreeWithin.found
    (isFound : first.endpointTraces.find? (·.id == traceId) = some trace) (inScope : InScope profileIds trace) :
    second.endpointTraces.find? (·.id == traceId) = some trace := by
  obtain ⟨stored, named⟩ := Rows.mem_of_find? isFound
  rw [Rows.find?_eq_some]
  · exact ⟨(agree.traces trace inScope).mp stored, named⟩
  · intro other same alike
    simp only [beq_iff_eq] at same alike
    simp [clash, Keyed.conflicts, Keyed.key, same, alike]

theorem AgreeWithin.sorted (limited : options.allowedProfileIds = some profileIds) :
    (first.endpointTraces.filter options.selects).insertionSort EndpointTrace.Before =
      (second.endpointTraces.filter options.selects).insertionSort EndpointTrace.Before := by
  have nodup : ∀ store : TraceStore, (store.endpointTraces.filter options.selects).Nodup := by
    intro store
    apply (store.endpointTraces.apart.sublist List.filter_sublist).imp
    rintro row _ free rfl
    rw [clash_self] at free
    contradiction
  have sameRows : ∀ row, row ∈ first.endpointTraces.filter options.selects ↔
      row ∈ second.endpointTraces.filter options.selects := by
    intro row
    rw [Rows.mem_filter, Rows.mem_filter]
    exact and_congr_left fun selected => agree.traces row (options.inScope limited selected)
  apply List.Perm.eq_of_pairwise
  · intro row other isRow isOther before after
    rw [List.mem_insertionSort] at isRow isOther
    exact TraceTables.trace_unique (Rows.mem_filter.mp isRow).1 (Rows.mem_filter.mp ((sameRows other).mpr isOther)).1
      (EndpointTrace.Before.antisymm before after)
  · exact List.pairwise_insertionSort EndpointTrace.Before _
  · exact List.pairwise_insertionSort EndpointTrace.Before _
  · exact (List.perm_insertionSort _ _).trans (((List.perm_ext_iff_of_nodup (nodup first) (nodup second)).mpr sameRows).trans
      (List.perm_insertionSort _ _).symm)

theorem AgreeWithin.rows (limited : options.allowedProfileIds = some profileIds)
    (joined : EndpointTrace → JoinedColumns) :
    first.listTraceRows joined options = second.listTraceRows joined options := by
  rw [TraceStore.listTraceRows, TraceStore.listTraceRows, TraceTables.listTraces, TraceTables.listTraces, ← agree.sorted limited]
  split
  · rfl
  · simp only [Except.map, Except.mapError, Except.ok.injEq]
    apply List.map_congr_left
    intro trace shown
    have selected := Rows.mem_filter.mp ((List.mem_insertionSort _).mp (List.mem_of_mem_take shown))
    exact agree.listed selected.1 (options.inScope limited selected.2) joined

end

/-! ## Responses to a scoped key -/

namespace ProjectReads

variable {reads : ProjectReads} {slug : String} {profileIds : List Uuid} {store first second : TraceStore}
  {authorized : AuthorizedProjectTraceRead}

theorem scope_of_key {token : String} {key : ApiKeyRecord}
    (refused : ∀ project, reads.authorizeProject project ≠ .ok ()) (isToken : reads.bearerToken = some token)
    (isKey : reads.activeApiKey token = .ok key) (limited : key.agentScope = .selected profileIds)
    (isAuthorized : reads.authorizedProjectTraceRead slug = .ok authorized) :
    authorized.profileScope = .selected profileIds := by
  obtain ⟨_, -, isAuthorized⟩ := bind_ok.mp isAuthorized
  obtain ⟨project, -, isAuthorized⟩ := bind_ok.mp isAuthorized
  split at isAuthorized
  next accepts => exact absurd accepts (refused project)
  next =>
    obtain ⟨other, isOther, isAuthorized⟩ := bind_ok.mp isAuthorized
    obtain ⟨found, isFound, isAuthorized⟩ := bind_ok.mp isAuthorized
    obtain ⟨-, isAuthorized⟩ := check_bind_ok.mp isAuthorized
    obtain ⟨-, isAuthorized⟩ := check_bind_ok.mp isAuthorized
    rw [okOr_ok, isToken, Option.filter_eq_some_iff] at isOther
    cases isOther.1
    cases isKey.symm.trans isFound
    cases isAuthorized
    rw [limited]
    rfl

section

variable (scope : ∀ authorized, reads.authorizedProjectTraceRead slug = .ok authorized →
  authorized.profileScope = .selected profileIds)
include scope

theorem checkTraceRead_outside (isAuthorized : reads.authorizedProjectTraceRead slug = .ok authorized)
    (outside : ∀ trace, store.endpointTraces.find? (·.id == traceId) = some trace → ¬InScope profileIds trace) :
    reads.checkTraceRead slug store traceId = .error (.api .notFound) := by
  simp only [checkTraceRead, isAuthorized, TraceStore.getTraceIdentity, bind, Except.bind]
  cases found : store.endpointTraces.find? (·.id == traceId) with
  | none => rfl
  | some trace =>
    have refuses : authorized.profileScope.allows trace.profileId ≠ true := by
      rw [scope authorized isAuthorized]
      exact outside trace found
    simp [okOr, ensure, refuses]

variable (agree : AgreeWithin profileIds first second)
include agree

theorem checkTraceRead_same (traceId : Uuid) :
    reads.checkTraceRead slug first traceId = reads.checkTraceRead slug second traceId ∧
      (reads.checkTraceRead slug first traceId = .ok () →
        first.spansOf traceId = second.spansOf traceId ∧ first.scoresOf traceId = second.scoresOf traceId) := by
  cases isAuthorized : reads.authorizedProjectTraceRead slug with
  | error error =>
    have fails : ∀ store, reads.checkTraceRead slug store traceId = .error error := by
      intro store
      rw [checkTraceRead, isAuthorized]
      rfl
    rw [fails, fails]
    exact ⟨rfl, fun passes => by cases passes⟩
  | ok authorized =>
    by_cases within : ∃ trace, first.endpointTraces.find? (·.id == traceId) = some trace ∧ InScope profileIds trace
    · obtain ⟨trace, isFound, inScope⟩ := within
      obtain ⟨stored, named⟩ := Rows.mem_of_find? isFound
      rw [beq_iff_eq] at named
      subst named
      refine ⟨?_, fun _ => ⟨agree.spans trace stored inScope, agree.scores trace stored inScope⟩⟩
      rw [checkTraceRead, checkTraceRead, TraceStore.getTraceIdentity, TraceStore.getTraceIdentity, isFound,
        agree.found isFound inScope]
    · have neither : reads.checkTraceRead slug first traceId = .error (.api .notFound) :=
        checkTraceRead_outside scope isAuthorized fun trace isFound inScope => within ⟨trace, isFound, inScope⟩
      have nor : reads.checkTraceRead slug second traceId = .error (.api .notFound) :=
        checkTraceRead_outside scope isAuthorized fun trace isFound inScope =>
          within ⟨trace, agree.symm.found isFound inScope, inScope⟩
      rw [neither, nor]
      exact ⟨rfl, fun passes => by cases passes⟩

theorem listProjectTraces_same (query : TraceQuery) :
    reads.listProjectTraces slug first query = reads.listProjectTraces slug second query := by
  rw [listProjectTraces, listProjectTraces]
  cases isAuthorized : reads.authorizedProjectTraceRead slug with
  | error error => rfl
  | ok authorized =>
    have limited : (query.options authorized).allowedProfileIds = some profileIds := by
      rw [TraceQuery.options, scope authorized isAuthorized]
      rfl
    simp only [bind, Except.bind, agree.rows limited reads.joined]

end

theorem scopedKey_learns_nothing {token : String} {key : ApiKeyRecord}
    (refused : ∀ project, reads.authorizeProject project ≠ .ok ()) (isToken : reads.bearerToken = some token)
    (isKey : reads.activeApiKey token = .ok key) (limited : key.agentScope = .selected profileIds)
    (agree : AgreeWithin profileIds first second) (slug : String) :
    (∀ query, reads.listProjectTraces slug first query = reads.listProjectTraces slug second query) ∧
      ∀ traceId, reads.listProjectTraceSpans slug first traceId = reads.listProjectTraceSpans slug second traceId ∧
        reads.listProjectTraceScores slug first traceId = reads.listProjectTraceScores slug second traceId := by
  have scope : ∀ authorized, reads.authorizedProjectTraceRead slug = .ok authorized →
      authorized.profileScope = .selected profileIds := fun _ => scope_of_key refused isToken isKey limited
  refine ⟨listProjectTraces_same scope agree, fun traceId => ?_⟩
  obtain ⟨same, read⟩ := checkTraceRead_same scope agree traceId
  rw [listProjectTraceSpans, listProjectTraceSpans, listProjectTraceScores, listProjectTraceScores, ← same]
  cases passes : reads.checkTraceRead slug first traceId with
  | error error => exact ⟨rfl, rfl⟩
  | ok _ =>
    obtain ⟨sameSpans, sameScores⟩ := read passes
    rw [TraceStore.listTraceSpans, TraceStore.listTraceSpans, TraceStore.listTraceScores, TraceStore.listTraceScores,
      sameSpans, sameScores]
    exact ⟨rfl, rfl⟩

end ProjectReads

def townScopedKey : ApiKeyRecord where
  projectId := townTraceProject
  name := "town"
  agentScope := .selected [townTraceFirst]
  permissions := ⟨.none, .none, .none, .none, .none, .none, .none, .read⟩
  revokedAt := none

def townReads : ProjectReads where
  deploymentCredential := some "vifu_pk_town"
  bearerToken := some "vifu_pk_town"
  projectBySlug _ := .ok ⟨townTraceProject, "town", none, "town", "Town", none, "gateway", true, 1⟩
  authorizeProject _ := .error (.api .unauthorized)
  activeApiKey _ := .ok townScopedKey
  projectEndpoint _ _ := .error (.api .notFound)
  gatewaySessions _ := .ok []
  joined _ := ⟨none, none, none, none, none, none, none⟩

def townShown : EndpointTrace := { townTrace townTraceFirst with profileId := some townTraceFirst }.row townClock townTraceFirst

def townHidden : EndpointTrace := (townTrace townTraceSecond).row townClock townTraceSecond

def townStore (traces : Rows EndpointTrace) : TraceStore where
  endpointTraces := traces
  traceSpans := .empty
  traceScores := .empty

theorem scopedKey_learns_nothing_town :
    let first := townStore (.singleton townShown)
    let second := townStore ⟨[townHidden, townShown], by decide +kernel⟩
    ∀ query, townReads.listProjectTraces "town" first query = townReads.listProjectTraces "town" second query := by
  intro first second
  have agree : AgreeWithin [townTraceFirst] first second := by
    refine ⟨fun trace inScope => ?_, fun _ _ _ => rfl, fun _ _ _ => rfl⟩
    have visible : trace ≠ townHidden := by
      rintro rfl
      exact absurd inScope Bool.false_ne_true
    constructor
    · intro stored
      exact List.mem_cons_of_mem _ stored
    · intro stored
      exact (List.mem_cons.mp stored).resolve_left visible
  exact (ProjectReads.scopedKey_learns_nothing (fun _ accepts => by cases accepts) rfl rfl rfl agree "town").1

end Vifu.Server
