import Vifu.Server.Guests.Projects

/-!
# Claims of guest projects

A claimed guest project keeps its row, and with it its token and its project, as long as nobody promotes it.  So the
token serves one user, the project stays with this user, and the guest has nothing left at its gateways.
-/

namespace Vifu.Server

open Foundation
open Vifu.Gateway

def Database.HandedOver (database : Database) (projectId : Uuid) : Prop :=
  ∀ row ∈ database.agentGatewayAuthorizations, database.gatewayOf projectId row.gatewayId = true →
    row.ownerUserId ≠ none ∧ row.ownerUserId ≠ some (guestOwner projectId)

def Database.OwnedBy (database : Database) (projectId : Uuid) (ownerUserId : String) : Prop :=
  ∃ project ∈ database.projects, project.id = projectId ∧ project.ownerUserId = some ownerUserId

namespace GuestState

variable (state : GuestState)

def ClaimedOnce : Prop :=
  ∀ token user other first second, .claimed token user first ∈ state.log → .claimed token other second ∈ state.log →
    user = other

def FailedUnchanged : Prop := ∀ before after, .failed before after ∈ state.log → after = before

def ClaimedKept : Prop :=
  ∀ token user projectId, .claimed token user projectId ∈ state.log →
    state.database.OwnedBy projectId user ∧ state.database.HandedOver projectId

/-- No claimed project is promoted, no user has the name of a guest, and the project is read after a claim. -/
def Careful (action : Action) : Prop :=
  match action.call with
  | .claim _ ownerUserId =>
    action.fault ≠ some .read ∧ ∀ guest ∈ state.database.guestProjects, ownerUserId ≠ guestOwner guest.projectId
  | .promote projectId =>
    action.fault ≠ some .transaction → ∀ guest ∈ state.database.guestProjects, guest.projectId = projectId → guest.claim = none
  | .create _ | .prune => True

end GuestState

/-! ## The statements of a claim -/

section

variable {database : Database} {projectId other : Uuid} {ownerUserId user : String} {dropped : Uuid → Bool}

theorem Database.takeOver_ownedBy {project : Project} (stored : project ∈ database.projects)
    (isProject : project.id = projectId) (unowned : project.ownerUserId = none) :
    (database.takeOver projectId ownerUserId).OwnedBy projectId ownerUserId := by
  refine ⟨{ project with ownerUserId := some ownerUserId }, ?_, isProject, rfl⟩
  rw [takeOver, Rows.mem_update]
  exact ⟨project, stored, if_pos (by simp [isProject, unowned])⟩

theorem Database.OwnedBy.takeOver (owned : database.OwnedBy other user) :
    (database.takeOver projectId ownerUserId).OwnedBy other user := by
  obtain ⟨project, stored, isProject, isOwner⟩ := owned
  refine ⟨project, ?_, isProject, isOwner⟩
  rw [Database.takeOver, Rows.mem_update]
  exact ⟨project, stored, if_neg (by simp [isOwner])⟩

theorem Database.mem_handOver {row : AgentGatewayAuthorization}
    (mem : row ∈ (database.handOver projectId ownerUserId).agentGatewayAuthorizations) :
    row.ownerUserId = some ownerUserId ∨
      row ∈ database.agentGatewayAuthorizations ∧ database.guestAuthorization projectId row = false := by
  obtain ⟨stored, isStored, rfl⟩ := List.mem_map.mp mem
  cases guest : database.guestAuthorization projectId stored with
  | true =>
    left
    rw [Rows.updated, if_pos guest]
    rfl
  | false =>
    right
    rw [Rows.updated, if_neg (by simp [guest])]
    exact ⟨isStored, guest⟩

theorem Database.handOver_handedOver (named : ownerUserId ≠ guestOwner projectId) :
    (database.handOver projectId ownerUserId).HandedOver projectId := by
  intro row mem assigned
  cases Database.mem_handOver mem with
  | inl isUser =>
    rw [isUser]
    exact ⟨by simp, by simpa using named⟩
  | inr earlier =>
    obtain ⟨-, others⟩ := earlier
    have assigned : database.gatewayOf projectId row.gatewayId = true := assigned
    simpa [Database.guestAuthorization, assigned, Option.isSome_iff_ne_none] using others

theorem Database.HandedOver.handOver (handed : database.HandedOver other) (named : ownerUserId ≠ guestOwner other) :
    (database.handOver projectId ownerUserId).HandedOver other := by
  intro row mem assigned
  cases Database.mem_handOver mem with
  | inl isUser =>
    rw [isUser]
    exact ⟨by simp, by simpa using named⟩
  | inr earlier => exact handed row earlier.1 assigned

theorem Database.OwnedBy.dropProjects (owned : database.OwnedBy projectId user)
    (kept : dropped projectId = false) : (database.dropProjects dropped).OwnedBy projectId user := by
  obtain ⟨project, mem, rfl, isOwner⟩ := owned
  exact ⟨project, Rows.mem_delete.mpr ⟨mem, kept⟩, rfl, isOwner⟩

theorem Database.HandedOver.dropProjects (handed : database.HandedOver projectId) :
    (database.dropProjects dropped).HandedOver projectId := by
  intro row mem assigned
  apply handed row mem
  simp only [gatewayOf, deploymentOf, Database.dropProjects, Rows.any_eq_true, Rows.mem_delete, Bool.and_eq_true]
    at assigned ⊢
  obtain ⟨assignment, ⟨stored, -⟩, isGateway, deployment, ⟨deployed, -⟩, isDeployment⟩ := assigned
  exact ⟨assignment, stored, isGateway, deployment, deployed, isDeployment⟩

theorem Database.OwnedBy.getProject (owned : database.OwnedBy projectId user) :
    (database.getProject projectId).isOk = true := by
  obtain ⟨project, mem, isProject, -⟩ := owned
  obtain ⟨found, isFound⟩ := Option.isSome_iff_exists.mp
    (Rows.find?_isSome (p := fun row => row.id == projectId).mpr ⟨project, mem, beq_iff_eq.mpr isProject⟩)
  rw [Database.getProject, isFound]
  rfl

end

theorem GuestProject.unique {guests : Rows GuestProject} {first second : GuestProject} (mem : first ∈ guests)
    (stored : second ∈ guests)
    (same : first.projectId = second.projectId ∨ first.claimTokenHash = second.claimTokenHash) : first = second := by
  apply Rows.unique mem stored
  simp only [clash, Keyed.conflicts, Keyed.key, Bool.or_eq_true, beq_iff_eq]
  tauto

/-! ## The invariant -/

def GuestDatabase.Sound (database : GuestDatabase) : Prop :=
  ∀ guest ∈ database.guestProjects, ∀ user ∈ guest.claimedBy,
    database.OwnedBy guest.projectId user ∧ database.HandedOver guest.projectId

structure GuestState.Kept (state : GuestState) : Prop where
  sound : state.database.Sound
  claimed : ∀ token user projectId, .claimed token user projectId ∈ state.log →
    ∃ guest ∈ state.database.guestProjects, guest.claimTokenHash = token ∧ guest.projectId = projectId ∧
      guest.claimedBy = some user
  unchanged : state.FailedUnchanged

def GuestDatabase.KeepsClaimed (database next : GuestDatabase) : Prop :=
  ∀ guest ∈ database.guestProjects, guest.claim ≠ none → guest ∈ next.guestProjects

variable {guest : GuestProject} {projectId : Uuid} {token : Hash} {now : ℕ}

theorem GuestProject.claim_of_claimedBy {user : String} (claimed : guest.claimedBy = some user) :
    guest.claim ≠ none := by
  intro unclaimed
  rw [claimedBy, unclaimed] at claimed
  cases claimed

namespace GuestDatabase

variable {database next : GuestDatabase}

theorem Sound.create (sound : database.Sound) {input : NewGuestProject}
    (creates : database.createGuestProject input = .ok next) : next.Sound ∧ database.KeepsClaimed next := by
  simp only [createGuestProject, bind_ok, okOr_ok, pure_ok] at creates
  obtain ⟨rows, inserted, _, -, rfl⟩ := creates
  constructor
  · intro guest mem user isUser
    cases (Rows.mem_insert? inserted).mp mem with
    | inl earlier => exact sound guest earlier user isUser
    | inr isNew =>
      rw [isNew] at isUser
      cases isUser
  · intro guest mem _
    exact (Rows.mem_insert? inserted).mpr (.inl mem)

theorem Sound.promote (sound : database.Sound)
    (unclaimed : ∀ guest ∈ database.guestProjects, guest.projectId = projectId → guest.claim = none) :
    (database.promoteGuestProject projectId).Sound ∧
      database.KeepsClaimed (database.promoteGuestProject projectId) := by
  rw [promoteGuestProject]
  split
  · constructor
    · intro guest mem user isUser
      obtain ⟨⟨project, stored, isProject, isOwner⟩, handed⟩ := sound guest (Rows.mem_delete.mp mem).1 user isUser
      refine ⟨?_, handed⟩
      simp only [Database.OwnedBy, Rows.mem_update, Rows.updated]
      refine ⟨_, ⟨project, stored, rfl⟩, ?_⟩
      split
      · exact ⟨isProject, isOwner⟩
      · exact ⟨isProject, isOwner⟩
    · intro guest mem claimed
      refine Rows.mem_delete.mpr ⟨mem, ?_⟩
      rw [beq_eq_false_iff_ne]
      exact fun same => claimed (unclaimed guest mem same)
  · exact ⟨sound, fun guest mem _ => mem⟩

theorem hasExpired_of_claimed (mem : guest ∈ database.guestProjects)
    (claimed : guest.claim ≠ none) (now : ℕ) : database.hasExpired now guest.projectId = false := by
  refine Rows.any_eq_false.mpr fun other stored => ?_
  by_cases same : other.projectId = guest.projectId
  · rw [GuestProject.unique stored mem (.inl same)]
    simp [claimed]
  · simp [same]

theorem Sound.prune (sound : database.Sound) (now : ℕ) : (database.pruneExpiredGuestProjects now).Sound ∧
      database.KeepsClaimed (database.pruneExpiredGuestProjects now) := by
  constructor
  · intro guest mem user isUser
    obtain ⟨stored, kept⟩ := Rows.mem_delete.mp mem
    obtain ⟨owned, handed⟩ := sound guest stored user isUser
    exact ⟨owned.dropProjects kept, handed.dropProjects⟩
  · intro guest mem claimed
    exact Rows.mem_delete.mpr ⟨mem, hasExpired_of_claimed mem claimed now⟩

theorem mem_setClaim {claimable : GuestProject → Bool} {user : String} :
    guest ∈ database.setClaim now claimable user ↔
      ∃ row ∈ database.guestProjects, Rows.updated claimable (fun row => { row with claim := some (user, now) }) row = guest := by
  rw [setClaim, Rows.mem_update]

theorem Sound.claim (sound : database.Sound) {user : String}
    (named : ∀ guest ∈ database.guestProjects, user ≠ guestOwner guest.projectId)
    (claims : database.claimGuestProject now token user = .ok (projectId, next)) :
    next.Sound ∧ database.KeepsClaimed next ∧
      ∃ guest ∈ next.guestProjects, guest.claimTokenHash = token ∧ guest.projectId = projectId ∧
        guest.claimedBy = some user := by
  simp only [claimGuestProject] at claims
  split at claims
  next guest found =>
    -- The guest is claimed for the first time.
    obtain ⟨mem, isGuest⟩ := Rows.mem_of_find? found
    simp only [Bool.and_eq_true, beq_iff_eq, Option.isNone_iff_eq_none, decide_eq_true_eq] at isGuest
    simp only [bind_ok, ensure_ok, Rows.any_eq_true, Bool.and_eq_true, beq_iff_eq, pure_ok] at claims
    obtain ⟨_, ⟨project, stored, isProject, unowned⟩, same⟩ := claims
    cases same
    refine ⟨?_, ?_, ?_⟩
    · intro other otherMember owner isOwner
      obtain ⟨before, beforeMember, isUpdated⟩ := mem_setClaim.mp otherMember
      rw [Rows.updated] at isUpdated
      split at isUpdated
      next passes =>
        simp only [Bool.and_eq_true, beq_iff_eq] at passes
        have isGuest : before = guest := GuestProject.unique beforeMember mem (.inr (passes.1.1.trans isGuest.1.1.symm))
        subst isUpdated
        subst isGuest
        have isUser : user = owner := by simpa [GuestProject.claimedBy] using isOwner
        subst isUser
        exact ⟨Database.takeOver_ownedBy stored isProject unowned, Database.handOver_handedOver (named before mem)⟩
      next =>
        subst isUpdated
        obtain ⟨owned, handed⟩ := sound before beforeMember owner isOwner
        exact ⟨owned.takeOver, Database.HandedOver.handOver handed (named before beforeMember)⟩
    · intro other otherMember claimed
      exact mem_setClaim.mpr ⟨other, otherMember, if_neg (by simp [claimed])⟩
    · refine ⟨{ guest with claim := some (user, now) }, ?_, isGuest.1.1, rfl, rfl⟩
      exact mem_setClaim.mpr ⟨guest, mem, if_pos (by simp [isGuest])⟩
  next =>
    -- The guest is claimed by the same user again.
    simp only [bind_ok, okOr_ok, ensure_ok, pure_ok] at claims
    obtain ⟨guest, found, _, isUser, same⟩ := claims
    cases same
    obtain ⟨mem, isToken⟩ := Rows.mem_of_find? found
    refine ⟨?_, fun other otherMember _ => otherMember, guest, mem, beq_iff_eq.mp isToken, rfl, isUser⟩
    intro other otherMember owner isOwner
    obtain ⟨owned, handed⟩ := sound other otherMember owner isOwner
    exact ⟨owned, handed.handOver (named other otherMember)⟩

end GuestDatabase

namespace GuestState

variable {state : GuestState}

section

variable (kept : state.Kept) {next : GuestDatabase}
include kept

theorem Kept.fail : state.fail.Kept := by
  refine ⟨kept.sound, ?_, ?_⟩
  · intro token user projectId mem
    cases List.mem_append.mp mem with
    | inl earlier => exact kept.claimed token user projectId earlier
    | inr last => cases List.mem_singleton.mp last
  · intro before after mem
    cases List.mem_append.mp mem with
    | inl earlier => exact kept.unchanged before after earlier
    | inr last =>
      cases List.mem_singleton.mp last
      rfl

theorem Kept.write (writes : next.Sound ∧ state.database.KeepsClaimed next) : (state.write next).Kept := by
  refine ⟨writes.1, ?_, kept.unchanged⟩
  intro token user projectId mem
  obtain ⟨guest, stored, isToken, isProject, isUser⟩ := kept.claimed token user projectId mem
  exact ⟨guest, writes.2 guest stored (GuestProject.claim_of_claimedBy isUser), isToken, isProject, isUser⟩

theorem Kept.claim {user : String} {fault : Option GuestFault} (reads : fault ≠ some .read)
    (named : ∀ guest ∈ state.database.guestProjects, user ≠ guestOwner guest.projectId)
    (claims : state.database.claimGuestProject now token user = .ok (projectId, next)) :
    (state.answer token user projectId next fault).Kept := by
  obtain ⟨sound, keeps, guest, mem, isToken, isProject, isUser⟩ := kept.sound.claim named claims
  have owned : next.OwnedBy projectId user := isProject ▸ (sound guest mem user isUser).1
  have written := kept.write ⟨sound, keeps⟩
  have answers : state.answer token user projectId next fault =
      { database := next, log := state.log ++ [.claimed token user projectId] } := by
    rw [answer, if_pos ⟨reads, owned.getProject⟩]
  rw [answers]
  refine ⟨sound, ?_, ?_⟩
  · intro otherToken other otherProject entry
    cases List.mem_append.mp entry with
    | inl earlier => exact written.claimed otherToken other otherProject earlier
    | inr last =>
      cases List.mem_singleton.mp last
      exact ⟨guest, mem, isToken, isProject, isUser⟩
  · intro before after entry
    cases List.mem_append.mp entry with
    | inl earlier => exact kept.unchanged before after earlier
    | inr last => cases List.mem_singleton.mp last

theorem Kept.orFail {result : Except ApiError GuestState}
    (succeeds : ∀ next, result = .ok next → next.Kept) : (state.orFail result).Kept := by
  cases result with
  | error => exact kept.fail
  | ok next => exact succeeds next rfl

theorem Kept.step {action : Action} (careful : state.Careful action) {next : GuestState}
    (steps : state.step action = some next) : next.Kept := by
  obtain ⟨call, now, fault⟩ := action
  unfold GuestState.step at steps
  split at steps
  · cases steps
    exact kept.fail
  next noFault =>
    cases call with
    | create input =>
      cases steps
      apply kept.orFail
      intro next creates
      obtain ⟨created, isCreated, rfl⟩ := map_ok.mp creates
      exact kept.write (kept.sound.create isCreated)
    | claim token user =>
      cases steps
      apply kept.orFail
      intro next claims
      obtain ⟨⟨projectId, claimed⟩, isClaimed, rfl⟩ := map_ok.mp claims
      exact kept.claim careful.1 careful.2 isClaimed
    | promote projectId =>
      cases steps
      exact kept.write (kept.sound.promote (careful noFault))
    | prune =>
      cases steps
      exact kept.write (kept.sound.prune now)

theorem Kept.promised : state.ClaimedOnce ∧ state.FailedUnchanged ∧ state.ClaimedKept := by
  refine ⟨?_, kept.unchanged, ?_⟩
  · intro token user other first second isFirst isSecond
    obtain ⟨guest, mem, isToken, -, isUser⟩ := kept.claimed token user first isFirst
    obtain ⟨again, stored, sameToken, -, isOther⟩ := kept.claimed token other second isSecond
    rw [GuestProject.unique mem stored (.inr (isToken.trans sameToken.symm)), isOther] at isUser
    exact (Option.some.inj isUser).symm
  · intro token user projectId entry
    obtain ⟨guest, mem, -, rfl, isUser⟩ := kept.claimed token user projectId entry
    exact kept.sound guest mem user isUser

end

end GuestState

/-- In every run that promotes no claimed project and reads each project after its claim, a token serves one user, who
keeps the project and what the guest had. -/
theorem guest_claims_kept {state : GuestState} (reachable : guestMachine.Reachable GuestState.Careful state) :
    state.ClaimedOnce ∧ state.FailedUnchanged ∧ state.ClaimedKept := by
  have kept : state.Kept := by
    apply reachable.invariant
    · rintro state ⟨noGuests, noLog⟩
      refine ⟨?_, ?_, ?_⟩
      · intro guest member
        rw [← Rows.mem_rows, noGuests] at member
        cases member
      · simp [noLog]
      · simp [GuestState.FailedUnchanged, noLog]
    · intro state action next kept careful steps
      exact kept.step careful steps
  exact kept.promised

/-! ## A claim, and a second user of a token -/

instance (state : GuestState) (action : GuestState.Action) : Decidable (state.Careful action) := by
  unfold GuestState.Careful
  split <;> infer_instance

def GuestEntry.user : GuestEntry → Option (Hash × String)
  | .claimed token user _ => some (token, user)
  | .failed _ _ => none

theorem GuestEntry.user_eq_some {entry : GuestEntry} {user : String}
    (isUser : entry.user = some (token, user)) : ∃ projectId, entry = .claimed token user projectId := by
  cases entry with
  | claimed token user projectId =>
    cases isUser
    exact ⟨projectId, rfl⟩
  | failed => cases isUser

def firstGuest : Uuid := ⟨"0190f2c4-7b1e-7c3a-9d52-1f6a0e8b4e26", by decide⟩

def secondGuest : Uuid := ⟨"0190f2c4-7b1e-7c3a-9d52-1f6a0e8b4e27", by decide⟩

def guestDeployment : Uuid := ⟨"0190f2c4-7b1e-7c3a-9d52-1f6a0e8b4e28", by decide⟩

def guestDatabase : GuestDatabase where
  toDatabase := { Database.empty with
    projects :=
      ⟨[⟨firstGuest, "app-1", none, "guest-1", "Guest app", none, "gateway-1", true, 0⟩,
        ⟨secondGuest, "app-2", none, "guest-2", "Guest app", none, "gateway-1", true, 0⟩], by decide⟩
    runtimeDeployments := .singleton ⟨guestDeployment, firstGuest, "development", true, true, .summary, false, 0⟩
    runtimeDeploymentGateways := .singleton ⟨guestDeployment, "gateway-1", 0⟩
    agentGatewayAuthorizations :=
      .singleton ⟨"gateway-1", "machine-1", none, .active, "vifu", [1], 1, 1000, none, none⟩ }
  guestProjects := .empty

def guestState : GuestState := ⟨guestDatabase, []⟩

def createGuest (projectId : Uuid) : GuestState.Action := ⟨.create ⟨projectId, "gateway-1", [7], 100⟩, 0, none⟩

def claimGuest (user : String) : GuestState.Action := ⟨.claim [7] user, 1, none⟩

/-- The guest is claimed, and stays when it would have expired. -/
theorem guest_claims_kept_claimed : ∃ state, guestMachine.Reachable GuestState.Careful state ∧
      (state.ClaimedOnce ∧ state.FailedUnchanged ∧ state.ClaimedKept) ∧
      state.log.map GuestEntry.user = [some ([7], "ada"), none] := by
  obtain ⟨state, reachable, passes⟩ := guestMachine.reachable_of_execute GuestState.Careful
    (show guestMachine.start guestState from ⟨rfl, rfl⟩)
    [createGuest firstGuest, claimGuest "ada", claimGuest "grace", ⟨.prune, 200, none⟩]
    (fun state => decide (state.log.map GuestEntry.user = [some ([7], "ada"), none])) (by decide +kernel)
  exact ⟨state, reachable, guest_claims_kept reachable, of_decide_eq_true passes⟩

/-- After a promotion the gateway bootstraps another guest with its token, and another user claims it. -/
theorem guest_token_claimed_twice : ¬∀ state, guestMachine.Reachable Machine.always state →
      state.ClaimedOnce ∧ state.FailedUnchanged ∧ state.ClaimedKept := by
  intro promised
  obtain ⟨state, reachable, passes⟩ := guestMachine.reachable_of_execute Machine.always
    (show guestMachine.start guestState from ⟨rfl, rfl⟩)
    [createGuest firstGuest, claimGuest "ada", ⟨.promote firstGuest, 2, none⟩, createGuest secondGuest,
      claimGuest "grace"]
    (fun state => decide (state.log.map GuestEntry.user = [some ([7], "ada"), some ([7], "grace")])) (by decide +kernel)
  have users := of_decide_eq_true passes
  have claimedBy : ∀ user ∈ ["ada", "grace"], ∃ projectId, .claimed [7] user projectId ∈ state.log := by
    intro user member
    have logged : some (([7] : Hash), user) ∈ state.log.map GuestEntry.user := by
      rw [users]
      simpa using member
    obtain ⟨entry, stored, isUser⟩ := List.mem_map.mp logged
    obtain ⟨projectId, rfl⟩ := GuestEntry.user_eq_some isUser
    exact ⟨projectId, stored⟩
  obtain ⟨first, byAda⟩ := claimedBy "ada" (by simp)
  obtain ⟨second, byGrace⟩ := claimedBy "grace" (by simp)
  exact absurd ((promised state reachable).1 [7] "ada" "grace" first second byAda byGrace) (by decide)

end Vifu.Server
