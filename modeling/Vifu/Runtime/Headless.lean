import Vifu.Runtime.Core.Effects

/-!
# Snapshots of a headless runtime

A headless runtime hands commands and the results of effects to the systems of its schedule.  A snapshot copies the state
of the systems.  The numbers of the next event and of the next effect, and the results that no system has taken yet, stay
with the runtime: what is restored from the snapshot starts to count at zero.
-/

namespace Vifu.Runtime

structure RuntimeCommand where
  id : String
  name : String
  payload : Value

structure RuntimeEvent where
  sequence : ℕ
  name : String
  payload : Value

structure RuntimeAdvance where
  snapshot : RuntimeSnapshot
  events : List RuntimeEvent
  effects : List EffectRequest

def effectId (number : ℕ) : String := "effect-" ++ toString number

/-- What the systems do in one run of the schedule.  They are told the numbers of their events and the ids of their
effects. -/
inductive Program where
  | finish (state : RuntimeSnapshot)
  | emit (name : String) (payload : Value) (next : (sequence : ℕ) → Program)
  | request (kind : String) (payload : Value) (next : (id : String) → Program)

structure Reaction where
  state : RuntimeSnapshot
  events : List RuntimeEvent
  effects : List EffectRequest
  nextSequence : ℕ
  nextId : ℕ

def Program.run : Program → (nextSequence nextId : ℕ) → Reaction
  | finish state, nextSequence, nextId => ⟨state, [], [], nextSequence, nextId⟩
  | emit name payload next, nextSequence, nextId =>
    let rest := (next nextSequence).run (saturatingAdd nextSequence 1) nextId
    { rest with events := ⟨nextSequence, name, payload⟩ :: rest.events }
  | request kind payload next, nextSequence, nextId =>
    let rest := (next (effectId nextId)).run nextSequence (saturatingAdd nextId 1)
    { rest with effects := ⟨effectId nextId, kind, payload⟩ :: rest.effects }

/-- Systems that take all commands and results whenever they run, and keep nothing beside the state. -/
abbrev Systems := RuntimeSnapshot → List RuntimeCommand → List EffectResult → Program

structure HeadlessRuntime where
  state : RuntimeSnapshot
  commands : List RuntimeCommand
  results : List EffectResult
  nextSequence : ℕ
  nextId : ℕ

inductive HostCall where
  | dispatch (command : RuntimeCommand)
  | completeEffect (result : EffectResult)

namespace HeadlessRuntime

def restore (snapshot : RuntimeSnapshot) : HeadlessRuntime := ⟨snapshot, [], [], 0, 0⟩

def snapshot (runtime : HeadlessRuntime) : RuntimeSnapshot := runtime.state

def completeEffect (runtime : HeadlessRuntime) (result : EffectResult) : HeadlessRuntime :=
  { runtime with results := runtime.results ++ [result] }

def enqueueCommand (runtime : HeadlessRuntime) (command : RuntimeCommand) : HeadlessRuntime :=
  { runtime with commands := runtime.commands ++ [command] }

variable (systems : Systems)

def runSchedule (runtime : HeadlessRuntime) : Reaction :=
  (systems runtime.state runtime.commands runtime.results).run runtime.nextSequence runtime.nextId

/-- The runtime and the advance after a dispatch, of what the systems have done. -/
def advanced (reaction : Reaction) : HeadlessRuntime × RuntimeAdvance :=
  let state := { reaction.state with revision := saturatingAdd reaction.state.revision 1 }
  (⟨state, [], [], reaction.nextSequence, reaction.nextId⟩, ⟨state, reaction.events, reaction.effects⟩)

def dispatch (runtime : HeadlessRuntime) (command : RuntimeCommand) : HeadlessRuntime × RuntimeAdvance :=
  advanced ((runtime.enqueueCommand command).runSchedule systems)

def after (runtime : HeadlessRuntime) : List HostCall → HeadlessRuntime
  | [] => runtime
  | .dispatch command :: calls => (runtime.dispatch systems command).1.after calls
  | .completeEffect result :: calls => (runtime.completeEffect result).after calls

def advances (runtime : HeadlessRuntime) : List HostCall → List RuntimeAdvance
  | [] => []
  | .dispatch command :: calls =>
    (runtime.dispatch systems command).2 :: (runtime.dispatch systems command).1.advances calls
  | .completeEffect result :: calls => (runtime.completeEffect result).advances calls

end HeadlessRuntime

/-- The ids of the effects in the order of their requests. -/
def issued (advances : List RuntimeAdvance) : List String := advances.flatMap fun advance => advance.effects.map (·.id)

def idsFrom : (number count : ℕ) → List String
  | _, 0 => []
  | number, count + 1 => effectId number :: idsFrom (saturatingAdd number 1) count

theorem idsFrom_add {number count more : ℕ} :
    idsFrom number (count + more) = idsFrom number count ++ idsFrom ((saturatingAdd · 1)^[count] number) more := by
  induction count generalizing number with
  | zero => rw [Nat.zero_add]; rfl
  | succ count ih =>
    rw [Nat.succ_add, idsFrom, ih]
    rfl

theorem effectId_injective : Function.Injective effectId := by
  intro first second same
  have texts := congrArg String.toList same
  rw [effectId, effectId, String.toList_append, String.toList_append] at texts
  exact Nat.repr_injective (String.toList_injective (List.append_cancel_left texts))

variable {number count : ℕ}

theorem mem_idsFrom {id : String} (bounded : number ≤ u64Max) (mem : id ∈ idsFrom number count) :
    ∃ other, number ≤ other ∧ id = effectId other := by
  induction count generalizing number with
  | zero => cases mem
  | succ count ih =>
    obtain rfl | later := List.mem_cons.mp mem
    · exact ⟨number, Nat.le_refl _, rfl⟩
    · have kept : saturatingAdd number 1 ≤ u64Max := Nat.min_le_right _ _
      have grows : number ≤ saturatingAdd number 1 := Nat.le_min.mpr ⟨Nat.le_succ _, bounded⟩
      obtain ⟨other, atLeast, isId⟩ := ih kept later
      exact ⟨other, Nat.le_trans grows atLeast, isId⟩

theorem nodup_idsFrom (bounded : number ≤ u64Max) :
    (idsFrom number count).Nodup ↔ number + count ≤ u64Max + 1 := by
  induction count generalizing number with
  | zero => exact iff_of_true List.nodup_nil (by omega)
  | succ count ih =>
    obtain below | full := Nat.lt_or_eq_of_le bounded
    · have next : saturatingAdd number 1 = number + 1 := Nat.min_eq_left below
      have fresh : effectId number ∉ idsFrom (number + 1) count := by
        intro mem
        obtain ⟨other, above, same⟩ := mem_idsFrom below mem
        have equal := effectId_injective same
        omega
      rw [idsFrom, List.nodup_cons, next, ih below, and_iff_right fresh]
      omega
    · have next : saturatingAdd number 1 = number := by
        rw [saturatingAdd]
        omega
      rw [idsFrom, List.nodup_cons, next]
      cases count with
      | zero => exact iff_of_true ⟨List.not_mem_nil, List.nodup_nil⟩ (by omega)
      | succ count => exact iff_of_false (fun distinct => distinct.1 List.mem_cons_self) (by omega)

namespace Program

theorem run_agree (program : Program) {sequence sequence' id id' : ℕ}
    (events : sequence = sequence' ∨ (program.run sequence id).events = [])
    (effects : id = id' ∨ (program.run sequence id).effects = []) :
    (program.run sequence' id').state = (program.run sequence id).state ∧
      (program.run sequence' id').events = (program.run sequence id).events ∧
      (program.run sequence' id').effects = (program.run sequence id).effects ∧
      (sequence = sequence' → (program.run sequence' id').nextSequence = (program.run sequence id).nextSequence) ∧
      (id = id' → (program.run sequence' id').nextId = (program.run sequence id).nextId) := by
  induction program generalizing sequence sequence' id id' with
  | finish state => exact ⟨rfl, rfl, rfl, fun same => same.symm, fun same => same.symm⟩
  | emit name payload next ih =>
    obtain rfl | none := events
    · obtain ⟨state, sameEvents, sameEffects, counts, ids⟩ := ih sequence (.inl rfl) effects
      exact ⟨state, congrArg (_ :: ·) sameEvents, sameEffects, fun _ => counts rfl, ids⟩
    · cases none
  | request kind payload next ih =>
    obtain rfl | none := effects
    · obtain ⟨state, sameEvents, sameEffects, counts, ids⟩ := ih (effectId id) events (.inl rfl)
      exact ⟨state, sameEvents, congrArg (_ :: ·) sameEffects, counts, fun _ => ids rfl⟩
    · cases none

variable (program : Program) (sequence id : ℕ)

theorem run_counts :
    (program.run sequence id).nextSequence = (saturatingAdd · 1)^[(program.run sequence id).events.length] sequence ∧
      (program.run sequence id).nextId = (saturatingAdd · 1)^[(program.run sequence id).effects.length] id ∧
      (program.run sequence id).effects.map (·.id) = idsFrom id (program.run sequence id).effects.length := by
  induction program generalizing sequence id with
  | finish state => exact ⟨rfl, rfl, rfl⟩
  | emit name payload next ih => exact ih sequence (saturatingAdd sequence 1) id
  | request kind payload next ih =>
    obtain ⟨counts, ids, named⟩ := ih (effectId id) sequence (saturatingAdd id 1)
    exact ⟨counts, ids, congrArg (effectId id :: ·) named⟩

theorem run_heads : (∀ event ∈ (program.run sequence id).events.head?, event.sequence = sequence) ∧
    ∀ effect ∈ (program.run sequence id).effects.head?, effect.id = effectId id := by
  induction program generalizing sequence id with
  | finish state => exact ⟨(fun _ none => by cases none), (fun _ none => by cases none)⟩
  | emit name payload next ih =>
    refine ⟨fun event first => ?_, (ih sequence (saturatingAdd sequence 1) id).2⟩
    cases first
    rfl
  | request kind payload next ih =>
    refine ⟨(ih (effectId id) sequence (saturatingAdd id 1)).1, fun effect first => ?_⟩
    cases first
    rfl

end Program

/-! ## Runs of the host -/

namespace HeadlessRuntime

variable {systems : Systems} {runtime other : HeadlessRuntime} {calls : List HostCall}

theorem advances_agree {sequence id : ℕ}
    (events : runtime.nextSequence = sequence ∨ ∀ advance ∈ runtime.advances systems calls, advance.events = [])
    (effects : runtime.nextId = id ∨ ∀ advance ∈ runtime.advances systems calls, advance.effects = []) :
    ({ runtime with nextSequence := sequence, nextId := id } : HeadlessRuntime).advances systems calls =
      runtime.advances systems calls := by
  induction calls generalizing runtime sequence id with
  | nil => rfl
  | cons call calls ih =>
    cases call with
    | completeEffect result => exact @ih (runtime.completeEffect result) sequence id events effects
    | dispatch command =>
      have none : ∀ {β : Type} {part : RuntimeAdvance → List β},
          (∀ advance ∈ runtime.advances systems (.dispatch command :: calls), part advance = []) →
          part (runtime.dispatch systems command).2 = [] ∧
            ∀ advance ∈ (runtime.dispatch systems command).1.advances systems calls, part advance = [] :=
        fun holds => List.forall_mem_cons.mp holds
      obtain ⟨state, sameEvents, sameEffects, counts, ids⟩ :=
        (systems runtime.state (runtime.commands ++ [command]) runtime.results).run_agree
          (events.imp_right fun holds => (none holds).1) (effects.imp_right fun holds => (none holds).1)
      rw [advances, advances, dispatch, runSchedule, enqueueCommand]
      have rest := @ih (runtime.dispatch systems command).1
        ((systems runtime.state (runtime.commands ++ [command]) runtime.results).run sequence id).nextSequence
        ((systems runtime.state (runtime.commands ++ [command]) runtime.results).run sequence id).nextId
        (events.imp (fun same => (counts same).symm) fun holds => (none holds).2)
        (effects.imp (fun same => (ids same).symm) fun holds => (none holds).2)
      rw [← rest]
      simp only [advanced, state, sameEvents, sameEffects]
      rfl

theorem dispatch_fst (command : RuntimeCommand) : (runtime.dispatch systems command).1 =
    ⟨(runtime.dispatch systems command).2.snapshot, [], [],
      (saturatingAdd · 1)^[(runtime.dispatch systems command).2.events.length] runtime.nextSequence,
      (saturatingAdd · 1)^[(runtime.dispatch systems command).2.effects.length] runtime.nextId⟩ := by
  obtain ⟨counts, ids, -⟩ := (systems runtime.state (runtime.commands ++ [command]) runtime.results).run_counts
    runtime.nextSequence runtime.nextId
  simp only [dispatch, advanced, runSchedule, enqueueCommand, HeadlessRuntime.mk.injEq, true_and]
  exact ⟨counts, ids⟩

theorem advances_results {results : List EffectResult}
    (first : (({ runtime with results } : HeadlessRuntime).advances systems calls).head? =
      (runtime.advances systems calls).head?) :
    ({ runtime with results } : HeadlessRuntime).advances systems calls = runtime.advances systems calls := by
  induction calls generalizing runtime results with
  | nil => rfl
  | cons call calls ih =>
    cases call with
    | completeEffect result => exact @ih (runtime.completeEffect result) (results ++ [result]) first
    | dispatch command =>
      have same := Option.some.inj first
      rw [advances, advances, dispatch_fst, same, ← dispatch_fst]

/-- Runs with the same advances have emitted nothing that a difference in their numbers would show. -/
theorem numbers_differ (same : runtime.advances systems calls = other.advances systems calls) :
    (runtime.nextSequence ≠ other.nextSequence → ∀ advance ∈ runtime.advances systems calls, advance.events = []) ∧
      (runtime.nextId ≠ other.nextId → ∀ advance ∈ runtime.advances systems calls, advance.effects = []) := by
  induction calls generalizing runtime other with
  | nil => exact ⟨(fun _ _ mem => by cases mem), (fun _ _ mem => by cases mem)⟩
  | cons call calls ih =>
    cases call with
    | completeEffect result =>
      exact @ih (runtime.completeEffect result) (other.completeEffect result) same
    | dispatch command =>
      rw [advances, advances, List.cons.injEq] at same
      obtain ⟨first, later⟩ := same
      have ours := Program.run_heads (systems runtime.state (runtime.commands ++ [command]) runtime.results)
        runtime.nextSequence runtime.nextId
      have theirs := Program.run_heads (systems other.state (other.commands ++ [command]) other.results)
        other.nextSequence other.nextId
      obtain ⟨events, effects⟩ := ih later
      rw [advances, List.forall_mem_cons, List.forall_mem_cons]
      constructor
      · intro differ
        have none : (runtime.dispatch systems command).2.events = [] := by
          cases isEvents : (runtime.dispatch systems command).2.events with
          | nil => rfl
          | cons event events =>
            have isFirst : event ∈ (runtime.dispatch systems command).2.events.head? := by
              rw [isEvents]
              rfl
            have isTheirs : event ∈ (other.dispatch systems command).2.events.head? := by
              rw [← first, isEvents]
              rfl
            exact absurd ((ours.1 event isFirst).symm.trans (theirs.1 event isTheirs)) differ
        refine ⟨none, events ?_⟩
        rw [dispatch_fst, dispatch_fst, ← first, none]
        exact differ
      · intro differ
        have none : (runtime.dispatch systems command).2.effects = [] := by
          cases isEffects : (runtime.dispatch systems command).2.effects with
          | nil => rfl
          | cons effect effects =>
            have isFirst : effect ∈ (runtime.dispatch systems command).2.effects.head? := by
              rw [isEffects]
              rfl
            have isTheirs : effect ∈ (other.dispatch systems command).2.effects.head? := by
              rw [← first, isEffects]
              rfl
            have sameIds := (ours.2 effect isFirst).symm.trans (theirs.2 effect isTheirs)
            exact absurd (effectId_injective sameIds) differ
        refine ⟨none, effects ?_⟩
        rw [dispatch_fst, dispatch_fst, ← first, none]
        exact differ

/-- What the snapshot of a runtime leaves out makes no difference to the calls: the events and effects are numbered from
zero anyway, or there are none, and the first advance does not depend on the results that wait. -/
def Aligned (systems : Systems) (runtime : HeadlessRuntime) (calls : List HostCall) : Prop :=
  (runtime.nextSequence = 0 ∨ ∀ advance ∈ runtime.advances systems calls, advance.events = []) ∧
    (runtime.nextId = 0 ∨ ∀ advance ∈ runtime.advances systems calls, advance.effects = []) ∧
    (({ runtime with results := [] } : HeadlessRuntime).advances systems calls).head? =
      (runtime.advances systems calls).head?

theorem restore_same (idle : runtime.commands = []) :
    (restore runtime.snapshot).advances systems calls = runtime.advances systems calls ↔ Aligned systems runtime calls := by
  have restored : restore runtime.snapshot =
      { ({ runtime with results := [] } : HeadlessRuntime) with nextSequence := 0, nextId := 0 } := by
    rw [idle]
    rfl
  constructor
  · intro same
    obtain ⟨noEvents, noEffects⟩ := numbers_differ same.symm
    have events := or_iff_not_imp_left.mpr noEvents
    have effects := or_iff_not_imp_left.mpr noEffects
    refine ⟨events, effects, ?_⟩
    -- without the results, the runtime differs from the restored one in its numbers alone
    have numbered := @advances_agree systems (restore runtime.snapshot) calls runtime.nextSequence runtime.nextId
      (same ▸ events.imp_left Eq.symm) (same ▸ effects.imp_left Eq.symm)
    rw [same, restored] at numbered
    exact congrArg List.head? numbered
  · rintro ⟨events, effects, first⟩
    have dropped := advances_results first
    rw [restored, ← dropped]
    exact advances_agree (dropped.symm ▸ events) (dropped.symm ▸ effects)

theorem after_idle (idle : runtime.commands = []) : (runtime.after systems calls).commands = [] := by
  induction calls generalizing runtime with
  | nil => exact idle
  | cons call calls ih =>
    cases call with
    | dispatch command => exact @ih (runtime.dispatch systems command).1 rfl
    | completeEffect result => exact @ih (runtime.completeEffect result) idle

theorem advances_append (more : List HostCall) : runtime.advances systems (calls ++ more) =
    runtime.advances systems calls ++ (runtime.after systems calls).advances systems more := by
  induction calls generalizing runtime with
  | nil => rfl
  | cons call calls ih =>
    cases call with
    | dispatch command => exact congrArg (_ :: ·) ih
    | completeEffect result => exact @ih (runtime.completeEffect result)

theorem issued_advances : issued (runtime.advances systems calls) =
    idsFrom runtime.nextId (issued (runtime.advances systems calls)).length := by
  induction calls generalizing runtime with
  | nil => rfl
  | cons call calls ih =>
    cases call with
    | dispatch command =>
      have ids := ((systems runtime.state (runtime.commands ++ [command]) runtime.results).run_counts
        runtime.nextSequence runtime.nextId).2.2
      have later := @ih (runtime.dispatch systems command).1
      rw [congrArg nextId (dispatch_fst command)] at later
      rw [advances, issued, List.flatMap_cons, List.length_append, idsFrom_add, List.length_map]
      exact congrArg₂ (· ++ ·) ids later
    | completeEffect result => exact @ih (runtime.completeEffect result)

end HeadlessRuntime

/-- The restored runtime goes on as the original, and no effect has an id of an earlier one, if and only if what the
snapshot leaves out makes no difference and the ids do not run out. -/
theorem snapshot_transparent (systems : Systems) (start : RuntimeSnapshot) (calls later : List HostCall) :
    let original := (HeadlessRuntime.restore start).after systems calls
    let restored := HeadlessRuntime.restore original.snapshot
    (restored.advances systems later = original.advances systems later ∧
      (issued ((HeadlessRuntime.restore start).advances systems calls ++ restored.advances systems later)).Nodup) ↔
      HeadlessRuntime.Aligned systems original later ∧
        (issued ((HeadlessRuntime.restore start).advances systems (calls ++ later))).length ≤ u64Max + 1 := by
  intro original restored
  rw [← HeadlessRuntime.restore_same (HeadlessRuntime.after_idle rfl)]
  refine and_congr_right fun same => ?_
  have distinct : ∀ ids, ids = idsFrom 0 ids.length → (ids.Nodup ↔ ids.length ≤ u64Max + 1) := by
    intro ids numbered
    rw [numbered, nodup_idsFrom (Nat.zero_le _), Nat.zero_add, ← numbered]
  rw [same, ← HeadlessRuntime.advances_append]
  exact distinct _ HeadlessRuntime.issued_advances

def askAgent : Systems := fun state commands _ =>
  commands.foldr (fun command rest => .request "agent.invoke" command.payload fun _ => rest) (.finish state)

def hello : RuntimeCommand := ⟨"command-1", "player.message", .string "Hello"⟩

theorem effect_issued_twice :
    let original := (HeadlessRuntime.restore .default).after askAgent [.dispatch hello]
    let restored := HeadlessRuntime.restore original.snapshot
    issued ((HeadlessRuntime.restore .default).advances askAgent [.dispatch hello]) = ["effect-0"] ∧
      issued (original.advances askAgent [.dispatch hello]) = ["effect-1"] ∧
      issued (restored.advances askAgent [.dispatch hello]) = ["effect-0"] := by
  decide +kernel

end Vifu.Runtime
