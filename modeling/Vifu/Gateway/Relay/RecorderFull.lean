import Vifu.Gateway.Relay.Recorder

/-!
# A full recorder

When the provider is cut short, each stage that it left open is reported as failed, also to a recorder
that is full: a start gives way to the report, and where no start is left the second event does, each time.
-/

namespace Vifu.Gateway

open Foundation
open Vifu.Runtime hiding validateIdentifier

variable {recorder : InvocationTelemetry} {event opening : TraceTelemetry} {events next : List TraceTelemetry}
  {reports : List ProviderReport} {placed : List TraceTelemetry} {id : Option Uuid}

/-! ## What gives way -/

/-- The events that give way to the end of a stage. -/
def starts (events : List TraceTelemetry) : ℕ := events.countP (isStartedStage none)

/-- The end of a stage comes to a position that was free or that held a start. -/
structure MakesRoom (event : TraceTelemetry) (events next : List TraceTelemetry) (position : ℕ) : Prop where
  added : next[position]? = some event
  others : ∀ other, other ≠ position → next[other]? = events[other]?
  gave : ∀ old, events[position]? = some old → isStartedStage none old = true
  count : next.length + starts events = events.length + 1 + starts next

theorem isStartedStage_any (isStart : isStartedStage id event = true) : isStartedStage none event = true := by
  cases event with
  | providerStage report =>
    rw [isStartedStage, Bool.and_eq_true] at isStart
    rw [isStartedStage, isStart.1]
    rfl
  | invocationStarted _ _ _ | delivery _ => cases isStart

theorem set_makesRoom (isEnd : isStartedStage none event = false) {position : ℕ}
    (found : events.findIdx? (isStartedStage id) = some position) :
    MakesRoom event events (events.set position event) position := by
  obtain ⟨inside, isStart, -⟩ := List.findIdx?_eq_some_iff_getElem.mp found
  have isAny : isStartedStage none events[position] = true := isStartedStage_any isStart
  have some : 0 < starts events := List.countP_pos_iff.mpr ⟨_, List.getElem_mem inside, isAny⟩
  refine ⟨List.getElem?_set_self inside, fun other isOther => List.getElem?_set_ne isOther.symm, ?_, ?_⟩
  · intro old isOld
    rw [List.getElem?_eq_getElem inside, Option.some.injEq] at isOld
    rw [← isOld]
    exact isAny
  · have counted : starts (events.set position event) = starts events - 1 := by
      simp [starts, List.countP_set inside, isAny, isEnd]
    rw [List.length_set, counted]
    omega

theorem pushTerminal_cases (recorder : InvocationTelemetry) (isEnd : isStartedStage none event = false) :
    (∃ position, MakesRoom event recorder.events (recorder.pushTerminal event).events position) ∨
      maxTraceTelemetryEvents ≤ recorder.events.length ∧ starts recorder.events = 0 ∧
        (recorder.pushTerminal event).events = recorder.events.set 1 event := by
  rw [InvocationTelemetry.pushTerminal]
  split
  · refine Or.inl ⟨recorder.events.length, List.getElem?_concat_length, ?_, by simp, by simp [starts, isEnd]⟩
    intro other isOther
    simp only [List.getElem?_append, List.getElem?_singleton]
    grind
  · next full =>
    rw [Nat.not_lt] at full
    dsimp only [InvocationTelemetry.dropOne, InvocationTelemetry.replacement]
    cases isOwn : event.observation.bind fun id => recorder.events.findIdx? (isStartedStage (some id)) with
    | some position =>
      obtain ⟨id, -, found⟩ := Option.bind_eq_some_iff.mp isOwn
      exact Or.inl ⟨position, set_makesRoom isEnd found⟩
    | none =>
      cases isAny : recorder.events.findIdx? (isStartedStage none) with
      | some position => exact Or.inl ⟨position, set_makesRoom isEnd isAny⟩
      | none =>
        rw [List.findIdx?_eq_none_iff] at isAny
        have second : min 1 (recorder.events.length - 1) = 1 := by
          rw [maxTraceTelemetryEvents] at full
          omega
        refine Or.inr ⟨full, ?_, by simp [second]⟩
        rw [starts, List.countP_eq_zero]
        intro other mem
        simp [isAny other mem]

theorem starts_set_end (isEnd : isStartedStage none event = false) (none : starts events = 0) (position : ℕ) :
    starts (events.set position event) = 0 := by
  rw [starts, List.countP_eq_zero] at none ⊢
  intro other mem
  cases List.mem_or_eq_of_mem_set mem with
  | inl isOld => exact none other isOld
  | inr isNew => simp [isNew, isEnd]

/-! ## Which ends are kept -/

/-- Starts and free places are enough for the pending ends, or for all but one, and the second event, which is
none of those that have to stay, gives way. -/
def Enough (placed events : List TraceTelemetry) (pending : ℕ) : Prop :=
  events.length + pending ≤ maxTraceTelemetryEvents + starts events ∨
    events.length + pending = maxTraceTelemetryEvents + starts events + 1 ∧
      ∃ second ∈ events[1]?, isStartedStage none second = false ∧ second ∉ placed

/-- The events stand in the list, each once, and no start is among them. -/
def Placed (placed events : List TraceTelemetry) : Prop :=
  ∀ event ∈ placed, isStartedStage none event = false ∧
    ∃ position : ℕ, events[position]? = some event ∧ ∀ other : ℕ, events[other]? = some event → other = position

theorem Placed.write {position : ℕ} (isPlaced : Placed placed events)
    (isEnd : isStartedStage none event = false) (isNew : event ∉ events) (added : next[position]? = some event)
    (others : ∀ other, other ≠ position → next[other]? = events[other]?)
    (free : ∀ kept ∈ placed, events[position]? ≠ some kept) : Placed (event :: placed) next := by
  intro kept mem
  by_cases isEvent : kept = event
  · subst isEvent
    refine ⟨isEnd, position, added, fun other isOther => ?_⟩
    by_contra different
    rw [others other different] at isOther
    exact isNew (List.mem_of_getElem? isOther)
  · have isOld := (List.mem_cons.mp mem).resolve_left isEvent
    obtain ⟨notStart, place, isPlace, once⟩ := isPlaced kept isOld
    have isAway : place ≠ position := by
      rintro rfl
      exact free kept isOld isPlace
    refine ⟨notStart, place, (others place isAway).trans isPlace, fun other isOther => once other ?_⟩
    rw [← isOther, others other]
    rintro rfl
    rw [added, Option.some.injEq] at isOther
    exact isEvent isOther.symm

theorem MakesRoom.enough {position pending : ℕ}
    (room : MakesRoom event events next position) (isNew : event ∉ events) :
    Enough (event :: placed) next pending ↔ Enough placed events (pending + 1) := by
  have count := room.count
  refine or_congr (by omega) (and_congr (by omega) ?_)
  by_cases isSecond : position = 1
  · subst isSecond
    refine iff_of_false ?_ ?_
    · rintro ⟨second, isAt, -, notPlaced⟩
      rw [room.added, Option.mem_some_iff] at isAt
      exact notPlaced (isAt ▸ List.mem_cons_self)
    · rintro ⟨second, isAt, notStart, -⟩
      rw [room.gave second isAt] at notStart
      cases notStart
  · rw [room.others 1 (Ne.symm isSecond)]
    refine exists_congr fun second => and_congr_right fun isAt => and_congr_right fun _ => ?_
    have different : second ≠ event := fun same => isNew (same ▸ List.mem_of_getElem? isAt)
    simp [different]

/-- The induction is on the ends, of which one after the other is placed. -/
theorem pushAll_iff {ends placed : List TraceTelemetry} (bounded : Bounded recorder)
    (isEnd : ∀ event ∈ ends, isStartedStage none event = false) (distinct : ends.Nodup)
    (isNew : ∀ event ∈ ends, event ∉ recorder.events) (isPlaced : Placed placed recorder.events) :
    (∀ event ∈ placed ++ ends, event ∈ (ends.foldl InvocationTelemetry.pushTerminal recorder).events) ↔
      Enough placed recorder.events ends.length := by
  induction ends generalizing recorder placed with
  | nil =>
    refine iff_of_true ?_ (Or.inl (bounded.few.trans (Nat.le_add_right _ _)))
    intro event mem
    rw [List.append_nil] at mem
    obtain ⟨-, position, isAt, -⟩ := isPlaced event mem
    exact List.mem_of_getElem? isAt
  | cons event ends ih =>
    rw [List.nodup_cons] at distinct
    rw [List.forall_mem_cons] at isEnd isNew
    have order : (∀ kept ∈ placed ++ event :: ends, kept ∈ (ends.foldl InvocationTelemetry.pushTerminal
          (recorder.pushTerminal event)).events) ↔
        ∀ kept ∈ event :: placed ++ ends, kept ∈ (ends.foldl InvocationTelemetry.pushTerminal
          (recorder.pushTerminal event)).events := by
      simp only [List.mem_append, List.mem_cons]
      grind
    have later := (bounded.pushTerminal event).1
    rw [List.foldl_cons, order]
    obtain ⟨position, room⟩ | ⟨full, noStart, changed⟩ := pushTerminal_cases recorder isEnd.1
    · have nextPlaced : Placed (event :: placed) (recorder.pushTerminal event).events := by
        refine isPlaced.write isEnd.1 isNew.1 room.added room.others fun kept mem isKept => ?_
        have notStart := (isPlaced kept mem).1
        rw [room.gave kept isKept] at notStart
        cases notStart
      rw [ih later isEnd.2 distinct.2 ?_ nextPlaced, room.enough isNew.1, List.length_cons]
      intro other mem isOld
      obtain ⟨place, isOther⟩ := List.mem_iff_getElem?.mp isOld
      by_cases isPosition : place = position
      · rw [isPosition, room.added, Option.some.injEq] at isOther
        exact distinct.1 (isOther ▸ mem)
      · rw [room.others place isPosition] at isOther
        exact isNew.2 other mem (List.mem_of_getElem? isOther)
    · have inside : 1 < recorder.events.length := by
        rw [maxTraceTelemetryEvents] at full
        omega
      have isSecond := List.getElem?_eq_getElem inside
      have added : (recorder.pushTerminal event).events[1]? = some event := by
        rw [changed, List.getElem?_set_self inside]
      have others : ∀ other, other ≠ 1 → (recorder.pushTerminal event).events[other]? = recorder.events[other]? := by
        intro other isOther
        rw [changed, List.getElem?_set_ne isOther.symm]
      have stillNew : ∀ other ∈ ends, other ∉ (recorder.pushTerminal event).events := by
        intro other mem isOld
        rw [changed] at isOld
        cases List.mem_or_eq_of_mem_set isOld with
        | inl earlier => exact isNew.2 other mem earlier
        | inr same => exact distinct.1 (same ▸ mem)
      by_cases overwritten : recorder.events[1] ∈ placed
      · refine iff_of_false ?_ ?_
        · intro kept
          obtain ⟨-, place, isPlace, once⟩ := isPlaced _ overwritten
          have isKept := kept _ (List.mem_append_left _ (List.mem_cons_of_mem _ overwritten))
          cases later.pushAll.2 _ isKept with
          | inl isOld =>
            obtain ⟨other, isOther⟩ := List.mem_iff_getElem?.mp isOld
            by_cases same : other = 1
            · rw [same, added, Option.some.injEq] at isOther
              exact isNew.1 (isOther ▸ List.getElem_mem inside)
            · rw [others other same] at isOther
              exact same ((once other isOther).trans (once 1 isSecond).symm)
          | inr isLater => exact isNew.2 _ isLater (List.getElem_mem inside)
        · rw [Enough, isSecond, List.length_cons]
          rintro (fits | ⟨-, second, isAt, -, notPlaced⟩)
          · omega
          · rw [Option.mem_some_iff] at isAt
            exact notPlaced (isAt ▸ overwritten)
      · have nextPlaced : Placed (event :: placed) (recorder.pushTerminal event).events := by
          refine isPlaced.write isEnd.1 isNew.1 added others fun kept mem isKept => ?_
          rw [isSecond, Option.some.injEq] at isKept
          exact overwritten (isKept ▸ mem)
        have notStart : isStartedStage none recorder.events[1] = false := by
          rw [starts, List.countP_eq_zero] at noStart
          exact Bool.eq_false_iff.mpr (noStart _ (List.getElem_mem inside))
        have nextStarts : starts (recorder.pushTerminal event).events = 0 := by
          rw [changed, starts_set_end isEnd.1 noStart]
        have sameLength : (recorder.pushTerminal event).events.length = recorder.events.length := by
          rw [changed, List.length_set]
        rw [ih later isEnd.2 distinct.2 stillNew nextPlaced]
        simp only [Enough, nextStarts, sameLength, noStart, added, isSecond, Option.mem_some_iff, exists_eq_left',
          notStart, overwritten, List.mem_cons_self, List.length_cons]
        simp
        omega

/-! ## Open stages -/

def stillOpen (stage : ProviderStage) (isOpen : Bool) (report : ProviderReport) : Bool :=
  match stageEvent report.event with
  | some event => if event.stage = stage then event.status == .started else isOpen
  | none => isOpen

/-- The stage was started and has not ended since. -/
def unfinished (stage : ProviderStage) (reports : List ProviderReport) : Bool :=
  reports.foldl (stillOpen stage) false

/-- The active observations are those of the open stages; they are told apart, and none of them has been reported
to end. -/
structure Observed (used : List Uuid) (isOpen : ProviderStage → Bool) (recorder : InvocationTelemetry) : Prop where
  unsealed : recorder.isSealed = false
  openStages : ∀ stage, (∃ observation ∈ recorder.active, observation.stage = stage) ↔ isOpen stage = true
  stages : (recorder.active.map (·.stage)).Nodup
  ids : (recorder.active.map (·.id)).Nodup
  drawn : ∀ observation ∈ recorder.active, observation.id ∈ used
  reported : ∀ event ∈ recorder.events, ∀ id ∈ event.observation, id ∈ used
  notEnded : ∀ event ∈ recorder.events, ∀ observation ∈ recorder.active,
    event.observation = some observation.id → isStartedStage none event = true

theorem mem_push {event kept : TraceTelemetry} (mem : kept ∈ (recorder.push event).events) :
    kept ∈ recorder.events ∨ kept = event := by
  rw [InvocationTelemetry.push] at mem
  split at mem
  · exact Or.inl mem
  · split at mem
    · rwa [List.mem_append, List.mem_singleton] at mem
    · exact Or.inl mem

theorem mem_eraseP_of_nodup {α β : Type} [DecidableEq β] (key : α → β) {list : List α} (distinct : (list.map key).Nodup)
    (removed : β) (kept : α) :
    kept ∈ list.eraseP (fun element => key element == removed) ↔ kept ∈ list ∧ key kept ≠ removed := by
  constructor
  · intro mem
    have still : key kept ∈ (list.map key).erase removed := by
      rw [List.erase_eq_eraseP', List.eraseP_map]
      exact List.mem_map_of_mem mem
    exact ⟨List.mem_of_mem_eraseP mem, (distinct.mem_erase_iff.mp still).1⟩
  · rintro ⟨mem, different⟩
    exact (List.mem_eraseP_of_neg (by simpa using different)).mpr mem

section

variable {used : List Uuid} {isOpen : ProviderStage → Bool} {report : ProviderReport} {stage : StageEvent}

theorem observeStage_started (active : List ActiveProviderObservation) (offsetMs : ℕ) (id : Uuid)
    (started : stage.status = .started) :
    let observed := observeStage active stage offsetMs id
    (∃ known ∈ active, known.stage = stage.stage ∧ observed.1 = known.id ∧ observed.2.2 = active) ∨
      (∀ known ∈ active, known.stage ≠ stage.stage) ∧ observed.1 = id ∧
        observed.2.2 = active ++ [⟨stage.stage, id, offsetMs⟩] := by
  obtain ⟨known, mem, isActive, same⟩ | isNew := active_or_new active stage
  · rw [observeStage_active isActive, if_pos started]
    exact Or.inl ⟨known, mem, same, rfl, rfl⟩
  · rw [observeStage_new isNew, if_pos started]
    exact Or.inr ⟨isNew, rfl, rfl⟩

theorem observeStage_ended {active : List ActiveProviderObservation} (offsetMs : ℕ) (id : Uuid)
    (ended : stage.status ≠ .started) (stages : (active.map (·.stage)).Nodup) :
    let observed := observeStage active stage offsetMs id
    observed.2.2.Sublist active ∧
      (∀ kept, kept ∈ observed.2.2 ↔ kept ∈ active ∧ kept.stage ≠ stage.stage) ∧
      ((∃ known ∈ active, known.stage = stage.stage ∧ observed.1 = known.id) ∨ observed.1 = id) := by
  obtain ⟨known, mem, isActive, same⟩ | isNew := active_or_new active stage
  · rw [observeStage_active isActive, if_neg ended]
    exact ⟨List.eraseP_sublist, mem_eraseP_of_nodup _ stages _, Or.inl ⟨known, mem, same, rfl⟩⟩
  · rw [observeStage_new isNew, if_neg ended]
    exact ⟨List.Sublist.refl _, fun kept => ⟨fun mem => ⟨mem, isNew kept mem⟩, And.left⟩, Or.inr rfl⟩

theorem push_eq (recorder : InvocationTelemetry) (event : TraceTelemetry) :
    recorder.push event = { recorder with
      events := (recorder.push event).events, droppedEvents := (recorder.push event).droppedEvents } := by
  unfold InvocationTelemetry.push
  split
  · rfl
  · split <;> rfl

theorem Observed.push (observed : Observed used isOpen recorder) (known : ∀ id ∈ event.observation, id ∈ used)
    (notEnded : ∀ observation ∈ recorder.active,
      event.observation = some observation.id → isStartedStage none event = true) :
    Observed used isOpen (recorder.push event) := by
  rw [push_eq]
  refine ⟨observed.unsealed, observed.openStages, observed.stages, observed.ids, observed.drawn, ?_, ?_⟩
  · intro kept mem
    cases mem_push mem with
    | inl isOld => exact observed.reported kept isOld
    | inr isNew => exact isNew ▸ known
  · intro kept mem
    cases mem_push mem with
    | inl isOld => exact observed.notEnded kept isOld
    | inr isNew => exact isNew ▸ notEnded

theorem Observed.reopen {active : List ActiveProviderObservation} {reopened : ProviderStage → Bool} {id : Uuid}
    (observed : Observed used isOpen recorder) (fresh : id ∉ used)
    (openStages : ∀ stage, (∃ observation ∈ active, observation.stage = stage) ↔ reopened stage = true)
    (stages : (active.map (·.stage)).Nodup) (ids : (active.map (·.id)).Nodup)
    (known : ∀ observation ∈ active, observation ∈ recorder.active ∨ observation.id = id) :
    Observed (id :: used) reopened { recorder with active := active } := by
  refine ⟨observed.unsealed, openStages, stages, ids, ?_, ?_, ?_⟩
  · intro observation isActive
    cases known observation isActive with
    | inl isOld => exact List.mem_cons_of_mem _ (observed.drawn observation isOld)
    | inr isNew => exact isNew ▸ List.mem_cons_self
  · exact fun event isEvent id isId => List.mem_cons_of_mem _ (observed.reported event isEvent id isId)
  · intro event isEvent observation isActive isObservation
    cases known observation isActive with
    | inl isOld => exact observed.notEnded event isEvent observation isOld isObservation
    | inr isNew => exact absurd (observed.reported event isEvent _ (isNew ▸ isObservation)) fresh

theorem Observed.record (observed : Observed used isOpen recorder) (fresh : report.id ∉ used) :
    Observed (report.id :: used) (fun stage => stillOpen stage (isOpen stage) report) (record recorder report) := by
  have older : ∀ observation ∈ recorder.active, observation.id ≠ report.id := by
    intro observation isActive same
    exact fresh (same ▸ observed.drawn observation isActive)
  obtain ⟨isNone, same⟩ | ⟨stage, isStage, changed⟩ := record_cases recorder report observed.unsealed
  · rw [same]
    simp only [stillOpen, isNone]
    exact observed.reopen fresh observed.openStages observed.stages observed.ids fun _ => Or.inl
  · simp only [stillOpen, isStage]
    rw [changed]
    by_cases started : stage.status = .started
    · have isStart (id : Uuid) (startOffsetMs : ℕ) : isStartedStage none
          (.providerStage (stageTelemetry stage report.requestElapsedMs id startOffsetMs)) = true := by
        simp [isStartedStage, stageTelemetry, started]
      obtain ⟨known, isActive, isKnown, isId, same⟩ | ⟨isNew, isId, added⟩ :=
        observeStage_started recorder.active report.requestElapsedMs report.id started
      · rw [same]
        refine (observed.reopen fresh (fun wanted => ?_) observed.stages observed.ids fun _ => Or.inl).push ?_
          fun _ _ _ => isStart _ _
        · split
          · next isWanted =>
            simp only [started, beq_self_eq_true, iff_true]
            exact ⟨known, isActive, isKnown.trans isWanted⟩
          · exact observed.openStages wanted
        · rintro id ⟨⟩
          rw [isId]
          exact List.mem_cons_of_mem _ (observed.drawn known isActive)
      · rw [added]
        refine (observed.reopen fresh (fun wanted => ?_) ?_ ?_ ?_).push ?_ fun _ _ _ => isStart _ _
        · have before := observed.openStages wanted
          split
          · next isWanted => simp [started, isWanted]
          · next isOther => simpa [isOther] using before
        · rw [List.map_append, List.nodup_append]
          refine ⟨observed.stages, List.nodup_singleton _, ?_⟩
          simpa using isNew
        · rw [List.map_append, List.nodup_append]
          refine ⟨observed.ids, List.nodup_singleton _, ?_⟩
          simpa using older
        · intro observation mem
          rw [List.mem_append, List.mem_singleton] at mem
          refine mem.imp_right ?_
          rintro rfl
          rfl
        · rintro id ⟨⟩
          rw [isId]
          exact List.mem_cons_self
    · obtain ⟨fewer, kept, isId⟩ := observeStage_ended report.requestElapsedMs report.id started observed.stages
      refine (observed.reopen fresh (fun wanted => ?_) (observed.stages.sublist (fewer.map _))
        (observed.ids.sublist (fewer.map _)) fun observation mem => Or.inl (fewer.subset mem)).push ?_ ?_
      · simp only [kept]
        split
        · next isWanted => simp [started, isWanted]
        · next isOther =>
          rw [← observed.openStages wanted]
          refine exists_congr fun observation => and_congr_left fun isWanted => and_iff_left ?_
          rw [isWanted]
          exact Ne.symm isOther
      · rintro id ⟨⟩
        obtain ⟨known, isActive, -, isKnown⟩ | isNew := isId
        · rw [isKnown]
          exact List.mem_cons_of_mem _ (observed.drawn known isActive)
        · rw [isNew]
          exact List.mem_cons_self
      · intro observation mem isObservation
        obtain ⟨isActive, different⟩ := (kept observation).mp mem
        have same := Option.some.inj isObservation
        obtain ⟨known, isKnownActive, sameStage, isKnown⟩ | isNew := isId
        · have isSame : known = observation :=
            List.inj_on_of_nodup_map observed.ids isKnownActive isActive (isKnown.symm.trans same)
          rw [isSame] at sameStage
          exact absurd sameStage different
        · exact absurd (same.symm.trans isNew) (older observation isActive)

theorem Observed.recordAll (observed : Observed used isOpen recorder)
    (distinct : (reports.map (·.id)).Nodup) (fresh : ∀ report ∈ reports, report.id ∉ used) :
    ∃ drawn, Observed drawn (fun stage => reports.foldl (stillOpen stage) (isOpen stage))
      (reports.foldl Gateway.record recorder) := by
  induction reports generalizing used recorder isOpen with
  | nil => exact ⟨used, observed⟩
  | cons report reports ih =>
    rw [List.map_cons, List.nodup_cons] at distinct
    refine ih (observed.record (fresh report List.mem_cons_self)) distinct.2 ?_
    intro later mem
    rw [List.mem_cons, not_or]
    refine ⟨fun same => distinct.1 ?_, fresh later (List.mem_cons_of_mem _ mem)⟩
    rw [← same]
    exact List.mem_map_of_mem mem

end

/-! ## Counting -/

structure Counted (opening : TraceTelemetry) (pushed : ℕ) (recorder : InvocationTelemetry) : Prop
    extends Bounded recorder where
  first : recorder.events[0]? = some opening
  most : recorder.events.length ≤ 1 + pushed
  exact : recorder.droppedEvents = min (1 + pushed - recorder.events.length) maxTraceDroppedEvents

section

variable {pushed : ℕ}

theorem Counted.push (counted : Counted opening pushed recorder) (isOpen : recorder.isSealed = false)
    (event : TraceTelemetry) : Counted opening (pushed + 1) (recorder.push event) := by
  have bounded := counted.toBounded.push event
  have most := counted.most
  have exact := counted.exact
  by_cases room : recorder.events.length < maxTraceTelemetryEvents
  · rw [push_room isOpen room] at bounded ⊢
    refine ⟨bounded, ?_, ?_, ?_⟩
    · rw [List.getElem?_append_left (List.length_pos_of_ne_nil counted.nonEmpty), counted.first]
    · simp
      omega
    · simp [exact]
      omega
  · rw [push_full isOpen room] at bounded ⊢
    refine ⟨bounded, counted.first, ?_, ?_⟩
    · exact most.trans (by omega)
    · simp only [InvocationTelemetry.dropOne, exact]
      omega

theorem Counted.pushTerminal (counted : Counted opening pushed recorder) (notStage : opening.observation = none)
    (isEnd : isStartedStage none event = false) : Counted opening (pushed + 1) (recorder.pushTerminal event) := by
  have first : (recorder.pushTerminal event).events[0]? = some opening := by
    obtain ⟨position, room⟩ | ⟨-, -, changed⟩ := pushTerminal_cases recorder isEnd
    · rw [room.others 0, counted.first]
      rintro rfl
      have isStart := room.gave opening counted.first
      cases opening with
      | invocationStarted _ _ _ | delivery _ => cases isStart
      | providerStage _ => cases notStage
    · rw [changed, List.getElem?_set_ne (by decide), counted.first]
  have most := counted.most
  have exact := counted.exact
  refine ⟨(counted.toBounded.pushTerminal event).1, first, ?_, ?_⟩ <;> rw [InvocationTelemetry.pushTerminal] <;>
    split <;> simp [InvocationTelemetry.dropOne, exact] <;> omega

theorem Counted.pushAll {ends : List TraceTelemetry} (counted : Counted opening pushed recorder)
    (notStage : opening.observation = none) (isEnd : ∀ event ∈ ends, isStartedStage none event = false) :
    Counted opening (pushed + ends.length) (ends.foldl InvocationTelemetry.pushTerminal recorder) := by
  induction ends generalizing recorder pushed with
  | nil => exact counted
  | cons event ends ih =>
    have rest := ih (counted.pushTerminal notStage (isEnd event List.mem_cons_self))
      fun later mem => isEnd later (List.mem_cons_of_mem _ mem)
    rwa [Nat.add_right_comm, Nat.add_assoc] at rest

/-- How often `push` is called. -/
def pushes (reports : List ProviderReport) : ℕ := reports.countP fun report => (stageEvent report.event).isSome

theorem Counted.recordAll (counted : Counted opening pushed recorder) (isOpen : recorder.isSealed = false) :
    Counted opening (pushed + pushes reports) (reports.foldl record recorder) := by
  induction reports generalizing recorder pushed with
  | nil => exact counted
  | cons report reports ih =>
    have tally : pushes (report :: reports) = pushes reports + pushes [report] := by
      simp [pushes, List.countP_cons]
    rw [List.foldl_cons, tally]
    obtain ⟨isNone, same⟩ | ⟨stage, isStage, changed⟩ := record_cases recorder report isOpen
    · simpa [pushes, isNone, same] using ih counted isOpen
    · have observed : Counted opening pushed { recorder with
          active := (observeStage recorder.active stage report.requestElapsedMs report.id).2.2 } :=
        ⟨⟨counted.nonEmpty, counted.few, counted.dropped⟩, counted.first, counted.most, counted.exact⟩
      have next : Counted opening (pushed + 1) (record recorder report) := by
        rw [changed]
        exact observed.push isOpen _
      have rest := ih next (record_open isOpen)
      have once : pushes [report] = 1 := by simp [pushes, isStage]
      rwa [once, Nat.add_comm (pushes reports), ← Nat.add_assoc]

end

/-! ## Invocations cut short -/

/-- An invocation that does not come to its end, after the given reports of the provider. -/
structure CutInvocation where
  providerKey : String
  capability : String
  model : Option String
  reports : List ProviderReport
  endOffsetMs : ℕ
  error : Option String

namespace CutInvocation

variable (run : CutInvocation)

def started : TraceTelemetry := .invocationStarted run.providerKey run.capability run.model

def reported : InvocationTelemetry := run.reports.foldl record (.new run.providerKey run.capability run.model)

def failed (observation : ActiveProviderObservation) : TraceTelemetry :=
  InvocationTelemetry.failedStage run.endOffsetMs run.error observation

def ended : InvocationTelemetry := (run.reported.failActive run.endOffsetMs run.error).2

/-- The accounting is exact as long as the counter is below its limit, and each open stage ends. -/
structure ExactAndTerminal : Prop where
  exact : run.ended.droppedEvents < maxTraceDroppedEvents →
    run.ended.events.length + run.ended.droppedEvents = 1 + (pushes run.reports + run.reported.active.length)
  few : run.ended.events.length ≤ maxTraceTelemetryEvents
  first : run.ended.events[0]? = some run.started
  ends : ∀ stage, unfinished stage run.reports = true →
    ∃ observation ∈ run.reported.active, observation.stage = stage ∧ run.failed observation ∈ run.ended.events

variable {used : List Uuid} {isOpen : ProviderStage → Bool}

theorem reported_observed (distinct : (run.reports.map (·.id)).Nodup) :
    ∃ drawn, Observed drawn (unfinished · run.reports) run.reported := by
  have observed : Observed [] (fun _ => false) (.new run.providerKey run.capability run.model) := by
    refine ⟨rfl, ?_, List.nodup_nil, List.nodup_nil, ?_, ?_, ?_⟩ <;> simp only [InvocationTelemetry.new]
    · simp
    · simp
    · simp [TraceTelemetry.observation]
    · simp
  exact observed.recordAll distinct (by simp)

theorem failed_isEnd : ∀ event ∈ run.reported.active.map run.failed, isStartedStage none event = false := by
  intro event mem
  obtain ⟨observation, -, rfl⟩ := List.mem_map.mp mem
  rfl

theorem cleared_counted : Counted run.started (pushes run.reports) { run.reported with active := [] } := by
  have opened : Counted run.started 0 (.new run.providerKey run.capability run.model) :=
    ⟨⟨List.cons_ne_nil _ _, Nat.le_of_ble_eq_true rfl, Nat.zero_le _⟩, rfl, Nat.le_refl 1, rfl⟩
  have counted : Counted run.started (0 + pushes run.reports) run.reported := opened.recordAll rfl
  rw [Nat.zero_add] at counted
  exact ⟨⟨counted.nonEmpty, counted.few, counted.dropped⟩, counted.first, counted.most, counted.exact⟩

theorem ended_counted : Counted run.started (pushes run.reports + run.reported.active.length) run.ended := by
  have ended := run.cleared_counted.pushAll rfl run.failed_isEnd
  rwa [List.length_map] at ended

variable {run}

theorem failed_distinct (observed : Observed used isOpen run.reported) :
    (run.reported.active.map run.failed).Nodup ∧
      ∀ event ∈ run.reported.active.map run.failed, event ∉ run.reported.events := by
  constructor
  · refine List.Nodup.map_on ?_ (List.Nodup.of_map _ observed.ids)
    intro first isFirst second isSecond same
    simp only [failed, InvocationTelemetry.failedStage, TraceTelemetry.providerStage.injEq,
      StageTelemetry.mk.injEq] at same
    exact List.inj_on_of_nodup_map observed.ids isFirst isSecond same.1
  · intro event mem isOld
    obtain ⟨observation, isActive, rfl⟩ := List.mem_map.mp mem
    have isStart := observed.notEnded _ isOld observation isActive rfl
    cases isStart

theorem failed_kept (observed : Observed used isOpen run.reported) :
    (∀ event ∈ run.reported.active.map run.failed, event ∈ run.ended.events) ↔
      Enough [] run.reported.events run.reported.active.length := by
  obtain ⟨distinct, isNew⟩ := failed_distinct observed
  have nothing : Placed [] run.reported.events := fun _ mem => absurd mem List.not_mem_nil
  have kept := pushAll_iff run.cleared_counted.toBounded run.failed_isEnd distinct isNew nothing
  rwa [List.length_map] at kept

end CutInvocation

/-- The accounting is always exact and the opening always first; all open stages end in the batch exactly when
starts, free places and the second event are enough for them. -/
theorem ends_kept_iff (run : CutInvocation) (distinct : (run.reports.map (·.id)).Nodup) :
    run.ExactAndTerminal ↔ Enough [] run.reported.events run.reported.active.length := by
  obtain ⟨drawn, observed⟩ := run.reported_observed distinct
  have counted := run.ended_counted
  rw [← run.failed_kept observed]
  constructor
  · intro complete event member
    obtain ⟨observation, isMember, rfl⟩ := List.mem_map.mp member
    obtain ⟨other, isOther, sameStage, kept⟩ :=
      complete.ends observation.stage ((observed.openStages _).mp ⟨observation, isMember, rfl⟩)
    rwa [List.inj_on_of_nodup_map observed.stages isOther isMember sameStage] at kept
  · intro kept
    refine ⟨?_, counted.few, counted.first, ?_⟩
    · intro below
      have exact := counted.exact
      have most := counted.most
      omega
    · intro stage isOpen
      obtain ⟨observation, isMember, sameStage⟩ := (observed.openStages stage).mpr isOpen
      exact ⟨observation, isMember, sameStage, kept _ (List.mem_map_of_mem isMember)⟩

/-- The id that is drawn for a report, in the order of the reports. -/
def drawnId (number : ℕ) : Uuid :=
  let text := "0190f2c4-7b1e-7c3a-9d52-1f6a0e8b4c" ++ toString (number % 90 + 10)
  if isUuid : text.length = 36 ∧ text.toList.zipIdx.all (fun place => uuidCharacter place.2 place.1) = true then ⟨text, isUuid⟩
  else ⟨"0190f2c4-7b1e-7c3a-9d52-1f6a0e8b4c09", by decide⟩

def numbered (events : List ProviderEvent) : List ProviderReport :=
  events.zipIdx.map fun (event, number) => ⟨event, number, drawnId number⟩

def cutAfter (events : List ProviderEvent) : CutInvocation where
  providerKey := "local-llama"
  capability := "chat"
  model := some "llama-3"
  reports := numbered events
  endOffsetMs := 50
  error := some "provider timed out after 40ms"

theorem ends_kept_iff_timeout : (cutAfter [.stageStarted .decode .null]).ExactAndTerminal ↔
      Enough [] (cutAfter [.stageStarted .decode .null]).reported.events
        (cutAfter [.stageStarted .decode .null]).reported.active.length :=
  ends_kept_iff _ (by decide)

/-- The queue and the load are both open when the invocation is cut short, and only the load ends. -/
theorem end_overwritten : ¬∀ run : CutInvocation, (run.reports.map (·.id)).Nodup → run.ExactAndTerminal := by
  intro always
  let run := cutAfter (List.replicate 31 (.stageCompleted .tokenize 1 .null) ++
    [.stageStarted .queue .null, .stageStarted .load .null])
  have complete := always run (by decide +kernel)
  obtain ⟨observation, isActive, isQueue, kept⟩ := complete.ends .queue (by decide +kernel)
  have lost : ∀ observation ∈ run.reported.active, observation.stage = .queue →
      run.failed observation ∉ run.ended.events := by decide +kernel
  exact lost observation isActive isQueue kept

end Vifu.Gateway
