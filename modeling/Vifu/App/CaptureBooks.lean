import Mathlib.Data.Finmap
import Vifu.App.OverridesKept

/-!
# The books of the captures

The controller keeps the requests that are in flight and the latest answered request of each route and capability.  A
history follows the calls of the controller and remembers which requests were delivered since the latest
configuration, the newest first.
-/

namespace Vifu.App

open Foundation
open Vifu.Runtime hiding u64Max saturatingAdd
open Vifu.Gateway (Uuid)

section

variable {K V : Type} [DecidableEq K] {table : AList fun _ : K => V} {key : K} {value : V}

theorem sum_le_of_sublist {first second : List ℕ} (part : first.Sublist second) : first.sum ≤ second.sum := by
  induction part with
  | slnil => exact le_rfl
  | cons _ _ ih =>
    rw [List.sum_cons]
    omega
  | cons_cons _ _ ih =>
    rw [List.sum_cons, List.sum_cons]
    omega

def total (bytes : V → ℕ) (table : AList fun _ : K => V) : ℕ := (table.entries.map fun entry => bytes entry.2).sum

theorem length_erase_le : (table.erase key).entries.length ≤ table.entries.length :=
  (List.kerase_sublist key table.entries).length_le

theorem total_erase_le (bytes : V → ℕ) : total bytes (table.erase key) ≤ total bytes table :=
  sum_le_of_sublist ((List.kerase_sublist key table.entries).map _)

theorem length_insert_le : (table.insert key value).entries.length ≤ table.entries.length + 1 := by
  have erased : (table.erase key).entries.length ≤ table.entries.length := length_erase_le
  exact Nat.succ_le_succ erased

theorem total_insert_le (bytes : V → ℕ) : total bytes (table.insert key value) ≤ total bytes table + bytes value := by
  have erased : total bytes (table.erase key) ≤ total bytes table := total_erase_le bytes
  rw [total, AList.entries_insert, List.map_cons, List.sum_cons, Nat.add_comm]
  exact Nat.add_le_add_right erased _

end

/-! ## Evictions -/

namespace Corpus

variable {corpus : Corpus} {key other : String} {captured kept : CapturedCase}

theorem oldest_le (isOldest : corpus.oldest = some (key, captured)) (stored : corpus.lookup other = some kept) :
    captured.sequence ≤ kept.sequence := by
  have listed := (List.mem_insertionSort fun first second : String × CapturedCase =>
    first.2.sequence ≤ second.2.sequence).mpr (mem_inOrder.mpr stored)
  have sorted := List.pairwise_insertionSort (fun first second : String × CapturedCase =>
    first.2.sequence ≤ second.2.sequence) (inOrder corpus)
  rw [oldest] at isOldest
  cases isSorted : (inOrder corpus).insertionSort fun first second => first.2.sequence ≤ second.2.sequence with
  | nil => simp [isSorted] at isOldest
  | cons head tail =>
    rw [isSorted] at isOldest listed sorted
    rw [List.head?_cons, Option.some.injEq] at isOldest
    subst isOldest
    rw [List.mem_cons] at listed
    obtain same | later := listed
    · cases same
      exact le_rfl
    · exact (List.pairwise_cons.mp sorted).1 _ later

theorem trim_of_fits (fits : ¬corpus.Overfull) : corpus.trim = (corpus, []) := by
  rw [trim]
  cases corpus.entries.length with
  | zero => rfl
  | succ rounds => rw [trimRounds, if_neg fits]

/-- What a loop of evictions leaves and takes. -/
structure Trimmed (corpus : Corpus) (result : Corpus × List CapturedCase) : Prop where
  kept : ∀ key captured, result.1.lookup key = some captured → corpus.lookup key = some captured
  evicted : ∀ captured ∈ result.2, ∃ key, corpus.lookup key = some captured ∧ result.1.lookup key = none
  gone : ∀ key captured, corpus.lookup key = some captured → result.1.lookup key = none → captured ∈ result.2
  oldest : ∀ key captured other kept, corpus.lookup key = some captured → result.1.lookup key = none →
    result.1.lookup other = some kept → captured.sequence ≤ kept.sequence

theorem trimmed_same : Trimmed corpus (corpus, []) where
  kept _ _ stored := stored
  evicted _ mem := by cases mem
  gone _ _ stored missing := by simp [stored] at missing
  oldest _ _ _ _ stored missing := by simp [stored] at missing

theorem trimRounds_trimmed (rounds : ℕ) (corpus : Corpus) : Trimmed corpus (corpus.trimRounds rounds) := by
  induction rounds generalizing corpus with
  | zero => exact trimmed_same
  | succ rounds ih =>
    rw [trimRounds]
    split
    next overfull =>
      obtain ⟨first, removed, isOldest, stored⟩ := oldest_of_overfull overfull
      have rest := ih (corpus.erase first)
      simp only [isOldest]
      refine ⟨fun key captured isKept => ?_, fun captured isEvicted => ?_, fun key captured held missing => ?_,
        fun key captured other kept held missing isKept => ?_⟩
      · have erased := rest.kept key captured isKept
        rw [lookup_erase] at erased
        split at erased
        next => cases erased
        next => exact erased
      · rw [List.mem_cons] at isEvicted
        obtain rfl | later := isEvicted
        · refine ⟨first, stored, ?_⟩
          cases left : (Corpus.trimRounds rounds (corpus.erase first)).1.lookup first with
          | none => rfl
          | some held =>
            have erased := rest.kept first held left
            simp at erased
        · obtain ⟨key, held, missing⟩ := rest.evicted captured later
          rw [lookup_erase] at held
          split at held
          next => cases held
          next => exact ⟨key, held, missing⟩
      · by_cases same : key = first
        · subst same
          rw [stored, Option.some.injEq] at held
          exact List.mem_cons.mpr (.inl held.symm)
        · refine List.mem_cons_of_mem _ (rest.gone key captured ?_ missing)
          rwa [lookup_erase, if_neg same]
      · have isThere := rest.kept other kept isKept
        rw [lookup_erase] at isThere
        split at isThere
        next => cases isThere
        next =>
          by_cases same : key = first
          · subst same
            rw [stored, Option.some.injEq] at held
            exact held ▸ oldest_le isOldest isThere
          · exact rest.oldest key captured other kept (by rwa [lookup_erase, if_neg same]) missing isKept
    next => exact trimmed_same

theorem trim_trimmed (corpus : Corpus) : Trimmed corpus corpus.trim := trimRounds_trimmed _ corpus

end Corpus

/-! ## Books -/

structure Delivery where
  start : CapturedStart
  output : Value

def Delivery.key (delivery : Delivery) : String := corpusKey delivery.start.routeKey delivery.start.capability

/-- A case keeps the request and the answer of a delivery. -/
structure CapturedCase.Records (captured : CapturedCase) (delivery : Delivery) : Prop where
  routeKey : captured.routeKey = delivery.start.routeKey
  agentId : captured.agentId = delivery.start.agentId
  providerKey : captured.providerKey = delivery.start.providerKey
  capability : captured.capability = delivery.start.capability
  binding : captured.binding = delivery.start.binding
  input : captured.input = delivery.start.input
  baselineOutput : captured.baselineOutput = delivery.output

/-- The bounds hold, no key is both in the corpus and among the issues, and each case is the latest delivery of its
    key. -/
structure Books (floats : FloatText) (state : OptimizationState) (deliveries : List Delivery) : Prop where
  inFlightCount : state.inFlight.entries.length ≤ maxInFlightCaptures
  inFlightBytes : total CapturedStart.capturedBytes state.inFlight ≤ maxInFlightCaptureBytes
  measured : ∀ requestId start, state.inFlight.lookup requestId = some start →
    start.capturedBytes = capturedValueBytes floats start.binding start.input none
  corpusCount : state.corpus.entries.length ≤ maxCapturedCases
  corpusBytes : total CapturedCase.capturedBytes state.corpus ≤ maxCapturedBytes
  caseMeasured : ∀ key captured, state.corpus.lookup key = some captured →
    captured.capturedBytes = capturedValueBytes floats captured.binding captured.input (some captured.baselineOutput)
  keyed : ∀ key captured, state.corpus.lookup key = some captured →
    corpusKey captured.routeKey captured.capability = key
  issueKeyed : ∀ key issue, state.captureIssues.lookup key = some issue →
    corpusKey issue.routeKey issue.capability = key
  apart : ∀ key ∈ state.corpus, key ∉ state.captureIssues
  latest : ∀ key captured, state.corpus.lookup key = some captured →
    ∃ delivery, deliveries.find? (fun delivery => delivery.key = key) = some delivery ∧ captured.Records delivery

structure Numbered (state : OptimizationState) (deliveries : List Delivery) : Prop where
  counted : state.nextCaptureSequence ≤ deliveries.length
  bounded : ∀ key captured, state.corpus.lookup key = some captured → captured.sequence ≤ state.nextCaptureSequence
  ordered : ∀ older newer first second, state.corpus.lookup older = some first →
    state.corpus.lookup newer = some second →
    deliveries.findIdx (fun delivery => delivery.key = newer) <
      deliveries.findIdx (fun delivery => delivery.key = older) → first.sequence < second.sequence

variable {K V : Type} {value : V}

theorem mem_of_lookup [DecidableEq K] {table : AList fun _ : K => V} {key : K}
    (stored : table.lookup key = some value) : key ∈ table :=
  AList.lookup_isSome.mp (by rw [stored]; rfl)

theorem lookup_of_mem [DecidableEq K] {table : AList fun _ : K => V} {key : K} (mem : key ∈ table) :
    ∃ value, table.lookup key = some value :=
  Option.isSome_iff_exists.mp (AList.lookup_isSome.mpr mem)

variable {delivery : Delivery} {key : String} {issue : OptimizationCaptureIssue}

section

variable {floats : FloatText} {state : OptimizationState} {deliveries : List Delivery} {added : CapturedCase}

/-! ## Steps of the books -/

theorem Books.empty (configEpoch : ℕ) (providers : HashMap String ConfiguredProvider) :
    Books floats ⟨configEpoch, providers, ∅, ∅, ∅, 0⟩ [] where
  inFlightCount := Nat.zero_le _
  inFlightBytes := Nat.zero_le _
  measured _ _ stored := by cases stored
  corpusCount := Nat.zero_le _
  corpusBytes := Nat.zero_le _
  caseMeasured _ _ stored := by cases stored
  keyed _ _ stored := by cases stored
  issueKeyed _ _ stored := by cases stored
  apart _ mem := by cases mem
  latest _ _ stored := by cases stored

section

variable (books : Books floats state deliveries)
include books

theorem Books.land (requestId : Uuid) :
    Books floats { state with inFlight := state.inFlight.erase requestId } deliveries :=
  { books with
    inFlightCount := length_erase_le.trans books.inFlightCount
    inFlightBytes := (total_erase_le _).trans books.inFlightBytes
    measured := fun other start stored => by
      rw [lookup_erase] at stored
      split at stored
      next => cases stored
      next => exact books.measured other start stored }

theorem Books.launch {requestId : Uuid} {start : CapturedStart}
    (measured : start.capturedBytes = capturedValueBytes floats start.binding start.input none)
    (room : state.inFlight.entries.length < maxInFlightCaptures)
    (budget : total CapturedStart.capturedBytes state.inFlight + start.capturedBytes ≤ maxInFlightCaptureBytes) :
    Books floats { state with inFlight := state.inFlight.insert requestId start } deliveries :=
  { books with
    inFlightCount := length_insert_le.trans room
    inFlightBytes := (total_insert_le _).trans budget
    measured := fun other held stored => by
      rw [lookup_insert] at stored
      split at stored
      next =>
        cases stored
        exact measured
      next => exact books.measured other held stored }

theorem Books.dropCase (issue : OptimizationCaptureIssue) : Books floats (state.dropCase issue) deliveries := by
  have remaining : ∀ key captured, (state.dropCase issue).corpus.lookup key = some captured →
      key ≠ corpusKey issue.routeKey issue.capability ∧ state.corpus.lookup key = some captured := by
    intro key captured stored
    rw [OptimizationState.dropCase, lookup_erase] at stored
    split at stored
    next => cases stored
    next differs => exact ⟨differs, stored⟩
  exact { books with
    corpusCount := length_erase_le.trans books.corpusCount
    corpusBytes := (total_erase_le _).trans books.corpusBytes
    caseMeasured := fun key captured stored => books.caseMeasured key captured (remaining key captured stored).2
    keyed := fun key captured stored => books.keyed key captured (remaining key captured stored).2
    issueKeyed := fun key held stored => by
      rw [OptimizationState.dropCase, OptimizationState.noteIssue, lookup_insert] at stored
      split at stored
      next same =>
        cases stored
        exact same.symm
      next => exact books.issueKeyed key held stored
    apart := fun key mem isIssue => by
      obtain ⟨captured, stored⟩ := lookup_of_mem mem
      obtain ⟨differs, stored⟩ := remaining key captured stored
      rw [OptimizationState.dropCase, OptimizationState.noteIssue, AList.mem_insert] at isIssue
      obtain same | isIssue := isIssue
      · exact differs same
      · exact books.apart key (mem_of_lookup stored) isIssue
    latest := fun key captured stored => books.latest key captured (remaining key captured stored).2 }

theorem Books.overlook (absent : delivery.key ∉ state.corpus) : Books floats state (delivery :: deliveries) :=
  { books with
    latest := fun key captured stored => by
      have differs : delivery.key ≠ key := fun same => absent (same ▸ mem_of_lookup stored)
      obtain ⟨found, isLatest, records⟩ := books.latest key captured stored
      exact ⟨found, by rw [List.find?_cons_of_neg (by simpa using differs)]; exact isLatest, records⟩ }

end

def noteEvicted (state : OptimizationState) (evicted : List CapturedCase) : OptimizationState :=
  evicted.foldl (fun state evicted => state.noteIssue
    ⟨evicted.routeKey, evicted.capability, evicted.providerKey, OptimizationState.evictedMessage⟩) state

theorem noteEvicted_same (evicted : List CapturedCase) :
    noteEvicted state evicted = { state with captureIssues := (noteEvicted state evicted).captureIssues } := by
  induction evicted generalizing state with
  | nil => rfl
  | cons head tail ih => exact ih

theorem lookup_noteEvicted {evicted : List CapturedCase}
    (stored : (noteEvicted state evicted).captureIssues.lookup key = some issue) :
    state.captureIssues.lookup key = some issue ∨
      corpusKey issue.routeKey issue.capability = key ∧
        ∃ captured ∈ evicted, corpusKey captured.routeKey captured.capability = key := by
  induction evicted generalizing state with
  | nil => exact .inl stored
  | cons head tail ih =>
    obtain earlier | ⟨named, captured, mem, keyed⟩ := ih stored
    · simp only [OptimizationState.noteIssue] at earlier
      rw [lookup_insert] at earlier
      split at earlier
      next same =>
        cases earlier
        exact .inr ⟨same.symm, head, List.mem_cons_self, same.symm⟩
      next => exact .inl earlier
    · exact .inr ⟨named, captured, List.mem_cons_of_mem _ mem, keyed⟩

theorem addCase_same (added : CapturedCase) : state.addCase added = { state with
    corpus := (Corpus.trim (state.corpus.insert (corpusKey added.routeKey added.capability) added)).1
    captureIssues := (state.addCase added).captureIssues } :=
  noteEvicted_same _

theorem corpus_addCase (added : CapturedCase) : (state.addCase added).corpus =
    (Corpus.trim (state.corpus.insert (corpusKey added.routeKey added.capability) added)).1 :=
  congrArg OptimizationState.corpus (addCase_same added)

theorem inFlight_addCase (added : CapturedCase) : (state.addCase added).inFlight = state.inFlight := by
  rw [addCase_same]

theorem nextCaptureSequence_addCase (added : CapturedCase) :
    (state.addCase added).nextCaptureSequence = state.nextCaptureSequence := by
  rw [addCase_same]

theorem lookup_addCase {added captured : CapturedCase}
    (stored : (state.addCase added).corpus.lookup key = some captured) :
    key = corpusKey added.routeKey added.capability ∧ captured = added ∨
      key ≠ corpusKey added.routeKey added.capability ∧ state.corpus.lookup key = some captured := by
  rw [corpus_addCase] at stored
  have held := (Corpus.trim_trimmed _).kept key captured stored
  rw [lookup_insert] at held
  split at held
  next same => exact .inl ⟨same, (Option.some.inj held).symm⟩
  next differs => exact .inr ⟨differs, held⟩

theorem Books.addCase (books : Books floats state deliveries) (records : added.Records delivery)
    (measured : added.capturedBytes = capturedValueBytes floats added.binding added.input (some added.baselineOutput)) :
    Books floats (state.addCase added) (delivery :: deliveries) := by
  have isKey : delivery.key = corpusKey added.routeKey added.capability := by
    rw [Delivery.key, records.routeKey, records.capability]
  have corpus := @corpus_addCase state added
  have inFlight := @inFlight_addCase state added
  have fits := Corpus.trim_fits (state.corpus.insert (corpusKey added.routeKey added.capability) added)
  rw [← corpus, Corpus.Overfull, not_or, gt_iff_lt, Nat.not_lt, Nat.not_lt] at fits
  have issues : ∀ key issue, (state.addCase added).captureIssues.lookup key = some issue →
      corpusKey issue.routeKey issue.capability = key ∧ key ∉ (state.addCase added).corpus := by
    intro key issue stored
    obtain earlier | ⟨named, captured, evicted, keyed⟩ := lookup_noteEvicted stored
    · rw [lookup_erase] at earlier
      split at earlier
      next => cases earlier
      next differs =>
        refine ⟨books.issueKeyed key issue earlier, fun mem => ?_⟩
        obtain ⟨captured, held⟩ := lookup_of_mem mem
        obtain ⟨same, _⟩ | ⟨_, held⟩ := lookup_addCase held
        · exact differs same
        · exact books.apart key (mem_of_lookup held) (mem_of_lookup earlier)
    · refine ⟨named, fun mem => ?_⟩
      -- an evicted case has left the key that it is kept under
      obtain ⟨own, held, missing⟩ := (Corpus.trim_trimmed _).evicted captured evicted
      have ownKey : corpusKey captured.routeKey captured.capability = own := by
        rw [lookup_insert] at held
        split at held
        next same => rw [← Option.some.inj held, same]
        next => exact books.keyed own captured held
      rw [corpus, ← keyed, ownKey] at mem
      obtain ⟨_, stays⟩ := lookup_of_mem mem
      rw [missing] at stays
      cases stays
  refine ⟨by rw [inFlight]; exact books.inFlightCount, by rw [inFlight]; exact books.inFlightBytes,
    by rw [inFlight]; exact books.measured, fits.1, fits.2, fun key captured stored => ?_,
    fun key captured stored => ?_, fun key issue stored => (issues key issue stored).1, fun key mem isIssue => ?_,
    fun key captured stored => ?_⟩
  · obtain ⟨_, rfl⟩ | ⟨_, held⟩ := lookup_addCase stored
    · exact measured
    · exact books.caseMeasured key captured held
  · obtain ⟨same, rfl⟩ | ⟨_, held⟩ := lookup_addCase stored
    · exact same.symm
    · exact books.keyed key captured held
  · obtain ⟨issue, stored⟩ := lookup_of_mem isIssue
    exact (issues key issue stored).2 mem
  · obtain ⟨same, rfl⟩ | ⟨differs, held⟩ := lookup_addCase stored
    · exact ⟨delivery, by rw [List.find?_cons_of_pos (by simpa using isKey.trans same.symm)], records⟩
    · obtain ⟨found, isLatest, foundRecords⟩ := books.latest key captured held
      have other : delivery.key ≠ key := fun same => differs (same ▸ isKey)
      exact ⟨found, by rw [List.find?_cons_of_neg (by simpa using other)]; exact isLatest, foundRecords⟩

/-! ## Steps of the numbers -/

theorem Numbered.empty (configEpoch : ℕ) (providers : HashMap String ConfiguredProvider) :
    Numbered ⟨configEpoch, providers, ∅, ∅, ∅, 0⟩ [] where
  counted := Nat.zero_le _
  bounded _ _ stored := by cases stored
  ordered _ _ _ _ stored := by cases stored

theorem Numbered.shrink (numbered : Numbered state deliveries) {next : OptimizationState}
    (same : next.nextCaptureSequence = state.nextCaptureSequence)
    (kept : ∀ key captured, next.corpus.lookup key = some captured → state.corpus.lookup key = some captured) :
    Numbered next deliveries where
  counted := same ▸ numbered.counted
  bounded key captured stored := same ▸ numbered.bounded key captured (kept key captured stored)
  ordered older newer first second isFirst isSecond :=
    numbered.ordered older newer first second (kept older first isFirst) (kept newer second isSecond)

theorem findIdx_other (differs : delivery.key ≠ key) :
    (delivery :: deliveries).findIdx (fun delivery => delivery.key = key) =
      deliveries.findIdx (fun delivery => delivery.key = key) + 1 := by
  simp [List.findIdx_cons, differs]

theorem findIdx_own (same : delivery.key = key) :
    (delivery :: deliveries).findIdx (fun delivery => delivery.key = key) = 0 := by
  simp [List.findIdx_cons, same]

theorem Numbered.overlook (numbered : Numbered state deliveries)
    (absent : delivery.key ∉ state.corpus) : Numbered state (delivery :: deliveries) where
  counted := numbered.counted.trans (Nat.le_succ _)
  bounded := numbered.bounded
  ordered older newer first second isFirst isSecond before := by
    have differs : ∀ {key captured}, state.corpus.lookup key = some captured → delivery.key ≠ key :=
      fun stored same => absent (same ▸ mem_of_lookup stored)
    rw [findIdx_other (differs isFirst), findIdx_other (differs isSecond)] at before
    exact numbered.ordered older newer first second isFirst isSecond (Nat.lt_of_succ_lt_succ before)

theorem Numbered.addCase (numbered : Numbered state deliveries)
    (isKey : delivery.key = corpusKey added.routeKey added.capability)
    (sequence : added.sequence = state.nextCaptureSequence + 1) :
    Numbered ({ state with nextCaptureSequence := state.nextCaptureSequence + 1 }.addCase added)
      (delivery :: deliveries) where
  counted := by
    rw [nextCaptureSequence_addCase]
    exact Nat.succ_le_succ numbered.counted
  bounded key captured stored := by
    rw [nextCaptureSequence_addCase]
    obtain ⟨_, rfl⟩ | ⟨_, held⟩ := lookup_addCase stored
    · exact sequence.le
    · exact (numbered.bounded key captured held).trans (Nat.le_succ _)
  ordered older newer first second isFirst isSecond before := by
    obtain ⟨isOlder, rfl⟩ | ⟨olderDiffers, heldOlder⟩ := lookup_addCase isFirst
    · rw [findIdx_own (isKey.trans isOlder.symm)] at before
      exact absurd before (Nat.not_lt_zero _)
    · obtain ⟨_, rfl⟩ | ⟨newerDiffers, heldNewer⟩ := lookup_addCase isSecond
      · have below := numbered.bounded older first heldOlder
        omega
      · have olderOther : delivery.key ≠ older := fun same => olderDiffers (same ▸ isKey)
        have newerOther : delivery.key ≠ newer := fun same => newerDiffers (same ▸ isKey)
        rw [findIdx_other olderOther, findIdx_other newerOther] at before
        exact numbered.ordered older newer first second heldOlder heldNewer (Nat.lt_of_succ_lt_succ before)

end

structure CaptureHistory where
  session : OptimizationSession
  /-- The deliveries since the latest configuration, the newest first. -/
  deliveries : List Delivery

def OptimizationState.delivered (state : OptimizationState) : GatewayCaptureEvent → Option Delivery
  | .invocationFinished configEpoch requestId terminal output =>
    if configEpoch = state.configEpoch ∧ terminal = .delivered then
      (state.inFlight.lookup requestId).bind fun start => output.map fun output => { start, output }
    else none
  | .invocationStarted .. | .invocationCancelled .. => none

namespace CaptureHistory

variable (history : CaptureHistory)

def state : OptimizationState := history.session.controller.state

def step (floats : FloatText) (action : OptimizationAction) : CaptureHistory where
  session := history.session.step floats action
  deliveries :=
    match action with
    | .configure _ | .refreshProviders _ => []
    | .capture event => (history.state.delivered event).toList ++ history.deliveries
    | .noteCaptureDropped .. | .discardCapture .. | .activate _ | .undo => history.deliveries

end CaptureHistory

def captureMachine (floats : FloatText) : Machine CaptureHistory OptimizationAction where
  start history := history = ⟨.initial, []⟩
  step history action := some (history.step floats action)

/-! ## Captures -/

/-- What a capture event does: the next state, the delivery that it makes, and the answer. -/
inductive CaptureStep (floats : FloatText) (state : OptimizationState) :
    OptimizationState → Option Delivery → CaptureDisposition → Prop where
  | ignored : CaptureStep floats state state none .ignored
  | launched {requestId : Uuid} {start : CapturedStart}
      (measured : start.capturedBytes = capturedValueBytes floats start.binding start.input none)
      (room : state.inFlight.entries.length < maxInFlightCaptures)
      (budget : total CapturedStart.capturedBytes state.inFlight + start.capturedBytes ≤ maxInFlightCaptureBytes) :
      CaptureStep floats state { state with inFlight := state.inFlight.insert requestId start } none .captured
  | refused (issue : OptimizationCaptureIssue) : CaptureStep floats state (state.dropCase issue) none .dropped
  | ended (requestId : Uuid) :
      CaptureStep floats state { state with inFlight := state.inFlight.erase requestId } none .captured
  | oversized {requestId : Uuid} {delivery : Delivery} {issue : OptimizationCaptureIssue}
      (isKey : delivery.key = corpusKey issue.routeKey issue.capability) :
      CaptureStep floats state ({ state with inFlight := state.inFlight.erase requestId }.dropCase issue)
        (some delivery) .dropped
  | delivered {requestId : Uuid} {delivery : Delivery} {added : CapturedCase} (records : added.Records delivery)
      (measured : added.capturedBytes =
        capturedValueBytes floats added.binding added.input (some added.baselineOutput))
      (sequence : added.sequence = Runtime.saturatingAdd state.nextCaptureSequence 1) :
      CaptureStep floats state
        ({ state with
          inFlight := state.inFlight.erase requestId
          nextCaptureSequence := Runtime.saturatingAdd state.nextCaptureSequence 1 }.addCase added)
        (some delivery) .captured

section

variable {floats : FloatText} {state next : OptimizationState} {deliveries : List Delivery}
  {delivery : Option Delivery} {answer : CaptureDisposition}

theorem capture_step (event : GatewayCaptureEvent) : CaptureStep floats state (state.capture floats event).1
    (state.delivered event) (state.capture floats event).2 := by
  cases event with
  | invocationStarted configEpoch requestId bindingId agentId providerKey capability binding input timeoutMs =>
    simp only [OptimizationState.capture, OptimizationState.delivered]
    split
    next => exact .ignored
    next =>
      split
      next fits =>
        have budget := fits.2.2
        have large : ¬Runtime.u64Max ≤ maxInFlightCaptureBytes := by decide
        exact .launched rfl fits.2.1 ((min_le_iff.mp budget).resolve_right large)
      next => exact .refused _
  | invocationFinished configEpoch requestId terminal output =>
    simp only [OptimizationState.capture, OptimizationState.delivered]
    by_cases current : configEpoch = state.configEpoch
    · cases held : state.inFlight.lookup requestId with
      | none => simpa [current] using CaptureStep.ignored
      | some start =>
        by_cases isDelivered : terminal = .delivered
        · cases output with
          | none => simpa [current, isDelivered] using CaptureStep.ended requestId
          | some output =>
            simp only [current, isDelivered, ne_eq, not_true_eq_false, and_self, ↓reduceIte, Option.bind_some,
              Option.map_some]
            split
            next => exact .oversized rfl
            next => exact .delivered ⟨rfl, rfl, rfl, rfl, rfl, rfl, rfl⟩ rfl rfl
        · simpa [current, isDelivered] using CaptureStep.ended requestId
    · simpa [current] using CaptureStep.ignored
  | invocationCancelled configEpoch requestId =>
    simp only [OptimizationState.capture, OptimizationState.delivered]
    split
    next => exact .ignored
    next =>
      split
      next => exact .ended requestId
      next => exact .ignored

theorem notMem_dropCase (issue : OptimizationCaptureIssue) :
    corpusKey issue.routeKey issue.capability ∉ (state.dropCase issue).corpus := by
  rw [OptimizationState.dropCase, AList.mem_erase]
  exact fun mem => mem.1 rfl

theorem CaptureStep.books (step : CaptureStep floats state next delivery answer)
    (books : Books floats state deliveries) : Books floats next (delivery.toList ++ deliveries) := by
  cases step with
  | ignored => exact books
  | launched measured room budget => exact books.launch measured room budget
  | refused issue => exact books.dropCase issue
  | ended requestId => exact books.land requestId
  | @oversized requestId delivery issue isKey =>
    exact ((books.land requestId).dropCase issue).overlook (isKey ▸ notMem_dropCase issue)
  | @delivered requestId delivery added records measured sequence =>
    have landed : Books floats { state with
        inFlight := state.inFlight.erase requestId
        nextCaptureSequence := Runtime.saturatingAdd state.nextCaptureSequence 1 } deliveries :=
      { books.land requestId with }
    exact landed.addCase records measured

theorem lookup_dropCase {captured : CapturedCase}
    (stored : (state.dropCase issue).corpus.lookup key = some captured) : state.corpus.lookup key = some captured := by
  rw [OptimizationState.dropCase, lookup_erase] at stored
  split at stored
  next => cases stored
  next => exact stored

theorem CaptureStep.numbers (step : CaptureStep floats state next delivery answer)
    (few : (delivery.toList ++ deliveries).length ≤ Runtime.u64Max) (numbered : Numbered state deliveries) :
    Numbered next (delivery.toList ++ deliveries) := by
  cases step with
  | ignored => exact numbered
  | launched => exact numbered.shrink rfl fun _ _ stored => stored
  | refused issue => exact numbered.shrink rfl fun _ _ stored => lookup_dropCase stored
  | ended requestId => exact numbered.shrink rfl fun _ _ stored => stored
  | @oversized requestId delivery issue isKey =>
    have dropped : Numbered ({ state with inFlight := state.inFlight.erase requestId }.dropCase issue) deliveries :=
      numbered.shrink rfl fun _ _ stored => lookup_dropCase stored
    exact dropped.overlook (isKey ▸ notMem_dropCase issue)
  | @delivered requestId delivery added records measured sequence =>
    have below := numbered.counted
    have counts : Runtime.saturatingAdd state.nextCaptureSequence 1 = state.nextCaptureSequence + 1 :=
      Nat.min_eq_left ((Nat.succ_le_succ below).trans few)
    have landed : Numbered { state with inFlight := state.inFlight.erase requestId } deliveries :=
      numbered.shrink rfl fun _ _ stored => stored
    rw [counts] at sequence ⊢
    exact landed.addCase (by rw [Delivery.key, records.routeKey, records.capability]) sequence

/-! ## Evictions by age -/

/-- When a delivered request is captured, the keys that leave the corpus had their latest delivery before those that
    stay. -/
def EvictsOldest (floats : FloatText) (history : CaptureHistory) (event : GatewayCaptureEvent) : Prop :=
  (history.state.capture floats event).2 = .captured → ∀ delivery, history.state.delivered event = some delivery →
    ∀ evicted kept, evicted ∈ history.state.corpus ∨ evicted = delivery.key →
      evicted ∉ (history.step floats (.capture event)).state.corpus →
      kept ∈ (history.step floats (.capture event)).state.corpus →
      (history.step floats (.capture event)).deliveries.findIdx (fun delivery => delivery.key = kept) <
        (history.step floats (.capture event)).deliveries.findIdx (fun delivery => delivery.key = evicted)

theorem findIdx_ne {first second : String} {found : Delivery} (differs : first ≠ second)
    (isFirst : deliveries.find? (fun delivery => delivery.key = first) = some found) :
    deliveries.findIdx (fun delivery => delivery.key = first) ≠
      deliveries.findIdx (fun delivery => delivery.key = second) := by
  induction deliveries with
  | nil => cases isFirst
  | cons head tail ih =>
    by_cases firstHere : head.key = first
    · rw [findIdx_own firstHere, findIdx_other (fun secondHere => differs (firstHere.symm.trans secondHere))]
      exact Nat.zero_ne_add_one _
    · rw [List.find?_cons_of_neg (by simpa using firstHere)] at isFirst
      rw [findIdx_other firstHere]
      by_cases secondHere : head.key = second
      · rw [findIdx_own secondHere]
        exact Nat.add_one_ne_zero _
      · rw [findIdx_other secondHere]
        exact fun same => ih isFirst (Nat.succ.inj same)

theorem CaptureStep.evicts (step : CaptureStep floats state next delivery .captured) {made : Delivery}
    (isMade : delivery = some made) (few : (made :: deliveries).length ≤ Runtime.u64Max)
    (books : Books floats state deliveries) (numbered : Numbered state deliveries) {evicted kept : String}
    (was : evicted ∈ state.corpus ∨ evicted = made.key) (gone : evicted ∉ next.corpus) (stays : kept ∈ next.corpus) :
    (made :: deliveries).findIdx (fun delivery => delivery.key = kept) <
      (made :: deliveries).findIdx (fun delivery => delivery.key = evicted) := by
  cases step with
  | launched | ended => cases isMade
  | @delivered requestId delivery added records measured sequence =>
    cases isMade
    have isKey : made.key = corpusKey added.routeKey added.capability := by
      rw [Delivery.key, records.routeKey, records.capability]
    have counts : Runtime.saturatingAdd state.nextCaptureSequence 1 = state.nextCaptureSequence + 1 :=
      Nat.min_eq_left ((Nat.succ_le_succ numbered.counted).trans few)
    obtain ⟨keptCase, isKept⟩ := lookup_of_mem stays
    rw [corpus_addCase] at isKept gone
    have trimmed := Corpus.trim_trimmed (state.corpus.insert (corpusKey added.routeKey added.capability) added)
    have missing := AList.lookup_eq_none.mpr gone
    have keptBefore := trimmed.kept kept keptCase isKept
    rw [lookup_insert, ← isKey] at keptBefore
    by_cases keptNew : kept = made.key
    · have differs : made.key ≠ evicted := by
        intro same
        rw [← same, ← keptNew] at missing
        rw [missing] at isKept
        cases isKept
      rw [findIdx_own keptNew.symm, findIdx_other differs]
      exact Nat.succ_pos _
    · rw [if_neg keptNew] at keptBefore
      have small := numbered.bounded kept keptCase keptBefore
      by_cases evictedNew : evicted = made.key
      · -- the added case has the largest number, so it is not evicted before another
        have held : (state.corpus.insert (corpusKey added.routeKey added.capability) added).lookup evicted =
            some added := by
          rw [lookup_insert, if_pos (evictedNew.trans isKey)]
        have inOrder := trimmed.oldest evicted added kept keptCase held missing isKept
        omega
      · have mem := was.resolve_right evictedNew
        obtain ⟨evictedCase, heldBefore⟩ := lookup_of_mem mem
        have held : (state.corpus.insert (corpusKey added.routeKey added.capability) added).lookup evicted =
            some evictedCase := by
          rw [lookup_insert, ← isKey, if_neg evictedNew, heldBefore]
        have inOrder := trimmed.oldest evicted evictedCase kept keptCase held missing isKept
        rw [findIdx_other (Ne.symm keptNew), findIdx_other (Ne.symm evictedNew)]
        apply Nat.succ_lt_succ
        by_contra older
        have differs : evicted ≠ kept := by
          rintro rfl
          rw [missing] at isKept
          cases isKept
        obtain ⟨_, isLatest, _⟩ := books.latest evicted evictedCase heldBefore
        have apart := findIdx_ne differs isLatest
        have wrong := numbered.ordered kept evicted keptCase evictedCase keptBefore heldBefore (by omega)
        omega

/-! ## Runs -/

/-- The books are right, and while there are numbers enough the numbers are. -/
structure CaptureHistory.Kept (floats : FloatText) (history : CaptureHistory) : Prop where
  books : Books floats history.state history.deliveries
  numbers : history.deliveries.length ≤ Runtime.u64Max → Numbered history.state history.deliveries

/-- A call that only takes requests out of flight or cases out of the corpus. -/
structure Shrinks (floats : FloatText) (state next : OptimizationState) : Prop where
  books : ∀ {deliveries}, Books floats state deliveries → Books floats next deliveries
  same : next.nextCaptureSequence = state.nextCaptureSequence
  kept : ∀ key captured, next.corpus.lookup key = some captured → state.corpus.lookup key = some captured

theorem Shrinks.refl : Shrinks floats state state := ⟨fun books => books, rfl, fun _ _ stored => stored⟩

theorem Shrinks.land (requestId : Uuid) :
    Shrinks floats state { state with inFlight := state.inFlight.erase requestId } :=
  ⟨fun books => books.land requestId, rfl, fun _ _ stored => stored⟩

theorem Shrinks.dropped (requestId : Uuid) (issue : OptimizationCaptureIssue) :
    Shrinks floats state ({ state with inFlight := state.inFlight.erase requestId }.dropCase issue) :=
  ⟨fun books => (books.land requestId).dropCase issue, rfl, fun _ _ stored => lookup_dropCase stored⟩

theorem shrinks_noteCaptureDropped (configEpoch : ℕ) (requestId : Uuid)
    (routeKey capability providerKey : Option String) :
    Shrinks floats state (state.noteCaptureDropped configEpoch requestId routeKey capability providerKey) := by
  unfold OptimizationState.noteCaptureDropped
  split
  · exact .refl
  · dsimp only
    split
    · exact .land requestId
    · exact .dropped requestId _

theorem shrinks_discardCapture (configEpoch : ℕ) (requestId : Uuid) :
    Shrinks floats state (state.discardCapture configEpoch requestId) := by
  unfold OptimizationState.discardCapture
  split
  · exact .land requestId
  · exact .refl

variable {history : CaptureHistory}

theorem CaptureHistory.Kept.shrink (kept : history.Kept floats) {later : CaptureHistory}
    (shrinks : Shrinks floats history.state later.state) (same : later.deliveries = history.deliveries) :
    later.Kept floats where
  books := same ▸ shrinks.books kept.books
  numbers few := by
    rw [same] at few ⊢
    exact (kept.numbers few).shrink shrinks.same shrinks.kept

theorem CaptureHistory.Kept.step (kept : history.Kept floats) (action : OptimizationAction) :
    (history.step floats action).Kept floats := by
  cases action with
  | configure report | refreshProviders report => exact ⟨.empty _ _, fun _ => .empty _ _⟩
  | capture event =>
    have step : CaptureStep floats history.state _ _ _ := capture_step event
    refine ⟨step.books kept.books, fun few => step.numbers few (kept.numbers ?_)⟩
    exact (List.sublist_append_right _ _).length_le.trans few
  | noteCaptureDropped configEpoch requestId routeKey capability providerKey =>
    exact kept.shrink (shrinks_noteCaptureDropped configEpoch requestId routeKey capability providerKey) rfl
  | discardCapture configEpoch requestId => exact kept.shrink (shrinks_discardCapture configEpoch requestId) rfl
  | activate combination =>
    refine kept.shrink ?_ rfl
    have same : (history.step floats (.activate combination)).state = history.state := by
      simp only [CaptureHistory.step, CaptureHistory.state, OptimizationSession.step]
      split
      · rfl
      next activated => exact (supported_of_activate activated).1
    rw [same]
    exact .refl
  | undo =>
    refine kept.shrink ?_ rfl
    have same : (history.step floats .undo).state = history.state := by
      simp only [CaptureHistory.step, CaptureHistory.state, OptimizationSession.step]
      split
      · rfl
      next undone =>
        obtain ⟨_, _, rfl⟩ := Option.map_eq_some_iff.mp undone
        rfl
    rw [same]
    exact .refl

/-- In every run the books of the captures are right, no route and capability are both in the corpus and among the
    issues, and in an epoch with at most 2 ^ 64 - 1 deliveries the evicted cases are the oldest ones. -/
theorem captures_keep_books (floats : FloatText) (history : CaptureHistory)
    (reachable : (captureMachine floats).Reachable Machine.always history) :
    Books floats history.state history.deliveries ∧
      (∀ key captured other issue, history.state.corpus.lookup key = some captured →
        history.state.captureIssues.lookup other = some issue →
        ¬(captured.routeKey = issue.routeKey ∧ captured.capability = issue.capability)) ∧
      ∀ event, (history.step floats (.capture event)).deliveries.length ≤ Runtime.u64Max →
        EvictsOldest floats history event := by
  have kept : history.Kept floats := reachable.invariant
    (by intro _ starts; subst starts; exact ⟨.empty _ _, fun _ => .empty _ _⟩)
    (by intro _ action _ holds _ stepped; cases stepped; exact holds.step action)
  refine ⟨kept.books, fun key captured other issue stored noted => ?_, fun event few answered made isMade => ?_⟩
  · rintro ⟨sameRoute, sameCapability⟩
    have sameKey : other = key := by
      rw [← kept.books.keyed key captured stored, ← kept.books.issueKeyed other issue noted, sameRoute, sameCapability]
    exact kept.books.apart key (mem_of_lookup stored) (sameKey ▸ mem_of_lookup noted)
  · intro evicted survivor was gone stays
    have step : CaptureStep floats history.state _ _ _ := capture_step event
    have later : (history.step floats (.capture event)).deliveries = made :: history.deliveries := by
      rw [CaptureHistory.step, isMade]
      rfl
    rw [later] at few ⊢
    rw [answered] at step
    exact step.evicts isMade few kept.books (kept.numbers ((Nat.le_succ _).trans few)) was gone stays

end

/-- A request is answered, and its case is kept. -/
theorem captures_keep_books_draft :
    ∃ history, ((captureMachine fun _ => "0.5").Reachable Machine.always history ∧ history.deliveries.length = 1) ∧
      Books (fun _ => "0.5") history.state history.deliveries := by
  obtain ⟨history, reachable, passes⟩ := (captureMachine fun _ => "0.5").reachable_of_execute Machine.always
    (show (captureMachine fun _ => "0.5").start ⟨.initial, []⟩ from rfl) draftCaptured
    (fun history => decide (history.deliveries.length = 1)) (by decide +kernel)
  exact ⟨history, ⟨reachable, of_decide_eq_true passes⟩, (captures_keep_books _ history reachable).1⟩

/-! ## Numbers that run out -/

def captureStarted (capability : String) (input : Value) : OptimizationAction :=
  .capture (.invocationStarted 1 draftRequest draftRoute "small" "small" capability .null input 1000)

def answerDelivered : GatewayCaptureEvent := .invocationFinished 1 draftRequest .delivered (some .null)

def draftStart (floats : FloatText) (capability : String) (input : Value) : CapturedStart :=
  ⟨draftRoute.text, "small", "small", capability, .null, input, 1000, capturedValueBytes floats .null input none⟩

def draftCase (sequence : ℕ) (capability : String) (input : Value) (capturedBytes : ℕ) : CapturedCase :=
  ⟨sequence, draftRoute.text, "small", "small", capability, .null, input, .null, 1000, capturedBytes⟩

structure Rests (floats : FloatText) (history : CaptureHistory) (corpus : Corpus) (next : ℕ) : Prop where
  reachable : (captureMachine floats).Reachable Machine.always history
  configEpoch : history.state.configEpoch = 1
  inFlight : history.state.inFlight = ∅
  corpus : history.state.corpus = corpus
  next : history.state.nextCaptureSequence = next

section

variable {floats : FloatText} {history : CaptureHistory} {corpus : Corpus} {next bytes : ℕ} {capability : String}
  {input : Value}

theorem erase_only [DecidableEq K] {key : K} :
    (AList.insert key value (∅ : AList fun _ : K => V)).erase key = ∅ := by
  apply AList.ext
  change List.kerase key ((⟨key, value⟩ : Σ _ : K, V) :: List.kerase key []) = []
  exact List.kerase_cons_eq (rfl : key = key)

theorem state_capture (event : GatewayCaptureEvent) :
    (history.step floats (.capture event)).state = (history.state.capture floats event).1 := rfl

section

variable (rests : Rests floats history corpus next)
  (small : capturedValueBytes floats .null input none ≤ maxSingleCaptureBytes)
include rests small

theorem state_started : (history.step floats (captureStarted capability input)).state =
      { history.state with inFlight := AList.insert draftRequest (draftStart floats capability input) ∅ } := by
  have current : ¬(1 ≠ history.state.configEpoch) := by rw [rests.configEpoch]; exact not_not.mpr rfl
  have room : history.state.inFlight.entries.length < maxInFlightCaptures := by
    rw [rests.inFlight]
    decide
  have budget : Runtime.saturatingAdd (history.state.inFlight.entries.map fun entry => entry.2.capturedBytes).sum
      (capturedValueBytes floats .null input none) ≤ maxInFlightCaptureBytes := by
    have order : maxSingleCaptureBytes ≤ maxInFlightCaptureBytes := by decide
    have empty : (history.state.inFlight.entries.map fun entry => entry.2.capturedBytes).sum = 0 := by
      rw [rests.inFlight]
      rfl
    rw [Runtime.saturatingAdd, empty, Nat.zero_add]
    exact (min_le_left _ _).trans (small.trans order)
  rw [captureStarted, state_capture, OptimizationState.capture, if_neg current]
  simp only [small, room, budget, and_self, ↓reduceIte]
  rw [rests.inFlight]
  rfl

section

variable (isBytes : capturedValueBytes floats .null input (some .null) = bytes) (fits : bytes ≤ maxSingleCaptureBytes)
include isBytes fits

theorem capture_answered
    {flying : CaptureHistory} (isFlying : flying = history.step floats (captureStarted capability input)) :
    flying.state.capture floats answerDelivered =
        ({ flying.state with inFlight := ∅, nextCaptureSequence := Runtime.saturatingAdd next 1 }.addCase
          (draftCase (Runtime.saturatingAdd next 1) capability input bytes), .captured) ∧
      flying.state.delivered answerDelivered = some ⟨draftStart floats capability input, .null⟩ ∧
      flying.state.corpus = corpus ∧ flying.state.configEpoch = 1 := by
  have started : flying.state = _ := isFlying ▸ state_started rests small
  have held : flying.state.inFlight.lookup draftRequest = some (draftStart floats capability input) := by
    rw [started]
    exact AList.lookup_insert _
  have landed : flying.state.inFlight.erase draftRequest = ∅ := by
    rw [started]
    exact erase_only
  have current : flying.state.configEpoch = 1 := by
    rw [started]
    exact rests.configEpoch
  have numbers : flying.state.nextCaptureSequence = next := by
    rw [started]
    exact rests.next
  refine ⟨?_, ?_, by rw [started]; exact rests.corpus, current⟩
  · have fresh : ¬(1 ≠ flying.state.configEpoch) := by
      rw [current]
      exact not_not.mpr rfl
    rw [answerDelivered, OptimizationState.capture, if_neg fresh, held, numbers, landed]
    simp only [draftStart, isBytes]
    rw [if_neg (Nat.not_lt.mpr fits)]
    rfl
  · rw [answerDelivered, OptimizationState.delivered, if_pos ⟨current.symm, rfl⟩, held]
    rfl

theorem Rests.deliver (room : ¬Corpus.Overfull (corpus.insert (corpusKey draftRoute.text capability)
      (draftCase (Runtime.saturatingAdd next 1) capability input bytes))) :
    ∃ later, Rests floats later (corpus.insert (corpusKey draftRoute.text capability)
      (draftCase (Runtime.saturatingAdd next 1) capability input bytes)) (Runtime.saturatingAdd next 1) := by
  obtain ⟨flying, isFlying⟩ :
      ∃ flying, flying = history.step floats (captureStarted capability input) := ⟨_, rfl⟩
  obtain ⟨captured, _, cases, current⟩ := capture_answered rests small isBytes fits isFlying
  refine ⟨flying.step floats (.capture answerDelivered), ?_, ?_, ?_, ?_, ?_⟩
  · rw [isFlying]
    exact (rests.reachable.next trivial rfl).next trivial rfl
  · rw [state_capture, captured, addCase_same]
    exact current
  · rw [state_capture, captured, inFlight_addCase]
  · rw [state_capture, captured, corpus_addCase]
    simp only [cases]
    exact congrArg Prod.fst (Corpus.trim_of_fits room)
  · rw [state_capture, captured, nextCaptureSequence_addCase]

end

end

theorem size_null (floats : FloatText) : Value.null.encodedSize floats = 4 := by
  rfl

def largeInput : Value := .array (List.replicate 1200000 .null)

theorem size_nulls (floats : FloatText) (count : ℕ) :
    (Value.array (List.replicate (count + 1) .null)).encodedSize floats = 5 * count + 6 := by
  rw [Value.encodedSize_array, List.map_replicate, List.sum_replicate_nat, size_null]
  omega

theorem size_largeInput (floats : FloatText) : largeInput.encodedSize floats = 6000001 := size_nulls floats 1199999

theorem bytes_of_size {size : ℕ} (isSize : input.encodedSize floats = size) (small : size ≤ 6000001) :
    capturedValueBytes floats .null input none ≤ maxSingleCaptureBytes ∧
      capturedValueBytes floats .null input (some .null) = size + 8 := by
  simp only [capturedValueBytes, Runtime.saturatingAdd, Runtime.u64Max, maxSingleCaptureBytes, Option.map_none,
    Option.map_some, Option.getD_none, Option.getD_some, size_null, isSize]
  omega

/-- After the first configuration and some answers for one route and capability, the case of the latest is all that is
    kept. -/
theorem rests_answered (floats : FloatText) (count : ℕ) : ∃ history corpus,
    Rests floats history corpus (min count Runtime.u64Max) ∧ (count = 0 ∧ corpus = ∅ ∨ corpus =
      AList.singleton (corpusKey draftRoute.text "z") (draftCase (min count Runtime.u64Max) "z" .null 12)) := by
  induction count with
  | zero =>
    refine ⟨CaptureHistory.step ⟨.initial, []⟩ floats (.configure ⟨[], []⟩), ∅,
      ⟨?_, rfl, rfl, rfl, (Nat.zero_min _).symm⟩, .inl ⟨rfl, rfl⟩⟩
    exact Machine.Reachable.next ⟨⟨.initial, []⟩, rfl, .refl⟩ trivial
      (rfl : (captureMachine floats).step ⟨.initial, []⟩ (.configure ⟨[], []⟩) = some _)
  | succ count ih =>
    obtain ⟨history, corpus, rests, few⟩ := ih
    have counts : Runtime.saturatingAdd (min count Runtime.u64Max) 1 = min (count + 1) Runtime.u64Max := by
      rw [Runtime.saturatingAdd]
      omega
    have only : ∀ latest, corpus.insert (corpusKey draftRoute.text "z") latest =
        AList.singleton (corpusKey draftRoute.text "z") latest := by
      intro latest
      obtain ⟨_, rfl⟩ | rfl := few
      · rfl
      · exact AList.insert_singleton_eq
    obtain ⟨small, bytes⟩ := bytes_of_size (size_null floats) (by decide)
    obtain ⟨later, rested⟩ := rests.deliver small bytes (by decide) (by
      rw [only, Corpus.Overfull]
      simp [AList.singleton, draftCase, maxCapturedCases, maxCapturedBytes])
    rw [only, counts] at rested
    exact ⟨later, _, rested, .inr rfl⟩

def largeCase (capability : String) : CapturedCase := draftCase Runtime.u64Max capability largeInput 6000009

def corpusOf (capabilities : List String) : Corpus :=
  capabilities.foldr
    (fun capability corpus => corpus.insert (corpusKey draftRoute.text capability) (largeCase capability))
    (AList.singleton (corpusKey draftRoute.text "z") (draftCase Runtime.u64Max "z" .null 12))

theorem deliver_large {capabilities : List String} (rests : Rests floats history (corpusOf capabilities) Runtime.u64Max)
    (room : ¬(corpusOf (capability :: capabilities)).Overfull) :
    ∃ later, Rests floats later (corpusOf (capability :: capabilities)) Runtime.u64Max := by
  obtain ⟨small, bytes⟩ := bytes_of_size (size_largeInput floats) le_rfl
  exact rests.deliver small bytes (by decide) room

end

/-- When the numbers have run out, an eviction takes the newest case. -/
theorem newest_evicted : ¬∀ (floats : FloatText) (history : CaptureHistory),
    (captureMachine floats).Reachable Machine.always history → ∀ event, EvictsOldest floats history event := by
  intro evicts
  obtain ⟨first, corpus, rests, few⟩ := rests_answered (fun _ => "0.5") Runtime.u64Max
  obtain ⟨none, _⟩ | rfl := few
  · cases none
  have large : ∀ capabilities : List String, (∃ history, Rests (fun _ => "0.5") history (corpusOf capabilities)
      Runtime.u64Max) → ∀ capability, ¬(corpusOf (capability :: capabilities)).Overfull →
      ∃ history, Rests (fun _ => "0.5") history (corpusOf (capability :: capabilities)) Runtime.u64Max := by
    rintro capabilities ⟨history, rests⟩ capability room
    exact deliver_large rests room
  -- four large cases fill the corpus
  have filled := large _ (large _ (large _ (large [] ⟨first, rests⟩ "e" (by decide +kernel)) "d" (by decide +kernel))
    "c" (by decide +kernel)) "b" (by decide +kernel)
  obtain ⟨history, rests⟩ := filled
  obtain ⟨small, bytes⟩ := bytes_of_size (size_largeInput fun _ => "0.5") le_rfl
  obtain ⟨flying, isFlying⟩ :
      ∃ flying, flying = history.step (fun _ => "0.5") (captureStarted "a" largeInput) := ⟨_, rfl⟩
  obtain ⟨captured, delivered, cases, _⟩ := capture_answered rests small bytes (by decide) isFlying
  have left : (flying.step (fun _ => "0.5") (.capture answerDelivered)).state.corpus =
      (Corpus.trim (corpusOf ["a", "b", "c", "d", "e"])).1 := by
    rw [state_capture, captured, corpus_addCase]
    simp only [cases]
    rfl
  have newer := evicts _ flying (by rw [isFlying]; exact rests.reachable.next trivial rfl) answerDelivered
    (by rw [captured]) _ delivered (corpusKey draftRoute.text "a") (corpusKey draftRoute.text "b") (.inr rfl)
    (by rw [left]; decide +kernel) (by rw [left]; decide +kernel)
  rw [CaptureHistory.step, delivered] at newer
  exact Nat.not_lt_zero _ newer

end Vifu.App
