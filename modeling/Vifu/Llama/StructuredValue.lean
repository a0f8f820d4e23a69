import Vifu.Foundation.JsonShape
import Vifu.Llama.Generation

/-!
# The value of a structured chat

The loop over the tokens stops at the first text that reads as JSON.  A string, an array, an object or a word is not
continued by any other value, so what the loop returns is what the model wrote if the budget of tokens covers it.  A
number that is cut into pieces may end the loop too early.
-/

namespace Vifu.Llama

open Foundation Foundation.JsonShape
open Vifu.Runtime (Value isWhitespace FloatText InvocationData)

/-- `serde_json::from_str`, which accepts JSON texts only. -/
structure JsonTexts where
  fromStr : List Char → Option Value
  shaped : ∀ {text value}, fromStr text = some value → JsonText text

def JsonTexts.reads (texts : JsonTexts) (pieces : List (List Char)) : Option Value :=
  texts.fromStr (trimText (visibleText pieces))

def emits (pieces : List (List Char)) (token : ℕ) : Sampled :=
  match pieces[token]? with
  | some piece => .piece piece true true
  | none => .endOfGeneration

theorem rdropWhile_append_longer (text more : List Char) :
    text.rdropWhile isWhitespace <+: (text ++ more).rdropWhile isWhitespace := by
  induction more using List.reverseRecOn with
  | nil => simp
  | append_singleton more last ih =>
    rw [← List.append_assoc]
    by_cases blank : isWhitespace last
    · rw [List.rdropWhile_concat_pos _ _ _ blank]
      exact ih
    · rw [List.rdropWhile_concat_neg _ _ _ blank]
      exact (List.rdropWhile_prefix _ _).trans ((List.prefix_append _ _).trans (List.prefix_append _ _))

theorem trimText_longer {text longer : List Char} (isPrefix : text <+: longer) : trimText text <+: trimText longer := by
  obtain ⟨more, rfl⟩ := isPrefix
  rw [trimText, trimText, trimStart_append]
  split
  next empty => simp [empty]
  next => exact rdropWhile_append_longer _ _

theorem blank_isWhitespace {text : List Char} (blank : Blank text) : ∀ character ∈ text, isWhitespace character = true := by
  have whitespace : ∀ character ∈ " \t\n\r".toList, isWhitespace character = true :=
    @of_decide_eq_true _ (List.decidableBAll _ _) rfl
  exact fun character isCharacter => whitespace character (blank character isCharacter)

theorem spells_of_trimmed {text : List Char} (shaped : JsonText (trimText text)) : Spells .value (trimText text) := by
  obtain ⟨before, core, after, parts, blankBefore, blankAfter, spelled⟩ := shaped
  have noneBefore : before = [] := by
    cases before with
    | nil => rfl
    | cons character rest =>
      have isHead : (trimStart text).head? = some character := by
        obtain ⟨more, isPrefix⟩ : trimText text <+: trimStart text := List.rdropWhile_prefix _ _
        rw [← isPrefix, parts]
        rfl
      have isBlank := blank_isWhitespace blankBefore character (by simp)
      have notBlank := List.head?_dropWhile_not isWhitespace text
      rw [← trimStart, isHead] at notBlank
      simp [isBlank] at notBlank
  have noneAfter : after = [] := by
    induction after using List.reverseRecOn with
    | nil => rfl
    | append_singleton others last =>
      have isBlank := blank_isWhitespace blankAfter last (by simp)
      have same : (trimText text).rdropWhile isWhitespace = trimText text := List.rdropWhile_idempotent _ _
      rw [parts, ← List.append_assoc, List.rdropWhile_concat_pos _ _ _ isBlank] at same
      have shorter := (List.rdropWhile_prefix isWhitespace (before ++ core ++ others)).length_le
      rw [same] at shorter
      simp at shorter
  rw [parts, noneBefore, noneAfter, List.append_nil]
  exact spelled

/-! ## What the filter has shown -/

/-- The text shown of the pieces, without what the filter still keeps back, and the filter behind them. -/
def shownOf (output : VisibleOutput) : List (List Char) → List Char × VisibleOutput
  | [] => ([], output)
  | piece :: pieces =>
    ((output.push piece).1.getD [] ++ (shownOf (output.push piece).2 pieces).1, (shownOf (output.push piece).2 pieces).2)

/-- The filter has shown nothing yet: what it keeps back may still become an opening tag. -/
def Silent (output : VisibleOutput) : Prop :=
  output.phase = .reasoning ∨ output.phase = .detecting ∧ trimStart output.pending <+: thinkOpenTag

theorem collect_eq_shownOf (output : VisibleOutput) (pieces : List (List Char)) :
    output.collect pieces = (shownOf output pieces).1 ++ (shownOf output pieces).2.finish.getD [] := by
  induction pieces generalizing output with
  | nil => rfl
  | cons piece pieces ih =>
    rw [VisibleOutput.collect, ih, shownOf, List.append_assoc]

theorem shownOf_append (output : VisibleOutput) (pieces more : List (List Char)) :
    shownOf output (pieces ++ more) = ((shownOf output pieces).1 ++ (shownOf (shownOf output pieces).2 more).1,
      (shownOf (shownOf output pieces).2 more).2) := by
  induction pieces generalizing output with
  | nil => rfl
  | cons piece pieces ih =>
    rw [List.cons_append, shownOf, ih, shownOf, List.append_assoc]

variable {output : VisibleOutput} {pieces : List (List Char)}

theorem finishReasoning_silent (reasoning : output.phase = .reasoning) :
    output.finishReasoning.2.phase = .visible ∨ output.finishReasoning.1 = none ∧ Silent output.finishReasoning.2 := by
  rw [VisibleOutput.finishReasoning]
  split
  · exact Or.inr ⟨rfl, Or.inl reasoning⟩
  · exact Or.inl rfl

theorem Silent.push (silent : Silent output) (piece : List Char) :
    (output.push piece).2.phase = .visible ∨ (output.push piece).1 = none ∧ Silent (output.push piece).2 := by
  obtain ⟨phase, pending⟩ := output
  cases phase with
  | visible => obtain isReasoning | ⟨isDetecting, -⟩ := silent <;> contradiction
  | reasoning => exact finishReasoning_silent rfl
  | detecting =>
    simp only [VisibleOutput.push]
    split
    next inside _ => exact @finishReasoning_silent ⟨.reasoning, inside⟩ rfl
    · split
      next undecided => exact Or.inr ⟨rfl, Or.inr ⟨rfl, undecided⟩⟩
      next => exact Or.inl rfl

theorem shownOf_visible (visible : output.phase = .visible) (pieces : List (List Char)) :
    shownOf output pieces = (pieces.flatten, output) := by
  obtain ⟨phase, pending⟩ := output
  subst visible
  induction pieces with
  | nil => rfl
  | cons piece pieces ih => simp [shownOf, VisibleOutput.push, ih]

theorem Silent.shownOf (silent : Silent output) (pieces : List (List Char)) :
    (Llama.shownOf output pieces).2.phase = .visible ∨
      (Llama.shownOf output pieces).1 = [] ∧ Silent (Llama.shownOf output pieces).2 := by
  induction pieces generalizing output with
  | nil => exact Or.inr ⟨rfl, silent⟩
  | cons piece pieces ih =>
    rw [Llama.shownOf]
    obtain visible | ⟨nothing, still⟩ := silent.push piece
    · left
      rw [shownOf_visible visible]
      exact visible
    · rw [nothing]
      exact ih still

abbrev shown (pieces : List (List Char)) : List Char × VisibleOutput := shownOf {} pieces

theorem visibleText_eq_shown (pieces : List (List Char)) :
    visibleText pieces = (shown pieces).1 ++ (shown pieces).2.finish.getD [] := collect_eq_shownOf {} pieces

theorem visibleText_visible (visible : (shown pieces).2.phase = .visible) :
    visibleText pieces = (shown pieces).1 := by
  rw [visibleText_eq_shown, VisibleOutput.finish, visible]
  exact List.append_nil _

theorem visibleText_append (visible : (shown pieces).2.phase = .visible)
    (more : List (List Char)) : visibleText (pieces ++ more) = visibleText pieces ++ more.flatten := by
  have behind : shown (pieces ++ more) = ((shown pieces).1 ++ more.flatten, (shown pieces).2) := by
    rw [shown, shownOf_append, shownOf_visible visible]
  rw [visibleText_visible (by rw [behind]; exact visible), behind, visibleText_visible visible]

section

variable {texts : JsonTexts} {value : Value}

theorem not_reads_silent {pending : List Char} (undecided : trimStart pending <+: thinkOpenTag) :
    texts.fromStr (trimText pending) = none := by
  cases reads : texts.fromStr (trimText pending) with
  | none => rfl
  | some value =>
    have isPrefix : trimText pending <+: thinkOpenTag := (List.rdropWhile_prefix _ _).trans undecided
    -- every value begins with a character of its own, never with that of the tag
    obtain ⟨first, rest, isHead, notTag⟩ : ∃ first rest, trimText pending = first :: rest ∧ first ≠ '<' := by
      obtain isWord | digits | delimited := (spells_of_trimmed (texts.shaped reads)).cases_value
      · obtain ⟨first, rest, isHead, -⟩ := head_of_word isWord
        have notTag : ∀ word ∈ words, word.head? ≠ some '<' := by decide
        exact ⟨first, rest, isHead, by simpa [isHead] using notTag _ isWord⟩
      · obtain ⟨first, rest, isHead⟩ := List.exists_cons_of_ne_nil digits.1
        refine ⟨first, rest, isHead, fun same => ?_⟩
        have isDigit := digits.2 first (by simp [isHead])
        rw [same] at isDigit
        revert isDigit
        decide
      · obtain ⟨first, rest, isHead, isDelimiter⟩ := delimited.first
        refine ⟨first, rest, isHead, fun same => ?_⟩
        rw [same] at isDelimiter
        revert isDelimiter
        decide
    rw [isHead] at isPrefix
    exact absurd (List.cons_prefix_cons.mp isPrefix).1 notTag

theorem reads_shown (texts : JsonTexts) (pieces : List (List Char)) :
    texts.fromStr (trimText (shown pieces).1) = texts.reads pieces := by
  have start : Silent {} := Or.inr ⟨rfl, List.nil_prefix⟩
  have nothingReads : texts.fromStr (trimText []) = none := not_reads_silent List.nil_prefix
  rw [JsonTexts.reads]
  obtain visible | ⟨nothing, silent⟩ := start.shownOf pieces
  · rw [visibleText_visible visible]
  · rw [visibleText_eq_shown, nothing, nothingReads, List.nil_append, VisibleOutput.finish]
    obtain isReasoning | ⟨isDetecting, undecided⟩ := silent
    · rw [isReasoning]
      exact nothingReads.symm
    · rw [isDetecting]
      show _ = texts.fromStr (trimText ((nonEmpty _).getD []))
      rw [nonEmpty_getD, not_reads_silent undecided]

section

variable (isRead : texts.reads pieces = some value)
include isRead

theorem visible_of_reads : (shown pieces).2.phase = .visible := by
  have start : Silent {} := Or.inr ⟨rfl, List.nil_prefix⟩
  obtain visible | ⟨nothing, -⟩ := start.shownOf pieces
  · exact visible
  · have nothingReads : texts.fromStr (trimText []) = none := not_reads_silent List.nil_prefix
    rw [← reads_shown, nothing, nothingReads] at isRead
    cases isRead

theorem visibleText_longer (more : List (List Char)) : visibleText pieces <+: visibleText (pieces ++ more) := by
  rw [visibleText_append (visible_of_reads isRead)]
  exact List.prefix_append _ _

theorem spells_of_reads : Spells .value (trimText (visibleText pieces)) :=
  spells_of_trimmed (texts.shaped isRead)

end

end

/-! ## The loop -/

/-- Where the loop ends: at the first pieces that read, at the last ones, or where the budget ends. -/
structure Stop (texts : JsonTexts) (maxTokens : ℕ) (pieces earlier : List (List Char)) : Prop where
  isPrefix : earlier <+: pieces
  withinBudget : earlier.length ≤ maxTokens
  first : ∀ fewer, fewer <+: earlier → fewer ≠ earlier → texts.reads fewer = none
  ended : (texts.reads earlier).isSome ∨ earlier = pieces ∨ earlier.length = maxTokens

/-- The state of the loop behind some of the pieces. -/
structure Behind (earlier : List (List Char)) (decoding : Decoding) : Prop where
  output : decoding.output = (shown earlier).1
  filter : decoding.visibleOutput = (shown earlier).2
  count : decoding.generatedTokens = earlier.length

theorem Behind.next {earlier : List (List Char)} {decoding : Decoding} (behind : Behind earlier decoding)
    (piece : List Char) : Behind (earlier ++ [piece]) (decoding.observe.reveal piece).count := by
  have kept : decoding.observe.output = decoding.output ∧ decoding.observe.visibleOutput = decoding.visibleOutput ∧
      decoding.observe.generatedTokens = decoding.generatedTokens := by
    rw [Decoding.observe]
    split <;> exact ⟨rfl, rfl, rfl⟩
  have one := shownOf_append {} earlier [piece]
  constructor
  · simp [Decoding.count, Decoding.reveal, kept, one, behind.output, behind.filter, shownOf]
  · simp [Decoding.count, Decoding.reveal, kept, one, behind.filter, shownOf]
  · simp [Decoding.count, Decoding.reveal, kept, behind.count]

theorem decodeLoop_stops (texts : JsonTexts) {isComplete : List Char → Bool}
    (complete : ∀ output, isComplete output = (texts.fromStr (trimText output)).isSome) (remaining : ℕ)
    {earlier later : List (List Char)} {decoding : Decoding} (behind : Behind earlier decoding)
    (unread : ∀ fewer, fewer <+: earlier → texts.reads fewer = none) :
    ∃ stop final, decodeLoop isComplete (emits (earlier ++ later)) remaining decoding = (.ok (), final) ∧
      Behind stop final ∧ earlier <+: stop ∧ Stop texts (earlier.length + remaining) (earlier ++ later) stop := by
  induction remaining generalizing earlier later decoding with
  | zero =>
    refine ⟨earlier, decoding, rfl, behind, List.prefix_rfl, ?_⟩
    exact ⟨List.prefix_append _ _, by omega, fun fewer isPrefix _ => unread fewer isPrefix, by simp⟩
  | succ remaining ih =>
    cases later with
    | nil =>
      have ends : emits (earlier ++ []) decoding.generatedTokens = .endOfGeneration := by
        simp [emits, behind.count]
      refine ⟨earlier, { decoding with stopped := true }, by rw [decodeLoop, ends], ?_, List.prefix_rfl, ?_⟩
      · exact ⟨behind.output, behind.filter, behind.count⟩
      · exact ⟨by simp, by omega, fun fewer isPrefix _ => unread fewer isPrefix, by simp⟩
    | cons piece later =>
      have samples : emits (earlier ++ piece :: later) decoding.generatedTokens = .piece piece true true := by
        simp [emits, behind.count]
      have next := behind.next piece
      have shownOutput : (decoding.observe.reveal piece).output = (shown (earlier ++ [piece])).1 := next.output
      have parts : earlier ++ piece :: later = earlier ++ [piece] ++ later := by simp
      have unreadBefore : ∀ fewer, fewer <+: earlier ++ [piece] → fewer ≠ earlier ++ [piece] → texts.reads fewer = none := by
        intro fewer isPrefix notWhole
        exact (List.prefix_concat_iff.mp isPrefix).elim (fun whole => absurd whole notWhole) (unread fewer)
      rw [decodeLoop, samples]
      simp only [complete, shownOutput, reads_shown]
      cases isRead : texts.reads (earlier ++ [piece]) with
      | some value =>
        refine ⟨earlier ++ [piece], _, if_pos rfl, ⟨next.output, next.filter, next.count⟩, List.prefix_append _ _, ?_⟩
        rw [parts]
        exact ⟨List.prefix_append _ _, by simp, unreadBefore, Or.inl (by simp [isRead])⟩
      | none =>
        have unreadNext : ∀ fewer, fewer <+: earlier ++ [piece] → texts.reads fewer = none := by
          intro fewer isPrefix
          by_cases whole : fewer = earlier ++ [piece]
          · rw [whole]; exact isRead
          · exact unreadBefore fewer isPrefix whole
        obtain ⟨stop, final, runs, behindStop, isLonger, isStop⟩ := @ih _ later _ next unreadNext
        rw [← parts] at runs isStop
        refine ⟨stop, final, by simpa using runs, behindStop, (List.prefix_append _ _).trans isLonger, ?_⟩
        have budget : (earlier ++ [piece]).length + remaining = earlier.length + (remaining + 1) := by
          simp only [List.length_append, List.length_singleton]
          omega
        rwa [budget] at isStop

theorem generate_structured {fromStr : List Char → Option Value} {sample : ℕ → Sampled} {format : StructuredOutput}
    {maxTokens inputTokens : ℕ} {log : List StageEvent} {final : Decoding}
    (ran : decodeLoop (fun output => (fromStr (trimText output)).isSome) sample maxTokens
      { events := log ++ [.began .firstToken] ++ [.began .decode] } = (.ok (), final)) (value : Value) :
    (∃ response, (generate fromStr sample (some format) maxTokens inputTokens log).1 = .ok response ∧
        response.structured = some (format.name, value)) ↔
      fromStr (trimText (final.output ++ final.visibleOutput.finish.getD [])) = some value := by
  have decoded : decode (fun output => (some format).isSome && (fromStr (trimText output)).isSome) sample maxTokens
      (log ++ [.began .firstToken] ++ [.began .decode]) =
        (.ok (.ok (), { final with output := final.output ++ final.visibleOutput.finish.getD [] }), final.events) := by
    simp only [decode, Option.isSome_some, Bool.true_and, ran]
  obtain ⟨middle, observed⟩ : ∃ middle, unlessObserved
      { final with output := final.output ++ final.visibleOutput.finish.getD [] } (stageCompleted .firstToken)
        final.events = (.ok (), middle) := by
    rw [unlessObserved]
    split <;> exact ⟨_, rfl⟩
  rw [generate, stageStarted, report_bind, stageStarted, report_bind, Effect.bind_of_ok decoded, conclude,
    Effect.bind_of_ok observed, stageCompleted, report_bind, stageStarted, report_bind]
  cases isRead : fromStr (trimText (final.output ++ final.visibleOutput.finish.getD [])) with
  | none =>
    have fails : (some format).mapM (structuredValue fromStr (final.output ++ final.visibleOutput.finish.getD [])) =
        .error (providerError "structured response ended before producing valid JSON") := by
      simp [structuredValue, isRead, okOr]
    rw [fails, finishStage_error_bind]
    simp
  | some found =>
    have succeeds : (some format).mapM (structuredValue fromStr (final.output ++ final.visibleOutput.finish.getD [])) =
        .ok (some (format.name, found)) := by
      simp [structuredValue, isRead, okOr]
    rw [succeeds]
    constructor
    · intro returned
      obtain ⟨response, isResponse, isStructured⟩ := returned
      cases isResponse
      simpa using isStructured
    · intro same
      exact ⟨_, rfl, by simpa using same⟩

/-! ## Numbers that are cut -/

/-- The first pieces that read show a number, and the model writes more than this number. -/
structure NumberCut (texts : JsonTexts) (maxTokens : ℕ) (pieces cut : List (List Char)) : Prop where
  isPrefix : cut <+: pieces
  withinBudget : cut.length ≤ maxTokens
  number : NumberText (trimText (visibleText cut))
  isShorter : trimText (visibleText cut) ≠ trimText (visibleText pieces)
  reads : (texts.reads cut).isSome
  first : ∀ fewer, fewer <+: cut → fewer ≠ cut → texts.reads fewer = none

/-- The budget covers the value, or a number is cut within the budget; and a number that is cut is cut where it reads
    as the same value. -/
def Covers (texts : JsonTexts) (maxTokens : ℕ) (pieces : List (List Char)) : Prop :=
  (∀ cut, NumberCut texts maxTokens pieces cut → texts.reads cut = texts.reads pieces) ∧
    ((∃ cut, NumberCut texts maxTokens pieces cut) ∨
      trimText (visibleText (pieces.take maxTokens)) = trimText (visibleText pieces))

section

variable {texts : JsonTexts} {maxTokens : ℕ} {stop cut : List (List Char)} {value : Value}

section

variable (isStop : Stop texts maxTokens pieces stop)
include isStop

theorem Stop.eq_cut (stopReads : (texts.reads stop).isSome)
    (isCut : NumberCut texts maxTokens pieces cut) : stop = cut := by
  by_contra notSame
  obtain isPrefix | isPrefix := List.prefix_or_prefix_of_prefix isStop.isPrefix isCut.isPrefix
  · simp [isCut.first stop isPrefix notSame] at stopReads
  · have cutReads := isCut.reads
    simp [isStop.first cut isPrefix (Ne.symm notSame)] at cutReads

theorem Stop.whole_or_cut {found : Value}
    (stopReads : texts.reads stop = some found) (written : texts.reads pieces = some value) :
    trimText (visibleText stop) = trimText (visibleText pieces) ∨ NumberCut texts maxTokens pieces stop := by
  obtain ⟨more, rfl⟩ := isStop.isPrefix
  have isPrefix := trimText_longer (visibleText_longer stopReads more)
  obtain same | number := (spells_of_reads stopReads).eq_of_isPrefix (spells_of_reads written) isPrefix
  · exact Or.inl same
  · by_cases same : trimText (visibleText stop) = trimText (visibleText (stop ++ more))
    · exact Or.inl same
    · exact Or.inr ⟨isStop.isPrefix, isStop.withinBudget, number, same, by simp [stopReads], isStop.first⟩

theorem Stop.reads_iff (written : texts.reads pieces = some value) :
    texts.reads stop = some value ↔ Covers texts maxTokens pieces := by
  constructor
  · intro stopReads
    refine ⟨fun cut isCut => ?_, ?_⟩
    · rw [← isStop.eq_cut (by simp [stopReads]) isCut, stopReads, written]
    · obtain same | isCut := isStop.whole_or_cut stopReads written
      · right
        -- what the whole budget shows lies between the two
        obtain ⟨more, isMore⟩ : stop <+: pieces.take maxTokens :=
          List.prefix_take_iff.mpr ⟨isStop.isPrefix, isStop.withinBudget⟩
        have isLonger := trimText_longer (visibleText_longer stopReads more)
        have isShorter : visibleText (pieces.take maxTokens) <+: visibleText pieces := by
          obtain ⟨rest, isRest⟩ := List.take_prefix maxTokens pieces
          have visible := visible_of_reads stopReads
          have whole : visibleText pieces = visibleText stop ++ (more ++ rest).flatten := by
            rw [← isRest, ← isMore, List.append_assoc, visibleText_append visible]
          rw [whole, ← isMore, visibleText_append visible, List.flatten_append, ← List.append_assoc]
          exact List.prefix_append _ _
        rw [isMore, same] at isLonger
        exact (trimText_longer isShorter).eq_of_length_le isLonger.length_le
      · exact Or.inl ⟨stop, isCut⟩
  · intro covers
    obtain ⟨sameValue, reached⟩ := covers
    cases stopReads : texts.reads stop with
    | some found =>
      obtain same | isCut := isStop.whole_or_cut stopReads written
      · rw [← stopReads, JsonTexts.reads, same, ← JsonTexts.reads, written]
      · rw [← stopReads, sameValue stop isCut, written]
    | none =>
      -- the loop has read the whole budget and found nothing
      have usedUp : stop.length = maxTokens := by
        obtain isRead | isWhole | usedUp := isStop.ended
        · simp [stopReads] at isRead
        · rw [isWhole, written] at stopReads
          cases stopReads
        · exact usedUp
      have isTake : stop = pieces.take maxTokens := by
        rw [← usedUp]
        exact List.prefix_iff_eq_take.mp isStop.isPrefix
      obtain ⟨cut, isCut⟩ | same := reached
      · have isPrefix : cut <+: stop :=
          List.prefix_of_prefix_length_le isCut.isPrefix isStop.isPrefix (by rw [usedUp]; exact isCut.withinBudget)
        have cutReads := isCut.reads
        by_cases whole : cut = stop
        · rw [whole, stopReads] at cutReads
          cases cutReads
        · simp [isStop.first cut isPrefix whole] at cutReads
      · rw [JsonTexts.reads, isTake, same, ← JsonTexts.reads, written] at stopReads
        cases stopReads

end

end

/-! ## The chat -/

/-- A chat whose model writes a JSON value in pieces returns this value exactly when the budget covers it and no number
    is cut where it reads as another one. -/
theorem structured_value_returned (texts : JsonTexts) (floats : FloatText) (data : InvocationData) (calls : ChatCalls)
    (format : StructuredOutput) (maxTokens inputTokens : ℕ) (log prompted : List StageEvent)
    (accepted : readChat floats data calls = .ok (some format, maxTokens))
    (evaluated : evaluatePrompt calls maxTokens log = (.ok inputTokens, prompted)) (sampler : calls.sampler = .ok ())
    (pieces : List (List Char)) (writes : calls.sample = emits pieces) (value : Value)
    (written : texts.reads pieces = some value) :
    (∃ response, (generateChat floats texts.fromStr data calls log).1 = .ok response ∧
        response.structured = some (format.name, value)) ↔
      Covers texts maxTokens pieces := by
  have nothingReads : texts.reads [] = none := by
    exact not_reads_silent List.nil_prefix
  -- the loop begins with nothing
  obtain ⟨stop, final, ran, behind, -, isStop⟩ := @decodeLoop_stops texts
    (fun output => (texts.fromStr (trimText output)).isSome) (fun _ => rfl) maxTokens [] pieces
    { events := prompted ++ [.began .firstToken] ++ [.began .decode] } ⟨rfl, rfl, rfl⟩
    (fun fewer isPrefix => by rw [List.prefix_nil.mp isPrefix]; exact nothingReads)
  rw [List.length_nil, Nat.zero_add] at isStop
  have chat : (generateChat floats texts.fromStr data calls log).1 =
      (generate texts.fromStr (emits pieces) (some format) maxTokens inputTokens prompted).1 := by
    have lifted : (Effect.lift calls.sampler : Staged Unit) prompted = (.ok (), prompted) := by rw [sampler]; rfl
    have started : (Effect.lift (readChat floats data calls) : Staged (Option StructuredOutput × ℕ)) log =
        (.ok (some format, maxTokens), log) := by rw [accepted]; rfl
    rw [generateChat, Effect.bind_of_ok started, Effect.bind_of_ok evaluated, Effect.bind_of_ok lifted, writes]
  rw [chat]
  refine (generate_structured ran value).trans ?_
  rw [behind.output, behind.filter, ← visibleText_eq_shown]
  exact isStop.reads_iff written

/-- A parser that knows the natural numbers only. -/
def digitTexts : JsonTexts where
  fromStr text :=
    if text ≠ [] ∧ text.all "0123456789".toList.contains ∧ (text.head? = some '0' → text.length = 1) then
      some (.number (.posInt (text.foldl (fun total digit => 10 * total + (digit.toNat - 48)) 0)))
    else none
  shaped := by
    intro text value isRead
    obtain ⟨digits, isRead⟩ := Option.ite_none_right_eq_some.mp isRead
    have isNumber : ∀ character ∈ "0123456789".toList, character ∈ "0123456789+-.eE".toList :=
      @of_decide_eq_true _ (List.decidableBAll _ _) rfl
    refine ⟨[], text, [], by simp, by simp [Blank], by simp [Blank], .number ⟨digits.1, fun character isCharacter => ?_⟩⟩
    exact isNumber character (List.contains_iff_mem.mp (List.all_eq_true.mp digits.2.1 character isCharacter))

def integerChat (pieces : List (List Char)) : ChatCalls where
  request := some ⟨[⟨"user", .ok ()⟩], none, some (.object [("name", .string "count"),
    ("schema", .object [("type", .string "integer")]), ("type", .string "jsonSchema")])⟩
  agentMaxTokens := none
  defaultMaxTokens := 256
  contextSize := 4096
  grammar := .ok ()
  instructions := .ok ()
  context := .ok ()
  prompt := .text ⟨some 20, 512, fun _ => {}⟩
  sampler := .ok ()
  sample := emits pieces

theorem structured_value_returned_twelve :
    (∃ response, (generateChat (fun _ => "") digitTexts.fromStr (.json .null) (integerChat ["12".toList]) []).1 =
        .ok response ∧ response.structured = some ("count", .number (.posInt 12))) ↔
      Covers digitTexts 256 ["12".toList] :=
  structured_value_returned digitTexts (fun _ => "") (.json .null) (integerChat ["12".toList])
    ⟨"count", .object [("type", .string "integer")]⟩ 256 20 [] _ rfl rfl rfl ["12".toList] rfl (.number (.posInt 12))
    (by decide)

/-- The pieces of the number 12 end the loop at the number 1. -/
theorem first_digit_returned : digitTexts.reads ["1".toList, "2".toList] = some (.number (.posInt 12)) ∧
      ∃ response, (generateChat (fun _ => "") digitTexts.fromStr (.json .null) (integerChat ["1".toList, "2".toList]) []).1 =
        .ok response ∧ response.structured = some ("count", .number (.posInt 1)) := by
  refine ⟨by decide, _, rfl, ?_⟩
  decide

end Vifu.Llama
