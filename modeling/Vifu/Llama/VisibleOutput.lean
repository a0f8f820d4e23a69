import Mathlib.Data.List.TakeWhile
import Vifu.Runtime.Identifier

/-!
# The reasoning filter of a local model

A model may open its output with a think block, and the filter keeps the block out of what is shown.  Its output
arrives in pieces that cut the text anywhere.  What the filter shows of the pieces is compared with what it shows of
the whole text: the blanks behind the closing tag are trimmed within one piece only.
-/

namespace Vifu.Llama

open Vifu.Runtime (isWhitespace)

/-! ## The filter -/

def thinkOpenTag : List Char := "<think>".toList
def thinkCloseTag : List Char := "</think>".toList

inductive OutputPhase where
  | detecting
  | reasoning
  | visible
  deriving DecidableEq

structure VisibleOutput where
  phase : OutputPhase := .detecting
  pending : List Char := []

def trimStart (text : List Char) : List Char := text.dropWhile isWhitespace

def stripPrefix (mark text : List Char) : Option (List Char) :=
  if mark <+: text then some (text.drop mark.length) else none

/-- What follows the first place where `str::find` finds the mark. -/
def behind (mark : List Char) : List Char → Option (List Char)
  | [] => stripPrefix mark []
  | character :: rest =>
    match stripPrefix mark (character :: rest) with
    | some after => some after
    | none => behind mark rest

def nonEmpty (text : List Char) : Option (List Char) := if text = [] then none else some text

namespace VisibleOutput

def finishReasoning (output : VisibleOutput) : Option (List Char) × VisibleOutput :=
  match behind thinkCloseTag output.pending with
  | none => (none, output)
  | some after => (nonEmpty (trimStart after), ⟨.visible, []⟩)

def push (output : VisibleOutput) (piece : List Char) : Option (List Char) × VisibleOutput :=
  match output.phase with
  | .detecting =>
    let pending := output.pending ++ piece
    match stripPrefix thinkOpenTag (trimStart pending) with
    | some reasoning => finishReasoning ⟨.reasoning, reasoning⟩
    | none =>
      if trimStart pending <+: thinkOpenTag then (none, ⟨.detecting, pending⟩)
      else (some pending, ⟨.visible, []⟩)
  | .reasoning => finishReasoning { output with pending := output.pending ++ piece }
  | .visible => (some piece, output)

def finish (output : VisibleOutput) : Option (List Char) :=
  match output.phase with
  | .detecting => nonEmpty output.pending
  | .reasoning => none
  | .visible => none

/-- What the filter returns for the pieces and at the end, put together. -/
def collect (output : VisibleOutput) : List (List Char) → List Char
  | [] => output.finish.getD []
  | piece :: pieces => (output.push piece).1.getD [] ++ collect (output.push piece).2 pieces

end VisibleOutput

def visibleText (pieces : List (List Char)) : List Char := VisibleOutput.collect {} pieces

/-! ## Tags in a text -/

def opened (text : List Char) : Option (List Char) := stripPrefix thinkOpenTag (trimStart text)

/-- What follows the closing tag of a text that opens with a whole think block. -/
def afterThink (text : List Char) : Option (List Char) := (opened text).bind (behind thinkCloseTag)

section

variable {mark text after : List Char}

theorem stripPrefix_eq_some : stripPrefix mark text = some after ↔ text = mark ++ after := by
  rw [stripPrefix]
  constructor
  · intro found
    obtain ⟨isPrefix, found⟩ := Option.ite_none_right_eq_some.mp found
    obtain ⟨rest, rfl⟩ := isPrefix
    simpa [eq_comm] using found
  · rintro rfl
    simp

theorem stripPrefix_eq_none : stripPrefix mark text = none ↔ ¬mark <+: text := by
  simp [stripPrefix]

theorem behind_eq_some_length (found : behind mark text = some after) : mark.length + after.length ≤ text.length := by
  induction text with
  | nil =>
    rw [behind, stripPrefix_eq_some] at found
    simp [found]
  | cons character rest ih =>
    rw [behind] at found
    split at found
    next isFirst =>
      rw [stripPrefix_eq_some] at isFirst
      cases found
      simp [isFirst]
    next =>
      have later := ih found
      simp only [List.length_cons]
      omega

theorem behind_append (found : behind mark text = some after) (more : List Char) :
     behind mark (text ++ more) = some (after ++ more) := by
  induction text with
  | nil =>
    rw [behind, stripPrefix_eq_some] at found
    have empty : mark = [] := by simp_all
    have none : after = [] := by simp_all
    subst empty none
    cases more <;> simp [behind, stripPrefix]
  | cons character rest ih =>
    have size := behind_eq_some_length found
    rw [behind] at found
    rw [List.cons_append, behind]
    split at found
    next isFirst =>
      rw [stripPrefix_eq_some] at isFirst
      cases found
      have extended : stripPrefix mark (character :: (rest ++ more)) = some (after ++ more) := by
        rw [stripPrefix_eq_some, ← List.cons_append, isFirst, List.append_assoc]
      rw [extended]
    next notFirst =>
      -- a place that begins here would have to end before the one that was found
      have notHere : stripPrefix mark (character :: (rest ++ more)) = none := by
        rw [stripPrefix_eq_none] at notFirst ⊢
        intro isPrefix
        exact notFirst (List.prefix_of_prefix_length_le isPrefix (List.prefix_append _ _) (by omega))
      rw [notHere]
      exact ih found

theorem trimStart_append (text more : List Char) :
    trimStart (text ++ more) = if trimStart text = [] then trimStart more else trimStart text ++ more := by
  simp [trimStart, List.dropWhile_append, List.isEmpty_iff]

theorem opened_append (found : opened text = some after) (more : List Char) :
    opened (text ++ more) = some (after ++ more) := by
  rw [opened, stripPrefix_eq_some] at found ⊢
  have nonBlank : trimStart text ≠ [] := by
    rw [found]
    simp [thinkOpenTag]
  rw [trimStart_append, if_neg nonBlank, found, List.append_assoc]

theorem afterThink_append (found : afterThink text = some after) (more : List Char) :
    afterThink (text ++ more) = some (after ++ more) := by
  rw [afterThink, Option.bind_eq_some_iff] at found
  obtain ⟨inside, isOpened, closed⟩ := found
  rw [afterThink, opened_append isOpened more]
  exact behind_append closed more

theorem opened_append_none (notOpened : opened text = none) (decided : ¬trimStart text <+: thinkOpenTag)
    (more : List Char) : opened (text ++ more) = none := by
  have nonBlank : trimStart text ≠ [] := fun empty => decided (empty ▸ List.nil_prefix)
  rw [opened, stripPrefix_eq_none] at notOpened ⊢
  rw [trimStart_append, if_neg nonBlank]
  intro isPrefix
  exact (List.prefix_or_prefix_of_prefix isPrefix (List.prefix_append _ _)).elim notOpened decided

end

/-! ## What the filter shows -/

/-- What is shown of the pieces behind a text that has not closed its think block. -/
def shownFrom (before : List Char) : List (List Char) → List Char
  | [] => if opened before = none then before else []
  | piece :: pieces =>
    match afterThink (before ++ piece) with
    | some after => trimStart after ++ pieces.flatten
    | none => shownFrom (before ++ piece) pieces

/-- The filter has read a text whose think block is not closed, and returned `emitted`. -/
inductive Follows (before : List Char) : List Char → VisibleOutput → Prop where
  | detecting (notOpened : opened before = none) (undecided : trimStart before <+: thinkOpenTag) :
      Follows before [] ⟨.detecting, before⟩
  | reasoning {inside : List Char} (isOpened : opened before = some inside)
      (unclosed : behind thinkCloseTag inside = none) : Follows before [] ⟨.reasoning, inside⟩
  | visible (notOpened : opened before = none) (decided : ¬trimStart before <+: thinkOpenTag) :
      Follows before before ⟨.visible, []⟩

theorem nonEmpty_getD (text : List Char) : (nonEmpty text).getD [] = text := by
  rw [nonEmpty]
  split
  next empty => simp [empty]
  next => rfl

theorem collect_visible (pieces : List (List Char)) (pending : List Char) :
    VisibleOutput.collect ⟨.visible, pending⟩ pieces = pieces.flatten := by
  induction pieces with
  | nil => rfl
  | cons piece pieces ih =>
    simp [VisibleOutput.collect, VisibleOutput.push, ih]

variable {before inside : List Char}

theorem finishReasoning_cases (isOpened : opened before = some inside) :
    (∃ after, afterThink before = some after ∧
      VisibleOutput.finishReasoning ⟨.reasoning, inside⟩ = (nonEmpty (trimStart after), ⟨.visible, []⟩)) ∨
    afterThink before = none ∧ VisibleOutput.finishReasoning ⟨.reasoning, inside⟩ = (none, ⟨.reasoning, inside⟩) ∧
      Follows before [] ⟨.reasoning, inside⟩ := by
  have same : afterThink before = behind thinkCloseTag inside := by rw [afterThink, isOpened, Option.bind_some]
  cases closed : behind thinkCloseTag inside with
  | none =>
    refine Or.inr ⟨same.trans closed, ?_, .reasoning isOpened closed⟩
    simp only [VisibleOutput.finishReasoning, closed]
  | some after =>
    refine Or.inl ⟨after, same.trans closed, ?_⟩
    simp only [VisibleOutput.finishReasoning, closed]

variable {before emitted : List Char} {output : VisibleOutput}

/-- A piece either completes the closing tag, or is kept back or shown as the text before it was. -/
theorem Follows.push (follows : Follows before emitted output) (piece : List Char) :
    (∃ after, afterThink (before ++ piece) = some after ∧ emitted = [] ∧
      output.push piece = (nonEmpty (trimStart after), ⟨.visible, []⟩)) ∨ afterThink (before ++ piece) = none ∧
      Follows (before ++ piece) (emitted ++ (output.push piece).1.getD []) (output.push piece).2 := by
  cases follows with
  | detecting notOpened undecided =>
    cases isOpened : opened (before ++ piece) with
    | some inside =>
      have pushed : VisibleOutput.push ⟨.detecting, before⟩ piece =
          VisibleOutput.finishReasoning ⟨.reasoning, inside⟩ := by
        simp only [opened] at isOpened
        simp only [VisibleOutput.push, isOpened]
      rw [pushed]
      obtain ⟨after, closed, finished⟩ | ⟨unclosed, finished, later⟩ := finishReasoning_cases isOpened
      · exact Or.inl ⟨after, closed, rfl, finished⟩
      · exact Or.inr ⟨unclosed, by simpa [finished] using later⟩
    | none =>
      refine Or.inr ⟨by rw [afterThink, isOpened, Option.bind_none], ?_⟩
      have unread := isOpened
      rw [opened] at unread
      by_cases undecided : trimStart (before ++ piece) <+: thinkOpenTag
      · simpa [VisibleOutput.push, unread, undecided] using Follows.detecting isOpened undecided
      · simpa [VisibleOutput.push, unread, undecided] using Follows.visible isOpened undecided
  | @reasoning inside isOpened unclosed =>
    have extended := opened_append isOpened piece
    have pushed : VisibleOutput.push ⟨.reasoning, inside⟩ piece =
        VisibleOutput.finishReasoning ⟨.reasoning, inside ++ piece⟩ := rfl
    rw [pushed]
    obtain ⟨after, closed, finished⟩ | ⟨unclosed, finished, later⟩ := finishReasoning_cases extended
    · exact Or.inl ⟨after, closed, rfl, finished⟩
    · exact Or.inr ⟨unclosed, by simpa [finished] using later⟩
  | visible notOpened decided =>
    have still := opened_append_none notOpened decided piece
    have nonBlank : trimStart before ≠ [] := fun empty => decided (empty ▸ List.nil_prefix)
    refine Or.inr ⟨by rw [afterThink, still, Option.bind_none], .visible still fun isPrefix => ?_⟩
    rw [trimStart_append, if_neg nonBlank] at isPrefix
    exact decided ((List.prefix_append _ _).trans isPrefix)

theorem Follows.collect (follows : Follows before emitted output)
    (pieces : List (List Char)) : emitted ++ output.collect pieces = shownFrom before pieces := by
  induction pieces generalizing before emitted output with
  | nil =>
    rw [shownFrom]
    cases follows with
    | detecting notOpened undecided => rw [if_pos notOpened]; exact nonEmpty_getD before
    | reasoning isOpened unclosed => rw [if_neg (by simp [isOpened])]; rfl
    | visible notOpened decided => rw [if_pos notOpened]; exact List.append_nil before
  | cons piece pieces ih =>
    rw [shownFrom, VisibleOutput.collect]
    obtain ⟨after, closed, silent, pushed⟩ | ⟨unclosed, later⟩ := follows.push piece
    · rw [closed, silent, pushed, collect_visible, nonEmpty_getD]
      rfl
    · rw [unclosed, ← List.append_assoc]
      exact ih later

theorem visibleText_eq (pieces : List (List Char)) : visibleText pieces = shownFrom [] pieces := by
  have start : Follows [] [] {} := .detecting rfl List.nil_prefix
  exact start.collect pieces

/-! ## Texts in one piece -/

theorem shownFrom_single (text : List Char) : shownFrom [] [text] =
      match afterThink text with
      | some after => trimStart after
      | none => if opened text = none then text else [] := by
  rw [shownFrom, List.nil_append, shownFrom]
  split <;> simp

theorem shownFrom_split {before : List Char} (unclosed : afterThink before = none) (pieces : List (List Char)) :
    shownFrom before pieces = shownFrom [] [before ++ pieces.flatten] ↔
      ∀ (earlier later : List (List Char)) (piece after : List Char), pieces = earlier ++ piece :: later →
        afterThink (before ++ earlier.flatten) = none → afterThink (before ++ earlier.flatten ++ piece) = some after →
          trimStart after = [] → ∀ character ∈ later.flatten.head?, isWhitespace character = false := by
  induction pieces generalizing before with
  | nil => simp [shownFrom, unclosed]
  | cons piece pieces ih =>
    rw [List.flatten_cons, ← List.append_assoc]
    cases closed : afterThink (before ++ piece) with
    | some after =>
      have cut : shownFrom before (piece :: pieces) = trimStart after ++ pieces.flatten := by
        simp only [shownFrom, closed]
      have whole : shownFrom [] [before ++ piece ++ pieces.flatten] = trimStart (after ++ pieces.flatten) := by
        simp only [shownFrom_single, afterThink_append closed pieces.flatten]
      rw [cut, whole, trimStart_append]
      constructor
      · intro same earlier later middle found parts open_ closes blank
        -- the tag is completed by the first piece only
        cases earlier with
        | cons first others =>
          obtain ⟨rfl, rfl⟩ := List.cons.inj parts
          rw [List.flatten_cons, ← List.append_assoc, afterThink_append closed] at open_
          cases open_
        | nil =>
          obtain ⟨rfl, rfl⟩ := List.cons.inj parts
          rw [List.flatten_nil, List.append_nil, closed, Option.some.injEq] at closes
          rw [closes, if_pos blank, blank, List.nil_append] at same
          intro character isFirst
          obtain ⟨others, isLater⟩ := List.head?_eq_some_iff.mp isFirst
          rw [isLater, trimStart, eq_comm, List.dropWhile_eq_self_iff] at same
          have kept := same (by simp)
          rwa [List.getElem_cons_zero, Bool.not_eq_true] at kept
      · intro together
        have first := together [] pieces piece after rfl (by simpa using unclosed) (by simpa using closed)
        split
        next blank =>
          rw [blank, List.nil_append, trimStart]
          cases later : pieces.flatten with
          | nil => rfl
          | cons character others =>
            rw [List.dropWhile_cons_of_neg]
            simpa using first blank character (by simp [later])
        next => rfl
    | none =>
      have cut : shownFrom before (piece :: pieces) = shownFrom (before ++ piece) pieces := by
        simp only [shownFrom, closed]
      rw [cut, ih closed]
      constructor
      · intro together earlier later middle found parts unclosed closes
        cases earlier with
        | cons first others =>
          obtain ⟨rfl, rfl⟩ := List.cons.inj parts
          rw [List.flatten_cons, ← List.append_assoc] at unclosed closes
          exact together others later middle found rfl unclosed closes
        | nil =>
          obtain ⟨rfl, rfl⟩ := List.cons.inj parts
          rw [List.flatten_nil, List.append_nil, closed] at closes
          cases closes
      · intro together earlier later middle found parts unclosed closes
        have whole := together (piece :: earlier) later middle found (by rw [parts, List.cons_append])
        rw [List.flatten_cons, ← List.append_assoc] at whole
        exact whole unclosed closes

theorem shownFrom_suffix (unclosed : afterThink before = none) (pieces : List (List Char))
    (isOpened : opened (before ++ pieces.flatten) = some inside) :
    shownFrom before pieces <:+ (behind thinkCloseTag inside).getD [] := by
  induction pieces generalizing before with
  | nil =>
    rw [List.flatten_nil, List.append_nil] at isOpened
    rw [shownFrom, if_neg (by simp [isOpened])]
    exact List.nil_suffix
  | cons piece pieces ih =>
    rw [List.flatten_cons, ← List.append_assoc] at isOpened
    rw [shownFrom]
    cases closed : afterThink (before ++ piece) with
    | none => exact ih closed isOpened
    | some after =>
      have whole := afterThink_append closed pieces.flatten
      rw [afterThink, isOpened, Option.bind_some] at whole
      rw [whole, Option.getD_some]
      obtain ⟨blanks, parts⟩ : trimStart after <:+ after := List.dropWhile_suffix _
      exact ⟨blanks, by rw [← List.append_assoc, parts]⟩

/-- Blanks behind the closing tag that the piece with the tag ends with are followed by no more blanks. -/
def BlanksTogether (pieces : List (List Char)) : Prop :=
  ∀ (earlier later : List (List Char)) (piece after : List Char), pieces = earlier ++ piece :: later →
    afterThink earlier.flatten = none → afterThink (earlier.flatten ++ piece) = some after → trimStart after = [] →
      ∀ character ∈ later.flatten.head?, isWhitespace character = false

/-- What is shown is the same however the text is cut, and nothing from inside the think block, exactly when the
    blanks behind the block stand in the piece that completes it. -/
theorem visibleText_split (pieces : List (List Char)) :
    (visibleText pieces = visibleText [pieces.flatten] ∧ ∀ inside, opened pieces.flatten = some inside →
      visibleText pieces <:+ (behind thinkCloseTag inside).getD []) ↔ BlanksTogether pieces := by
  have start : afterThink [] = none := rfl
  have split := shownFrom_split start pieces
  rw [List.nil_append] at split
  rw [visibleText_eq, visibleText_eq, split]
  constructor
  · intro holds
    simpa [BlanksTogether] using holds.1
  · intro together
    refine ⟨by simpa [BlanksTogether] using together, fun inside isOpened => ?_⟩
    exact shownFrom_suffix start pieces isOpened

/-- A line break behind the closing tag that comes with a piece of its own. -/
theorem visibleText_depends :
    ¬∀ pieces : List (List Char), visibleText pieces = visibleText [pieces.flatten] := by
  intro same
  have shown := same ["<think>plan</think>".toList, "\nHello".toList]
  revert shown
  decide

end Vifu.Llama
