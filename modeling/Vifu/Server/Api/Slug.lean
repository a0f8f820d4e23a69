import Mathlib.Data.List.TakeWhile
import Vifu.Foundation.Text
import Vifu.Server.Api.Access

/-!
# Slugs of names

The loop of `slugify` appends one or two characters at a step and tests its bound after the step.  Without the
bound it would write the runs of letters and digits of the name, joined by single hyphens.  With it the loop stops
after 64 of these characters, or after 65 of them when the 64th is a hyphen, which `validateSlug` then refuses.
-/

namespace Vifu.Server

open Foundation
open Vifu.Runtime (trim toAsciiLowercase isWhitespace)

/-- The runs of letters and digits, each behind a hyphen but the first.  `started` tells whether a run stands before
    the characters, and `separator` whether the character before them is none of a run. -/
def hyphenated (started separator : Bool) : List Char → List Char
  | [] => []
  | character :: rest =>
    if character.isAlphanum then
      (if separator && started then ['-', character] else [character]) ++ hyphenated true false rest
    else hyphenated started true rest

/-- How many of the characters the loop writes: it goes past 64 only from 63, over a hyphen. -/
def slugBound (written : List Char) : ℕ := if written[63]? = some '-' then 65 else 64

/-! ## The shape of a slug -/

theorem isUpper_def (character : Char) :
    character.isUpper = decide ('A'.val ≤ character.val ∧ character.val ≤ 'Z'.val) := rfl

theorem isLower_def (character : Char) :
    character.isLower = (decide ('a'.val ≤ character.val) && decide (character.val ≤ 'z'.val)) := rfl

theorem isAlpha_def (character : Char) : character.isAlpha = (character.isUpper || character.isLower) := rfl

def isSlugCharacter (character : Char) : Bool := character.isLower || character.isDigit

/-- What the loop keeps of the text that it writes. -/
structure Hyphened (slug : List Char) : Prop where
  characters : ∀ character ∈ slug, isSlugCharacter character = true ∨ character = '-'
  opens : slug.head? ≠ some '-'
  closes : slug.getLast? ≠ some '-'
  single : ¬['-', '-'] <:+: slug

theorem Hyphened.nil : Hyphened [] := ⟨by simp, by simp, by simp, by simp⟩

variable {character : Char}

theorem ne_hyphen_of_isSlugCharacter (kept : isSlugCharacter character = true) : character ≠ '-' := by
  rintro rfl
  simp [isSlugCharacter, isLower_def, Char.isDigit] at kept

theorem isAlphanum_of_isSlugCharacter (kept : isSlugCharacter character = true) : character.isAlphanum = true := by
  simp only [isSlugCharacter, Bool.or_eq_true] at kept
  cases kept with
  | inl lower => simp [Char.isAlphanum, isAlpha_def, lower]
  | inr digit => simp [Char.isAlphanum, digit]

theorem double_append {before : List Char} (double : ['-', '-'] <:+: before ++ [character])
    (last : character ≠ '-') : ['-', '-'] <:+: before := by
  rw [List.infix_concat_iff] at double
  cases double with
  | inl across =>
    have ends := across.getLast (by simp)
    simp [last.symm] at ends
  | inr inside => exact inside

variable {slug : List Char} {characters : List Char} {separator : Bool}

theorem Hyphened.append (shape : Hyphened slug) (kept : isSlugCharacter character = true) (separator : Bool) :
    Hyphened ((if separator && !slug.isEmpty then slug ++ ['-'] else slug) ++ [character]) := by
  have last := ne_hyphen_of_isSlugCharacter kept
  split
  next spaced =>
    have started : slug ≠ [] := by simp_all
    refine ⟨?_, ?_, by simp [last], fun double => shape.single ?_⟩
    · intro mem isMember
      simp only [List.mem_append, List.mem_singleton, or_assoc] at isMember
      rcases isMember with earlier | isHyphen | isLast
      · exact shape.characters mem earlier
      · exact Or.inr isHyphen
      · exact Or.inl (isLast ▸ kept)
    · rw [List.append_assoc, List.head?_append_of_ne_nil _ started]
      exact shape.opens
    · have before := double_append double last
      rw [List.infix_concat_iff] at before
      cases before with
      | inl across =>
        -- the slug would end with a hyphen
        obtain ⟨front, same⟩ := across
        have ends : slug = front ++ ['-'] := by simpa using (List.append_inj' (same.symm.trans (by simp :
          front ++ ['-', '-'] = (front ++ ['-']) ++ ['-'])) rfl).1
        exact absurd (by simp [ends]) shape.closes
      | inr inside => exact inside
  next =>
    refine ⟨?_, ?_, by simp [last], fun double => shape.single (double_append double last)⟩
    · intro mem isMember
      rw [List.mem_append, List.mem_singleton] at isMember
      cases isMember with
      | inl earlier => exact shape.characters mem earlier
      | inr isLast => exact Or.inl (isLast ▸ kept)
    · cases slug with
      | nil => simp [last]
      | cons first others => exact shape.opens

theorem Hyphened.run (shape : Hyphened slug)
    (lower : ∀ character ∈ characters, character.isAlphanum = true → isSlugCharacter character = true) :
    Hyphened (slugCharacters slug separator characters) := by
  induction characters generalizing slug separator with
  | nil => exact shape
  | cons character rest ih =>
    rw [List.forall_mem_cons] at lower
    obtain ⟨next, isNext⟩ : ∃ next, (if character.isAlphanum = true then
        (if (separator && !slug.isEmpty) = true then slug ++ ['-'] else slug) ++ [character] else slug) = next := ⟨_, rfl⟩
    have kept : Hyphened next := by
      rw [← isNext]
      split
      next kept => exact shape.append (lower.1 kept) separator
      next => exact shape
    simp only [slugCharacters, isNext]
    split
    · exact kept
    · exact ih kept lower.2

/-! ## What the loop writes -/

/-- A loop that has not reached the bound writes what remains, up to the bound. -/
theorem slugCharacters_eq {characters slug : List Char} (short : slug.length < 64) :
    slugCharacters slug separator characters =
      (slug ++ hyphenated (!slug.isEmpty) separator characters).take
        (slugBound (slug ++ hyphenated (!slug.isEmpty) separator characters)) := by
  induction characters generalizing slug separator with
  | nil =>
    rw [slugCharacters, hyphenated, List.append_nil, slugBound, List.getElem?_eq_none (by omega), if_neg (by simp),
      List.take_of_length_le (by omega)]
  | cons character rest ih =>
    rw [slugCharacters, hyphenated]
    by_cases kept : character.isAlphanum = true
    · have last : character ≠ '-' := by
        rintro rfl
        simp [Char.isAlphanum, isAlpha_def, isUpper_def, isLower_def, Char.isDigit] at kept
      obtain ⟨next, isNext⟩ : ∃ next, (if separator && !slug.isEmpty then slug ++ ['-'] else slug) ++ [character] = next :=
        ⟨_, rfl⟩
      have joined : slug ++ ((if (separator && !slug.isEmpty) = true then ['-', character] else [character]) ++
          hyphenated true false rest) = next ++ hyphenated true false rest := by
        rw [← isNext]
        split <;> simp
      simp only [kept, if_true, isNext, joined, Bool.not_true]
      split
      next long =>
        -- the bound is reached here, with the character that was just appended as the 64th or the 65th
        by_cases spaced : (separator && !slug.isEmpty) = true
        · rw [if_pos spaced] at isNext
          have size : next.length = slug.length + 2 := by simp [← isNext]
          by_cases exact63 : slug.length = 63
          · have hyphen : (next ++ hyphenated true false rest)[63]? = some '-' := by
              simp [← isNext, List.append_assoc, exact63]
            rw [slugBound, if_pos hyphen, List.take_append_of_le_length (by omega), List.take_of_length_le (by omega)]
          · have isLast : (next ++ hyphenated true false rest)[63]? = some character := by
              rw [List.getElem?_append_left (by omega), ← isNext, List.getElem?_append_right (by simp; omega)]
              have offset : 63 - (slug ++ ['-']).length = 0 := by simp; omega
              rw [offset]
              rfl
            rw [slugBound, isLast, if_neg (by simpa using last), List.take_append_of_le_length (by omega),
              List.take_of_length_le (by omega)]
        · rw [if_neg spaced] at isNext
          have size : next.length = slug.length + 1 := by simp [← isNext]
          have isLast : (next ++ hyphenated true false rest)[63]? = some character := by
            rw [List.getElem?_append_left (by omega), ← isNext, List.getElem?_append_right (by omega)]
            have offset : 63 - slug.length = 0 := by omega
            rw [offset]
            rfl
          rw [slugBound, isLast, if_neg (by simpa using last), List.take_append_of_le_length (by omega),
            List.take_of_length_le (by omega)]
      next more =>
        have opened : (!next.isEmpty) = true := by simp [← isNext]
        have following : slugCharacters next false rest = _ := ih (by omega)
        rw [opened] at following
        exact following
    · have foreign : character.isAlphanum = false := by simpa using kept
      simp only [foreign, Bool.false_eq_true, if_false, Bool.not_false, if_neg (Nat.not_le.mpr short)]
      exact ih short

theorem letters_le_length (characters : List Char) (started separator : Bool) :
    (characters.filter Char.isAlphanum).length ≤ (hyphenated started separator characters).length := by
  induction characters generalizing started separator with
  | nil => simp [hyphenated]
  | cons character rest ih =>
    by_cases kept : character.isAlphanum = true
    · have following := ih true false
      simp only [hyphenated, List.filter_cons_of_pos kept, kept, if_true, List.length_append, List.length_cons]
      split <;> simp <;> omega
    · simpa [hyphenated, kept] using ih started true

/-! ## Case and blanks -/

theorem toLower_cases (character : Char) : character.isUpper = true ∧ character.toLower.isLower = true ∨
      character.isUpper = false ∧ character.toLower = character := by
  by_cases upper : character.isUpper = true
  · refine Or.inl ⟨upper, ?_⟩
    simp only [isUpper_def, decide_eq_true_eq] at upper
    rw [show character.toLower = _ from dif_pos upper]
    simp [UInt32.le_iff_toNat_le, UInt32.toNat_add, isLower_def] at upper ⊢
    omega
  · refine Or.inr ⟨by simpa using upper, dif_neg ?_⟩
    simpa [isUpper_def] using upper

theorem isAlphanum_toLower (character : Char) : character.toLower.isAlphanum = character.isAlphanum := by
  cases toLower_cases character with
  | inl capital => simp [Char.isAlphanum, isAlpha_def, capital]
  | inr same => rw [same.2]

theorem toLower_eq_hyphen : character.toLower = '-' ↔ character = '-' := by
  cases toLower_cases character with
  | inl capital =>
    have notHyphen : character.toLower ≠ '-' := by
      intro isHyphen
      rw [isHyphen] at capital
      simp [isLower_def] at capital
    have capitalOnly : character ≠ '-' := by
      rintro rfl
      simp [isUpper_def] at capital
    simp [notHyphen, capitalOnly]
  | inr same => rw [same.2]

theorem isSlugCharacter_toLower (kept : character.toLower.isAlphanum = true) :
    isSlugCharacter character.toLower = true := by
  rw [isAlphanum_toLower] at kept
  cases toLower_cases character with
  | inl capital => simp [isSlugCharacter, capital.2]
  | inr same =>
    rw [same.2]
    simpa [isSlugCharacter, Char.isAlphanum, isAlpha_def, same.1] using kept

theorem hyphenated_lower (characters : List Char) (started separator : Bool) :
    hyphenated started separator (characters.map Char.toLower) =
      (hyphenated started separator characters).map Char.toLower := by
  induction characters generalizing started separator with
  | nil => rfl
  | cons character rest ih =>
    simp only [List.map_cons, hyphenated, isAlphanum_toLower, ih]
    split
    · split <;> simp [toLower_eq_hyphen.mpr]
    · rfl

theorem hyphenated_unstarted (characters : List Char) (separator other : Bool) :
    hyphenated false separator characters = hyphenated false other characters := by
  cases characters with
  | nil => rfl
  | cons character rest => simp [hyphenated]

theorem not_alphanum_of_blank (blank : isWhitespace character = true) : character.isAlphanum = false := by
  by_contra kept
  simp only [isWhitespace, Bool.or_eq_true, Bool.and_eq_true, decide_eq_true_eq, beq_iff_eq] at blank
  simp [Char.isAlphanum, isAlpha_def, isUpper_def, isLower_def, Char.isDigit, UInt32.le_iff_toNat_le] at kept
  omega

theorem hyphenated_dropWhile (characters : List Char) (separator : Bool) :
    hyphenated false separator (characters.dropWhile isWhitespace) = hyphenated false separator characters := by
  induction characters with
  | nil => rfl
  | cons character rest ih =>
    by_cases blank : isWhitespace character = true
    · rw [List.dropWhile_cons_of_pos blank, ih, hyphenated, not_alphanum_of_blank blank]
      exact hyphenated_unstarted rest separator true
    · rw [List.dropWhile_cons_of_neg blank]

theorem hyphenated_append_blanks (characters blanks : List Char) (started separator : Bool)
    (blank : ∀ character ∈ blanks, isWhitespace character = true) :
    hyphenated started separator (characters ++ blanks) = hyphenated started separator characters := by
  induction characters generalizing started separator with
  | nil =>
    induction blanks generalizing started separator with
    | nil => rfl
    | cons character rest ih =>
      rw [List.forall_mem_cons] at blank
      simpa [hyphenated, not_alphanum_of_blank blank.1] using ih blank.2 started true
  | cons character rest ih => simp [hyphenated, ih]

theorem hyphenated_trim (name : String) :
    hyphenated false false (trim name).toList = hyphenated false false name.toList := by
  obtain ⟨front, isFront⟩ : ∃ front, name.toList.dropWhile isWhitespace = front := ⟨_, rfl⟩
  have parts : front = (front.reverse.dropWhile isWhitespace).reverse ++ (front.reverse.takeWhile isWhitespace).reverse := by
    rw [← List.reverse_append, List.takeWhile_append_dropWhile, List.reverse_reverse]
  have blank : ∀ character ∈ (front.reverse.takeWhile isWhitespace).reverse, isWhitespace character = true := by
    intro character mem
    exact List.mem_takeWhile_imp (List.mem_reverse.mp mem)
  rw [trim, String.toList_ofList, ← hyphenated_dropWhile name.toList, isFront]
  conv_rhs => rw [parts, hyphenated_append_blanks _ _ _ _ blank]

/-! ## Slugs that are accepted -/

theorem dropWhile_hyphens (opens : slug.head? ≠ some '-') : slug.dropWhile (· == '-') = slug := by
  cases slug with
  | nil => rfl
  | cons first others => exact List.dropWhile_cons_of_neg (by simpa using opens)

theorem Hyphened.trimmed (shape : Hyphened slug) :
    ((slug.dropWhile (· == '-')).reverse.dropWhile (· == '-')).reverse = slug := by
  rw [dropWhile_hyphens shape.opens, dropWhile_hyphens (by simpa using shape.closes), List.reverse_reverse]

theorem all_zipIdx_succ (characters : List Char) (start : ℕ) :
    ((characters.zipIdx (start + 1)).all fun (character, index) =>
        character.isLower || character.isDigit || decide (0 < index) && character == '-') =
      characters.all fun character => isSlugCharacter character || character == '-' := by
  induction characters generalizing start with
  | nil => rfl
  | cons character rest ih =>
    simp [List.zipIdx_cons, ih (start + 1), isSlugCharacter]

theorem utf8Size_of_slugCharacter (kept : isSlugCharacter character = true ∨ character = '-') :
    character.utf8Size = 1 := by
  rw [Char.utf8Size_eq_one_iff]
  cases kept with
  | inl kept =>
    simp [isSlugCharacter, isLower_def, Char.isDigit, UInt32.le_iff_toNat_le] at kept ⊢
    omega
  | inr isHyphen => simp [isHyphen]

theorem validateSlug_iff {value : String} :
    validateSlug value = true ↔ 3 ≤ value.length ∧ value.length ≤ 64 ∧ Hyphened value.toList := by
  have indexed : (value.toList.zipIdx.all fun (character, index) =>
        character.isLower || character.isDigit || decide (0 < index) && character == '-') = true ↔
      (∀ character ∈ value.toList, isSlugCharacter character = true ∨ character = '-') ∧ value.toList.head? ≠ some '-' := by
    cases value.toList with
    | nil => simp
    | cons first others =>
      rw [List.zipIdx_cons, List.all_cons, all_zipIdx_succ]
      simp only [Nat.lt_irrefl, decide_false, Bool.false_and, Bool.or_false, Bool.and_eq_true, List.all_eq_true,
        Bool.or_eq_true, beq_iff_eq, List.forall_mem_cons, List.head?_cons, ne_eq, Option.some.injEq]
      constructor
      · rintro ⟨kept, rest⟩
        have letter : isSlugCharacter first = true := by simpa [isSlugCharacter] using kept
        exact ⟨⟨Or.inl letter, rest⟩, ne_hyphen_of_isSlugCharacter letter⟩
      · rintro ⟨⟨first, rest⟩, opens⟩
        exact ⟨by simpa [isSlugCharacter] using first.resolve_right opens, rest⟩
  have sized (characters : ∀ character ∈ value.toList, isSlugCharacter character = true ∨ character = '-') :
      value.utf8ByteSize = value.length := by
    rw [utf8ByteSize_eq, utf8Len_eq_length fun character mem => utf8Size_of_slugCharacter (characters character mem),
      String.length_toList]
  simp only [validateSlug, Bool.and_eq_true, decide_eq_true_eq, Bool.not_eq_true', indexed, decide_eq_false_iff_not,
    Option.any_eq_false, beq_eq_false_iff_ne]
  constructor
  · rintro ⟨⟨⟨bounds, characters, opens⟩, closes⟩, single⟩
    rw [sized characters] at bounds
    exact ⟨bounds.1, bounds.2, characters, opens, fun isLast => closes '-' isLast rfl, single⟩
  · rintro ⟨least, most, shape⟩
    rw [sized shape.characters]
    refine ⟨⟨⟨⟨least, most⟩, shape.characters, shape.opens⟩, ?_⟩, shape.single⟩
    rintro character isLast rfl
    exact shape.closes isLast

/-! ## Names and their slugs -/

theorem slugify_eq (name : String) : Hyphened (slugify name).toList ∧ (slugify name).toList =
      ((hyphenated false false name.toList).take (slugBound (hyphenated false false name.toList))).map Char.toLower := by
  have lower : (toAsciiLowercase (trim name)).toList = (trim name).toList.map Char.toLower := by
    rw [toAsciiLowercase, String.toList_ofList]
  have shape : Hyphened (slugCharacters [] false ((trim name).toList.map Char.toLower)) := by
    refine Hyphened.nil.run fun character mem kept => ?_
    obtain ⟨original, _, isLower⟩ := List.mem_map.mp mem
    rw [← isLower] at kept ⊢
    exact isSlugCharacter_toLower kept
  have bound : slugBound ((hyphenated false false name.toList).map Char.toLower) =
      slugBound (hyphenated false false name.toList) := by
    rw [slugBound, slugBound, List.getElem?_map]
    cases (hyphenated false false name.toList)[63]? <;> simp [toLower_eq_hyphen]
  rw [slugify, lower, String.toList_ofList, shape.trimmed]
  refine ⟨shape, ?_⟩
  rw [slugCharacters_eq (by decide), List.nil_append, List.isEmpty_nil, Bool.not_true, hyphenated_lower, hyphenated_trim,
    bound, List.map_take]

theorem hyphenated_started (kept : ∀ character ∈ characters, isSlugCharacter character = true ∨ character = '-')
    (closes : characters.getLast? ≠ some '-') (single : ¬['-', '-'] <:+: characters) :
    hyphenated true false characters = characters ∧
      (characters ≠ [] → characters.head? ≠ some '-' → hyphenated true true characters = '-' :: characters) := by
  induction characters with
  | nil => simp [hyphenated]
  | cons character rest ih =>
    rw [List.forall_mem_cons] at kept
    have restCloses : rest.getLast? ≠ some '-' := by
      cases rest with
      | nil => simp
      | cons next others => simpa using closes
    obtain ⟨same, spaced⟩ := ih kept.2 restCloses fun inside =>
      single (inside.trans (List.suffix_cons character rest).isInfix)
    cases kept.1 with
    | inl letter =>
      simp [hyphenated, isAlphanum_of_isSlugCharacter letter, same]
    | inr isHyphen =>
      subst isHyphen
      have notLast : rest ≠ [] := by
        rintro rfl
        simp at closes
      have noDouble : rest.head? ≠ some '-' := by
        intro isHyphen
        obtain ⟨others, rfl⟩ := List.head?_eq_some_iff.mp isHyphen
        exact single ⟨[], others, rfl⟩
      simp [hyphenated, Char.isAlphanum, isAlpha_def, isUpper_def, isLower_def, Char.isDigit, spaced notLast noDouble]

theorem hyphenated_of_shape (shape : Hyphened slug) : hyphenated false false slug = slug := by
  obtain ⟨same, _⟩ := hyphenated_started shape.characters shape.closes shape.single
  cases slug with
  | nil => rfl
  | cons first others =>
    cases shape.characters first List.mem_cons_self with
    | inl letter => simpa [hyphenated, isAlphanum_of_isSlugCharacter letter] using same
    | inr isHyphen => exact absurd (by simp [isHyphen]) shape.opens

theorem slugify_of_validateSlug {slug : String} (valid : validateSlug slug = true) : slugify slug = slug := by
  obtain ⟨_, most, shape⟩ := validateSlug_iff.mp valid
  have same : slug.toList.map Char.toLower = slug.toList := by
    conv_rhs => rw [← List.map_id slug.toList]
    refine List.map_congr_left fun character mem => ?_
    cases shape.characters character mem with
    | inl letter =>
      cases toLower_cases character with
      | inl capital =>
        simp [isSlugCharacter, isUpper_def, isLower_def, Char.isDigit, UInt32.le_iff_toNat_le] at letter capital
        omega
      | inr same => exact same.2
    | inr isHyphen => exact toLower_eq_hyphen.mpr isHyphen ▸ isHyphen.symm
  have long : slug.toList.length ≤ slugBound slug.toList := by
    rw [String.length_toList, slugBound]
    split <;> omega
  rw [← String.toList_inj, (slugify_eq slug).2, hyphenated_of_shape shape, List.take_of_length_le long, same]

/-- A name with three letters or digits has a valid slug unless the loop has written 63 characters when it comes to
    a separator and another letter or digit; and an accepted slug is its own slug. -/
theorem slugify_accepted (name : String) (letters : 3 ≤ (name.toList.filter Char.isAlphanum).length) :
    (validateSlug (slugify name) = true ∧ ∀ slug, validateSlug slug = true → slugify slug = slug) ↔
      (hyphenated false false name.toList)[63]? ≠ some '-' := by
  obtain ⟨shape, written⟩ := slugify_eq name
  have size : (slugify name).length =
      min (slugBound (hyphenated false false name.toList)) (hyphenated false false name.toList).length := by
    rw [← String.length_toList, written, List.length_map, List.length_take]
  have some := letters.trans (letters_le_length name.toList false false)
  rw [validateSlug_iff, size]
  constructor
  · rintro ⟨⟨_, most, _⟩, _⟩ isHyphen
    -- a hyphen is not the last of the characters
    have beyond : 64 < (hyphenated false false name.toList).length := by
      by_contra short
      have inside : 63 < (hyphenated false false name.toList).length := (List.getElem?_eq_some_iff.mp isHyphen).1
      have whole : (slugify name).toList = (hyphenated false false name.toList).map Char.toLower := by
        rw [written, List.take_of_length_le]
        rw [slugBound, if_pos isHyphen]
        omega
      apply shape.closes
      rw [whole, List.getLast?_eq_getElem?, List.length_map, List.getElem?_map]
      have last : (hyphenated false false name.toList).length - 1 = 63 := by omega
      rw [last, isHyphen]
      rfl
    rw [slugBound, if_pos isHyphen] at most
    omega
  · intro noHyphen
    rw [slugBound, if_neg noHyphen]
    exact ⟨⟨by omega, by omega, shape⟩, fun slug valid => slugify_of_validateSlug valid⟩

theorem slugify_accepted_arena :
    3 ≤ ("Arena 2".toList.filter Char.isAlphanum).length ∧ (hyphenated false false "Arena 2".toList)[63]? ≠ some '-' ∧
      (validateSlug (slugify "Arena 2") = true ∧ ∀ slug, validateSlug slug = true → slugify slug = slug) :=
  ⟨by decide, by decide, (slugify_accepted "Arena 2" (by decide)).mpr (by decide)⟩

/-- The separator behind 63 letters costs two characters. -/
theorem slugify_refused :
    ¬∀ name : String, 3 ≤ (name.toList.filter Char.isAlphanum).length → validateSlug (slugify name) = true := by
  intro always
  have accepted := always (.ofList (List.replicate 63 'a' ++ [' ', 'b'])) (by simp)
  have size := (validateSlug_iff.mp accepted).2.1
  rw [← String.length_toList, (slugify_eq _).2, String.toList_ofList] at size
  revert size
  decide

end Vifu.Server
