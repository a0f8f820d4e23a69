import Vifu.Foundation.Text

/-!
# Timestamps in two spellings

A timestamp column of the trace tables is a text.  Its default is what `strftime` writes, with three digits of
the second and a `Z`; a bound `DateTime<Utc>` is RFC 3339 with an offset and as many digits as the value
needs.  Texts of one millisecond are the only ones between a bound value and its `strftime` spelling.
-/

namespace Vifu.Server

/-- `DateTime<Utc>`, by the fields that it is printed from. -/
structure DateTime where
  year : ℤ
  month : ℕ
  day : ℕ
  hour : ℕ
  minute : ℕ
  second : ℕ
  nanosecond : ℕ
  bounded : month ≤ 12 ∧ day ≤ 31 ∧ hour < 24 ∧ minute < 60 ∧ second ≤ 60 ∧ nanosecond < 1000000000
  deriving DecidableEq

def digits : ℕ → ℕ → List Char
  | 0, _ => []
  | width + 1, number => digits width (number / 10) ++ [Nat.digitChar (number % 10)]

/-- A year outside four digits is printed with its sign. -/
def yearText (year : ℤ) : List Char :=
  if 0 ≤ year ∧ year ≤ 9999 then digits 4 year.toNat
  else (if 0 ≤ year then '+' else '-') ::
    (if year.natAbs < 10000 then digits 4 year.natAbs else year.natAbs.repr.toList)

def offset : List Char := "+00:00".toList

namespace DateTime

def stamp (time : DateTime) : List Char :=
  yearText time.year ++ '-' :: digits 2 time.month ++ '-' :: digits 2 time.day ++ 'T' :: digits 2 time.hour ++
    ':' :: digits 2 time.minute ++ ':' :: digits 2 time.second

def millisecond (time : DateTime) : ℕ := time.nanosecond / 1000000

/-- The shortest of 0, 3, 6 or 9 digits. -/
def fraction (time : DateTime) : List Char :=
  if time.nanosecond = 0 then []
  else if time.nanosecond % 1000000 = 0 then '.' :: digits 3 (time.nanosecond / 1000000)
  else if time.nanosecond % 1000 = 0 then '.' :: digits 6 (time.nanosecond / 1000)
  else '.' :: digits 9 time.nanosecond

def rfc3339 (time : DateTime) : List Char := time.stamp ++ (time.fraction ++ offset)

/-- The years that `strftime` knows, at its resolution. -/
def OfClock (time : DateTime) : Prop := (0 ≤ time.year ∧ time.year ≤ 9999) ∧ time.nanosecond % 1000000 = 0

instance (time : DateTime) : Decidable time.OfClock := inferInstanceAs (Decidable (_ ∧ _))

/-- `strftime('%Y-%m-%dT%H:%M:%fZ')`. -/
def strftime (time : DateTime) : List Char := time.stamp ++ ('.' :: digits 3 time.millisecond ++ ['Z'])

def SameMillisecond (time other : DateTime) : Prop := time.stamp = other.stamp ∧ time.millisecond = other.millisecond

instance (time other : DateTime) : Decidable (time.SameMillisecond other) := inferInstanceAs (Decidable (_ ∧ _))

end DateTime

/-- What SQLite takes the current time to be. -/
structure Clock where
  time : DateTime
  ofClock : time.OfClock
  deriving DecidableEq

def townClock : Clock where
  time := ⟨2026, 3, 14, 15, 9, 26, 535000000, by decide⟩
  ofClock := by decide

/-- A timestamp column, by the way that its text was written. -/
inductive Timestamp where
  | now (clock : Clock)
  | bound (time : DateTime)
  deriving DecidableEq

namespace Timestamp

def text : Timestamp → List Char
  | now clock => clock.time.strftime
  | bound time => time.rfc3339

def isNow : Timestamp → Bool
  | now _ => true
  | bound _ => false

/-- Both spellings are read as the instant that they were written for. -/
def read : Timestamp → DateTime
  | now clock => clock.time
  | bound time => time

end Timestamp

@[simp] theorem length_digits (width number : ℕ) : (digits width number).length = width := by
  induction width generalizing number with
  | zero => rfl
  | succ width ih => simp [digits, ih]

theorem digits_split (first second number : ℕ) :
    digits (first + second) number = digits first (number / 10 ^ second) ++ digits second number := by
  induction second generalizing number with
  | zero => simp [digits]
  | succ second ih =>
    rw [← Nat.add_assoc, digits, digits, ih, Nat.pow_succ', Nat.div_div_eq_div_mul, List.append_assoc]

theorem digitChar_code : ∀ digit < 10, (Nat.digitChar digit).toNat = 48 + digit := by decide

theorem digit_of_mem_digits {width number : ℕ} {character : Char} (mem : character ∈ digits width number) :
    '0' ≤ character ∧ character ≤ '9' := by
  induction width generalizing number with
  | zero => cases mem
  | succ width ih =>
    rw [digits, List.mem_append, List.mem_singleton] at mem
    cases mem with
    | inl earlier => exact ih earlier
    | inr isLast =>
      have small : number % 10 < 10 := by omega
      have code := digitChar_code _ small
      rw [isLast, Char.le_def, Char.le_def, UInt32.le_iff_toNat_le]
      show 48 ≤ (Nat.digitChar (number % 10)).toNat ∧ (Nat.digitChar (number % 10)).toNat ≤ 57
      omega

theorem digits_injective {width first second : ℕ} (firstFits : first < 10 ^ width) (secondFits : second < 10 ^ width)
    (same : digits width first = digits width second) : first = second := by
  induction width generalizing first second with
  | zero =>
    omega
  | succ width ih =>
    obtain ⟨front, last⟩ := List.append_inj same (by simp)
    have quotients : first / 10 = second / 10 := by
      apply ih _ _ front
      · rw [Nat.pow_succ] at firstFits
        omega
      · rw [Nat.pow_succ] at secondFits
        omega
    have codes := congrArg Char.toNat (List.singleton_inj.mp last)
    rw [digitChar_code _ (by omega), digitChar_code _ (by omega)] at codes
    omega

theorem prefix_of_between {before low high text : List Char} (above : ¬text < before ++ low) (below : text < before ++ high) :
    before <+: text := by
  induction before generalizing text with
  | nil => exact List.nil_prefix
  | cons head before ih =>
    cases text with
    | nil => exact absurd (List.nil_lt_cons _ _) above
    | cons first text =>
      rw [List.cons_append, List.cons_lt_cons_iff] at above below
      -- a first character on either side of the common one would lie outside
      have same : first = head := by
        cases below with
        | inl smaller => exact absurd (.inl smaller) above
        | inr alike => exact alike.1
      subst same
      simp only [lt_irrefl, true_and, false_or] at above below
      rw [List.cons_prefix_cons]
      exact ⟨rfl, ih above below⟩

theorem lt_of_append_left_lt {before left right : List Char} (smaller : before ++ left < before ++ right) : left < right := by
  induction before with
  | nil => exact smaller
  | cons head before ih =>
    rw [List.cons_append, List.cons_append, List.cons_lt_cons_iff] at smaller
    cases smaller with
    | inl less => exact absurd less (lt_irrefl head)
    | inr rest => exact ih rest.2

theorem zeros_of_lt {front tail other : List Char} {width : ℕ} (length : front.length = width)
    (least : ∀ character ∈ front, '0' ≤ character) (below : front ++ tail < List.replicate width '0' ++ other) :
    front = List.replicate width '0' := by
  induction width generalizing front with
  | zero => exact List.length_eq_zero_iff.mp length
  | succ width ih =>
    cases front with
    | nil => simp at length
    | cons first front =>
      rw [List.length_cons, Nat.add_right_cancel_iff] at length
      rw [List.forall_mem_cons] at least
      rw [List.replicate_succ, List.cons_append, List.cons_append, List.cons_lt_cons_iff] at below
      cases below with
      | inl smaller => exact absurd smaller (not_lt.mpr least.1)
      | inr alike => rw [List.replicate_succ, alike.1, ih length least.2 alike.2]

/-! ## The two spellings -/

namespace DateTime

variable {time other : DateTime}

theorem length_stamp (ofYear : 0 ≤ time.year ∧ time.year ≤ 9999) : time.stamp.length = 19 := by
  simp [stamp, yearText, ofYear]

theorem stamp_head (time : DateTime) : ∃ first rest, time.stamp = first :: rest ∧
    (('0' ≤ first ↔ 0 ≤ time.year ∧ time.year ≤ 9999)) := by
  by_cases ofYear : 0 ≤ time.year ∧ time.year ≤ 9999
  · cases isYear : digits 4 time.year.toNat with
    | nil =>
      contradiction
    | cons first rest =>
      have isDigit : first ∈ digits 4 time.year.toNat := isYear ▸ List.mem_cons_self
      refine ⟨first, _, by rw [stamp, yearText, if_pos ofYear, isYear]; rfl, ?_⟩
      simp [(digit_of_mem_digits isDigit).1, ofYear]
  · refine ⟨_, _, by rw [stamp, yearText, if_neg ofYear]; rfl, ?_⟩
    by_cases positive : 0 ≤ time.year
    · simp only [if_pos positive, ofYear, iff_false]
      decide
    · simp only [if_neg positive, ofYear, iff_false]
      decide

theorem stamp_of_prefix (ofYear : 0 ≤ time.year ∧ time.year ≤ 9999) {rest : List Char}
    (begins : time.stamp <+: other.stamp ++ rest) : other.stamp = time.stamp := by
  obtain ⟨first, tail, isStamp, isDigit⟩ := stamp_head time
  obtain ⟨otherFirst, otherTail, isOther, otherDigit⟩ := stamp_head other
  have sameFirst : first = otherFirst := by
    rw [isStamp, isOther, List.cons_append, List.cons_prefix_cons] at begins
    exact begins.1
  have otherYear := otherDigit.mp (sameFirst ▸ isDigit.mpr ofYear)
  have whole : time.stamp <+: other.stamp := by
    apply List.prefix_of_prefix_length_le begins (List.prefix_append _ _)
    rw [length_stamp ofYear, length_stamp otherYear]
  exact (whole.eq_of_length (by rw [length_stamp ofYear, length_stamp otherYear])).symm

theorem millisecond_lt (time : DateTime) : time.millisecond < 10 ^ 3 := by
  have bounded := time.bounded.2.2.2.2.2
  rw [millisecond]
  omega

theorem fraction_cases (time : DateTime) : time.nanosecond = 0 ∧ time.fraction = [] ∨
    time.nanosecond ≠ 0 ∧ time.nanosecond % 1000000 = 0 ∧ time.fraction = '.' :: digits 3 time.millisecond ∨
    time.nanosecond % 1000000 ≠ 0 ∧ ∃ digit rest, '0' ≤ digit ∧ digit ≤ '9' ∧
      time.fraction = '.' :: digits 3 time.millisecond ++ digit :: rest := by
  have more (width : ℕ) (number : ℕ) (isMillisecond : number / 10 ^ (width + 1) = time.millisecond) :
      ∃ digit rest, '0' ≤ digit ∧ digit ≤ '9' ∧
        digits (3 + (width + 1)) number = digits 3 time.millisecond ++ digit :: rest := by
    cases isRest : digits (width + 1) number with
    | nil =>
      have length := length_digits (width + 1) number
      rw [isRest] at length
      contradiction
    | cons digit rest =>
      have isDigit : digit ∈ digits (width + 1) number := isRest ▸ List.mem_cons_self
      have between := digit_of_mem_digits isDigit
      exact ⟨digit, rest, between.1, between.2, by rw [digits_split, isMillisecond, isRest]⟩
  by_cases none : time.nanosecond = 0
  · simp [fraction, none]
  · by_cases milli : time.nanosecond % 1000000 = 0
    · simp [fraction, none, milli, millisecond]
    · by_cases micro : time.nanosecond % 1000 = 0
      · obtain ⟨digit, rest, low, high, split⟩ := more 2 (time.nanosecond / 1000) (by rw [millisecond]; omega)
        exact .inr (.inr ⟨milli, digit, rest, low, high, by
          rw [fraction, if_neg none, if_neg milli, if_pos micro, List.cons_append, ← split]⟩)
      · obtain ⟨digit, rest, low, high, split⟩ := more 5 time.nanosecond (by simp [millisecond])
        exact .inr (.inr ⟨milli, digit, rest, low, high, by
          rw [fraction, if_neg none, if_neg milli, if_neg micro, List.cons_append, ← split]⟩)

theorem rfc3339_lt_strftime (ofClock : time.OfClock) : time.rfc3339 < time.strftime := by
  apply List.append_left_lt
  rcases fraction_cases time with ⟨_, isFraction⟩ | ⟨_, _, isFraction⟩ | ⟨finer, _⟩
  · rw [isFraction]
    exact List.cons_lt_cons_iff.mpr (.inl (by decide))
  · rw [isFraction]
    apply List.append_left_lt
    exact List.cons_lt_cons_iff.mpr (.inl (by decide))
  · exact absurd ofClock.2 finer

theorem rfc3339_lt_finer (ofClock : time.OfClock) (same : time.SameMillisecond other)
    (finer : other.nanosecond % 1000000 ≠ 0) : time.rfc3339 < other.rfc3339 := by
  rw [rfc3339, rfc3339, ← same.1]
  apply List.append_left_lt
  obtain ⟨_, digit, rest, low, _, isOther⟩ := (fraction_cases other).resolve_left (by
    intro coarse
    apply finer
    rw [coarse.1]) |>.resolve_left (by
    intro coarse
    exact finer coarse.2.1)
  rcases fraction_cases time with ⟨_, isFraction⟩ | ⟨_, _, isFraction⟩ | ⟨odd, _⟩
  · rw [isFraction, isOther]
    exact List.cons_lt_cons_iff.mpr (.inl (by decide))
  · rw [isFraction, isOther, same.2, List.append_assoc]
    apply List.append_left_lt
    -- the offset starts below every digit
    exact List.cons_lt_cons_iff.mpr (.inl (lt_of_lt_of_le (by decide) low))
  · exact absurd ofClock.2 odd

theorem rfc3339_eq (ofClock : time.OfClock) (same : time.SameMillisecond other)
    (coarse : other.nanosecond % 1000000 = 0) : time.rfc3339 = other.rfc3339 := by
  have nanoseconds : time.nanosecond = other.nanosecond := by
    have milli := ofClock.2
    have alike := same.2
    simp only [millisecond] at alike
    omega
  rw [rfc3339, rfc3339, same.1, fraction, fraction, nanoseconds]

theorem strftime_eq (same : time.SameMillisecond other) : time.strftime = other.strftime := by
  rw [strftime, strftime, same.1, same.2]

end DateTime

namespace Timestamp

@[simp] theorem text_now (clock : Clock) : (now clock).text = clock.time.strftime := rfl
@[simp] theorem text_bound (time : DateTime) : (bound time).text = time.rfc3339 := rfl
@[simp] theorem isNow_now (clock : Clock) : (now clock).isNow = true := rfl
@[simp] theorem isNow_bound (time : DateTime) : (bound time).isNow = false := rfl
@[simp] theorem read_now (clock : Clock) : (now clock).read = clock.time := rfl
@[simp] theorem read_bound (time : DateTime) : (bound time).read = time := rfl

def tail : Timestamp → List Char
  | now clock => '.' :: digits 3 clock.time.millisecond ++ ['Z']
  | bound time => time.fraction ++ offset

theorem text_eq (stamp : Timestamp) : stamp.text = stamp.read.stamp ++ stamp.tail := by
  cases stamp <;> rfl

theorem tail_cases (stamp : Timestamp) : stamp.read.millisecond = 0 ∧ stamp.tail = offset ∨
    ∃ rest, stamp.tail = '.' :: digits 3 stamp.read.millisecond ++ rest := by
  cases stamp with
  | now clock => exact .inr ⟨_, rfl⟩
  | bound time =>
    rcases time.fraction_cases with ⟨whole, isFraction⟩ | ⟨_, _, isFraction⟩ | ⟨_, digit, rest, _, _, isFraction⟩
    · left
      simp [tail, isFraction, read, DateTime.millisecond, whole]
    · exact .inr ⟨offset, by rw [tail, isFraction]; rfl⟩
    · exact .inr ⟨digit :: rest ++ offset, by rw [tail, isFraction, List.append_assoc]; rfl⟩

theorem sameMillisecond_of_between {clock : Clock} {stamp : Timestamp} (above : ¬stamp.text < clock.time.rfc3339)
    (below : ¬clock.time.strftime < stamp.text) : clock.time.SameMillisecond stamp.read := by
  have under : stamp.text < clock.time.strftime ++ ['!'] := by
    rcases lt_trichotomy stamp.text clock.time.strftime with smaller | same | larger
    · exact List.Lex.append_right _ _ smaller
    · rw [same]
      conv_lhs => rw [← List.append_nil clock.time.strftime]
      exact List.append_left_lt (List.nil_lt_cons _ _)
    · exact absurd larger below
  rw [DateTime.strftime, List.append_assoc] at under
  have dated := prefix_of_between above under
  rw [text_eq] at dated
  have sameStamp := DateTime.stamp_of_prefix clock.ofClock.1 dated
  rw [text_eq, sameStamp] at above under
  refine ⟨sameStamp.symm, ?_⟩
  -- what is left to compare comes after the second
  have tailAbove : ¬stamp.tail < clock.time.fraction ++ offset := fun smaller => above (List.append_left_lt smaller)
  have tailUnder : stamp.tail < '.' :: digits 3 clock.time.millisecond ++ ['Z', '!'] := by
    have smaller := lt_of_append_left_lt under
    rwa [List.append_assoc] at smaller
  rcases stamp.tail_cases with ⟨isZero, isOffset⟩ | ⟨rest, isTail⟩
  · -- a whole second lies above the bound spelling only of a whole second
    rcases clock.time.fraction_cases with ⟨whole, _⟩ | ⟨_, _, isFraction⟩ | ⟨finer, _⟩
    · rw [isZero, DateTime.millisecond, whole, Nat.zero_div]
    · rw [isOffset, isFraction] at tailAbove
      exact absurd (List.cons_lt_cons_iff.mpr (.inl (by decide))) tailAbove
    · exact absurd clock.ofClock.2 finer
  · apply digits_injective clock.time.millisecond_lt stamp.read.millisecond_lt
    rw [isTail, List.cons_append, List.cons_append, List.cons_lt_cons_iff] at tailUnder
    replace tailUnder := (tailUnder.resolve_left (lt_irrefl _)).2
    rcases clock.time.fraction_cases with ⟨whole, _⟩ | ⟨_, _, isFraction⟩ | ⟨finer, _⟩
    · -- the millisecond is zero, and no digits come before three zeros
      have zeros : digits 3 clock.time.millisecond = List.replicate 3 '0' := by
        rw [DateTime.millisecond, whole]
        rfl
      rw [zeros] at tailUnder ⊢
      exact (zeros_of_lt (length_digits 3 _) (fun _ mem => (digit_of_mem_digits mem).1) tailUnder).symm
    · rw [isTail, isFraction, List.cons_append, List.cons_append, List.cons_lt_cons_iff] at tailAbove
      have digitsAbove : ¬digits 3 stamp.read.millisecond ++ rest < digits 3 clock.time.millisecond ++ offset :=
        fun smaller => tailAbove (.inr ⟨rfl, smaller⟩)
      have begins := prefix_of_between digitsAbove tailUnder
      have whole : digits 3 clock.time.millisecond <+: digits 3 stamp.read.millisecond := by
        apply List.prefix_of_prefix_length_le begins (List.prefix_append _ _)
        simp
      exact whole.eq_of_length (by simp)
    · exact absurd clock.ofClock.2 finer

end Timestamp

end Vifu.Server
