import Mathlib.Data.List.TakeWhile
import TypeSketch.Filter.DateFormat
import TypeSketch.Proofs.Calendar

/-!
# Readers of instants

An instant with an offset or in UTC is read by `DateTime.read`, a time without a zone by a format. Each of the two
readers takes a text of temporal form exactly if its fields are real.

* `number_bind`, `mark_bind`, `fraction_run`, `offset_run` : what the parts of an instant are read as;
* `stamp_run` : which texts with an offset or in UTC are taken;
* `readItem_field`, `readItem_literal`, `readItem_fraction`, `readBy_zoneless` : the same by a format;
* `isTaken` : whether the reader for the verdict on a text takes it;
* `classifyUnder_strict` : the strict verdict, by the fields of the text and by the readers.
-/

namespace TypeSketch.Temporal

open TypeSketch.Filter (DateTime DateFault isDate)
open Json (AllDigits)

variable {s rest : List Char}

/-! ## Parts -/

theorem length_le_byteCount (s : List Char) : s.length ≤ Text.byteCount s := by
  induction s with
  | nil => exact Nat.le_refl 0
  | cons c t ih =>
    have := c.utf8Size_pos
    rw [List.length_cons, Text.byteCount_cons]
    omega

theorem foldl_digits (digits : List Char) (high : ℕ) :
    digits.foldl (fun n c => n * 10 + (c.toNat - 48)) high = Nat.ofDigitChars 10 digits high := by
  induction digits generalizing high with
  | nil => rfl
  | cons c t ih => rw [List.foldl_cons, ih, Nat.ofDigitChars_cons, Nat.mul_comm high]; rfl

theorem number_run {count low high v : ℕ} (h : readDigits? count s 0 = some (v, rest)) :
    (DateTime.number count low high).run s =
      if v < low ∨ high < v then .error .outOfRange else .ok (v, rest) := by
  obtain ⟨long, all, rfl, rfl⟩ := readDigits_eq_some_iff.1 h
  have bytes : ¬ Text.byteCount s < count := by
    have := length_le_byteCount s
    omega
  have digits : ¬ ((!(s.take count).all Char.isDigit) = true ∨ s.length < count) := by
    have : (s.take count).all Char.isDigit = true := List.all_eq_true.2 all
    simp [this, long]
  simp only [DateTime.number, StateT.run_bind, StateT.run_get, pure_bind, if_neg bytes, if_neg digits, foldl_digits]
  simp only [StateT.run_set, pure_bind]
  split
  · rfl
  · rfl

theorem number_bind {α : Type} {count low high v : ℕ} (h : readDigits? count s 0 = some (v, rest))
    (next : ℕ → DateTime.Read α) :
    (DateTime.number count low high >>= next).run s =
      if v < low ∨ high < v then .error .outOfRange else (next v).run rest := by
  rw [StateT.run_bind, number_run h]
  split <;> rfl

theorem mark_bind {α : Type} {mark : Char} {isMark : Char → Bool} (ok : isMark mark = true)
    (next : Unit → DateTime.Read α) :
    (discard (DateTime.mark isMark) >>= next).run (mark :: rest) = (next ()).run rest := by
  have taken : (DateTime.mark isMark).run (mark :: rest) = .ok (mark, rest) := by
    simp only [DateTime.mark, StateT.run_bind, StateT.run_get, pure_bind, if_pos ok]
    rfl
  rw [StateT.run_bind, discard, map_const, Function.comp_apply, StateT.run_map, taken]
  rfl

/-- A guard before a step lets it succeed only where the guard does not hold. -/
theorem isOk_guard {ε α : Type} {guard : Prop} [Decidable guard] {fault : ε} {step : Except ε α} :
    (if guard then .error fault else step).isOk = true ↔ ¬ guard ∧ step.isOk = true := by
  split
  · next h => simp [h, Except.isOk, Except.toBool]
  · next h => simp [h]

theorem isOk_guard_bind {ε α β : Type} {guard : Prop} [Decidable guard] {fault : ε} {step : Except ε α}
    {next : α → Except ε β} :
    ((if guard then .error fault else step) >>= next).isOk = true ↔ ¬ guard ∧ (step >>= next).isOk = true := by
  split
  · next h => exact iff_of_false Bool.false_ne_true fun ok => ok.1 h
  · next h => exact (and_iff_right h).symm

/-! ## Fraction and offset -/

theorem drop_takeWhile (p : Char → Bool) (t : List Char) : t.drop (t.takeWhile p).length = t.dropWhile p := by
  have whole : t.takeWhile p ++ t.dropWhile p = t := List.takeWhile_append_dropWhile
  calc t.drop (t.takeWhile p).length = (t.takeWhile p ++ t.dropWhile p).drop (t.takeWhile p).length := by rw [whole]
    _ = t.dropWhile p := List.drop_left

theorem fraction_run_point {c : Char} {t : List Char} (digit : c.isDigit = true) :
    ∃ nanos, DateTime.fraction.run ('.' :: c :: t) = pure (nanos, t.dropWhile Char.isDigit) := by
  have taken : (c :: t).takeWhile Char.isDigit = c :: t.takeWhile Char.isDigit := List.takeWhile_cons_of_pos digit
  have left : (c :: t).drop (c :: t.takeWhile Char.isDigit).length = t.dropWhile Char.isDigit := by
    rw [List.length_cons, List.drop_succ_cons, drop_takeWhile]
  simp only [DateTime.fraction, StateT.run_bind, StateT.run_get, pure_bind, taken, List.isEmpty_cons,
    Bool.false_eq_true, if_false, StateT.run_set, left]
  exact ⟨_, rfl⟩

theorem fraction_run_other (h : ∀ t, s ≠ '.' :: t) : DateTime.fraction.run s = pure (0, s) := by
  simp only [DateTime.fraction, StateT.run_bind, StateT.run_get, pure_bind]
  rfl

/-- A fraction before a zone is taken whole. -/
theorem fraction_run {zone : Zone} (h : SpellsZone (skipFraction s) zone) :
    ∃ nanos, DateTime.fraction.run s = pure (nanos, skipFraction s) := by
  unfold skipFraction at h ⊢
  split at h
  · next c t =>
    split at h
    · next digit =>
      rw [if_pos digit]
      exact fraction_run_point digit
    · exact absurd rfl h.head.2
  · refine ⟨0, fraction_run_other ?_⟩
    rintro t rfl
    exact h.head.2 rfl

theorem readDigits_lt {count v : ℕ} (h : readDigits? count s 0 = some (v, rest)) : v < 10 ^ count := by
  obtain ⟨long, all, rfl, -⟩ := readDigits_eq_some_iff.1 h
  have bound := Json.ofDigitChars_lt all 0
  rwa [List.length_take_of_le long, Nat.zero_add, Nat.one_mul, Nat.pow_eq] at bound

/-- An offset is taken whole if it is less than a day, and the letter of UTC always. -/
theorem offset_run {zone : Zone} (h : SpellsZone s zone) (zoned : zone ≠ .none) :
    ∃ shift fault, DateTime.offset.run s = if zone.IsReal then pure (shift, []) else .error fault := by
  cases h with
  | none => exact absurd rfl zoned
  | utc letter =>
    refine ⟨0, .invalid, ?_⟩
    rcases letter with rfl | rfl <;> rfl
  | @offset sign t u hours minutes isSign hh hm =>
    have few : hours < 10 ^ 2 := readDigits_lt hh
    have letter : ¬ (sign = 'Z' ∨ sign = 'z') := by rcases isSign with rfl | rfl <;> decide
    have known : ((sign = 'Z' || sign = 'z' || sign = '+' || DateTime.isMinus sign) : Bool) = true := by
      rcases isSign with rfl | rfl <;> decide
    have taken : (DateTime.mark fun c => c = 'Z' || c = 'z' || c = '+' || DateTime.isMinus c).run (sign :: t) =
        pure (sign, t) := by
      simp only [DateTime.mark, StateT.run_bind, StateT.run_get, pure_bind, if_pos known]
      rfl
    rw [DateTime.offset, StateT.run_bind, taken, pure_bind]
    dsimp only
    rw [if_neg letter, number_bind hh, mark_bind rfl, number_bind hm]
    have inRange : ¬ (hours < 0 ∨ 99 < hours) := by omega
    have real : (Zone.offset hours minutes).IsReal ↔ hours ≤ 23 ∧ minutes ≤ 59 := Iff.rfl
    refine ⟨if DateTime.isMinus sign then -((hours * 60 + minutes) * 60 : ℕ) else ((hours * 60 + minutes) * 60 : ℕ),
      .outOfRange, ?_⟩
    rw [if_neg inRange]
    simp only [real]
    -- Of the offsets with at most 59 minutes those of less than a day are those with at most 23 hours.
    by_cases minute : 59 < minutes
    · rw [if_pos (.inr minute), if_neg (show ¬ (hours ≤ 23 ∧ minutes ≤ 59) by omega)]
    rw [if_neg (show ¬ (minutes < 0 ∨ 59 < minutes) by omega)]
    by_cases day : 86400 ≤ (hours * 60 + minutes) * 60
    · rw [if_pos day, if_neg (show ¬ (hours ≤ 23 ∧ minutes ≤ 59) by omega)]
      rfl
    · rw [if_neg day, if_pos (show hours ≤ 23 ∧ minutes ≤ 59 by omega)]
      rfl

/-! ## Instants with an offset -/

theorem isDate_iff {year month day : ℕ} : isDate year month day = true ↔ OnCalendar year month day := by
  have leap : Filter.isLeap (year : ℤ) = isLeapYear year := by
    unfold Filter.isLeap isLeapYear
    grind
  rw [onCalendar_iff, isDate, leap, daysInMonth]
  simp only [Bool.and_eq_true, decide_eq_true_eq, and_assoc]

/-- A text with an offset or the letter of UTC is taken exactly if it names a real instant. -/
theorem stamp_run {t : Stamp} (h : readStamp? s = some t) (zoned : t.zone ≠ .none) :
    (DateTime.stamp.run s).isOk = true ↔ t.IsReal := by
  obtain @⟨_, _, _, _, _, _, year, month, day, hour, minute, second, zone, hy, hm, hd, hh, hi, hs, hz⟩ :=
    readStamp_eq_some_iff.1 h
  obtain ⟨nanos, fractionTaken⟩ := fraction_run hz
  obtain ⟨shift, fault, offsetTaken⟩ := offset_run hz zoned
  rw [DateTime.stamp, number_bind hy, mark_bind rfl, number_bind hm, mark_bind rfl, number_bind hd,
    mark_bind rfl, number_bind hh, mark_bind rfl, number_bind hi, mark_bind rfl, number_bind hs]
  rw [StateT.run_bind, fractionTaken, pure_bind]
  dsimp only
  rw [StateT.run_bind, offsetTaken]
  have fourDigits := readDigits_lt hy
  simp only [isOk_guard]
  rw [Stamp.isReal_iff, ← isDate_iff]
  dsimp only
  by_cases real : zone.IsReal
  · rw [if_pos real, pure_bind]
    dsimp only
    rw [StateT.run_bind, StateT.run_get, pure_bind]
    by_cases date : isDate year month day = true
    · have calendar := isDate_iff.1 date
      have := calendar.month_bounds
      have := calendar.day_bounds
      -- The bounds of a month and a day leave out no day of the calendar.
      simp only [date, Bool.not_true, Bool.false_eq_true, if_false, true_and, real, and_true]
      constructor
      · rintro ⟨-, -, -, hour, minute, second, -⟩
        omega
      · rintro ⟨hour, minute, second⟩
        exact ⟨by omega, by omega, by omega, by omega, by omega, by omega, rfl⟩
    · constructor
      · rintro ⟨-, -, -, -, -, -, ok⟩
        rw [Bool.not_eq_true] at date
        rw [date] at ok
        exact absurd ok Bool.false_ne_true
      · rintro ⟨isDate, -⟩
        exact absurd isDate date
  · rw [if_neg real]
    constructor
    · rintro ⟨-, -, -, -, -, -, ok⟩
      exact absurd ok Bool.false_ne_true
    · rintro ⟨-, -, -, -, isReal⟩
      exact absurd isReal real

/-! ## Instants without a zone -/

theorem someDigits_run {count v : ℕ} (h : readDigits? count s 0 = some (v, rest)) (positive : 0 < count) :
    (DateTime.someDigits count).run s = pure ((v : ℤ), rest) := by
  obtain ⟨long, all, rfl, rfl⟩ := readDigits_eq_some_iff.1 h
  have digits : (s.take count).takeWhile Char.isDigit = s.take count := List.takeWhile_eq_self_iff.2 all
  have length := List.length_take_of_le long
  have text : ¬ s.isEmpty = true := by
    rw [List.isEmpty_iff_length_eq_zero]
    omega
  have taken : ¬ ((s.take count).takeWhile Char.isDigit).isEmpty = true := by
    rw [digits, List.isEmpty_iff_length_eq_zero]
    omega
  simp only [DateTime.someDigits, StateT.run_bind, StateT.run_get, pure_bind, if_neg text, if_neg taken]
  simp only [StateT.run_set, pure_bind, StateT.run_pure, digits, foldl_digits, length]

/-- A number of as many digits as it can have is taken whole. -/
theorem readField_run {field : Filter.DateField} {v : ℕ} (h : readDigits? field.width s 0 = some (v, rest))
    (positive : 0 < field.width) (counted : field ≠ .timestamp) :
    (DateTime.readField field).run s = pure ((v : ℤ), rest) := by
  obtain ⟨long, all, -, -⟩ := readDigits_eq_some_iff.1 h
  have taken := someDigits_run h positive
  obtain ⟨c, t, rfl⟩ : ∃ c t, s = c :: t := List.exists_cons_of_length_pos (by omega)
  obtain ⟨n, width⟩ : ∃ n, field.width = n + 1 := ⟨field.width - 1, by omega⟩
  have digit : c ∈ ['0', '1', '2', '3', '4', '5', '6', '7', '8', '9'] := by
    rw [width, List.take_succ_cons] at all
    exact isDigit_iff.1 (all c List.mem_cons_self)
  obtain ⟨black, minus, plus⟩ : ¬ Text.isWhite c = true ∧ ¬ c = '-' ∧ ¬ c = '+' := by
    simp only [List.mem_cons, List.not_mem_nil, or_false] at digit
    rcases digit with rfl | rfl | rfl | rfl | rfl | rfl | rfl | rfl | rfl | rfl <;> decide
  have front : (c :: t).dropWhile Text.isWhite = c :: t := List.dropWhile_cons_of_neg black
  simp only [DateTime.readField, StateT.run_bind, StateT.run_modify, StateT.run_get, pure_bind, front, List.head?_cons,
    Option.some.injEq, plus, minus, and_false, if_false, counted]
  exact taken

/-- The format of a time without a zone. -/
def zonelessFormat : String := "%Y-%m-%dT%H:%M:%S%.f"

theorem zonelessFormat_items :
    Filter.DateItem.ofFormat zonelessFormat =
      [.field .year .zero, .literal ['-'], .field .month .zero, .literal ['-'], .field .day .zero, .literal ['T'],
        .field .hour .zero, .literal [':'], .field .minute .zero, .literal [':'], .field .second .zero,
        .fraction none true] := by
  decide +kernel

/-- A number is kept if it lies within its bounds and none was given before. -/
theorem readItem_field {α : Type} (field : Filter.DateField) {pad : Filter.DatePad} {fields : Filter.DateFields} {v : ℕ}
    (h : readDigits? field.width s 0 = some (v, rest)) (positive : 0 < field.width) (counted : field ≠ .timestamp)
    (new : fields.get? field = none) (next : Filter.DateFields → DateTime.Read α) :
    (DateTime.readItem fields (.field field pad) >>= next).run s =
      if (v : ℤ) < (DateTime.bounds field).1 ∨ (DateTime.bounds field).2 < (v : ℤ) then .error .outOfRange
      else (next { fields with numbers := (field, (v : ℤ)) :: fields.numbers }).run rest := by
  have kept : fields.keep field v = .ok { fields with numbers := (field, (v : ℤ)) :: fields.numbers } := by
    rw [Filter.DateFields.keep, new]
  simp only [DateTime.readItem, bind_assoc, StateT.run_bind, readField_run h positive counted, pure_bind, kept]
  split
  · rfl
  · rfl

theorem readItem_literal {α : Type} {mark : Char} {fields : Filter.DateFields}
    (next : Filter.DateFields → DateTime.Read α) :
    (DateTime.readItem fields (.literal [mark]) >>= next).run (mark :: rest) = (next fields).run rest := by
  have long : ¬ Text.byteCount (mark :: rest) < Text.byteCount [mark] := by
    rw [Text.byteCount_cons, Text.byteCount_cons]
    have : Text.byteCount [] = 0 := rfl
    omega
  have front : ¬ (!List.isPrefixOf [mark] (mark :: rest)) = true := by simp
  simp only [DateTime.readItem, StateT.run_bind, StateT.run_get, pure_bind, if_neg long, if_neg front]
  rfl

/-- A fraction up to the end of the text is taken whole. -/
theorem readItem_fraction {fields : Filter.DateFields} (h : skipFraction s = []) (new : fields.get? .nanos = none) :
    ∃ taken, (DateTime.readItem fields (.fraction none true)).run s = pure (taken, []) ∧
      (taken = fields ∨ ∃ nanos, taken = { fields with numbers := (.nanos, nanos) :: fields.numbers }) := by
  unfold skipFraction at h
  split at h
  · next c t =>
    split at h
    · next digit =>
      obtain ⟨nanos, run⟩ := fraction_run_point (t := t) digit
      have kept : fields.keep .nanos nanos =
          .ok { fields with numbers := (.nanos, (nanos : ℤ)) :: fields.numbers } := by
        rw [Filter.DateFields.keep, new]
      simp only [DateTime.readItem, StateT.run_bind, StateT.run_get, pure_bind, List.head?_cons, if_true, run, kept, h]
      exact ⟨_, rfl, .inr ⟨nanos, rfl⟩⟩
    · exact absurd h (by simp)
  · subst h
    exact ⟨fields, rfl, .inl rfl⟩

/-- The numbers that the parts of a format before the fraction give. -/
def zonelessFields (year month day hour minute second : ℤ) : Filter.DateFields where
  numbers := [(.second, second), (.minute, minute), (.hour, hour), (.day, day), (.month, month), (.year, year)]

/-- The time of a date and a time of day, with or without a fraction. -/
theorem dateTime_isOk {year month day hour minute second : ℕ} {taken : Filter.DateFields} (fourDigits : year < 10 ^ 4)
    (h : taken = zonelessFields year month day hour minute second ∨ ∃ nanos, taken =
      { zonelessFields year month day hour minute second with
        numbers := (.nanos, nanos) :: (zonelessFields year month day hour minute second).numbers }) :
    taken.dateTime.isOk = true ↔ isDate year month day = true := by
  have inYears : DateTime.years.1 ≤ (year : ℤ) ∧ (year : ℤ) ≤ DateTime.years.2 := by
    simp only [DateTime.years]
    omega
  have date : taken.date = if isDate year month day then .ok ((year : ℤ), month, day) else .error .outOfRange := by
    have gathered : taken.date = if DateTime.years.1 ≤ (year : ℤ) ∧ (year : ℤ) ≤ DateTime.years.2 ∧
        isDate year month day then .ok ((year : ℤ), month, day) else .error .outOfRange := by
      rcases h with rfl | ⟨nanos, rfl⟩ <;> rfl
    rw [gathered]
    simp only [inYears, true_and]
  by_cases real : isDate year month day = true
  · rw [if_pos real] at date
    refine iff_of_true ?_ real
    rw [Filter.DateFields.dateTime]
    simp only [date]
    rcases h with rfl | ⟨nanos, rfl⟩
    · rfl
    · rfl
  · rw [if_neg real] at date
    refine iff_of_false ?_ real
    rw [Filter.DateFields.dateTime]
    simp only [date]
    rcases h with rfl | ⟨nanos, rfl⟩ <;> exact Bool.false_ne_true

/-- A text without a zone is taken exactly if it names a real instant. -/
theorem readBy_zoneless {text : String} {t : Stamp} (h : readStamp? text.toList = some t) (zone : t.zone = .none) :
    (DateTime.readBy zonelessFormat text).isOk = true ↔ t.IsReal := by
  obtain @⟨_, _, _, _, _, last, year, month, day, hour, minute, second, zone', hy, hm, hd, hh, hi, hs, hz⟩ :=
    readStamp_eq_some_iff.1 h
  dsimp only at zone
  subst zone
  have ended : skipFraction last = [] := by
    generalize skipFraction last = left at hz
    cases hz
    rfl
  have fourDigits := readDigits_lt hy
  have new : (zonelessFields year month day hour minute second).get? .nanos = none := rfl
  obtain ⟨taken, fractionTaken, shape⟩ := readItem_fraction ended new
  have date := dateTime_isOk fourDigits shape
  rw [DateTime.readBy, zonelessFormat_items]
  simp only [List.foldlM_cons, List.foldlM_nil, bind_pure]
  rw [readItem_field .year hy (by decide) (by decide) rfl, readItem_literal,
    readItem_field .month hm (by decide) (by decide) rfl, readItem_literal,
    readItem_field .day hd (by decide) (by decide) rfl, readItem_literal,
    readItem_field .hour hh (by decide) (by decide) rfl, readItem_literal,
    readItem_field .minute hi (by decide) (by decide) rfl, readItem_literal,
    readItem_field .second hs (by decide) (by decide) rfl]
  dsimp only
  rw [zonelessFields] at fractionTaken
  rw [fractionTaken]
  simp only [isOk_guard_bind, pure_bind]
  rw [show (!List.isEmpty []) = false from rfl, if_neg Bool.false_ne_true, date, Stamp.isReal_iff, ← isDate_iff]
  have known : (Zone.none).IsReal := trivial
  simp only [known, and_true, DateTime.bounds]
  constructor
  · rintro ⟨-, -, -, hour, minute, second, calendar⟩
    exact ⟨calendar, by omega, by omega, by omega⟩
  · rintro ⟨calendar, hour, minute, second⟩
    have := (isDate_iff.1 calendar).month_bounds
    have := (isDate_iff.1 calendar).day_bounds
    exact ⟨by omega, by omega, by omega, by omega, by omega, by omega, calendar⟩

/-! ## Verdicts by readers -/

theorem read_isOk (text : String) : (DateTime.read text).isOk = (DateTime.stamp.run text.toList).isOk := by
  rw [DateTime.read]
  cases DateTime.stamp.run text.toList <;> rfl

/-- Whether the reader for the verdict on a text takes it: instants with an offset are read as they are, those in UTC
with a capital letter, and those without a zone by their format. -/
def isTaken (text : String) : Temporal → Bool
  | .offset => (DateTime.read text).isOk
  | .utc => (DateTime.read (String.ofList (text.toList.dropLast ++ ['Z']))).isOk
  | .zoneless => (DateTime.readBy zonelessFormat text).isOk
  | .plain => false

theorem isReal_iff_realStem {t : Stamp} (h : readStamp? s = some t) (other : ofZone t.zone ≠ .offset) :
    t.IsReal ↔ RealStem s := by
  rw [(readStamp_fields h).isReal_iff]
  exact and_iff_left fun zone => absurd zone other

/-- A text in UTC is read as the same time with either letter. -/
theorem isTaken_utc {text : String} (h : text.toList ∈ (pattern .utc).matches') :
    isTaken text .utc = true ↔ RealStem text.toList := by
  obtain ⟨a, stemmed, z, letter, whole⟩ := h
  have capital : a ++ ['Z'] ∈ (pattern .utc).matches' := Language.append_mem_mul stemmed capital_mem_suffix
  have single : (a ++ z).dropLast = a := by
    rcases letter with rfl | rfl <;> exact List.dropLast_concat
  obtain ⟨t, read, zone⟩ := mem_pattern_iff.1 capital
  have zoned : t.zone ≠ .none := by
    intro none
    rw [none] at zone
    exact absurd zone (by decide)
  have long := length_of_mem_stem stemmed
  have whole : text.toList = a ++ z := whole.symm
  rw [whole, realStem_append long, ← realStem_append long ['Z'], ← isReal_iff_realStem read (by rw [zone]; decide),
    ← stamp_run read zoned, isTaken, read_isOk, whole, single, String.toList_ofList]

/-- Each of the readers takes a text exactly if it names a real instant. -/
theorem isTaken_iff {text : String} {t : Stamp} (h : readStamp? text.toList = some t) :
    isTaken text (ofZone t.zone) = true ↔ t.IsReal := by
  cases zone : t.zone with
  | offset hours minutes =>
    have zoned : t.zone ≠ .none := by simp [zone]
    rw [← stamp_run h zoned, ← read_isOk]
    rfl
  | utc =>
    have kind : ofZone t.zone = .utc := by rw [zone]; rfl
    rw [isReal_iff_realStem h (by rw [kind]; decide)]
    exact isTaken_utc (mem_pattern_iff.2 ⟨t, h, kind⟩)
  | none => exact readBy_zoneless h zone

/-- A verdict is kept exactly if its reader takes the text. -/
theorem classifyUnder_strict_eq (text : String) :
    classifyUnder .strict text = if isTaken text (classify text) then classify text else .plain := by
  rw [classifyUnder, classifyCharsUnder, classify, classifyChars]
  cases read : readStamp? text.toList with
  | none => rfl
  | some t =>
    dsimp only
    simp only [isTaken_iff read]

/-- **The strict verdict on a text** is the verdict on its form or plain, and it is kept exactly if the date, the time
of day and the offset in the text are real. The three readers of instants agree on that, so for one stem it does not
matter whether it has no zone, a letter of UTC or an offset of zero. -/
theorem classifyUnder_strict (text : String) :
    (classifyUnder .strict text = classify text ∨ classifyUnder .strict text = .plain) ∧
    (classifyUnder .strict text ≠ .plain ↔
      classify text ≠ .plain ∧ RealStem text.toList ∧ (classify text = .offset → RealOffset text.toList)) ∧
    (classifyUnder .strict text = if isTaken text (classify text) then classify text else .plain) ∧
    (text.toList ∈ stem.matches' →
      (classifyUnder .strict text = .zoneless ↔ classifyUnder .strict (text ++ "Z") = .utc) ∧
      (classifyUnder .strict text = .zoneless ↔ classifyUnder .strict (text ++ "z") = .utc) ∧
      (classifyUnder .strict text = .zoneless ↔ classifyUnder .strict (text ++ "+00:00") = .offset)) := by
  refine ⟨classifyCharsUnder_strict_cases _, classifyCharsUnder_strict_ne_plain_iff, classifyUnder_strict_eq text,
    fun stemmed => ?_⟩
  simp only [classifyUnder, String.toList_append]
  rw [strict_stem_iff stemmed]
  refine ⟨?_, ?_, ?_⟩
  · exact (strict_append_iff stemmed capital_mem_suffix (by simp)).symm
  · exact (strict_append_iff stemmed small_mem_suffix (by simp)).symm
  · exact (strict_append_iff stemmed zero_mem_suffix fun _ => realOffset_zero _).symm

theorem classifyUnder_strict_leap_second :
    "2024-02-29T23:59:60.5".toList ∈ stem.matches' ∧
    (classifyUnder .strict "2024-02-29T23:59:60.5" = .zoneless ↔
      classifyUnder .strict ("2024-02-29T23:59:60.5" ++ "+00:00") = .offset) := by
  have stemmed : "2024-02-29T23:59:60.5".toList ∈ stem.matches' := (stem.rmatch_iff_matches' _).1 (by decide +kernel)
  exact ⟨stemmed, ((classifyUnder_strict "2024-02-29T23:59:60.5").2.2.2 stemmed).2.2⟩

end TypeSketch.Temporal
