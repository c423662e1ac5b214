import TypeSketch.Proofs.Forms

/-!
# Fields of times

* `numberAt` : the number that some digits of a text stand for, by their place in it;
* `readStamp_fields` : the fields of a stamp are those of its text;
* `OnCalendar`, `RealStem`, `RealOffset` : the fields of a text that name a real instant;
* `classifyCharsUnder_strict_iff` : a strict verdict is one whose text names a real instant;
* `strict_append_iff` : what follows a stem does not count for its date and time of day.
-/

namespace TypeSketch.Temporal

open Json (AllDigits)

variable {s rest : List Char}

/-! ## Fields by place -/

/-- The number that so many digits of a text stand for, from a place on. -/
def numberAt (s : List Char) (place count : ℕ) : ℕ := Nat.ofDigitChars 10 ((s.drop place).take count) 0

theorem numberAt_append {place count : ℕ} (h : place + count ≤ s.length) (more : List Char) :
    numberAt (s ++ more) place count = numberAt s place count := by
  rw [numberAt, numberAt, List.drop_append_of_le_length (by omega), List.take_append_of_le_length]
  rw [List.length_drop]
  omega

theorem numberAt_drop (s : List Char) (start place count : ℕ) :
    numberAt (s.drop start) place count = numberAt s (start + place) count := by
  rw [numberAt, numberAt, List.drop_drop]

theorem numberAt_append_right (s more : List Char) (place count : ℕ) :
    numberAt (s ++ more) (s.length + place) count = numberAt more place count := by
  rw [← numberAt_drop, List.drop_left]

theorem readDigits_at {place count v : ℕ} (h : readDigits? count (s.drop place) 0 = some (v, rest)) :
    count ≤ s.length - place ∧ v = numberAt s place count ∧ rest = s.drop (place + count) := by
  obtain ⟨long, -, value, left⟩ := readDigits_eq_some_iff.1 h
  rw [List.length_drop] at long
  rw [List.drop_drop] at left
  exact ⟨long, value, left⟩

/-- The fields of a stamp, its zone and the text that the zone is read from. -/
structure FieldsOf (s : List Char) (t : Stamp) : Prop where
  long : 19 ≤ s.length
  year : t.year = numberAt s 0 4
  month : t.month = numberAt s 5 2
  day : t.day = numberAt s 8 2
  hour : t.hour = numberAt s 11 2
  minute : t.minute = numberAt s 14 2
  second : t.second = numberAt s 17 2
  zone : SpellsZone (skipFraction (s.drop 19)) t.zone

theorem readStamp_fields {t : Stamp} (h : readStamp? s = some t) : FieldsOf s t := by
  have next {mark : Char} {rest : List Char} {place : ℕ} (h : mark :: rest = s.drop place) :
      rest = s.drop (place + 1) := by
    rw [← List.drop_drop, ← h]
    rfl
  obtain ⟨hy, hm, hd, hh, hi, hs, hz⟩ := readStamp_eq_some_iff.1 h
  rw [← List.drop_zero (l := s)] at hy
  obtain ⟨-, rfl, left⟩ := readDigits_at hy
  obtain rfl := next left
  obtain ⟨-, rfl, left⟩ := readDigits_at hm
  obtain rfl := next left
  obtain ⟨-, rfl, left⟩ := readDigits_at hd
  obtain rfl := next left
  obtain ⟨-, rfl, left⟩ := readDigits_at hh
  obtain rfl := next left
  obtain ⟨-, rfl, left⟩ := readDigits_at hi
  obtain rfl := next left
  obtain ⟨long, rfl, rfl⟩ := readDigits_at hs
  exact ⟨by omega, rfl, rfl, rfl, rfl, rfl, rfl, hz⟩

theorem length_of_readDigits {count v : ℕ} (h : readDigits? count s 0 = some (v, rest)) :
    s.length = count + rest.length ∧ v = numberAt s 0 count := by
  obtain ⟨long, -, value, rfl⟩ := readDigits_eq_some_iff.1 h
  rw [List.length_drop]
  exact ⟨by omega, value⟩

/-- An offset stands in the last five places of its text. -/
theorem SpellsZone.offset_fields {hours minutes : ℕ} (h : SpellsZone s (.offset hours minutes)) :
    s.length = 6 ∧ hours = numberAt s 1 2 ∧ minutes = numberAt s 4 2 := by
  cases h with
  | @offset sign t u _ _ _ hh hm =>
    obtain ⟨length, rfl⟩ := length_of_readDigits hh
    obtain ⟨length', rfl⟩ := length_of_readDigits hm
    have left := (readDigits_eq_some_iff.1 hh).2.2.2
    have minutes : u = t.drop (2 + 1) := by rw [← List.drop_drop, ← left]; rfl
    simp only [List.length_cons, List.length_nil] at length length' ⊢
    refine ⟨by omega, (numberAt_drop (sign :: t) 1 0 2).symm, ?_⟩
    rw [minutes]
    exact numberAt_drop (sign :: t) 4 0 2

theorem skipFraction_suffix (s : List Char) : skipFraction s <:+ s := by
  unfold skipFraction
  split
  · split
    · exact (List.dropWhile_suffix _).trans ((List.suffix_cons _ _).trans (List.suffix_cons _ _))
    · exact List.suffix_rfl
  · exact List.suffix_rfl

theorem FieldsOf.offset {t : Stamp} {hours minutes : ℕ} (h : FieldsOf s t) (zone : t.zone = .offset hours minutes) :
    hours = numberAt s (s.length - 5) 2 ∧ minutes = numberAt s (s.length - 2) 2 := by
  have spelled := h.zone
  rw [zone] at spelled
  obtain ⟨before, e⟩ := (skipFraction_suffix _).trans (List.drop_suffix 19 s)
  obtain ⟨length, hh, hm⟩ := spelled.offset_fields
  have total : s.length = before.length + 6 := by rw [← e, List.length_append, length]
  have last : skipFraction (s.drop 19) = s.drop before.length := by
    conv_rhs => rw [← e]
    simp
  rw [hh, hm, last, numberAt_drop, numberAt_drop, total]
  exact ⟨rfl, rfl⟩

/-! ## Real instants -/

/-- A day of the proleptic Gregorian calendar. -/
structure OnCalendar (year month day : ℕ) : Prop where
  month_bounds : 1 ≤ month ∧ month ≤ 12
  day_bounds : 1 ≤ day ∧ day ≤ 31
  thirty : month = 4 ∨ month = 6 ∨ month = 9 ∨ month = 11 → day ≤ 30
  february : month = 2 → day ≤ 28 ∨ day = 29 ∧ (4 ∣ year ∧ ¬ 100 ∣ year ∨ 400 ∣ year)

theorem onCalendar_iff {year month day : ℕ} :
    OnCalendar year month day ↔ (1 ≤ month ∧ month ≤ 12) ∧ 1 ≤ day ∧ day ≤ daysInMonth year month := by
  have leap : isLeapYear year = true ↔ 4 ∣ year ∧ ¬ 100 ∣ year ∨ 400 ∣ year := by
    simp only [isLeapYear, Bool.and_eq_true, Bool.or_eq_true, decide_eq_true_eq]
    omega
  unfold daysInMonth
  constructor
  · rintro ⟨month, day, thirty, february⟩
    refine ⟨month, day.1, ?_⟩
    split_ifs with h leapYear h'
    · have := february h
      omega
    · rw [leap] at leapYear
      have := february h
      tauto
    · exact thirty h'
    · exact day.2
  · rintro ⟨month, low, high⟩
    refine ⟨month, ⟨low, ?_⟩, fun h => ?_, fun h => ?_⟩
    · split_ifs at high <;> omega
    · split_ifs at high <;> omega
    · rw [if_pos h] at high
      split_ifs at high with leapYear
      · have := leap.1 leapYear
        by_cases last : day = 29
        · exact .inr ⟨last, this⟩
        · exact .inl (by omega)
      · exact .inl high

theorem Stamp.isReal_iff {t : Stamp} :
    t.IsReal ↔ OnCalendar t.year t.month t.day ∧ t.hour ≤ 23 ∧ t.minute ≤ 59 ∧ t.second ≤ 60 ∧ t.zone.IsReal := by
  rw [onCalendar_iff, and_assoc]
  rfl

/-- The date and the time of day in a text are real. -/
@[mk_iff]
structure RealStem (s : List Char) : Prop where
  date : OnCalendar (numberAt s 0 4) (numberAt s 5 2) (numberAt s 8 2)
  hour : numberAt s 11 2 ≤ 23
  minute : numberAt s 14 2 ≤ 59
  second : numberAt s 17 2 ≤ 60

/-- The offset at the end of a text is real. -/
structure RealOffset (s : List Char) : Prop where
  hours : numberAt s (s.length - 5) 2 ≤ 23
  minutes : numberAt s (s.length - 2) 2 ≤ 59

theorem FieldsOf.isReal_iff {t : Stamp} (h : FieldsOf s t) :
    t.IsReal ↔ RealStem s ∧ (ofZone t.zone = .offset → RealOffset s) := by
  have zone : t.zone.IsReal ↔ (ofZone t.zone = .offset → RealOffset s) := by
    cases e : t.zone with
    | offset hours minutes =>
      obtain ⟨rfl, rfl⟩ := h.offset e
      exact ⟨fun real _ => ⟨real.1, real.2⟩, fun real => ⟨(real rfl).hours, (real rfl).minutes⟩⟩
    | utc => simp [Zone.IsReal, ofZone]
    | none => simp [Zone.IsReal, ofZone]
  rw [Stamp.isReal_iff, zone, h.year, h.month, h.day, h.hour, h.minute, h.second]
  constructor
  · rintro ⟨date, hour, minute, second, zone⟩
    exact ⟨⟨date, hour, minute, second⟩, zone⟩
  · rintro ⟨⟨date, hour, minute, second⟩, zone⟩
    exact ⟨date, hour, minute, second, zone⟩

/-! ## Strict verdicts -/

/-- A verdict is kept exactly where the text names a real instant. -/
theorem classifyCharsUnder_strict_iff {kind : Temporal} (h : kind ≠ .plain) :
    classifyCharsUnder .strict s = kind ↔
      classifyChars s = kind ∧ RealStem s ∧ (kind = .offset → RealOffset s) := by
  unfold classifyCharsUnder classifyChars
  cases read : readStamp? s with
  | none => simp [h.symm]
  | some t =>
    have real := (readStamp_fields read).isReal_iff
    dsimp only
    split
    · next isReal =>
      constructor
      · rintro rfl
        exact ⟨rfl, real.1 isReal⟩
      · exact And.left
    · next isReal =>
      constructor
      · intro plain
        exact absurd plain.symm h
      · rintro ⟨rfl, kept⟩
        exact absurd (real.2 kept) isReal

theorem classifyCharsUnder_strict_cases (s : List Char) :
    classifyCharsUnder .strict s = classifyChars s ∨ classifyCharsUnder .strict s = .plain := by
  by_cases h : classifyCharsUnder .strict s = .plain
  · exact .inr h
  · exact .inl ((classifyCharsUnder_strict_iff h).1 rfl).1.symm

theorem classifyCharsUnder_strict_ne_plain_iff :
    classifyCharsUnder .strict s ≠ .plain ↔
      classifyChars s ≠ .plain ∧ RealStem s ∧ (classifyChars s = .offset → RealOffset s) := by
  constructor
  · intro h
    obtain ⟨same, real⟩ := (classifyCharsUnder_strict_iff h).1 rfl
    rw [same]
    exact ⟨h, real⟩
  · rintro ⟨h, real⟩
    rwa [(classifyCharsUnder_strict_iff h).2 ⟨rfl, real⟩]

/-! ## Zones after a stem -/

theorem length_of_mem_stem (h : s ∈ stem.matches') : 19 ≤ s.length := by
  have whole : s ∈ (pattern .zoneless).matches' := mem_pattern_zoneless.2 h
  obtain ⟨t, read, -⟩ := mem_pattern_iff.1 whole
  exact (readStamp_fields read).long

/-- What follows a stem does not count for its date and time of day. -/
theorem realStem_append (long : 19 ≤ s.length) (more : List Char) : RealStem (s ++ more) ↔ RealStem s := by
  have same {place count : ℕ} (h : place + count ≤ 19) : numberAt (s ++ more) place count = numberAt s place count :=
    numberAt_append (h.trans long) more
  rw [realStem_iff, realStem_iff, same (by decide), same (by decide), same (by decide), same (by decide),
    same (by decide), same (by decide)]

theorem strict_append_iff {kind : Temporal} {more : List Char} (h : s ∈ stem.matches')
    (zone : more ∈ (suffix kind).matches') (offset : kind = .offset → RealOffset (s ++ more)) :
    classifyCharsUnder .strict (s ++ more) = kind ↔ RealStem s := by
  have matched : s ++ more ∈ (pattern kind).matches' := Language.append_mem_mul h zone
  have other : kind ≠ .plain := by
    rintro rfl
    exact notMem_pattern_plain matched
  rw [classifyCharsUnder_strict_iff other, realStem_append (length_of_mem_stem h)]
  constructor
  · rintro ⟨-, real, -⟩
    exact real
  · intro real
    exact ⟨(classifyChars_eq_iff other).2 matched, real, offset⟩

theorem strict_stem_iff (h : s ∈ stem.matches') : classifyCharsUnder .strict s = .zoneless ↔ RealStem s := by
  have zone : [] ∈ (suffix .zoneless).matches' := rfl
  have bare := strict_append_iff h zone (by simp)
  rwa [List.append_nil] at bare

/-- The offset of UTC is real. -/
theorem realOffset_zero (s : List Char) : RealOffset (s ++ ['+', '0', '0', ':', '0', '0']) := by
  have hours : (s ++ ['+', '0', '0', ':', '0', '0']).length - 5 = s.length + 1 := by simp
  have minutes : (s ++ ['+', '0', '0', ':', '0', '0']).length - 2 = s.length + 4 := by simp
  refine ⟨?_, ?_⟩
  · rw [hours, numberAt_append_right]
    decide
  · rw [minutes, numberAt_append_right]
    decide

theorem capital_mem_suffix : ['Z'] ∈ (suffix .utc).matches' := .inl rfl

theorem small_mem_suffix : ['z'] ∈ (suffix .utc).matches' := .inr rfl

theorem zero_mem_suffix : ['+', '0', '0', ':', '0', '0'] ∈ (suffix .offset).matches' :=
  mem_suffix_offset.2 ⟨0, 0, .offset (.inl rfl) rfl rfl⟩

end TypeSketch.Temporal
