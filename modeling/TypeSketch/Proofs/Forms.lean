import Mathlib.Computability.RegularExpressions
import Mathlib.Order.CompletePartialOrder
import Mathlib.Tactic.IntervalCases
import TypeSketch.Proofs.Numerals
import TypeSketch.Temporal

/-!
# The forms of times

* `stem`, `suffix`, `pattern` : the regular expressions of the verdicts: a date and a time of day, what
  follows it, and both;
* `readDigits_eq_some_iff`, `mem_digits_mul`, `mem_mark_mul` : the readers take what the parts of an
  expression match;
* `SpellsZone`, `SpellsStamp` : what a text of temporal form consists of;
* `mem_pattern_iff` : a text is read as a stamp with a zone of some kind exactly if it matches the pattern
  of that kind;
* `classify_pattern` : the verdict on a text is that of the pattern that matches it, and no text matches
  two of them.
-/

namespace TypeSketch.Temporal

open Json (AllDigits StartsOther allDigits_nil allDigits_cons_iff dropWhile_digits takeWhile_digits)
open RegularExpression
open scoped Computability

/-! ## Patterns -/

/-- One digit. -/
def digit : RegularExpression Char :=
  (['0', '1', '2', '3', '4', '5', '6', '7', '8', '9'].map char).foldr (· + ·) 0

/-- A fraction of a second, if there is one. -/
def fraction : RegularExpression Char := 1 + char '.' * digit * digit.star

/-- A date and a time of day. -/
def stem : RegularExpression Char :=
  digit ^ 4 * char '-' * digit ^ 2 * char '-' * digit ^ 2 * char 'T' *
    digit ^ 2 * char ':' * digit ^ 2 * char ':' * digit ^ 2 * fraction

/-- What follows the stem in a text of some kind. -/
def suffix : Temporal → RegularExpression Char
  | .offset => (char '+' + char '-') * digit ^ 2 * char ':' * digit ^ 2
  | .utc => char 'Z' + char 'z'
  | .zoneless => 1
  | .plain => 0

/-- The texts of some kind, as a whole. -/
def pattern (kind : Temporal) : RegularExpression Char := stem * suffix kind

/-! ## Digits and marks -/

variable {s rest : List Char} {c : Char} {L : Language Char} {kind : Temporal}

theorem isDigit_iff : c.isDigit = true ↔ c ∈ ['0', '1', '2', '3', '4', '5', '6', '7', '8', '9'] := by
  constructor
  · intro h
    have value : c = Char.ofNat c.toNat := (Char.ofNat_toNat c).symm
    have low : 48 ≤ c.toNat := by
      simp only [Char.isDigit, Bool.and_eq_true, decide_eq_true_eq] at h
      exact h.1
    have high : c.toNat ≤ 57 := by
      simp only [Char.isDigit, Bool.and_eq_true, decide_eq_true_eq] at h
      exact h.2
    rw [value]
    generalize c.toNat = n at *
    interval_cases n <;> decide
  · intro h
    simp only [List.mem_cons, List.not_mem_nil, or_false] at h
    rcases h with rfl | rfl | rfl | rfl | rfl | rfl | rfl | rfl | rfl | rfl <;> rfl

theorem mem_digit : s ∈ digit.matches' ↔ ∃ c, c.isDigit = true ∧ s = [c] := by
  have each (cs : List Char) : s ∈ ((cs.map char).foldr (· + ·) 0).matches' ↔ ∃ c ∈ cs, s = [c] := by
    induction cs with
    | nil => simp [matches'_zero]
    | cons c cs ih =>
      rw [List.map_cons, List.foldr_cons, matches'_add, Language.mem_add, ih, matches'_char, List.exists_mem_cons_iff]
      rfl
  rw [digit, each]
  simp only [isDigit_iff]

theorem mem_digits {n : ℕ} : s ∈ (digit ^ n).matches' ↔ s.length = n ∧ AllDigits s := by
  rw [matches'_pow]
  induction n generalizing s with
  | zero =>
    rw [pow_zero, Language.mem_one, List.length_eq_zero_iff]
    exact ⟨fun h => ⟨h, h ▸ allDigits_nil⟩, And.left⟩
  | succ n ih =>
    rw [pow_succ', Language.mem_mul]
    constructor
    · rintro ⟨a, ha, b, hb, rfl⟩
      obtain ⟨c, hc, rfl⟩ := mem_digit.1 ha
      obtain ⟨length, all⟩ := ih.1 hb
      exact ⟨by simp [length], allDigits_cons_iff.2 ⟨hc, all⟩⟩
    · rintro ⟨length, all⟩
      obtain ⟨c, t, rfl⟩ := List.exists_cons_of_length_eq_add_one length
      obtain ⟨hc, all⟩ := allDigits_cons_iff.1 all
      exact ⟨[c], mem_digit.2 ⟨c, hc, rfl⟩, t, ih.2 ⟨by simpa using length, all⟩, rfl⟩

theorem digit_eq_some_iff {v : ℕ} : digit? c = some v ↔ c.isDigit = true ∧ v = c.toNat - '0'.toNat := by
  unfold digit?
  split
  · next h => simp [h, eq_comm]
  · next h => simp [h]

/-- Some digits are taken off the front of a text, and their value goes on from the digits before them. -/
theorem readDigits_eq_some_iff {n high v : ℕ} :
    readDigits? n s high = some (v, rest) ↔
      n ≤ s.length ∧ AllDigits (s.take n) ∧ v = Nat.ofDigitChars 10 (s.take n) high ∧ rest = s.drop n := by
  induction n generalizing s high with
  | zero =>
    simp [readDigits?, allDigits_nil, eq_comm]
  | succ n ih =>
    cases s with
    | nil => simp [readDigits?]
    | cons c t =>
      rw [readDigits?, Option.bind_eq_bind, Option.bind_eq_some_iff]
      simp only [digit_eq_some_iff, ih, List.length_cons, Nat.add_le_add_iff_right, List.take_succ_cons,
        List.drop_succ_cons, allDigits_cons_iff, Nat.ofDigitChars_cons, Nat.mul_comm high 10]
      constructor
      · rintro ⟨d, ⟨digit, rfl⟩, long, all, value, rest⟩
        exact ⟨long, ⟨digit, all⟩, value, rest⟩
      · rintro ⟨long, ⟨digit, all⟩, value, rest⟩
        exact ⟨_, ⟨digit, rfl⟩, long, all, value, rest⟩

theorem readMark_eq_some_iff {mark : Char} : readMark? mark s = some rest ↔ s = mark :: rest := by
  cases s with
  | nil => simp [readMark?]
  | cons c t =>
    rw [readMark?]
    split
    · next h => simp [h]
    · next h => simp [h]

/-- Digits before a language are taken by the reader of digits. -/
theorem mem_digits_mul {n : ℕ} (high : ℕ) :
    s ∈ (digit ^ n).matches' * L ↔ ∃ v rest, readDigits? n s high = some (v, rest) ∧ rest ∈ L := by
  simp only [Language.mem_mul, mem_digits, readDigits_eq_some_iff]
  constructor
  · rintro ⟨digits, ⟨rfl, all⟩, rest, mem, rfl⟩
    exact ⟨_, rest, ⟨by simp, by simpa using all, rfl, by simp⟩, mem⟩
  · rintro ⟨v, rest, ⟨long, all, -, rfl⟩, mem⟩
    exact ⟨s.take n, ⟨by simpa using long, all⟩, s.drop n, mem, List.take_append_drop n s⟩

/-- Digits at the end of a text are taken by the reader of digits. -/
theorem mem_digits_end {n : ℕ} (high : ℕ) :
    s ∈ (digit ^ n).matches' ↔ ∃ v, readDigits? n s high = some (v, []) := by
  rw [← mul_one (digit ^ n).matches', mem_digits_mul high]
  simp

theorem mem_mark_mul {mark : Char} : s ∈ (char mark).matches' * L ↔ ∃ rest, s = mark :: rest ∧ rest ∈ L := by
  simp only [Language.mem_mul, matches'_char]
  constructor
  · rintro ⟨a, rfl, rest, mem, rfl⟩
    exact ⟨rest, rfl, mem⟩
  · rintro ⟨rest, rfl, mem⟩
    exact ⟨[mark], rfl, rest, mem, rfl⟩

/-! ## After the time of day -/

theorem mem_digit_star : s ∈ digit.star.matches' ↔ AllDigits s := by
  rw [matches'_star, Language.mem_kstar]
  constructor
  · rintro ⟨parts, rfl, digits⟩ c hc
    obtain ⟨part, hp, hc⟩ := List.mem_flatten.1 hc
    obtain ⟨d, hd, rfl⟩ := mem_digit.1 (digits part hp)
    rwa [List.mem_singleton.1 hc]
  · intro all
    have joined : s = (s.map fun c => [c]).flatten := by
      induction s with
      | nil => rfl
      | cons c t ih =>
        rw [List.map_cons, List.flatten_cons, ← ih (allDigits_cons_iff.1 all).2]
        rfl
    refine ⟨s.map fun c => [c], joined, ?_⟩
    intro part hp
    obtain ⟨c, hc, rfl⟩ := List.mem_map.1 hp
    exact mem_digit.2 ⟨c, all c hc, rfl⟩

/-- What follows a stem, and the zone that it is read as. -/
inductive SpellsZone : List Char → Zone → Prop
  | none : SpellsZone [] .none
  | utc {letter : Char} (h : letter = 'Z' ∨ letter = 'z') : SpellsZone [letter] .utc
  | offset {sign : Char} {t u : List Char} {hours minutes : ℕ} (h : sign = '+' ∨ sign = '-')
      (hh : readDigits? 2 t 0 = some (hours, ':' :: u)) (hm : readDigits? 2 u 0 = some (minutes, [])) :
      SpellsZone (sign :: t) (.offset hours minutes)

theorem readZone_of_spellsZone {zone : Zone} (h : SpellsZone s zone) : readZone? s = some zone := by
  cases h with
  | none => rfl
  | utc h => rw [readZone?, if_pos h]
  | @offset sign t u hours minutes h hh hm =>
    obtain ⟨c, t, rfl⟩ : ∃ c t', t = c :: t' := by
      cases t with
      | nil => simp [readDigits?] at hh
      | cons c t => exact ⟨c, t, rfl⟩
    rw [readZone?, if_pos h, hh]
    · simp [readMark?, hm]
    · simp

theorem spellsZone_of_readZone {zone : Zone} (h : readZone? s = some zone) : SpellsZone s zone := by
  unfold readZone? at h
  split at h
  · obtain rfl := Option.some.inj h
    exact .none
  · split at h
    · next letter =>
      obtain rfl := Option.some.inj h
      exact .utc letter
    · exact absurd h (by simp)
  · split at h
    · next sign =>
      simp only [Option.bind_eq_bind, Option.bind_eq_some_iff, readMark_eq_some_iff, Prod.exists] at h
      obtain ⟨hours, _, hh, u, rfl, minutes, v, hm, h⟩ := h
      split at h
      · next last =>
        obtain rfl := List.isEmpty_iff.1 last
        obtain rfl := Option.some.inj h
        exact .offset sign hh hm
      · exact absurd h (by simp)
    · exact absurd h (by simp)

theorem readZone_eq_some_iff {zone : Zone} : readZone? s = some zone ↔ SpellsZone s zone :=
  ⟨spellsZone_of_readZone, readZone_of_spellsZone⟩

theorem mem_suffix_offset :
    s ∈ (suffix .offset).matches' ↔ ∃ hours minutes, SpellsZone s (.offset hours minutes) := by
  simp only [suffix, matches'_mul, mul_assoc]
  rw [matches'_add, add_mul, Language.mem_add, mem_mark_mul, mem_mark_mul]
  simp only [mem_digits_mul 0, mem_mark_mul, mem_digits_end 0]
  constructor
  · rintro (⟨t, rfl, hours, _, hh, u, rfl, minutes, hm⟩ | ⟨t, rfl, hours, _, hh, u, rfl, minutes, hm⟩)
    · exact ⟨hours, minutes, .offset (.inl rfl) hh hm⟩
    · exact ⟨hours, minutes, .offset (.inr rfl) hh hm⟩
  · rintro ⟨hours, minutes, h⟩
    cases h with
    | offset sign hh hm =>
      rcases sign with rfl | rfl
      · exact .inl ⟨_, rfl, hours, _, hh, _, rfl, minutes, hm⟩
      · exact .inr ⟨_, rfl, hours, _, hh, _, rfl, minutes, hm⟩

/-- A text spells a zone of some kind exactly if it matches what follows the stem in that kind. -/
theorem mem_suffix_iff : s ∈ (suffix kind).matches' ↔ ∃ zone, SpellsZone s zone ∧ ofZone zone = kind := by
  constructor
  · intro h
    cases kind with
    | offset =>
      obtain ⟨hours, minutes, h⟩ := mem_suffix_offset.1 h
      exact ⟨_, h, rfl⟩
    | utc =>
      rcases (h : s = ['Z'] ∨ s = ['z']) with rfl | rfl
      · exact ⟨.utc, .utc (.inl rfl), rfl⟩
      · exact ⟨.utc, .utc (.inr rfl), rfl⟩
    | zoneless =>
      obtain rfl : s = [] := h
      exact ⟨.none, .none, rfl⟩
    | plain => exact absurd h (Language.notMem_zero s)
  · rintro ⟨zone, h, rfl⟩
    cases h with
    | none => exact (rfl : ([] : List Char) = [])
    | utc h =>
      rcases h with rfl | rfl
      · exact .inl rfl
      · exact .inr rfl
    | offset h hh hm => exact mem_suffix_offset.2 ⟨_, _, .offset h hh hm⟩

/-- A zone starts neither with a digit nor with a point. -/
theorem SpellsZone.head {zone : Zone} (h : SpellsZone (c :: rest) zone) : c.isDigit = false ∧ c ≠ '.' := by
  cases h with
  | utc letter => rcases letter with rfl | rfl <;> decide
  | offset sign => rcases sign with rfl | rfl <;> decide

theorem mem_fraction : s ∈ fraction.matches' ↔ s = [] ∨ ∃ c t, s = '.' :: c :: t ∧ c.isDigit = true ∧ AllDigits t := by
  rw [fraction, matches'_add, Language.mem_add, matches'_epsilon, Language.mem_one, matches'_mul, matches'_mul,
    mul_assoc, mem_mark_mul]
  simp only [Language.mem_mul, mem_digit, mem_digit_star]
  refine or_congr_right ?_
  constructor
  · rintro ⟨_, rfl, _, ⟨c, digit, rfl⟩, t, all, rfl⟩
    exact ⟨c, t, rfl, digit, all⟩
  · rintro ⟨c, t, rfl, digit, all⟩
    exact ⟨_, rfl, _, ⟨c, digit, rfl⟩, t, all, rfl⟩

/-- A fraction before a zone is skipped. -/
theorem mem_fraction_mul :
    s ∈ fraction.matches' * (suffix kind).matches' ↔ skipFraction s ∈ (suffix kind).matches' := by
  rw [Language.mem_mul]
  constructor
  · rintro ⟨a, ha, b, hb, rfl⟩
    obtain ⟨zone, spelled, -⟩ := mem_suffix_iff.1 hb
    rcases mem_fraction.1 ha with rfl | ⟨c, t, rfl, digit, all⟩
    · have same : skipFraction b = b := by
        unfold skipFraction
        split
        · exact absurd rfl spelled.head.2
        · rfl
      rwa [List.nil_append, same]
    · have ends : StartsOther b := by
        rintro d u rfl
        exact spelled.head.1
      rw [List.cons_append, List.cons_append, skipFraction, if_pos digit, dropWhile_digits all ends]
      exact hb
  · intro h
    unfold skipFraction at h
    split at h
    · next c t =>
      split at h
      · next digit =>
        refine ⟨'.' :: c :: t.takeWhile Char.isDigit, mem_fraction.2 (.inr ⟨c, _, rfl, digit, ?_⟩), _, h, ?_⟩
        · exact List.all_eq_true.1 List.all_takeWhile
        · simp
      · exact ⟨[], mem_fraction.2 (.inl rfl), _, h, rfl⟩
    · exact ⟨[], mem_fraction.2 (.inl rfl), _, h, rfl⟩

/-- A date and a time of day, perhaps with a fraction, and a zone. -/
inductive SpellsStamp : List Char → Stamp → Prop
  | mk {s a b c d e rest : List Char} {year month day hour minute second : ℕ} {zone : Zone}
      (hy : readDigits? 4 s 0 = some (year, '-' :: a)) (hm : readDigits? 2 a 0 = some (month, '-' :: b))
      (hd : readDigits? 2 b 0 = some (day, 'T' :: c)) (hh : readDigits? 2 c 0 = some (hour, ':' :: d))
      (hi : readDigits? 2 d 0 = some (minute, ':' :: e)) (hs : readDigits? 2 e 0 = some (second, rest))
      (hz : SpellsZone (skipFraction rest) zone) : SpellsStamp s ⟨year, month, day, hour, minute, second, zone⟩

theorem readStamp_eq_some_iff {t : Stamp} : readStamp? s = some t ↔ SpellsStamp s t := by
  simp only [readStamp?, Option.bind_eq_bind, Option.bind_eq_some_iff, Prod.exists, Option.pure_def, Option.some.injEq,
    readMark_eq_some_iff, readZone_eq_some_iff]
  constructor
  · rintro ⟨year, _, hy, _, rfl, month, _, hm, _, rfl, day, _, hd, _, rfl, hour, _, hh, _, rfl, minute, _, hi, _, rfl,
      second, _, hs, zone, hz, rfl⟩
    exact .mk hy hm hd hh hi hs hz
  · rintro ⟨hy, hm, hd, hh, hi, hs, hz⟩
    exact ⟨_, _, hy, _, rfl, _, _, hm, _, rfl, _, _, hd, _, rfl, _, _, hh, _, rfl, _, _, hi, _, rfl, _, _, hs, _, hz,
      rfl⟩

/-- A text is read as a stamp with a zone of some kind exactly if it matches the pattern of that kind. -/
theorem mem_pattern_iff : s ∈ (pattern kind).matches' ↔ ∃ t, readStamp? s = some t ∧ ofZone t.zone = kind := by
  simp only [readStamp_eq_some_iff, pattern, stem, matches'_mul, mul_assoc, mem_digits_mul 0, mem_mark_mul,
    mem_fraction_mul, mem_suffix_iff]
  constructor
  · rintro ⟨year, _, hy, _, rfl, month, _, hm, _, rfl, day, _, hd, _, rfl, hour, _, hh, _, rfl, minute, _, hi, _, rfl,
      second, _, hs, zone, hz, kind⟩
    exact ⟨_, .mk hy hm hd hh hi hs hz, kind⟩
  · rintro ⟨_, ⟨hy, hm, hd, hh, hi, hs, hz⟩, kind⟩
    exact ⟨_, _, hy, _, rfl, _, _, hm, _, rfl, _, _, hd, _, rfl, _, _, hh, _, rfl, _, _, hi, _, rfl, _, _, hs, _, hz,
      kind⟩

theorem mem_pattern_zoneless : s ∈ (pattern .zoneless).matches' ↔ s ∈ stem.matches' := by
  rw [pattern, matches'_mul, suffix, matches'_epsilon, mul_one]

/-! ## Verdicts -/

theorem classifyChars_eq_iff (h : kind ≠ .plain) : classifyChars s = kind ↔ s ∈ (pattern kind).matches' := by
  rw [mem_pattern_iff, classifyChars]
  cases readStamp? s with
  | none => simpa using h.symm
  | some t => simp

theorem ofZone_ne_plain (zone : Zone) : ofZone zone ≠ .plain := by
  cases zone <;> simp [ofZone]

theorem notMem_pattern_plain : s ∉ (pattern .plain).matches' := by
  rw [mem_pattern_iff]
  rintro ⟨t, -, zone⟩
  exact ofZone_ne_plain t.zone zone

theorem classifyChars_eq_plain_iff : classifyChars s = .plain ↔ ∀ kind, s ∉ (pattern kind).matches' := by
  constructor
  · intro plain kind mem
    by_cases h : kind = .plain
    · exact notMem_pattern_plain (h ▸ mem)
    · rw [← classifyChars_eq_iff h, plain] at mem
      exact h mem.symm
  · intro none
    by_contra other
    exact none _ ((classifyChars_eq_iff other).1 rfl)

/-- A text is read in one way, so it matches no two patterns. -/
theorem pattern_unique {kind' : Temporal} (h : s ∈ (pattern kind).matches') (h' : s ∈ (pattern kind').matches') :
    kind = kind' := by
  obtain ⟨t, read, rfl⟩ := mem_pattern_iff.1 h
  obtain ⟨t', read', rfl⟩ := mem_pattern_iff.1 h'
  rw [read] at read'
  rw [Option.some.inj read']

/-- The patterns may be tried in any order. -/
theorem find_pattern {order : List Temporal} (all : ∀ kind, kind ≠ .plain → kind ∈ order) :
    (order.find? fun kind => (pattern kind).rmatch s).getD .plain = classifyChars s := by
  cases found : order.find? fun kind => (pattern kind).rmatch s with
  | none =>
    symm
    rw [Option.getD_none, classifyChars_eq_plain_iff]
    intro kind mem
    by_cases h : kind = .plain
    · exact notMem_pattern_plain (h ▸ mem)
    · rw [List.find?_eq_none] at found
      exact found kind (all kind h) ((rmatch_iff_matches' _ _).2 mem)
  | some kind =>
    have matched : (pattern kind).rmatch s = true := List.find?_some (p := fun kind => (pattern kind).rmatch s) found
    have mem : s ∈ (pattern kind).matches' := (rmatch_iff_matches' _ _).1 matched
    have h : kind ≠ .plain := by
      rintro rfl
      exact notMem_pattern_plain mem
    exact ((classifyChars_eq_iff h).2 mem).symm

/-- **The verdict on a text** is that of the pattern that matches the whole text, and plain if none does.
No text matches two patterns, so they may be tried in any order. -/
theorem classify_pattern :
    (∀ text : String,
      (classify text = .offset ↔ text.toList ∈ (stem * suffix .offset).matches') ∧
      (classify text = .utc ↔ text.toList ∈ (stem * suffix .utc).matches') ∧
      (classify text = .zoneless ↔ text.toList ∈ stem.matches') ∧
      (classify text = .plain ↔ ∀ kind, text.toList ∉ (pattern kind).matches')) ∧
    (∀ kind kind' : Temporal, kind ≠ kind' → Disjoint (pattern kind).matches' (pattern kind').matches') ∧
    ∀ (text : String) (order : List Temporal), order.Perm [.offset, .utc, .zoneless] →
      (order.find? fun kind => (pattern kind).rmatch text.toList).getD .plain = classify text := by
  refine ⟨fun text => ⟨classifyChars_eq_iff (by decide), classifyChars_eq_iff (by decide), ?_,
    classifyChars_eq_plain_iff⟩, ?_, ?_⟩
  · rw [← mem_pattern_zoneless]
    exact classifyChars_eq_iff (by decide)
  · intro kind kind' other
    refine Set.disjoint_left.2 fun s h h' => other ?_
    exact pattern_unique h h'
  · intro text order perm
    refine find_pattern fun kind h => perm.mem_iff.2 ?_
    cases kind <;> simp_all

theorem classify_pattern_reversed :
    List.Perm [.zoneless, .utc, .offset] [Temporal.offset, .utc, .zoneless] ∧
    ([Temporal.zoneless, .utc, .offset].find? fun kind =>
      (pattern kind).rmatch "2024-01-15T10:30:00.5z".toList).getD .plain = .utc := by
  have perm : List.Perm [.zoneless, .utc, .offset] [Temporal.offset, .utc, .zoneless] := by decide
  refine ⟨perm, (classify_pattern.2.2 _ _ perm).trans ?_⟩
  decide +kernel

end TypeSketch.Temporal
