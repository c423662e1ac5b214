import TypeSketch.Proofs.Grammar

/-!
# A blank after a document

No reader takes a blank at the end of a text, and what it makes of the text before does not depend on it.

* `extended`, `Extends` : the results that leave one more character, and the readings that allow it;
* `skipBlanks_concat`, `readText_concat`, `readNumber_concat` : the small readers on a longer text;
* `extends_items`, `extends_pairs`, `extends_valueAt`, `extends_spells` : containers and values;
* `parse_concat_iff` : a text and the text with a blank after it are the same document.
-/

namespace TypeSketch.Json

open Text

variable {α : Type} {b : Char}

/-! ## Blanks -/

theorem isBlank_iff {c : Char} : isBlank c = true ↔ c = ' ' ∨ c = '\t' ∨ c = '\n' ∨ c = '\r' := by
  simp [isBlank, or_assoc]

theorem ne_of_isBlank (blank : isBlank b = true) {c : Char} (other : isBlank c = false) : b ≠ c := by
  rintro rfl
  rw [blank] at other
  cases other

/-- A blank is no digit and ends no escape. -/
theorem plain_of_isBlank (blank : isBlank b = true) :
    b.isDigit = false ∧ hexValue? b = none ∧ shortEscape? b = none := by
  rcases isBlank_iff.1 blank with rfl | rfl | rfl | rfl <;> decide

theorem skipBlanks_concat (blank : isBlank b = true) (s : List Char) :
    skipBlanks (s ++ [b]) = if skipBlanks s = [] then [] else skipBlanks s ++ [b] := by
  have nothing : [b].dropWhile isBlank = [] := by simp [blank]
  rw [skipBlanks, List.dropWhile_append, nothing, skipBlanks]
  simp only [List.isEmpty_iff]

theorem skipBlanks_concat_eq_nil_iff (blank : isBlank b = true) {s : List Char} :
    skipBlanks (s ++ [b]) = [] ↔ skipBlanks s = [] := by
  rw [skipBlanks_concat blank]
  split <;> simp_all

/-- What follows the blanks is followed by one more. -/
theorem skipBlanks_concat_eq_iff (blank : isBlank b = true) {s t' : List Char} (ne : t' ≠ []) :
    skipBlanks (s ++ [b]) = t' ↔ ∃ t, t' = t ++ [b] ∧ skipBlanks s = t ∧ t ≠ [] := by
  rw [skipBlanks_concat blank]
  split
  · next none =>
    constructor
    · intro h
      exact absurd h.symm ne
    · rintro ⟨t, -, rfl, some⟩
      exact absurd none some
  · next some =>
    constructor
    · rintro rfl
      exact ⟨_, rfl, rfl, some⟩
    · rintro ⟨t, rfl, rfl, -⟩
      rfl

/-! ## Strings -/

/-- A result that leaves one more character. -/
def extended (b : Char) (result : Except Fault (α × List Char)) : Option (α × List Char) :=
  result.toOption.map fun taken => (taken.1, taken.2 ++ [b])

/-- Both readings fail, or both take the same. -/
theorem extended_cases {result longer : Except Fault (α × List Char)} (h : longer.toOption = extended b result) :
    (∃ fault fault', result = .error fault ∧ longer = .error fault') ∨
      ∃ a rest, result = .ok (a, rest) ∧ longer = .ok (a, rest ++ [b]) := by
  cases result with
  | error fault =>
    cases longer with
    | error fault' => exact .inl ⟨fault, fault', rfl, rfl⟩
    | ok taken => cases h
  | ok taken =>
    cases longer with
    | error fault' => cases h
    | ok taken' => exact .inr ⟨taken.1, taken.2, rfl, congrArg Except.ok (Option.some.inj h)⟩

theorem readUnit_short {s : List Char} (short : s.length < 4) : (readUnit s).toOption = none := by
  unfold readUnit
  split
  · rfl
  · split
    · simp at short
      omega
    · rfl

/-- Four characters are four bytes at least, so only their digits matter. -/
theorem readUnit_four (x y z w : Char) (rest : List Char) :
    (readUnit (x :: y :: z :: w :: rest)).toOption = (unitOf? x y z w).map (·, rest) := by
  have bytes : ¬ byteCount ((x :: y :: z :: w :: rest).take 4) < 4 := by
    have := x.utf8Size_pos
    have := y.utf8Size_pos
    have := z.utf8Size_pos
    have := w.utf8Size_pos
    simp only [List.take_succ_cons, List.take_zero, byteCount_cons, byteCount_nil]
    omega
  rw [readUnit, if_neg bytes]
  cases unitOf? x y z w <;> rfl

theorem readUnit_concat (blank : isBlank b = true) (s : List Char) :
    (readUnit (s ++ [b])).toOption = extended b (readUnit s) := by
  have noHex := (plain_of_isBlank blank).2.1
  unfold extended
  match s with
  | [] => rw [readUnit_short (by simp), readUnit_short (by simp)]; rfl
  | [x] => rw [readUnit_short (by simp), readUnit_short (by simp)]; rfl
  | [x, y] => rw [readUnit_short (by simp), readUnit_short (by simp)]; rfl
  | [x, y, z] =>
    have noUnit : unitOf? x y z b = none := by
      unfold unitOf?
      cases hexValue? x <;> cases hexValue? y <;> cases hexValue? z <;> simp [noHex]
    rw [readUnit_short (s := [x, y, z]) (by simp)]
    exact (readUnit_four x y z b []).trans (by rw [noUnit]; rfl)
  | x :: y :: z :: w :: rest =>
    rw [List.cons_append, List.cons_append, List.cons_append, List.cons_append, readUnit_four, readUnit_four]
    cases unitOf? x y z w <;> rfl

theorem readLowUnit_concat (blank : isBlank b = true) (high : Nat) (s : List Char) :
    (readLowUnit high (s ++ [b])).toOption = extended b (readLowUnit high s) := by
  have backslash := ne_of_isBlank blank (c := '\\') rfl
  have unit := ne_of_isBlank blank (c := 'u') rfl
  match s with
  | [] =>
    unfold readLowUnit
    grind [extended, Except.toOption]
  | [c] =>
    unfold readLowUnit
    grind [extended, Except.toOption]
  | c :: d :: rest =>
    have units := readUnit_concat blank rest
    unfold readLowUnit extended at *
    grind [Except.toOption]

theorem readEscape_concat (blank : isBlank b = true) (s : List Char) :
    (readEscape (s ++ [b])).toOption = extended b (readEscape s) := by
  have noShort := (plain_of_isBlank blank).2.2
  have unit := ne_of_isBlank blank (c := 'u') rfl
  match s with
  | [] =>
    unfold readEscape
    grind [extended, Except.toOption]
  | c :: rest =>
    by_cases unit : c = 'u'
    · subst unit
      rw [List.cons_append, readEscape, readEscape]
      rcases extended_cases (readUnit_concat blank rest) with ⟨_, _, h, h'⟩ | ⟨code, rest', h, h'⟩
      · rw [h, h']
        rfl
      · rw [h, h']
        dsimp only
        split
        · rfl
        · split
          · exact readLowUnit_concat blank code rest'
          · rfl
    · unfold readEscape
      cases shortEscape? c <;> grind [extended, Except.toOption]

theorem readText_concat (blank : isBlank b = true) (read s : List Char) :
    (readText read (s ++ [b])).toOption = extended b (readText read s) := by
  fun_induction readText read s with
  | case1 read =>
    have closed (read : List Char) : (readText read []).toOption = none := by rw [readText]; rfl
    rw [List.nil_append, readText, if_neg (ne_of_isBlank blank rfl), if_neg (ne_of_isBlank blank rfl)]
    split
    · rfl
    · rw [closed]
      rfl
  | case2 read rest =>
    rw [List.cons_append, readText, if_pos rfl]
    rfl
  | case3 read rest fault taken notQuote =>
    rw [List.cons_append, readText, if_neg notQuote, if_pos rfl]
    rcases extended_cases (readEscape_concat blank rest) with ⟨_, _, -, h'⟩ | ⟨_, _, h, -⟩
    · split
      · rfl
      · next found => cases found.symm.trans h'
    · cases taken.symm.trans h
  | case4 read rest e rest' taken notQuote ih =>
    rw [List.cons_append, readText, if_neg notQuote, if_pos rfl]
    rcases extended_cases (readEscape_concat blank rest) with ⟨_, _, h, -⟩ | ⟨_, _, h, h'⟩
    · cases taken.symm.trans h
    · cases taken.symm.trans h
      split
      · next found => cases found.symm.trans h'
      · next found =>
        cases found.symm.trans h'
        exact ih
  | case5 read c rest notQuote notEscape control =>
    rw [List.cons_append, readText, if_neg notQuote, if_neg notEscape, if_pos control]
    rfl
  | case6 read c rest notQuote notEscape notControl ih =>
    rw [List.cons_append, readText, if_neg notQuote, if_neg notEscape, if_neg notControl]
    exact ih

/-! ## Numbers -/

theorem takeDigits_concat (blank : isBlank b = true) (s : List Char) :
    (s ++ [b]).takeWhile Char.isDigit = s.takeWhile Char.isDigit := by
  obtain ⟨notDigit, -⟩ := plain_of_isBlank blank
  induction s with
  | nil => simp [notDigit]
  | cons c rest ih => rw [List.cons_append, List.takeWhile_cons, List.takeWhile_cons, ih]

theorem dropDigits_concat (blank : isBlank b = true) (s : List Char) :
    (s ++ [b]).dropWhile Char.isDigit = s.dropWhile Char.isDigit ++ [b] := by
  obtain ⟨notDigit, -⟩ := plain_of_isBlank blank
  rw [List.dropWhile_append]
  split
  · next none => simp [notDigit, List.isEmpty_iff.1 none]
  · rfl

theorem scaled_concat (negative : Bool) (significand : Nat) (exponent : Int) (s : List Char) :
    (scaled negative significand exponent (s ++ [b])).toOption =
      extended b (scaled negative significand exponent s) := by
  unfold scaled
  cases Double.ofScaled? significand exponent <;> rfl

/-- Reads an exponent after its sign. -/
def afterSign (negative : Bool) (significand : Nat) (exponent : Int) (below : Prop) [Decidable below] (s : List Char) :
    Except Fault (Number × List Char) :=
  match s with
  | [] => .error (.here .endInValue [])
  | c :: _ =>
    if !c.isDigit then .error (.past .invalidNumber s)
    else
      let rest := s.dropWhile Char.isDigit
      match gatherExponent 0 (s.takeWhile Char.isDigit) with
      | .ok written => scaled negative significand (if below then exponent - written else exponent + written) rest
      | .error more =>
        if significand ≠ 0 ∧ ¬below then .error (.here .numberOutOfRange (more ++ rest))
        else .ok (.double (.zero negative), rest)

theorem readExponent_eq_afterSign (negative : Bool) (significand : Nat) (exponent : Int) (s : List Char) :
    readExponent negative significand exponent s =
      afterSign negative significand exponent (s.head? = some '-')
        (if s.head? = some '+' ∨ s.head? = some '-' then s.tail else s) := by
  rfl

section

variable (blank : isBlank b = true) (negative : Bool) (significand : Nat) (exponent : Int)
include blank

theorem afterSign_concat (below : Prop) [Decidable below] (s : List Char) :
    (afterSign negative significand exponent below (s ++ [b])).toOption =
      extended b (afterSign negative significand exponent below s) := by
  obtain ⟨notDigit, -⟩ := plain_of_isBlank blank
  cases s with
  | nil =>
    simp [afterSign, notDigit, extended, Except.toOption]
  | cons c rest =>
    have cons : c :: rest ++ [b] = c :: (rest ++ [b]) := rfl
    rw [afterSign, cons, afterSign, ← cons, takeDigits_concat blank, dropDigits_concat blank]
    split
    · rfl
    · dsimp only
      split
      · exact scaled_concat ..
      · split <;> rfl

theorem readExponent_concat (s : List Char) :
    (readExponent negative significand exponent (s ++ [b])).toOption =
      extended b (readExponent negative significand exponent s) := by
  rw [readExponent_eq_afterSign, readExponent_eq_afterSign]
  cases s with
  | nil =>
    have notPlus := ne_of_isBlank blank (c := '+') rfl
    have notMinus := ne_of_isBlank blank (c := '-') rfl
    rw [List.nil_append, if_neg (by simp [notPlus, notMinus])]
    exact afterSign_concat blank (s := []) ..
  | cons c rest =>
    rw [List.cons_append, List.head?_cons, List.head?_cons]
    split
    · exact afterSign_concat blank ..
    · exact afterSign_concat blank (s := c :: rest) ..

omit blank in
theorem readScale_other {c : Char} (rest : List Char) (lower : c ≠ 'e') (upper : c ≠ 'E') :
    readScale negative significand exponent (c :: rest) = scaled negative significand exponent (c :: rest) := by
  unfold readScale
  split <;> simp_all

theorem readScale_concat (s : List Char) :
    (readScale negative significand exponent (s ++ [b])).toOption =
      extended b (readScale negative significand exponent s) := by
  cases s with
  | nil =>
    rw [List.nil_append, readScale_other _ _ _ _ (ne_of_isBlank blank rfl) (ne_of_isBlank blank rfl)]
    exact scaled_concat negative significand exponent []
  | cons c rest =>
    by_cases lower : c = 'e'
    · subst lower
      exact readExponent_concat blank ..
    · by_cases upper : c = 'E'
      · subst upper
        exact readExponent_concat blank ..
      · rw [List.cons_append, readScale_other _ _ _ _ lower upper, readScale_other _ _ _ _ lower upper]
        exact scaled_concat negative significand exponent (c :: rest)

theorem readFraction_concat (s : List Char) :
    (readFraction negative significand exponent (s ++ [b])).toOption =
      extended b (readFraction negative significand exponent s) := by
  rw [readFraction, readFraction, takeDigits_concat blank, dropDigits_concat blank]
  split
  · rfl
  · exact readScale_concat blank ..

omit blank in
theorem wholeNumber_concat (s : List Char) :
    (wholeNumber negative significand (s ++ [b])).toOption = extended b (wholeNumber negative significand s) := by
  unfold wholeNumber
  dsimp only
  by_cases fits : Fits64 (if negative = true then -(significand : Int) else significand)
  · rw [dif_pos fits, dif_pos fits]
    by_cases zero : negative = true ∧ significand = 0
    · rw [if_pos zero, if_pos zero]
      rfl
    · rw [if_neg zero, if_neg zero]
      rfl
  · rw [dif_neg fits, dif_neg fits]
    exact scaled_concat ..

/-- What follows the whole digits of a number. -/
def afterDigits (negative : Bool) (significand dropped : Nat) (s : List Char) : Except Fault (Number × List Char) :=
  match s with
  | '.' :: rest => readFraction negative significand dropped rest
  | rest@('e' :: _) => readScale negative significand dropped rest
  | rest@('E' :: _) => readScale negative significand dropped rest
  | rest => if dropped = 0 then wholeNumber negative significand rest
    else scaled negative significand dropped rest

omit blank in
theorem afterDigits_other (dropped : Nat) {c : Char} (rest : List Char) (point : c ≠ '.') (lower : c ≠ 'e')
    (upper : c ≠ 'E') :
    afterDigits negative significand dropped (c :: rest) =
      if dropped = 0 then wholeNumber negative significand (c :: rest)
      else scaled negative significand dropped (c :: rest) := by
  unfold afterDigits
  split <;> simp_all

theorem afterDigits_concat (dropped : Nat) (s : List Char) :
    (afterDigits negative significand dropped (s ++ [b])).toOption =
      extended b (afterDigits negative significand dropped s) := by
  have other (s : List Char) :
      (if dropped = 0 then wholeNumber negative significand (s ++ [b])
        else scaled negative significand dropped (s ++ [b])).toOption =
        extended b (if dropped = 0 then wholeNumber negative significand s
          else scaled negative significand dropped s) := by
    split
    · exact wholeNumber_concat ..
    · exact scaled_concat ..
  cases s with
  | nil =>
    rw [List.nil_append, afterDigits_other _ _ _ _ (ne_of_isBlank blank rfl) (ne_of_isBlank blank rfl)
      (ne_of_isBlank blank rfl)]
    exact other []
  | cons c rest =>
    by_cases point : c = '.'
    · subst point
      exact readFraction_concat blank ..
    by_cases lower : c = 'e'
    · subst lower
      exact readScale_concat blank (s := 'e' :: rest) ..
    by_cases upper : c = 'E'
    · subst upper
      exact readScale_concat blank (s := 'E' :: rest) ..
    rw [List.cons_append, afterDigits_other _ _ _ _ point lower upper, afterDigits_other _ _ _ _ point lower upper]
    exact other (c :: rest)

theorem readNumber_concat (s : List Char) :
    (readNumber negative (s ++ [b])).toOption = extended b (readNumber negative s) := by
  obtain ⟨notDigit, -⟩ := plain_of_isBlank blank
  cases s with
  | nil => simp [readNumber, notDigit, extended, Except.toOption]
  | cons c rest =>
    have cons : c :: rest ++ [b] = c :: (rest ++ [b]) := rfl
    have head : (rest ++ [b]).head?.any Char.isDigit = rest.head?.any Char.isDigit := by
      cases rest <;> simp [notDigit]
    rw [cons, readNumber, readNumber, head, ← cons, takeDigits_concat blank, dropDigits_concat blank]
    split
    · rfl
    split
    · rfl
    exact afterDigits_concat blank ..

end

/-! ## Containers -/

/-- A reading of a text with one more character is a reading of the text that leaves it. -/
def Extends (b : Char) (Item : List Char → α → List Char → Prop) : Prop :=
  ∀ s a rest', Item (s ++ [b]) a rest' ↔ ∃ rest, rest' = rest ++ [b] ∧ Item s a rest

theorem eq_ok_iff_of_extended {read : List Char → Except Fault (α × List Char)} {s : List Char}
    (h : (read (s ++ [b])).toOption = extended b (read s)) {a : α} {rest' : List Char} :
    read (s ++ [b]) = .ok (a, rest') ↔ ∃ rest, rest' = rest ++ [b] ∧ read s = .ok (a, rest) := by
  rcases extended_cases h with ⟨_, _, h, h'⟩ | ⟨_, _, h, h'⟩
  · simp [h, h']
  · grind

theorem next_concat_iff (blank : isBlank b = true) {c : Char} {s rest' : List Char} :
    Next c (s ++ [b]) rest' ↔ ∃ rest, rest' = rest ++ [b] ∧ Next c s rest := by
  unfold Next
  rw [skipBlanks_concat_eq_iff blank (List.cons_ne_nil _ _)]
  constructor
  · rintro ⟨t, ht, h, ne⟩
    obtain ⟨d, rest, rfl⟩ := List.exists_cons_of_ne_nil ne
    rw [List.cons_append, List.cons.injEq] at ht
    exact ⟨rest, ht.2, ht.1 ▸ h⟩
  · rintro ⟨rest, rfl, h⟩
    exact ⟨c :: rest, rfl, h, List.cons_ne_nil _ _⟩

/-- A word is no longer for a blank after the text. -/
theorem word_concat_iff (blank : isBlank b = true) (word : List Char) {s rest' : List Char}
    (letters : word.any isBlank = false) (ne : word ≠ []) :
    skipBlanks (s ++ [b]) = word ++ rest' ↔ ∃ rest, rest' = rest ++ [b] ∧ skipBlanks s = word ++ rest := by
  rw [skipBlanks_concat_eq_iff blank (List.append_ne_nil_of_left_ne_nil ne _)]
  constructor
  · rintro ⟨t, ht, h, -⟩
    rcases List.append_eq_append_iff.1 ht with ⟨more, rfl, rfl⟩ | ⟨more, rfl, last⟩
    · exact ⟨more, rfl, h⟩
    · cases more with
      | nil => exact ⟨[], last.symm, by rw [h, List.append_nil, List.append_nil]⟩
      | cons d more =>
        obtain ⟨rfl, -⟩ := List.cons.inj last
        exact absurd blank (List.any_eq_false.1 letters b (by simp))
  · rintro ⟨rest, rfl, h⟩
    exact ⟨word ++ rest, (List.append_assoc ..).symm, h, List.append_ne_nil_of_left_ne_nil ne _⟩

theorem follows_concat_iff (blank : isBlank b = true) {first : Bool} {s t' : List Char} (ne : t' ≠ []) :
    Follows first (s ++ [b]) t' ↔ ∃ t, t' = t ++ [b] ∧ Follows first s t ∧ t ≠ [] := by
  constructor
  · intro h
    cases h with
    | first h =>
      obtain ⟨t, rfl, starts, some⟩ := (skipBlanks_concat_eq_iff blank ne).1 h
      exact ⟨t, rfl, .first starts, some⟩
    | comma h ht =>
      obtain ⟨rest, rfl, comma⟩ := (next_concat_iff blank).1 h
      obtain ⟨t, rfl, starts, some⟩ := (skipBlanks_concat_eq_iff blank ne).1 ht
      exact ⟨t, rfl, .comma comma starts, some⟩
  · rintro ⟨t, rfl, h, some⟩
    cases h with
    | first h => exact .first ((skipBlanks_concat_eq_iff blank ne).2 ⟨t, rfl, h, some⟩)
    | comma h ht =>
      exact .comma ((next_concat_iff blank).2 ⟨_, rfl, h⟩) ((skipBlanks_concat_eq_iff blank ne).2 ⟨t, rfl, ht, some⟩)

variable {Item : List Char → α → List Char → Prop}

theorem extends_items (blank : isBlank b = true) (item : Extends b Item) (some : ∀ a rest, ¬ Item [] a rest)
    (first : Bool) : Extends b (Items Item first) := by
  intro s items rest'
  constructor
  · intro h
    generalize long : s ++ [b] = s' at h
    induction h generalizing s with
    | close h =>
      subst long
      obtain ⟨rest, rfl, ends⟩ := (next_concat_iff blank).1 h
      exact ⟨rest, rfl, .close ends⟩
    | @item first s' t' u' rest' a items before here after ih =>
      subst long
      have ne : t' ≠ [] := by
        rintro rfl
        exact some _ _ here
      obtain ⟨t, rfl, starts, -⟩ := (follows_concat_iff blank ne).1 before
      obtain ⟨u, rfl, taken⟩ := (item _ _ _).1 here
      obtain ⟨rest, rfl, others⟩ := ih u rfl
      exact ⟨rest, rfl, .item starts taken others⟩
  · rintro ⟨rest, rfl, h⟩
    induction h with
    | close h => exact .close ((next_concat_iff blank).2 ⟨_, rfl, h⟩)
    | @item first s t u rest a items before here after ih =>
      have ne : t ≠ [] := by
        rintro rfl
        exact some _ _ here
      exact .item ((follows_concat_iff blank (by simp)).2 ⟨t, rfl, before, ne⟩) ((item _ _ _).2 ⟨u, rfl, here⟩) ih

theorem extends_pairs (blank : isBlank b = true) (item : Extends b Item) (first : Bool) :
    Extends b (Pairs Item first) := by
  intro s pairs rest'
  constructor
  · intro h
    generalize long : s ++ [b] = s' at h
    induction h generalizing s with
    | close h =>
      subst long
      obtain ⟨rest, rfl, ends⟩ := (next_concat_iff blank).1 h
      exact ⟨rest, rfl, .close ends⟩
    | @pair first s' t' u' w' x' rest' key a pairs before name colon here after ih =>
      subst long
      obtain ⟨quoted, ht, starts, ne⟩ := (follows_concat_iff blank (List.cons_ne_nil _ _)).1 before
      obtain ⟨d, t, rfl⟩ := List.exists_cons_of_ne_nil ne
      obtain ⟨rfl, rfl⟩ := List.cons.inj ht
      obtain ⟨u, rfl, key⟩ := (eq_ok_iff_of_extended (readText_concat blank [] t)).1 name
      obtain ⟨w, rfl, mark⟩ := (next_concat_iff blank).1 colon
      obtain ⟨x, rfl, taken⟩ := (item _ _ _).1 here
      obtain ⟨rest, rfl, others⟩ := ih x rfl
      exact ⟨rest, rfl, .pair starts key mark taken others⟩
  · rintro ⟨rest, rfl, h⟩
    induction h with
    | close h => exact .close ((next_concat_iff blank).2 ⟨_, rfl, h⟩)
    | @pair first s t u w x rest key a pairs before name colon here after ih =>
      have before' := (follows_concat_iff blank (by simp)).2 ⟨_, rfl, before, List.cons_ne_nil _ _⟩
      have name' := (eq_ok_iff_of_extended (readText_concat blank [] t)).2 ⟨u, rfl, name⟩
      exact .pair before' name' ((next_concat_iff blank).2 ⟨w, rfl, colon⟩) ((item _ _ _).2 ⟨x, rfl, here⟩) ih

theorem extends_valueAt (blank : isBlank b = true) {nested : Option (List Char → Value → List Char → Prop)}
    (item : ∀ Item ∈ nested, Extends b Item ∧ ∀ a rest, ¬ Item [] a rest) : Extends b (ValueAt nested) := by
  intro s v rest'
  constructor
  · intro h
    cases h with
    | null h =>
      obtain ⟨rest, rfl, word⟩ := (word_concat_iff blank ['n', 'u', 'l', 'l'] rfl (by decide)).1 h
      exact ⟨rest, rfl, .null word⟩
    | true h =>
      obtain ⟨rest, rfl, word⟩ := (word_concat_iff blank ['t', 'r', 'u', 'e'] rfl (by decide)).1 h
      exact ⟨rest, rfl, .true word⟩
    | false h =>
      obtain ⟨rest, rfl, word⟩ :=
        (word_concat_iff blank ['f', 'a', 'l', 's', 'e'] rfl (by decide)).1 h
      exact ⟨rest, rfl, .false word⟩
    | negative h hn =>
      obtain ⟨t, rfl, minus⟩ := (next_concat_iff blank).1 h
      obtain ⟨rest, rfl, number⟩ := (eq_ok_iff_of_extended (readNumber_concat blank true t)).1 hn
      exact ⟨rest, rfl, .negative minus number⟩
    | @number _ _ c _ _ _ h hc hn =>
      obtain ⟨t, rfl, digit⟩ := (next_concat_iff blank).1 h
      obtain ⟨rest, rfl, number⟩ := (eq_ok_iff_of_extended (readNumber_concat blank false (c :: t))).1 hn
      exact ⟨rest, rfl, .number digit hc number⟩
    | string h ht =>
      obtain ⟨t, rfl, quoted⟩ := (next_concat_iff blank).1 h
      obtain ⟨rest, rfl, text⟩ := (eq_ok_iff_of_extended (readText_concat blank [] t)).1 ht
      exact ⟨rest, rfl, .string quoted text⟩
    | array h hi =>
      obtain ⟨t, rfl, opened⟩ := (next_concat_iff blank).1 h
      obtain ⟨rest, rfl, items⟩ := (extends_items blank (item _ rfl).1 (item _ rfl).2 _ _ _ _).1 hi
      exact ⟨rest, rfl, .array opened items⟩
    | object h hp =>
      obtain ⟨t, rfl, opened⟩ := (next_concat_iff blank).1 h
      obtain ⟨rest, rfl, pairs⟩ := (extends_pairs blank (item _ rfl).1 _ _ _ _).1 hp
      exact ⟨rest, rfl, .object opened pairs⟩
  · rintro ⟨rest, rfl, h⟩
    cases h with
    | null h =>
      exact .null ((word_concat_iff blank ['n', 'u', 'l', 'l'] rfl (by decide)).2 ⟨rest, rfl, h⟩)
    | true h =>
      exact .true ((word_concat_iff blank ['t', 'r', 'u', 'e'] rfl (by decide)).2 ⟨rest, rfl, h⟩)
    | false h =>
      exact .false
        ((word_concat_iff blank ['f', 'a', 'l', 's', 'e'] rfl (by decide)).2 ⟨rest, rfl, h⟩)
    | negative h hn =>
      exact .negative ((next_concat_iff blank).2 ⟨_, rfl, h⟩)
        ((eq_ok_iff_of_extended (readNumber_concat blank true _)).2 ⟨_, rfl, hn⟩)
    | @number _ _ c t _ _ h hc hn =>
      exact .number ((next_concat_iff blank).2 ⟨_, rfl, h⟩) hc
        ((eq_ok_iff_of_extended (readNumber_concat blank false (c :: t))).2 ⟨_, rfl, hn⟩)
    | string h ht =>
      exact .string ((next_concat_iff blank).2 ⟨_, rfl, h⟩)
        ((eq_ok_iff_of_extended (readText_concat blank [] _)).2 ⟨_, rfl, ht⟩)
    | array h hi =>
      exact .array ((next_concat_iff blank).2 ⟨_, rfl, h⟩)
        ((extends_items blank (item _ rfl).1 (item _ rfl).2 _ _ _ _).2 ⟨_, rfl, hi⟩)
    | object h hp =>
      exact .object ((next_concat_iff blank).2 ⟨_, rfl, h⟩)
        ((extends_pairs blank (item _ rfl).1 _ _ _ _).2 ⟨_, rfl, hp⟩)

theorem extends_spells (blank : isBlank b = true) (depth : Nat) : Extends b (Spells depth) := by
  induction depth with
  | zero => exact extends_valueAt blank fun _ none => by cases none
  | succ depth ih =>
    refine extends_valueAt blank fun Item some => ?_
    obtain rfl := Option.some.inj some
    refine ⟨ih, fun v rest h => ?_⟩
    rw [← readValue_takes] at h
    obtain ⟨c, rest, none, -⟩ := opens_of_readValue h
    cases none

/-- A text and the text with a blank after it are the same document, or none of them is one. -/
theorem parse_concat_iff (blank : isBlank b = true) {s : List Char} {value : Value} :
    parseChars (s ++ [b]) = .ok value ↔ parseChars s = .ok value := by
  have document (s : List Char) : parseChars s = .ok value ↔ IsDocument (String.ofList s) value := by
    rw [← parse_eq_ok_iff, parse, String.toList_ofList]
  rw [document, document, IsDocument, IsDocument, String.toList_ofList, String.toList_ofList]
  constructor
  · rintro ⟨rest', h, ends⟩
    obtain ⟨rest, rfl, spelled⟩ := (extends_spells blank _ _ _ _).1 h
    exact ⟨rest, spelled, (skipBlanks_concat_eq_nil_iff blank).1 ends⟩
  · rintro ⟨rest, h, ends⟩
    exact ⟨rest ++ [b], (extends_spells blank _ _ _ _).2 ⟨rest, rfl, h⟩, (skipBlanks_concat_eq_nil_iff blank).2 ends⟩

end TypeSketch.Json
