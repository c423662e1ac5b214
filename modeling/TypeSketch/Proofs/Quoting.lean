import TypeSketch.Json.Printer
import TypeSketch.Proofs.Grammar

/-!
# Reading what was quoted

* `readEscape_unit` : the escape of a control character by its code;
* `readText_escaped` : a character in its written form is read as itself, whatever follows;
* `readText_quote` : and so is a text up to its closing quote.
-/

namespace TypeSketch.Json

open Text

/-! ## Digits of a code -/

theorem hexValue_hexDigit {n : Nat} (h : n < 16) : hexValue? (hexDigit n) = some n := by
  revert n
  decide

theorem utf8Size_hexDigit {n : Nat} (h : n < 16) : (hexDigit n).utf8Size = 1 := by
  revert n
  decide

theorem readUnit_hexDigits {code : Nat} (h : code < 256) (rest : List Char) :
    readUnit ('0' :: '0' :: hexDigit (code / 16) :: hexDigit (code % 16) :: rest) = .ok (code, rest) := by
  have high : code / 16 < 16 := by omega
  have low : code % 16 < 16 := by omega
  have zero : hexValue? '0' = some 0 := rfl
  have bytes : byteCount (List.take 4 ('0' :: '0' :: hexDigit (code / 16) :: hexDigit (code % 16) :: rest)) = 4 := by
    simp only [List.take_succ_cons, List.take_zero, byteCount_cons, byteCount_nil, utf8Size_hexDigit high,
      utf8Size_hexDigit low]
    rfl
  have unit : unitOf? '0' '0' (hexDigit (code / 16)) (hexDigit (code % 16)) = some code := by
    simp only [unitOf?, zero, hexValue_hexDigit high, hexValue_hexDigit low, Option.bind_eq_bind, Option.bind_some]
    exact congrArg some (by omega)
  rw [readUnit, bytes, if_neg (by omega), unit]

theorem readEscape_unit {c : Char} (h : c.toNat < 0x20) (rest : List Char) :
    readEscape ('u' :: '0' :: '0' :: hexDigit (c.toNat / 16) :: hexDigit (c.toNat % 16) :: rest) = .ok (c, rest) := by
  have unit := readUnit_hexDigits (show c.toNat < 256 by omega) rest
  have notLow : isLowSurrogate c.toNat = false := by
    rw [isLowSurrogate, decide_eq_false (by omega), Bool.false_and]
  have notHigh : isHighSurrogate c.toNat = false := by
    rw [isHighSurrogate, decide_eq_false (by omega), Bool.false_and]
  rw [readEscape, unit]
  dsimp only
  rw [notLow, notHigh, if_neg (by decide), if_neg (by decide), Char.ofNat_toNat]

/-! ## Characters and texts -/

theorem readText_plain {c : Char} (quote : c ≠ '"') (backslash : c ≠ '\\') (control : ¬ c.toNat < 0x20)
    (read rest : List Char) : readText read (c :: rest) = readText (c :: read) rest := by
  rw [readText, if_neg quote, if_neg backslash, if_neg control]

/-- A character in its written form is read as itself, whatever follows. -/
theorem readText_escaped (c : Char) (read rest : List Char) :
    readText read (escape c ++ rest) = readText (c :: read) rest := by
  unfold escape
  split
  · next h => subst h; exact readText_escape rfl
  split
  · next h => subst h; exact readText_escape rfl
  split
  · next h => subst h; exact readText_escape rfl
  split
  · next h => subst h; exact readText_escape rfl
  split
  · next h => subst h; exact readText_escape rfl
  split
  · next h => subst h; exact readText_escape rfl
  split
  · next h => subst h; exact readText_escape rfl
  split
  · next control => exact readText_escape (readEscape_unit control rest)
  · next quote backslash _ _ _ _ _ control => exact readText_plain quote backslash control read rest

theorem readText_flatMap_escape (s read rest : List Char) :
    readText read (s.flatMap escape ++ '"' :: rest) = .ok (String.ofList (read.reverse ++ s), rest) := by
  induction s generalizing read with
  | nil =>
    rw [List.flatMap_nil, List.nil_append, readText, if_pos rfl, List.append_nil]
  | cons c s ih =>
    rw [List.flatMap_cons, List.append_assoc, readText_escaped, ih, List.reverse_cons, List.append_assoc,
      List.singleton_append]

/-- A quoted text is read as itself, whatever follows. -/
theorem readText_quote (s : String) (rest : List Char) :
    ∃ t, writeString s ++ rest = '"' :: t ∧ readText [] t = .ok (s, rest) := by
  refine ⟨s.toList.flatMap escape ++ '"' :: rest, ?_, ?_⟩
  · rw [writeString, quote, List.cons_append, List.append_assoc, List.singleton_append]
  · rw [readText_flatMap_escape, List.reverse_nil, List.nil_append, String.ofList_toList]

end TypeSketch.Json
