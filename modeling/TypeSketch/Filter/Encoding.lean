/-!
# Text for other formats

* `escapeHtml`, `escapeUri`, `escapeCsv`, `escapeTsv`, `escapeShell` : a text with the characters
  escaped that mean something in another format.
-/

namespace TypeSketch.Filter

/-- A text with some characters replaced. -/
def escapeWith (f : Char → List Char) (s : String) : String := String.ofList (s.toList.flatMap f)

/-- A text for markup. -/
def escapeHtml : String → String := escapeWith fun
  | '<' => "&lt;".toList
  | '>' => "&gt;".toList
  | '&' => "&amp;".toList
  | '\'' => "&apos;".toList
  | '"' => "&quot;".toList
  | c => [c]

/-- A text between the quotes of comma-separated values. -/
def escapeCsv : String → String := escapeWith fun
  | '"' => ['"', '"']
  | c => [c]

/-- A text among tab-separated values. -/
def escapeTsv : String → String := escapeWith fun
  | '\n' => ['\\', 'n']
  | '\r' => ['\\', 'r']
  | '\t' => ['\\', 't']
  | '\\' => ['\\', '\\']
  | '\x00' => ['\\', '0']
  | c => [c]

/-- A text between the single quotes of a shell. -/
def escapeShell : String → String := escapeWith fun
  | '\'' => ['\'', '\\', '\'', '\'']
  | c => [c]

/-- A hexadecimal digit in upper case. -/
def upperHexDigit (n : Nat) : Char := if n < 10 then Char.ofNat (48 + n) else Char.ofNat (55 + n)

/-- A text in an address: every byte is escaped that is no letter, digit, or one of four marks. -/
def escapeUri : String → String := escapeWith fun c =>
  if c.isAlphanum ∨ c = '-' ∨ c = '_' ∨ c = '.' ∨ c = '~' then [c]
  else (String.singleton c).toUTF8.toList.flatMap fun b =>
    ['%', upperHexDigit (b.toNat / 16), upperHexDigit (b.toNat % 16)]

end TypeSketch.Filter
