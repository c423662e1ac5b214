import TypeSketch.Text.CaseTable

/-!
# Upper case

* `isUpper` : the Unicode property `Uppercase`;
* `upper` : the full upper-case mapping of a character, which depends on no language.
-/

namespace TypeSketch.Text

/-- Whether a character has the property `Uppercase`. -/
def isUpper (c : Char) : Bool := upperRuns.any fun run => run.contains c.toNat

/-- The full upper-case mapping of a character: itself where no other is given. -/
def upper (c : Char) : List Char :=
  match spelledOut.lookup c.toNat with
  | some codes => codes.map Char.ofNat
  | none =>
    match shiftRuns.find? fun entry => entry.1.contains c.toNat with
    | some entry => [Char.ofNat (c.toNat + entry.2).toNat]
    | none => [c]

end TypeSketch.Text
