/-!
# Why a text is no regular expression

* `Fault` : what a reader of expressions met, with its wording in `Fault.message`.
-/

namespace TypeSketch.Regex

/-- What stopped a reader of expressions. -/
inductive Fault where
  | tooMuchNesting
  | tooBig
  | duplicateName
  | unclosedGroup
  | endAfterQuestion
  | unopenedGroup
  | lookAround
  | emptyFlags
  | missingName
  | invalidName
  | unclosedName
  | emptyName
  | unknownFlag
  | repeatedNegation
  | duplicateFlag
  | endInFlags
  | danglingNegation
  | noDecimalDigits
  | invalidDecimal
  | noBraceHexDigit
  | endInBraceHex
  | emptyBraceHex
  | invalidBraceHex
  | endInFixedHex
  | noFixedHexDigit
  | invalidFixedHex
  | endBeforeHex
  | endInEscape
  | backreference
  | unicodeClass
  | unknownEscape
  | nothingToRepeat
  | nothingToCount
  | unclosedCount
  | unclosedLeast
  | unclosedComma
  | unclosedMost
  | invalidCount
  | emptyCount
  | unclosedClassItem
  | invalidRangeEnd
  | invalidClassItem
  | unclosedClassDash
  | unclosedNegation
  | unclosedClassBracket
  | emptyRange
  | unclosedClass
  | nestedClass
  | intersection
  | difference
  | symmetricDifference
  | unclosedWordEdge
  | unknownWordEdge
  | endAfterBrace
deriving DecidableEq, Repr

/-- The wording of a fault. -/
def Fault.message : Fault → String
  | .tooMuchNesting => "pattern has too much nesting"
  | .tooBig => "compiled regex exceeded size limit"
  | .duplicateName => "duplicate capture group name"
  | .unclosedGroup => "found open group without closing ')'"
  | .endAfterQuestion => "expected closing ')', but got end of pattern"
  | .unopenedGroup => "found closing ')' without matching '('"
  | .lookAround => "look-around is not supported"
  | .emptyFlags => "empty flag directive '(?)' is not allowed"
  | .missingName => "expected capture group name, but got end of pattern"
  | .invalidName => "invalid group name"
  | .unclosedName => "expected end of capture group name, but got end of pattern"
  | .emptyName => "empty capture group names are not allowed"
  | .unknownFlag => "unrecognized inline flag"
  | .repeatedNegation => "inline flag negation cannot be repeated"
  | .duplicateFlag => "duplicate inline flag is not allowed"
  | .endInFlags => "expected ':' or ')' to end inline flags, but got end of pattern"
  | .danglingNegation => "inline flags cannot end with negation directive"
  | .noDecimalDigits => "expected decimal number, but found no digits"
  | .invalidDecimal => "got invalid decimal number"
  | .noBraceHexDigit => "expected hexadecimal number in braces, but got non-hex digit"
  | .endInBraceHex => "expected hexadecimal number, but saw end of pattern before closing brace"
  | .emptyBraceHex => "expected hexadecimal number in braces, but got no digits"
  | .invalidBraceHex => "got invalid hexadecimal number in braces"
  | .endInFixedHex => "expected fixed length hexadecimal number, but saw end of pattern first"
  | .noFixedHexDigit => "expected fixed length hexadecimal number, but got non-hex digit"
  | .invalidFixedHex => "got invalid fixed length hexadecimal number"
  | .endBeforeHex => "expected hexadecimal number, but saw end of pattern first"
  | .endInEscape => "saw start of escape sequence, but saw end of pattern before it finished"
  | .backreference => "backreferences are not supported"
  | .unicodeClass => "Unicode character classes are not supported"
  | .unknownEscape => "unrecognized escape sequence"
  | .nothingToRepeat => "uncounted repetition operator must be applied to a sub-expression"
  | .nothingToCount => "counted repetition operator must be applied to a sub-expression"
  | .unclosedCount => "found unclosed counted repetition operator"
  | .unclosedLeast => "found incomplete and unclosed counted repetition operator"
  | .unclosedComma => "found counted repetition operator with a comma that is unclosed"
  | .unclosedMost => "found counted repetition with min and max that is unclosed"
  | .invalidCount => "expected closing brace for counted repetition, but got something else"
  | .emptyCount => "found counted repetition with a min bigger than its max"
  | .unclosedClassItem => "non-empty character class has no closing bracket"
  | .invalidRangeEnd => "character class ranges must start and end with a single character"
  | .invalidClassItem => "invalid escape sequence in character class"
  | .unclosedClassDash => "non-empty character class has no closing bracket after dash"
  | .unclosedNegation => "negated character class has no closing bracket"
  | .unclosedClassBracket => "character class begins with literal ']' but has no closing bracket"
  | .emptyRange => "invalid range in character class"
  | .unclosedClass => "found unclosed character class"
  | .nestedClass => "nested character classes are not supported"
  | .intersection => "character class intersection is not supported"
  | .difference => "character class difference is not supported"
  | .symmetricDifference => "character class symmetric difference is not supported"
  | .unclosedWordEdge => "special word boundary assertion is unclosed or has an invalid character"
  | .unknownWordEdge => "special word boundary assertion is unrecognized"
  | .endAfterBrace => "found start of special word boundary or repetition without an end"

end TypeSketch.Regex
