import Playhouse.Text.Utf8

/-!
What can be wrong with a template or with the layout of one of its fields.
-/
namespace Playhouse.Template

inductive Problem where
  | loneOpening
  | loneClosing
  | openingInName
  | closingExpected
  | noConversion
  | colonExpected
  | unmatchedOpening
  | nestedTooDeep
  | unknownConversion (mark : Char)
  | manyDigits
  | afterBracket
  | missingBracket
  | emptyAttribute
  | noPosition (index : Nat)
  | noPrecision
  | invalidLayout (layout kind : String)
  | bothSeparators
  | separatorWith (separator code : Char)
  | unknownCode (code : Char) (kind : String)
  | noLayout (kind : String)
  | noKindMember (kind name : String)
  | notApplicable (kind : String)
  | notGeneric (subject : String)
  | tupleKey
  | pastTupleEnd
  | spaceOnText
  | signOnText
  | zeroOnText
  | alternateOnText
  | innerPaddingOnText
  | precisionOnInteger
  | zeroOnInteger
  | signOnCharacter
  | alternateOnCharacter
  | notCharacter
  | hugeCharacter
  | hugeNumber
  | hugePrecision
  deriving DecidableEq

namespace Problem

/-- A character as messages show it: itself after the blank and before `limit`, its number
otherwise. -/
def mark (limit : Nat) (c : Char) : String :=
  if 32 < c.toNat ∧ c.toNat < limit then String.singleton c
  else "\\x" ++ String.ofList (Nat.toDigits 16 (Text.codeOf c))

/-- A code of a layout as messages show it. -/
def codeMark (c : Char) : String := mark 128 c

def message : Problem → String
  | loneOpening => "Single '\x7b' encountered in format string"
  | loneClosing => "Single '\x7d' encountered in format string"
  | openingInName => "unexpected '\x7b' in field name"
  | closingExpected => "expected '\x7d' before end of string"
  | noConversion => "end of string while looking for conversion specifier"
  | colonExpected => "expected ':' after conversion specifier"
  | unmatchedOpening => "unmatched '\x7b' in format spec"
  | nestedTooDeep => "Max string recursion exceeded"
  | unknownConversion c => "Unknown conversion specifier " ++ mark 127 c
  | manyDigits => "Too many decimal digits in format string"
  | afterBracket => "Only '.' or '[' may follow ']' in format field specifier"
  | missingBracket => "Missing ']' in format string"
  | emptyAttribute => "Empty attribute in format string"
  | noPosition index =>
    "Replacement index " ++ toString index ++ " out of range for positional args tuple"
  | noPrecision => "Format specifier missing precision"
  | invalidLayout layout kind =>
    "Invalid format specifier '" ++ layout ++ "' for object of type '" ++ kind ++ "'"
  | bothSeparators => "Cannot specify both ',' and '_'."
  | separatorWith separator code =>
    "Cannot specify '" ++ String.singleton separator ++ "' with '" ++ codeMark code ++ "'."
  | unknownCode code kind =>
    "Unknown format code '" ++ codeMark code ++ "' for object of type '" ++ kind ++ "'"
  | noLayout kind => "unsupported format string passed to " ++ kind ++ ".__format__"
  | noKindMember kind name => "type object '" ++ kind ++ "' has no attribute '" ++ name ++ "'"
  | notApplicable kind => "type '" ++ kind ++ "' is not subscriptable"
  | notGeneric subject => subject ++ " is not a generic class"
  | tupleKey => "tuple indices must be integers or slices, not str"
  | pastTupleEnd => "tuple index out of range"
  | spaceOnText => "Space not allowed in string format specifier"
  | signOnText => "Sign not allowed in string format specifier"
  | zeroOnText => "Negative zero coercion (z) not allowed in string format specifier"
  | alternateOnText => "Alternate form (#) not allowed in string format specifier"
  | innerPaddingOnText => "'=' alignment not allowed in string format specifier"
  | precisionOnInteger => "Precision not allowed in integer format specifier"
  | zeroOnInteger => "Negative zero coercion (z) not allowed in integer format specifier"
  | signOnCharacter => "Sign not allowed with integer format specifier 'c'"
  | alternateOnCharacter => "Alternate form (#) not allowed with integer format specifier 'c'"
  | notCharacter => "%c arg not in range(0x110000)"
  | hugeCharacter => "Python int too large to convert to C long"
  | hugeNumber => "int too large to convert to float"
  | hugePrecision => "precision too big"

end Problem
end Playhouse.Template
