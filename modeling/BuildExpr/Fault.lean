/-!
# Faults

Why a value, a path, a registry key or a function refuses its operand. `Fault.message` is the
only place where the wording is written.
-/

namespace BuildExpr

/-- Why the operating system refuses an operation on a file. -/
inductive FileFault
  | notFound
  | isDirectory
  | notDirectory
  | nameTooLong
  | nulInName
  /-- The file does not hold UTF-8. -/
  | notUtf8
  deriving DecidableEq

/-- The wording of a file fault. -/
def FileFault.message : FileFault → String
  | notFound => "No such file or directory (os error 2)"
  | isDirectory => "Is a directory (os error 21)"
  | notDirectory => "Not a directory (os error 20)"
  | nameTooLong => "File name too long (os error 36)"
  | nulInName => "file name contained an unexpected NUL byte"
  | notUtf8 => "stream did not contain valid UTF-8"

/-- What is wrong with a text in base 64. -/
inductive Base64Fault
  | length
  | symbol
  | trailingBits
  | padding
  deriving DecidableEq

/-- The wording of a fault in base 64. -/
def Base64Fault.message : Base64Fault → String
  | length => "invalid length"
  | symbol => "invalid symbol"
  | trailingBits => "non-zero trailing bits"
  | padding => "invalid padding length"

/-- What is wrong with a search pattern for names. -/
inductive GlobFault
  | unclosedClass
  | invalidRange (low high : Char)
  | unopenedAlternates
  | unclosedAlternates
  | danglingEscape
  deriving DecidableEq

/-- The wording of a fault in a search pattern. -/
def GlobFault.message : GlobFault → String
  | unclosedClass => "unclosed character class; missing ']'"
  | invalidRange low high =>
    "invalid range; '" ++ low.toString ++ "' > '" ++ high.toString ++ "'"
  | unopenedAlternates =>
    "unopened alternate group; missing '\x7b' (maybe escape '\x7d' with '[\x7d]'?)"
  | unclosedAlternates =>
    "unclosed alternate group; missing '\x7d' (maybe escape '\x7b' with '[\x7b]'?)"
  | danglingEscape => "dangling '\\'"

/-- Where bytes stop being UTF-8. -/
inductive Utf8Fault
  /-- Bytes from an index on that no character is written with. -/
  | invalid (length index : Nat)
  /-- A character that is cut off at the end. -/
  | incomplete (index : Nat)
  deriving DecidableEq

/-- The wording of a fault in UTF-8. -/
def Utf8Fault.message : Utf8Fault → String
  | invalid length index =>
    "invalid utf-8 sequence of " ++ toString length ++ " bytes from index " ++ toString index
  | incomplete index => "incomplete utf-8 byte sequence from index " ++ toString index

/-- Why a regular expression cannot be used. -/
inductive PatternFault
  | malformed
  | tooLarge
  deriving DecidableEq

/-- The wording of a fault in a regular expression. -/
def PatternFault.message : PatternFault → String
  | malformed => "regex parse error"
  | tooLarge => "Compiled regex exceeds size limit of 10485760 bytes."

/-- Why a function refuses its operand. -/
inductive Fault
  -- numbers
  | divisionByZero
  | negatedMinimum
  | roundingDigits
  | notANumber
  | numberText (text : String)
  | beyondInt64
  | beyondInt32
  | booleanText (text : String)
  | base
  | noDigits
  | formatSpecifier
  | bitwiseOperand (a : String)
  | bitwiseOperands (a b : String)
  -- versions
  | versionLength
  | versionText (text : String)
  | versionSign
  | versionFields (defined : Nat)
  | looseVersionText (text : String)
  -- texts
  | formatText
  | formatIndex
  | negativeCount
  | searchStart
  | searchCount
  | backwardStart
  | insertStart
  | padWidth
  | removeStart
  | removeCount
  | emptyOld
  | substringStartNegative
  | substringStartBeyond
  | substringLengthNegative
  | substringLengthBeyond
  | elementIndex
  | characterIndex
  -- dates
  | dateText (text : String)
  | dateParts
  | dateRange
  | spanNotANumber
  | spanRange
  | unmatchedQuote (quote : Char)
  -- paths and files
  | illegalPath (path : String)
  | longPath
  | emptyPath
  | emptyPathArgument
  | nullPath
  | fileNameHasDirectory
  | unreadable (path : String) (cause : FileFault)
  | unwritable (path : String) (cause : FileFault)
  | noDirectory (path : String)
  | searchPattern (pattern : String) (cause : GlobFault)
  -- regular expressions
  | rightToLeft
  | regularExpression (pattern : String) (cause : PatternFault)
  | danglingBackslash
  -- items, registry, surroundings
  | emptyInclude
  | hive (key : String)
  | registryView (text : String)
  | variableName
  | taskHostRuntime (text : String)
  | taskHostArchitecture (text : String)
  -- encodings
  | base64 (cause : Base64Fault) (position : Nat)
  | utf8 (cause : Utf8Fault)
  deriving DecidableEq

/-- The longest path, in bytes, is one shorter than this. -/
def pathLimit : Nat := 4096

/-- The wording of a fault. -/
def Fault.message : Fault → String
  | divisionByZero => "Attempted to divide by zero."
  | negatedMinimum => "Negating the minimum value of a twos complement number is invalid."
  | roundingDigits =>
    "Rounding digits must be between 0 and 15, inclusive. (Parameter 'digits')"
  | notANumber => "Function does not accept floating point Not-a-Number values."
  | numberText text => "The input string '" ++ text ++ "' was not in a correct format."
  | beyondInt64 => "Value was either too large or too small for an Int64."
  | beyondInt32 => "Value was either too large or too small for an Int32."
  | booleanText text => "String '" ++ text ++ "' was not recognized as a valid Boolean."
  | base => "Invalid Base."
  | noDigits => "Could not find any recognizable digits."
  | formatSpecifier => "Format specifier was invalid."
  | bitwiseOperand a => "Bitwise operations require integer operands, got \x60" ++ a ++ "\x60."
  | bitwiseOperands a b =>
    "Bitwise operations require integer operands, got \x60" ++ a ++ "\x60 and \x60" ++ b ++
      "\x60."
  | versionLength => "Version string portion was too short or too long."
  | versionText text => "Input string '" ++ text ++ "' was not in a correct format."
  | versionSign => "Version's parameters must be greater than or equal to zero."
  | versionFields defined => "Argument must be between 0 and " ++ toString defined ++ "."
  | looseVersionText text =>
    "Version string \"" ++ text ++ "\" was not in a correct format."
  | formatText => "Input string was not in a correct format."
  | formatIndex =>
    "Index (zero based) must be greater than or equal to zero and less than the size of the " ++
      "argument list."
  | negativeCount => "Count cannot be less than zero."
  | searchStart =>
    "Index was out of range. Must be non-negative and less than the size of the collection."
  | searchCount =>
    "Count must be positive and count must refer to a location within the string."
  | backwardStart => "startIndex must be less than length of string."
  | insertStart =>
    "Specified argument was out of the range of valid values. (Parameter 'startIndex')"
  | padWidth => "Non-negative number required. (Parameter 'totalWidth')"
  | removeStart => "StartIndex cannot be less than zero."
  | removeCount => "Index and count must refer to a location within the string."
  | emptyOld => "String cannot be of zero length. (Parameter 'oldValue')"
  | substringStartNegative => "startIndex cannot be less than zero. (Parameter 'startIndex')"
  | substringStartBeyond =>
    "startIndex cannot be larger than length of string. (Parameter 'startIndex')"
  | substringLengthNegative => "Length cannot be less than zero. (Parameter 'length')"
  | substringLengthBeyond =>
    "Index and length must refer to a location within the string. (Parameter 'length')"
  | elementIndex => "Index was outside the bounds of the array."
  | characterIndex =>
    "Index was out of range. Must be non-negative and less than the size of the collection. " ++
      "(Parameter 'index')"
  | dateText text => "String '" ++ text ++ "' was not recognized as a valid DateTime."
  | dateParts => "Year, Month, and Day parameters describe an un-representable DateTime."
  | dateRange =>
    "The added or subtracted value results in an un-representable DateTime."
  | spanNotANumber => "TimeSpan does not accept floating point Not-a-Number values."
  | spanRange => "TimeSpan overflowed because the duration is too long."
  | unmatchedQuote quote =>
    "Cannot find a matching quote character for the character '" ++ quote.toString ++ "'."
  | illegalPath path => "Illegal characters in path \"" ++ path ++ "\"."
  | longPath =>
    "The specified path, file name, or both are too long. The fully qualified file name must " ++
      "be less than " ++ toString pathLimit ++ " characters."
  | emptyPath => "The path is empty."
  | emptyPathArgument => "The path is empty. (Parameter 'path')"
  | nullPath => "Value cannot be null. (Parameter 'paths')"
  | fileNameHasDirectory =>
    "The parameter \"file\" can only be a file name and cannot include a directory."
  | unreadable path cause => "Could not read file '" ++ path ++ "': " ++ cause.message
  | unwritable path cause => "Could not write file '" ++ path ++ "': " ++ cause.message
  | noDirectory path => "Could not find a part of the path '" ++ path ++ "'."
  | searchPattern pattern cause =>
    "Invalid search pattern '" ++ pattern ++ "': error parsing glob '" ++ pattern ++ "': " ++
      cause.message
  | rightToLeft => "RegexOptions.RightToLeft is not supported."
  | regularExpression pattern cause => "Invalid pattern '" ++ pattern ++ "': " ++ cause.message
  | danglingBackslash => "Illegal \\ at end of pattern."
  | emptyInclude => "The item specification is empty."
  | hive key => "The registry key \"" ++ key ++ "\" does not start with a valid hive name."
  | registryView text => "Requested value '" ++ text ++ "' was not found in RegistryView."
  | variableName =>
    "Environment variable name cannot contain equal character. (Parameter 'variable')"
  | taskHostRuntime text =>
    "The runtime \"" ++ text ++ "\" is not a valid task host runtime."
  | taskHostArchitecture text =>
    "The architecture \"" ++ text ++ "\" is not a valid task host architecture."
  | base64 cause position => cause.message ++ " at " ++ toString position
  | utf8 cause => cause.message

end BuildExpr
