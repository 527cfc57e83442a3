import AppMount.Text.Clipped
import AppMount.Text.Quoted

/-!
# Conversions that fail

A primitive class is called to convert something into a whole number, a text or a mapping. This
file lists what such a call can run into.

* `ConversionFault`: the ways a conversion can fail; `ConversionFault.text`: their texts;
* `ConversionFault.isAboutValue`: whether the value is at fault, and not its kind.
-/

namespace AppMount

/-- The most digits of a number that are worked out from a text or written into one. -/
def mostDigits : Nat := 4300

/-- **Why a primitive class cannot convert what it is called with.** -/
inductive ConversionFault where
  /-- The call has a keyword that the class does not know. -/
  | keyword (callee name : String)
  /-- The call has too many arguments. -/
  | tooMany (callee : String) (most given : Nat)
  /-- More than one thing is to become one mapping. -/
  | manyMappings (given : Nat)
  /-- The class of mappings is to become a mapping, and none of them is there to give its keys. -/
  | keysOfClass
  /-- Something cannot become a whole number. -/
  | notNumber (typeName : String)
  /-- A text, which is given by its description, does not spell a whole number. -/
  | notSpelled (base : Int) (description : String)
  /-- A text spells a number with more digits than are worked out. -/
  | tooManyDigits (digits : Nat)
  /-- A number has more digits than are written out. -/
  | tooLong
  /-- A text is asked for an item by something that is no position. -/
  | notPosition (typeName : String)
  /-- The base is not a whole number. -/
  | notBase (typeName : String)
  /-- There is no such base. -/
  | noSuchBase
  /-- A base is given for something that is not a text. -/
  | baseWithoutText
  /-- An argument of a call has to be a text. -/
  | notText (callee argument typeName : String)
  /-- Something is to be decoded and is not encoded. -/
  | notEncoded (typeName : String)
  /-- A text is to be decoded. -/
  | decodedText
  /-- A text that is to name something holds a null character. -/
  | nullInText
  deriving DecidableEq, Repr

namespace ConversionFault

/-- **The text of a fault.** -/
def text : ConversionFault → String
  | .keyword callee name => "'" ++ name ++ "' is an invalid keyword argument for " ++ callee ++ "()"
  | .tooMany callee most given =>
    callee ++ "() takes at most " ++ toString most ++ " arguments (" ++ toString given ++ " given)"
  | .manyMappings given => "dict expected at most 1 argument, got " ++ toString given
  | .keysOfClass => "unbound method dict.keys() needs an argument"
  | .notNumber typeName =>
    "int() argument must be a string, a bytes-like object or a real number, not '"
      ++ Text.clipped 200 typeName ++ "'"
  | .notSpelled base description =>
    "invalid literal for int() with base " ++ toString base ++ ": "
      ++ String.ofList (description.toList.take 200)
  | .tooManyDigits digits =>
    "Exceeds the limit (" ++ toString mostDigits ++ " digits) for integer string conversion: "
      ++ "value has " ++ toString digits
      ++ " digits; use sys.set_int_max_str_digits() to increase the limit"
  | .tooLong =>
    "Exceeds the limit (" ++ toString mostDigits ++ " digits) for integer string conversion; "
      ++ "use sys.set_int_max_str_digits() to increase the limit"
  | .notPosition typeName => "string indices must be integers, not '" ++ typeName ++ "'"
  | .notBase typeName =>
    "'" ++ Text.clipped 200 typeName ++ "' object cannot be interpreted as an integer"
  | .noSuchBase => "int() base must be >= 2 and <= 36, or 0"
  | .baseWithoutText => "int() can't convert non-string with explicit base"
  | .notText callee argument typeName =>
    callee ++ "() argument '" ++ argument ++ "' must be str, not " ++ Text.clipped 50 typeName
  | .notEncoded typeName =>
    "decoding to str: need a bytes-like object, " ++ Text.clipped 80 typeName ++ " found"
  | .decodedText => "decoding str is not supported"
  | .nullInText => "embedded null character"

/-- Whether the value that is converted is at fault, and not its kind. -/
def isAboutValue : ConversionFault → Bool
  | .notSpelled .. | .noSuchBase | .tooManyDigits _ | .tooLong | .nullInText => true
  | _ => false

end ConversionFault

end AppMount
