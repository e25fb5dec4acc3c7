/-!
# Problems with settings

A value given for a setting can be of the wrong type or break the rule of its
field.  A problem names the field and the reason.
-/

namespace TypedMustache.Settings

/-- Why a value cannot be used for a setting. -/
inductive Refusal where
  /-- The value is not a text. -/
  | notText
  /-- The value is a text or bytes, but no sequence of characters. -/
  | notUnicode
  /-- The value cannot be taken for a truth value. -/
  | notBoolean
  /-- The value is a text or a number, but none that means true or false. -/
  | unclearBoolean
  /-- The text cannot name a parameter. -/
  | unusableName (name : String)
  /-- The text does not name an escaping function. -/
  | notEscaping (name : String)
  /-- The indentation is empty or holds more than white space. -/
  | notBlank
deriving DecidableEq, Repr

namespace Refusal

/-- The word that names a refusal. -/
def label : Refusal → String
  | notText => "string_type"
  | notUnicode => "string_unicode"
  | notBoolean => "bool_type"
  | unclearBoolean => "bool_parsing"
  | unusableName _ | notEscaping _ | notBlank => "value_error"

/-- The refusal in words. -/
def message : Refusal → String
  | notText => "Input should be a valid string"
  | notUnicode =>
    "Input should be a valid string, unable to parse raw data as a unicode string"
  | notBoolean => "Input should be a valid boolean"
  | unclearBoolean => "Input should be a valid boolean, unable to interpret input"
  | unusableName name => "Value error, '" ++ name ++ "' is not a usable Python identifier"
  | notEscaping name =>
    "Value error, '" ++ name ++ "' is not an escaping function of stache.runtime"
  | notBlank => "Value error, indent must be non-empty whitespace"

end Refusal

/-- A setting whose value cannot be used. -/
structure Problem where
  field : String
  refusal : Refusal
deriving DecidableEq, Repr

end TypedMustache.Settings
