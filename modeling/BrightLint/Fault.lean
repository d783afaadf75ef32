/-!
Why an operation of the linter can fail. A fault is a cause, not a text; `Fault.reason` words it.
-/

namespace BrightLint

/-- The two stages at which code can turn out not to be a program. -/
inductive Stage where
  | statement
  | program
deriving DecidableEq, Repr

/-- The causes of failure. -/
inductive Fault where
  /-- A settings object lacks a key. -/
  | missingKey
  /-- A position lies outside a list. -/
  | badIndex
  /-- A setting has a type that its use does not allow. -/
  | wrongType
  /-- Something that has to be a text is not one. -/
  | notText
  /-- A whole number is too large to be combined with a fraction. -/
  | tooLarge
  /-- A path names nothing. -/
  | noFile
  /-- A directory stands where a file is named. -/
  | notFile
  /-- A file stands where a directory is named. -/
  | notFolder
  /-- No encoding has the given name. -/
  | unknownEncoding
  /-- A source file is not stored in UTF-8. -/
  | undecodable
  /-- A pattern in the settings is not well formed. -/
  | malformedPattern
  /-- A repetition in a pattern of the settings has too many rounds. -/
  | tooManyRounds
  /-- No message has the given key. -/
  | unknownMessage
  /-- No lexeme starts here. -/
  | noLexeme
  /-- The grammar does not derive the code. -/
  | unparsed (stage : Stage)
deriving DecidableEq, Repr

/-- A fault in words. -/
def Fault.reason : Fault → String
  | missingKey => "a setting is missing"
  | badIndex => "a closing bracket or the end of a line has nothing before it"
  | wrongType => "a setting is of the wrong type"
  | notText => "a setting that has to be a text is not one"
  | tooLarge => "a number in the settings is too large"
  | noFile => "a source file is not there"
  | notFile => "a directory has the name of a source file"
  | notFolder => "a source file is looked for below a file"
  | unknownEncoding => "the encoding in the settings is not known"
  | undecodable => "a source file is not stored in UTF-8"
  | malformedPattern => "a pattern in the settings is not well formed"
  | tooManyRounds => "a repetition in a pattern of the settings has too many rounds"
  | unknownMessage => "a message has no text"
  | noLexeme => "some text is not code"
  | unparsed .statement => "a statement cannot be parsed"
  | unparsed .program => "the statements do not make up a program"

end BrightLint
