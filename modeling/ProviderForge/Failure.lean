import ProviderForge.Grammar.Fault

namespace ProviderForge

inductive IdentifierFault
  | empty
  | badStart
  | badCharacter
  | reserved
  | keywordType
deriving DecidableEq, Repr

def IdentifierFault.message : IdentifierFault → String
  | .empty => "name is empty"
  | .badStart => "must start with a letter or underscore"
  | .badCharacter => "only ASCII letters, digits and underscores are allowed"
  | .reserved => "reserved keyword"
  | .keywordType => "keywords cannot name a type"

/-- Why a file operation is refused, with the number the system gives it. A path with a zero in it
never reaches the system. -/
inductive FileFault
  | notTellable
  | notFound
  | alreadyExists
  | notDirectory
  | isDirectory
  | invalidInput
  | directoryNotEmpty
  | nameTooLong
  | busy
deriving DecidableEq, Repr

def FileFault.message : FileFault → String
  | .notTellable => "file name contained an unexpected NUL byte"
  | .notFound => "No such file or directory (os error 2)"
  | .busy => "Device or resource busy (os error 16)"
  | .alreadyExists => "File exists (os error 17)"
  | .notDirectory => "Not a directory (os error 20)"
  | .isDirectory => "Is a directory (os error 21)"
  | .invalidInput => "Invalid argument (os error 22)"
  | .nameTooLong => "File name too long (os error 36)"
  | .directoryNotEmpty => "Directory not empty (os error 39)"

inductive Failure
  | unknownAttribute (entity name context : String)
  | duplicateAttribute (entity name : String)
  | duplicateEntity (kind name : String)
  | notPrimitive (name kind : String)
  | invalidIdentifier (name : String) (fault : IdentifierFault)
  | invalidFragment (context : String)
  | invalidFile (fault : SyntaxFault)
  | writeFailed (path : String) (fault : FileFault)
  | invalidConfiguration (reason : String)
  | tasksFailed (tasks : List String)
deriving DecidableEq, Repr

def Failure.message : Failure → String
  | .unknownAttribute entity name context =>
      s!"{entity}: {context} references unknown attribute '{name}'"
  | .duplicateAttribute entity name =>
      s!"{entity}: attribute '{name}' is declared more than once"
  | .duplicateEntity kind name => s!"{kind} '{name}' is declared more than once"
  | .notPrimitive name kind =>
      s!"Attribute '{name}' of type '{kind}' cannot be extracted as a primitive"
  | .invalidIdentifier name fault => s!"Invalid identifier '{name}': {fault.message}"
  | .invalidFragment context =>
      s!"Invalid code fragment in {context}: cannot parse string into token stream"
  | .invalidFile fault => s!"Code generation failed: Generated code is invalid: {fault.message}"
  | .writeFailed path fault =>
      s!"Failed to write output file '{path}': {fault.message}"
  | .invalidConfiguration reason => s!"Invalid configuration: {reason}"
  | .tasksFailed tasks =>
      s!"{tasks.length} generation task(s) failed: " ++ String.intercalate ", " tasks

end ProviderForge
