import NameFlow.Files.ReadError
import NameFlow.Text.Count

/-!
# What can go wrong with vocabulary files
-/

namespace NameFlow.Vocabulary

set_option autoImplicit false

/-- What is wrong with a line of a frequency list. -/
inductive FrequencyFault
  | noPhrase (content : String)
  | badCount (text : String) (fault : Text.CountFault)
deriving DecidableEq, Repr, Inhabited

def FrequencyFault.message : FrequencyFault → String
  | .noPhrase content => "expected `count phrase`, got `" ++ content ++ "`"
  | .badCount text fault => "bad count `" ++ text ++ "`: " ++ fault.message

/-- What is wrong with a line of a key file. -/
inductive KeyFault
  | noName
  | outsideEntry (content : String)
deriving DecidableEq, Repr, Inhabited

def KeyFault.message : KeyFault → String
  | .noName => "entry without a name"
  | .outsideEntry content => "`" ++ content ++ "` outside an entry"

inductive Error
  | unreadable (path : String) (cause : Files.ReadError)
  | frequency (line : Nat) (fault : FrequencyFault)
  | missingTotal
  | keyFile (line : Nat) (fault : KeyFault)
  | unknownPreset (name : String)
deriving DecidableEq, Repr, Inhabited

def Error.message : Error → String
  | .unreadable path cause => Files.unreadable path cause
  | .frequency line fault => "frequency list line " ++ toString line ++ ": " ++ fault.message
  | .missingTotal => "frequency list has no `*` total"
  | .keyFile line fault => "key file line " ++ toString line ++ ": " ++ fault.message
  | .unknownPreset name => "unknown role preset `" ++ name ++ "`"

/-- The failure behind a failure, where there is one. -/
def Error.cause? : Error → Option String
  | .unreadable _ cause => some cause.message
  | _ => none

end NameFlow.Vocabulary
