import NameFlow.OrderedMap
import NameFlow.Vocabulary.Error

/-!
# Categories and role maps

The letters of tags are counted toward three categories. A role map says which letter counts
toward which; it is put together from named presets, of which a later one wins.
-/

namespace NameFlow.Vocabulary

set_option autoImplicit false

inductive Category
  | type
  | function
  | variable
deriving DecidableEq, Repr, Inhabited

namespace Category

def letter : Category → Char
  | .type => 'T'
  | .function => 'F'
  | .variable => 'V'

def all : List Category := [.type, .function, .variable]

end Category

inductive Preset
  | basic
  | anyType
  | typeDefs
  | anyFunction
  | functionDefs
  | anyVariable
  | variableDefs
deriving DecidableEq, Repr, Inhabited

namespace Preset

def entries : Preset → List (Char × Category)
  | .basic => [('T', .type), ('F', .type), ('V', .type)]
  | .anyType => [('T', .type), ('r', .type), ('u', .type), ('e', .type)]
  | .typeDefs => [('T', .type)]
  | .anyFunction => [('F', .function), ('f', .function)]
  | .functionDefs => [('F', .function)]
  | .anyVariable => [('V', .variable), ('a', .variable), ('v', .variable)]
  | .variableDefs => [('V', .variable)]

def ofName? : String → Option Preset
  | "basic" => some .basic
  | "types" => some .anyType
  | "type-defs" => some .typeDefs
  | "functions" => some .anyFunction
  | "function-defs" => some .functionDefs
  | "variables" => some .anyVariable
  | "variable-defs" => some .variableDefs
  | _ => none

def ofName (name : String) : Except Error Preset :=
  match ofName? name with
  | some preset => .ok preset
  | none => .error (.unknownPreset name)

end Preset

/-- Which letters count toward which category. -/
structure RoleMap where
  letters : OrderedMap Char Category

namespace RoleMap

def defaultPresets : List Preset := [.anyType, .anyFunction, .anyVariable]

/-- The letters of all presets; no presets stand for the default ones. -/
def ofPresets (presets : List Preset) : RoleMap :=
  let presets := if presets.isEmpty then defaultPresets else presets
  ⟨(presets.flatMap Preset.entries).foldl (fun m (letter, category) => m.insert letter category) ∅⟩

instance : Inhabited RoleMap := ⟨ofPresets []⟩

def category? (m : RoleMap) (letter : Char) : Option Category := m.letters.get? letter

end RoleMap

end NameFlow.Vocabulary
