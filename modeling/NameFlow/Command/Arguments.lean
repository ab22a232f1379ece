/-!
# Arguments

The words of a command line are options and operands. An option has a long name, and may have a
letter. Letters can be bundled, and a value follows its option behind an equals sign, directly
behind the letter, or as the next word, if that does not look like an option itself. Two dashes
end the options.
-/

namespace NameFlow.Command

set_option autoImplicit false

inductive OptionKind
  /-- Given once at most, without a value. -/
  | flag
  /-- Given any number of times, without a value. -/
  | count
  /-- Given once at most, with a value. -/
  | value
  /-- Given any number of times, each time with a value. -/
  | values
deriving DecidableEq, Repr

def OptionKind.takesValue : OptionKind → Bool
  | .flag => false
  | .count => false
  | .value => true
  | .values => true

def OptionKind.repeats : OptionKind → Bool
  | .flag => false
  | .count => true
  | .value => false
  | .values => true

structure OptionSpec where
  name : String
  letter : Option Char
  kind : OptionKind
deriving DecidableEq, Repr

/-- What a word, or two of them, stand for. -/
inductive Item
  | option (name : String) (value : Option String)
  /-- An operand, with the words behind it. -/
  | operand (text : String) (rest : List String)
  /-- Two dashes alone. -/
  | endOfOptions
  | invalid
deriving DecidableEq, Repr

/-- Whether a word is read as options rather than as a value or an operand. -/
def looksLikeOption : List Char → Bool
  | '-' :: _ :: _ => true
  | _ => false

/-- Items, the last of which may still need its value: the option that does. -/
structure Scanned where
  items : List Item
  pending : Option String
deriving DecidableEq, Repr

/-- A word behind two dashes. -/
def scanLong (specs : List OptionSpec) (word : List Char) : Scanned :=
  let name := String.ofList (word.takeWhile (· ≠ '='))
  match specs.find? (·.name = name) with
  | none => ⟨[.invalid], none⟩
  | some spec =>
    match word.dropWhile (· ≠ '='), spec.kind.takesValue with
    | _ :: value, true => ⟨[.option name (some (String.ofList value))], none⟩
    | _ :: _, false => ⟨[.invalid], none⟩
    | [], true => ⟨[], some name⟩
    | [], false => ⟨[.option name none], none⟩

/-- The value of an option directly behind its letter. -/
def attachedValue : List Char → List Char
  | '=' :: value => value
  | value => value

/-- A bundle of letters behind one dash. -/
def scanLetters (specs : List OptionSpec) : List Char → Scanned
  | [] => ⟨[], none⟩
  | letter :: letters =>
    match specs.find? (·.letter = some letter) with
    | none => ⟨[.invalid], none⟩
    | some spec =>
      if spec.kind.takesValue then
        if letters.isEmpty then ⟨[], some spec.name⟩
        else ⟨[.option spec.name (some (String.ofList (attachedValue letters)))], none⟩
      else
        let rest := scanLetters specs letters
        ⟨.option spec.name none :: rest.items, rest.pending⟩

/-- Operands behind the end of the options. -/
def scanOperands : List String → List Item
  | [] => []
  | word :: words => .operand word words :: scanOperands words

/-- What the words of a command line stand for, in order. -/
def scan (specs : List OptionSpec) : List String → List Item
  | [] => []
  | word :: words =>
    let scanned :=
      match word.toList with
      | '-' :: '-' :: long => some (scanLong specs long)
      | '-' :: letter :: letters => some (scanLetters specs (letter :: letters))
      | _ => none
    if word = "--" then .endOfOptions :: scanOperands words
    else match scanned with
      | none => .operand word words :: scan specs words
      | some ⟨items, none⟩ => items ++ scan specs words
      | some ⟨items, some name⟩ =>
        match words with
        | [] => items ++ [.invalid]
        | value :: words =>
          if looksLikeOption value.toList then items ++ [.invalid]
          else items ++ .option name (some value) :: scan specs words

/-- Options and operands that a command was given, none refused and none repeated that must
not be. -/
structure Given where
  items : List Item
deriving DecidableEq, Repr

namespace Given

def has (g : Given) (name : String) : Bool :=
  g.items.any fun item => item = .option name none

def values (g : Given) (name : String) : List String :=
  g.items.filterMap fun
    | .option n (some value) => if n = name then some value else none
    | _ => none

def value? (g : Given) (name : String) : Option String := (g.values name).head?

def operands (g : Given) : List String :=
  g.items.filterMap fun
    | .operand text _ => some text
    | _ => none

/-- How often an option is given. -/
def occurrences (items : List Item) (name : String) : Nat :=
  items.countP fun
    | .option n _ => n = name
    | _ => false

def ofWords (specs : List OptionSpec) (words : List String) : Option Given :=
  let items := scan specs words
  if items.contains .invalid then none
  else if specs.any fun spec => ! spec.kind.repeats && 1 < occurrences items spec.name then none
  else some ⟨items⟩

end Given

end NameFlow.Command
