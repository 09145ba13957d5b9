/-!
# Command lines

The grammar of command lines. A word that starts with two dashes names a switch in full, one that
starts with one dash names switches by letters; a switch with a value takes the rest of its word or
the next word. After a word of two dashes no word is a switch. A value is checked when it is
complete, which for a value in a word of its own is when the next switch or the end is reached.
-/

namespace TableMigration.Command

/-- Why a command line is not obeyed. -/
inductive Refusal where
  | help
  | version
  /-- The line says nothing, which is answered with help. -/
  | nothingAsked
  | noCommand
  | unknownCommand
  | unknownArgument
  | missingArgument
  | badValue
  | unwantedValue
  | conflict
deriving DecidableEq, Repr

inductive Role where
  | flag
  | text
  /-- Takes a text that is not empty. -/
  | path
  | help
  | version
deriving DecidableEq, Repr

def Role.takesValue : Role → Bool
  | .text | .path => true
  | _ => false

structure Switch where
  name : String
  letter : Option Char
  role : Role
deriving DecidableEq, Repr

/-- What a command line of one command may hold. -/
structure Form where
  switches : List Switch
  /-- The path that stands alone, if there is one. -/
  operand : Option Switch
  commands : List String

structure Reading where
  /-- Switches and operands with their values, in order. -/
  given : List (String × String)
  /-- A switch whose value is not yet checked, or not yet there. -/
  pending : Option (Switch × Option String)
  operandSeen : Bool

namespace Reading

def empty : Reading where
  given := []
  pending := none
  operandSeen := false

def value? (reading : Reading) (name : String) : Option String :=
  reading.given.lookup name

def has (reading : Reading) (name : String) : Bool :=
  (reading.value? name).isSome

def awaitsValue (reading : Reading) : Bool :=
  match reading.pending with
  | some (_, none) => true
  | _ => false

/-- Adds a switch with its value. No switch may be given twice, and a path is not empty. -/
def accept (reading : Reading) (switch : Switch) (value : String) : Except Refusal Reading :=
  if reading.has switch.name then .error .conflict
  else if switch.role = .path ∧ value = "" then .error .badValue
  else .ok { reading with given := reading.given ++ [(switch.name, value)] }

def settle (reading : Reading) : Except Refusal Reading :=
  match reading.pending with
  | none => .ok reading
  | some (_, none) => .error .badValue
  | some (switch, some value) => { reading with pending := none }.accept switch value

/-- Reads a switch with the value in its own word, if there is one. -/
def addSwitch (reading : Reading) (switch : Switch) (attached : Option String) :
    Except Refusal Reading :=
  if switch.role.takesValue then do
    let reading ← reading.settle
    match attached with
    | some value => reading.accept switch value
    | none => .ok { reading with pending := some (switch, none) }
  else if attached.isSome then .error .unwantedValue
  else do
    let reading ← reading.settle
    match switch.role with
    | .help => .error .help
    | .version => .error .version
    | _ => reading.accept switch "true"

/-- Reads switches by letters; the first that takes a value has the rest of the word as it. -/
def addLetters (form : Form) (reading : Reading) : List Char → Except Refusal Reading
  | [] => .ok reading
  | letter :: rest =>
    match form.switches.find? (·.letter == some letter) with
    | none => .error .unknownArgument
    | some switch =>
      if switch.role.takesValue then
        reading.addSwitch switch <|
          match rest with
          | [] => none
          | '=' :: value => some (String.ofList value)
          | value => some (String.ofList value)
      else do
        let reading ← reading.addSwitch switch none
        reading.addLetters form rest

/-- Reads a switch named in full, with a value after an equals sign. -/
def addNamed (form : Form) (reading : Reading) (word : List Char) : Except Refusal Reading :=
  let name := String.ofList (word.takeWhile (· != '='))
  let attached :=
    match word.dropWhile (· != '=') with
    | [] => none
    | _ :: value => some (String.ofList value)
  match form.switches.find? (·.name == name) with
  | none => .error .unknownArgument
  | some switch => reading.addSwitch switch attached

/-- Reads a word that stands alone: the operand, if one is still to come. -/
def addOperand (form : Form) (reading : Reading) (literal : Bool) (word : String) :
    Except Refusal Reading :=
  match form.operand with
  | some operand =>
    if reading.operandSeen then .error .unknownArgument
    else do
      let reading ← reading.settle
      .ok { reading with pending := some (operand, some word), operandSeen := true }
  | none =>
    if form.commands.isEmpty || (literal && form.commands.contains word) then
      .error .unknownArgument
    else .error .unknownCommand

/-- Reads a word that is no switch: the value that is awaited, or a word that stands alone. -/
def addWord (form : Form) (reading : Reading) (literal : Bool) (word : String) :
    Except Refusal Reading :=
  match reading.pending, literal with
  | some (switch, none), false => .ok { reading with pending := some (switch, some word) }
  | _, _ => reading.addOperand form literal word

/-- Reads words up to the name of a command, which is returned with the words after it. -/
def addWords (form : Form) (reading : Reading) (literal : Bool) :
    List String → Except Refusal (Reading × Option (String × List String))
  | [] => .ok (reading, none)
  | word :: rest =>
    if literal then do
      let reading ← reading.addWord form true word
      reading.addWords form true rest
    else if !reading.awaitsValue && form.commands.contains word then
      .ok (reading, some (word, rest))
    else
      match word.toList with
      | ['-', '-'] => reading.addWords form true rest
      | '-' :: '-' :: name => do
        let reading ← reading.addNamed form name
        reading.addWords form false rest
      | '-' :: letter :: letters => do
        let reading ← reading.addLetters form (letter :: letters)
        reading.addWords form false rest
      | _ => do
        let reading ← reading.addWord form false word
        reading.addWords form false rest

end Reading

end TableMigration.Command
