set_option autoImplicit false

/-! Forms of command lines. A form says which options and operands a command has, and what each does to
the record that is gathered. A line is read word by word. The value of an option may stand in the same
word or be the next word, so a value is kept back until it is clear that the word is complete, and is
checked only then: of two faults the one that comes to light first counts. -/

namespace Callsite.CommandLine

inductive UsageFault where
  | helpWanted
  | versionWanted
  | nothingGiven
  | missingCommand
  | unknownCommand
  | missingOperand
  | unknownArgument
  /-- An option or a path has no value, or an empty one. -/
  | missingValue
  | malformedValue
  | unexpectedValue
  | repeatedOption
  deriving DecidableEq, Repr

namespace UsageFault

def message : UsageFault → String
  | helpWanted => "help is wanted"
  | versionWanted => "the version is wanted"
  | nothingGiven | missingCommand => "a command is missing"
  | unknownCommand => "unknown command"
  | missingOperand => "an argument is missing"
  | unknownArgument => "unexpected argument"
  | missingValue => "a value is missing"
  | malformedValue => "malformed value"
  | unexpectedValue => "unexpected value"
  | repeatedOption => "an option is given twice"

end UsageFault

abbrev Store (α : Type) := String → α → Except UsageFault α

inductive Effect (α : Type) where
  | switch (set : α → α)
  /-- Takes a value, at most once. -/
  | value (store : Store α)
  | values (store : Store α)
  | stop (fault : UsageFault)

namespace Effect

def takesValue {α : Type} : Effect α → Bool
  | value _ | values _ => true
  | switch _ | stop _ => false

def isRepeatable {α : Type} : Effect α → Bool
  | values _ => true
  | switch _ | value _ | stop _ => false

def apply {α : Type} (effect : Effect α) (text : String) (record : α) : Except UsageFault α :=
  match effect with
  | switch set => .ok (set record)
  | value store | values store => store text record
  | stop fault => .error fault

end Effect

structure Parameter (α : Type) where
  letter : Option Char := none
  name : String
  effect : Effect α

structure Form (α : Type) where
  parameters : List (Parameter α)
  operands : List (Store α) := []
  commands : List String := []

namespace Form

def named? {α : Type} (form : Form α) (name : String) : Option (Parameter α) :=
  form.parameters.find? (·.name = name)

def lettered? {α : Type} (form : Form α) (letter : Char) : Option (Parameter α) :=
  form.parameters.find? (·.letter = some letter)

end Form

inductive Pending (α : Type) where
  | nothing
  | awaiting (parameter : Parameter α)
  | option (parameter : Parameter α) (text : String)
  | operand (store : Store α) (text : String)

structure Reading (α : Type) where
  record : α
  given : List String := []
  operands : List (Store α)
  pending : Pending α := .nothing
  /-- Two dashes have been read: all words are operands. -/
  plain : Bool := false

namespace Reading

variable {α : Type}

/-- Applies an option. Unless it is repeatable, it may be given once. -/
def give (reading : Reading α) (parameter : Parameter α) (text : String) :
    Except UsageFault (Reading α) := do
  if !parameter.effect.isRepeatable && reading.given.contains parameter.name then
    .error .repeatedOption
  let record ← parameter.effect.apply text reading.record
  .ok { reading with record := record, given := parameter.name :: reading.given }

def settle (reading : Reading α) : Except UsageFault (Reading α) :=
  let settled := { reading with pending := .nothing }
  match reading.pending with
  | .nothing => .ok settled
  | .awaiting _ => .error .missingValue
  | .option parameter text => settled.give parameter text
  | .operand store text => do .ok { settled with record := ← store text settled.record }

def takeOption (reading : Reading α) (parameter : Parameter α) (value : Option String) :
    Except UsageFault (Reading α) := do
  let reading ← reading.settle
  match value with
  | some text => reading.give parameter text
  | none =>
      if parameter.effect.takesValue then .ok { reading with pending := .awaiting parameter }
      else reading.give parameter ""

def takeNamed (form : Form α) (reading : Reading α) (name : String) (value : Option String) :
    Except UsageFault (Reading α) :=
  match form.named? name with
  | none => .error .unknownArgument
  | some parameter =>
      if value.isSome && !parameter.effect.takesValue then .error .unexpectedValue
      else reading.takeOption parameter value

/-- The value that follows a letter in its word. An equals sign before it does not count. -/
def valueAfterLetter : List Char → Option String
  | [] => none
  | '=' :: rest => some (String.ofList rest)
  | rest => some (String.ofList rest)

/-- Takes options by their letters. The first one that takes a value takes the rest of the word. -/
def takeLetters (form : Form α) (reading : Reading α) :
    List Char → Except UsageFault (Reading α)
  | [] => .ok reading
  | letter :: rest =>
      match form.lettered? letter with
      | none => .error .unknownArgument
      | some parameter =>
          if parameter.effect.takesValue then reading.takeOption parameter (valueAfterLetter rest)
          else do takeLetters form (← reading.takeOption parameter none) rest

/-- Takes an operand. A word too many is taken for the name of a command where commands are expected. -/
def takeOperand (form : Form α) (reading : Reading α) (word : String) :
    Except UsageFault (Reading α) :=
  match reading.operands with
  | store :: rest => do
      .ok { ← reading.settle with operands := rest, pending := .operand store word }
  | [] =>
      if form.commands.isEmpty || form.commands.contains word then .error .unknownArgument
      else .error .unknownCommand

def takePlain (form : Form α) (reading : Reading α) (word : String) :
    Except UsageFault (Reading α) :=
  match reading.pending with
  | .awaiting parameter => .ok { reading with pending := .option parameter word }
  | _ => takeOperand form reading word

def take (form : Form α) (reading : Reading α) (word : String) : Except UsageFault (Reading α) :=
  if reading.plain then takeOperand form reading word
  else
    match word.toList with
    | ['-', '-'] => .ok { reading with plain := true }
    | '-' :: '-' :: rest =>
        let name := String.ofList (rest.takeWhile (· ≠ '='))
        match rest.dropWhile (· ≠ '=') with
        | [] => takeNamed form reading name none
        | _ :: value => takeNamed form reading name (some (String.ofList value))
    | '-' :: letter :: rest => takeLetters form reading (letter :: rest)
    | _ => takePlain form reading word

def beginsCommand (form : Form α) (reading : Reading α) (word : String) : Bool :=
  match reading.pending with
  | .awaiting _ => false
  | _ => !reading.plain && form.commands.contains word

/-- Takes words up to the first that begins a further command. That one comes back with the words after
it. -/
def takeWords (form : Form α) (reading : Reading α) :
    List String → Except UsageFault (Reading α × Option (String × List String))
  | [] => .ok (reading, none)
  | word :: rest =>
      if beginsCommand form reading word then .ok (reading, some (word, rest))
      else do takeWords form (← take form reading word) rest

end Reading

namespace Form

def start {α : Type} (form : Form α) (record : α) : Reading α where
  record := record
  operands := form.operands

def read {α : Type} (form : Form α) (record : α) (words : List String) : Except UsageFault α := do
  let (reading, _) ← Reading.takeWords form (form.start record) words
  let reading ← reading.settle
  if reading.operands.isEmpty then .ok reading.record else .error .missingOperand

end Form

end Callsite.CommandLine
