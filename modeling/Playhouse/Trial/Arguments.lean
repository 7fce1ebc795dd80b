import Playhouse.Text.Integer

/-!
Reading a command line. Words that start with a dash are options and may be shortened as long as
they stay clear; the others are operands, and all words after two dashes are. Operands are taken in
groups between options: a group that gives the first operand also settles an optional one after it,
by its absence if need be.
-/
namespace Playhouse.Trial.Arguments

inductive Taking where
  | help
  | nothing
  | text
  | number
  | choice (among : List String)
  deriving DecidableEq

/-- An option: its names, of which the last is its key, and what it takes. -/
structure Flag where
  names : List String
  taking : Taking
  deriving DecidableEq

def Flag.key (flag : Flag) : String := flag.names.getLastD ""

def Flag.takesWord (flag : Flag) : Bool :=
  match flag.taking with
  | .help | .nothing => false
  | _ => true

/-- An operand. One that is optional may be absent where others are present; one that is not needed
may be absent altogether. -/
structure Operand where
  name : String
  optional : Bool := false
  needed : Bool := true
  among : List String := []
  deriving DecidableEq

/-- A command: how it is called, the words it takes, and the texts that explain it. -/
structure Command where
  name : String
  usage : List String
  explanation : List String
  flags : List Flag
  operands : List Operand

/-- What a command line gives: the words given for each key. An option without a word gives the
empty text. -/
abbrev Given := List (String × String)

/-- Why a command line is not carried out. -/
inductive Ending where
  | help
  | complaint (message : String)
  deriving DecidableEq

/-- An option as a word mentions it, with the text that is attached to it. -/
structure Mention where
  flag : Flag
  name : String
  joined : Bool := false
  attached : Option String := none

inductive Role where
  | operand
  | divider
  | unknown
  | option (mention : Mention)

def Role.isOption : Role → Bool
  | .unknown | .option _ => true
  | _ => false

namespace Command

def flag? (command : Command) (name : String) : Option Flag := command.flags.find? (·.names.contains name)

def flagNames (command : Command) : List String := command.flags.flatMap (·.names)

/-- A word cut at its first equals sign. -/
def cutValue (word : String) : String × Option String :=
  match Text.cut? ['='] word.toList with
  | some (name, value) => (String.ofList name, some (String.ofList value))
  | none => (word, none)

/-- The options that a word may mean: long ones by the start of their names, short ones with a text
attached. -/
def candidates (command : Command) (word : String) : List Mention :=
  if startsWith "--" word then
    let (start, value) := cutValue word
    command.flagNames.filterMap fun name =>
      if startsWith start name then
        (command.flag? name).map fun flag => { flag, name, joined := value.isSome, attached := value }
      else none
  else
    command.flagNames.filterMap fun name =>
      if name == (word.take 2).toString then
        (command.flag? name).map fun flag => { flag, name, attached := some (word.drop 2).toString }
      else if startsWith word name then (command.flag? name).map fun flag => { flag, name }
      else none

/-- Whether a word is a negative number, with or without a fraction. -/
def isNegativeNumber (word : String) : Bool :=
  let isDigit (c : Char) : Bool := (Text.decimalDigit? c).isSome
  match word.toList with
  | '-' :: rest =>
    let body := if rest.getLast? = some '\n' then rest.dropLast else rest
    match body.dropWhile isDigit with
    | [] => !body.isEmpty
    | '.' :: fraction => !fraction.isEmpty && fraction.all isDigit
    | _ => false
  | _ => false

/-- What a word before any divider is taken for. -/
def role (command : Command) (word : String) : Except Ending Role :=
  if !startsWith "-" word then .ok .operand
  else
    match command.flag? word with
    | some flag => .ok (.option { flag, name := word })
    | none =>
      let (name, value) := cutValue word
      if word.length = 1 then .ok .operand
      else
        match value, command.flag? name with
        | some text, some flag => .ok (.option { flag, name, joined := true, attached := some text })
        | _, _ =>
          match command.candidates word with
          | [mention] => .ok (.option mention)
          | [] =>
            if isNegativeNumber word || word.contains ' ' then .ok .operand else .ok .unknown
          | several => .error (.complaint ("ambiguous option: " ++ word ++ " could match "
              ++ joinTexts ", " (several.map (·.name))))

/-- The words with what each is taken for. -/
def roles (command : Command) : List String → Except Ending (List (String × Role))
  | [] => .ok []
  | word :: rest =>
    if word == "--" then .ok ((word, .divider) :: rest.map fun word => (word, .operand))
    else do
      let role ← command.role word
      return (word, role) :: (← roles command rest)

end Command

def complain {α : Type} (about message : String) : Except Ending α :=
  .error (.complaint ("argument " ++ about ++ ": " ++ message))

/-- A word has to be one of those that are allowed; none listed allows all. -/
def checkChoice (about : String) (among : List String) (word : String) : Except Ending Unit :=
  if among.isEmpty || among.contains word then .ok ()
  else complain about ("invalid choice: " ++ quotedText word ++ " (choose from "
    ++ joinTexts ", " (among.map quotedText) ++ ")")

/-- Carries out an option with the word it takes. -/
def Flag.carryOut (flag : Flag) (word : Option String) (given : Given) : Except Ending Given := do
  let about := joinTexts "/" flag.names
  match flag.taking with
  | .help => .error .help
  | .nothing | .text => pure ()
  | .number =>
    if (word.bind readInteger?).isNone && word.isSome then
      complain about ("invalid int value: " ++ quotedText (word.getD ""))
  | .choice among => if let some text := word then checkChoice about among text
  return given ++ [(flag.key, word.getD "")]

/-- The options that a mention stands for, each with its word, and what is left over. A short option
without a word may have further ones attached. `next` is the word after it, if that is an operand. -/
def Mention.options (command : Command) (next : Option String) :
    (limit : Nat) → Mention → Except Ending (List (Flag × Option String) × Bool × List String)
  | 0, _ => .ok ([], false, [])
  | limit + 1, mention =>
    let about := joinTexts "/" mention.flag.names
    match mention.attached with
    | none =>
      if !mention.flag.takesWord then .ok ([(mention.flag, none)], false, [])
      else
        match next with
        | some word => .ok ([(mention.flag, some word)], true, [])
        | none => complain about "expected one argument"
    | some text =>
      if mention.flag.takesWord then .ok ([(mention.flag, some text)], false, [])
      else if text == "" || startsWith "--" mention.name || mention.joined || startsWith "-" text then
        complain about ("ignored explicit argument " ++ quotedText text)
      else
        let name := "-" ++ (text.take 1).toString
        match command.flag? name with
        | none => .ok ([(mention.flag, none)], false, ["-" ++ text])
        | some flag => do
          let rest := (text.drop 1).toString
          let follower : Mention := if rest == "" then { flag, name }
            else if startsWith "=" rest then
              { flag, name, joined := true, attached := some (rest.drop 1).toString }
            else { flag, name, attached := some rest }
          let (more, takesNext, extras) ← Mention.options command next limit follower
          return ((mention.flag, none) :: more, takesNext, extras)

/-- The words at the front that are taken for dividers. -/
def dividers (words : List (String × Role)) : Nat :=
  (words.takeWhile fun (_, role) => role matches .divider).length

/-- How many words an operand takes: dividers around it count. Nothing if it is not there. -/
def Operand.size? (operand : Operand) (words : List (String × Role)) : Option Nat :=
  let before := dividers words
  match words.drop before with
  | (_, .operand) :: rest => some (before + 1 + dividers rest)
  | _ => if operand.optional then some before else none

/-- Takes as many operands as there are words for. -/
def takeOperands : List Operand → List (String × Role) → Given →
    Except Ending (List Operand × List (String × Role) × Given)
  | [], words, given => .ok ([], words, given)
  | operand :: more, words, given =>
    match operand.size? words with
    | none => .ok (operand :: more, words, given)
    | some size => do
      let taken := ((words.take size).map (·.1)).erase "--"
      let given ← match taken with
        | [] => pure given
        | word :: _ => do
          checkChoice operand.name operand.among word
          pure (given ++ [(operand.name, word)])
      takeOperands more (words.drop size) given

/-- A command line in the middle of being read. -/
structure Reading where
  operands : List Operand
  given : Given := []
  extras : List String := []

/-- Reads up to and with the last option. -/
def readOptions (command : Command) : (limit : Nat) → List (String × Role) → Reading →
    Except Ending (List (String × Role) × Reading)
  | 0, words, reading => .ok (words, reading)
  | limit + 1, words, reading =>
    if !words.any (·.2.isOption) then .ok (words, reading)
    else
      match words with
      | (_, .option mention) :: rest => do
        let next := match rest with
          | (word, .operand) :: _ => some word
          | _ => none
        let (options, takesNext, extras) ← mention.options command next ((mention.attached.getD "").length + 1)
        let given ← options.foldlM (fun given (flag, word) => flag.carryOut word given) reading.given
        readOptions command limit (if takesNext then rest.drop 1 else rest)
          { reading with given, extras := reading.extras ++ extras }
      | (word, .unknown) :: rest =>
        readOptions command limit rest { reading with extras := reading.extras ++ [word] }
      | _ => do
        let (operands, rest, given) ← takeOperands reading.operands words reading.given
        let (skipped, rest) := if rest.length < words.length then ([], rest)
          else rest.span fun (_, role) => !role.isOption
        readOptions command limit rest
          { operands, given, extras := reading.extras ++ skipped.map (·.1) }

def Command.read (command : Command) (words : List String) : Except Ending Given := do
  let words ← command.roles words
  let (rest, reading) ← readOptions command (2 * words.length + 1) words { operands := command.operands }
  let (operands, rest, given) ← takeOperands reading.operands rest reading.given
  let missing := (operands.filter fun operand => operand.needed && !operand.optional).map (·.name)
  if !missing.isEmpty then
    .error (.complaint ("the following arguments are required: " ++ joinTexts ", " missing))
  let extras := reading.extras ++ rest.map (·.1)
  if !extras.isEmpty then .error (.complaint ("unrecognized arguments: " ++ joinTexts " " extras))
  return given

def Command.usageText (command : Command) : String := String.join (command.usage.map (· ++ "\n"))

def Command.helpText (command : Command) : String :=
  command.usageText ++ String.join (command.explanation.map (· ++ "\n"))

/-- The text about a command line that cannot be read. -/
def Command.complaintText (command : Command) (message : String) : String :=
  command.usageText ++ command.name ++ ": error: " ++ message ++ "\n"

def Given.last? (given : Given) (key : String) : Option String :=
  (given.reverse.find? (·.1 == key)).map (·.2)

end Playhouse.Trial.Arguments
