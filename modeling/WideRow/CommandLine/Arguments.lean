import WideRow.Text.Blank
import WideRow.Text.Numeral
import WideRow.Text.Terminal

namespace WideRow.CommandLine

inductive CommandName where
  | run
  | check
  deriving DecidableEq, Repr

inductive Opt where
  | job
  | table
  | partitions
  | stats
  deriving DecidableEq, Repr

inductive Command where
  | run (job table : String) (partitions : Nat) (stats : Bool)
  | check (job : String)
  deriving DecidableEq, Repr

inductive Request where
  | version
  | help
  | incomplete
  | command (c : Command)
  deriving DecidableEq, Repr

inductive CountFault where
  | empty
  | badDigit
  | tooLarge
  deriving DecidableEq, Repr

inductive Fault where
  | unexpected (argument : String)
  | unknownCommand (name : String)
  | repeated (option : Opt)
  | noValue (option : Opt)
  | badCount (value : String) (fault : CountFault)
  | surplusValue (value : String) (option : String)
  | missing
  deriving DecidableEq, Repr

def Command.paths : Command → List String
  | run job table _ _ => [job, table]
  | check job => [job]

namespace CommandName

def ofWord? : String → Option CommandName
  | "run" => some run
  | "check" => some check
  | _ => none

def options : CommandName → List Opt
  | run => [.job, .table, .partitions, .stats]
  | check => [.job]

end CommandName

namespace Opt

def name : Opt → String
  | job => "job"
  | table => "table"
  | partitions => "partitions"
  | stats => "stats"

def usage : Opt → String
  | job => "--job <JOB>"
  | table => "--table <TABLE>"
  | partitions => "--partitions <PARTITIONS>"
  | stats => "--stats"

def takesValue : Opt → Bool
  | stats => false
  | _ => true

end Opt

def CountFault.message : CountFault → String
  | empty => "cannot parse integer from empty string"
  | badDigit => "invalid digit found in string"
  | tooLarge => "number too large to fit in target type"

namespace Fault

def quoted (given : String) : String := "'" ++ Text.withoutControls given ++ "'"

def text : Fault → String
  | unexpected argument => "unexpected argument " ++ quoted argument ++ " found"
  | unknownCommand name => "unrecognized subcommand " ++ quoted name
  | repeated option => "the argument '" ++ option.usage ++ "' cannot be used multiple times"
  | noValue option => "a value is required for '" ++ option.usage ++ "' but none was supplied"
  | badCount value fault =>
    "invalid value " ++ quoted value ++ " for '" ++ Opt.partitions.usage ++ "': " ++ fault.message
  | surplusValue value option =>
    "unexpected value " ++ quoted value ++ " for " ++ quoted option ++
      " found; no more were expected"
  | missing => "the following required arguments were not provided:"

def message (f : Fault) : String :=
  String.ofList (Text.trimChars (f.text.toList.takeWhile (· != '\n')))

end Fault

inductive Shape where
  | stop
  | long (name : String) (value : Option String)
  | short (letter : Char)
  | word
  deriving DecidableEq, Repr

def longShape (cs : List Char) : Shape :=
  match cs.span (· != '=') with
  | (name, _ :: value) => .long (String.ofList name) (some (String.ofList value))
  | (name, []) => .long (String.ofList name) none

def shape (argument : String) : Shape :=
  match argument.toList with
  | ['-', '-'] => .stop
  | '-' :: '-' :: cs => longShape cs
  | '-' :: c :: _ => .short c
  | _ => .word

def longText (name : String) : String := "--" ++ name

def shortText (c : Char) : String := String.ofList ['-', c]

def lastCount : Nat := 0xFFFFFFFFFFFFFFFF

/-- Digits from the left; what is wrong first counts. -/
def countFrom (n : Nat) : List Char → Except CountFault Nat
  | [] => .ok n
  | c :: cs =>
    if !Text.isDigit c then .error .badDigit
    else
      let n := n * 10 + (c.toNat - 48)
      if lastCount < n then .error .tooLarge else countFrom n cs

def count (value : String) : Except CountFault Nat :=
  match value.toList with
  | [] => .error .empty
  | '+' :: c :: cs => countFrom 0 (c :: cs)
  | cs => countFrom 0 cs

structure Given where
  job : Option String := none
  table : Option String := none
  partitions : Option Nat := none
  stats : Bool := false

namespace Given

def has (g : Given) : Opt → Bool
  | .job => g.job.isSome
  | .table => g.table.isSome
  | .partitions => g.partitions.isSome
  | .stats => g.stats

def store (g : Given) (option : Opt) (value : String) : Except Fault Given :=
  match option with
  | .job => if value.isEmpty then .error (.noValue .job) else .ok { g with job := value }
  | .table => if value.isEmpty then .error (.noValue .table) else .ok { g with table := value }
  | .partitions =>
    match count value with
    | .ok n => .ok { g with partitions := n }
    | .error fault => .error (.badCount value fault)
  | .stats => .ok { g with stats := true }

def add (g : Given) (option : Opt) (value : String) : Except Fault Given :=
  if g.has option then .error (.repeated option) else g.store option value

def command? (g : Given) : CommandName → Option Command
  | .run => do return .run (← g.job) (← g.table) (g.partitions.getD 1) g.stats
  | .check => do return .check (← g.job)

end Given

/-- An option that is not judged yet, with its value once there is one. -/
abbrev Pending := Option (Opt × Option String)

def settle (g : Given) : Pending → Except Fault Given
  | none => .ok g
  | some (option, none) => .error (.noValue option)
  | some (option, some value) => g.add option value

def readOptions (command : CommandName) (g : Given) (pending : Pending) :
    List String → Except Fault Request
  | [] => do
    let g ← settle g pending
    match g.command? command with
    | some c => return .command c
    | none => throw .missing
  | argument :: rest =>
    match shape argument with
    | .stop =>
      match rest with
      | [] => readOptions command g pending []
      | next :: _ => .error (.unexpected next)
    | .long name value =>
      match command.options.find? (·.name == name) with
      | some option =>
        match option.takesValue, value with
        | true, some value => do
          let g ← settle g pending
          readOptions command (← g.add option value) none rest
        | true, none => do
          let g ← settle g pending
          readOptions command g (some (option, none)) rest
        | false, some value => .error (.surplusValue value option.usage)
        | false, none => do
          let g ← settle g pending
          readOptions command (← g.add option "") none rest
      | none =>
        if name = "help" then
          match value with
          | some value => .error (.surplusValue value (longText name))
          | none => (settle g pending).map fun _ => .help
        else .error (.unexpected (longText name))
    | .short c =>
      if c = 'h' then (settle g pending).map fun _ => .help
      else .error (.unexpected (shortText c))
    | .word =>
      match pending with
      | some (option, none) => readOptions command g (some (option, some argument)) rest
      | _ => .error (.unexpected argument)

def isCommandWord (word : String) : Bool := word == "help" || (CommandName.ofWord? word).isSome

def readHelp : List String → Except Fault Request
  | [] => .ok .help
  | [word] => if isCommandWord word then .ok .help else .error (.unknownCommand word)
  | word :: next :: _ => .error (.unknownCommand (if isCommandWord word then next else word))

def readRequest : List String → Except Fault Request
  | [] => .ok .incomplete
  | argument :: rest =>
    match shape argument with
    | .stop =>
      match rest with
      | [] => .ok .incomplete
      | next :: _ => .error (if isCommandWord next then .unexpected next else .unknownCommand next)
    | .long name value =>
      if name = "version" ∨ name = "help" then
        match value with
        | some value => .error (.surplusValue value (longText name))
        | none => .ok (if name = "version" then .version else .help)
      else .error (.unexpected (longText name))
    | .short c =>
      if c = 'V' then .ok .version
      else if c = 'h' then .ok .help
      else .error (.unexpected (shortText c))
    | .word =>
      if argument = "help" then readHelp rest
      else
        match CommandName.ofWord? argument with
        | some command => readOptions command {} none rest
        | none => .error (.unknownCommand argument)

end WideRow.CommandLine
