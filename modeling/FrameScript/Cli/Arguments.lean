import FrameScript.Text.Basic

/-!
# Command-line arguments

What a run is asked to do.  An argument that starts with a dash, other than a lone dash, is an
option; an option is a long name or a dash with one or more letters.  After a double dash nothing is
an option.  The arguments are understood in two steps: first the options of the program and the
command, then the arguments of the command.  At either step all options are looked at before
anything else, and an option that tells about the program then ends the run, whatever the other
arguments are.
-/

namespace FrameScript.Cli

/-- What a run does.  A run that tells about the program, or sets it up for a shell, does nothing
else. -/
inductive Task where
  | help
  | inspect (line : Text) (strictFloats : Bool)
  | check (path : Text)
  | format (path : Text) (write : Bool)
  deriving DecidableEq, Repr

inductive Command where
  | inspect
  | line
  | script
  deriving DecidableEq, Repr

/-- What the arguments start: help, or a command on the arguments that are left. -/
inductive Invocation where
  | help
  | command (verbose : Bool) (command : Command) (arguments : List Text)
  deriving DecidableEq, Repr

/-- An option without a value: its long name, and its letter if it has one. -/
structure Flag where
  name : Text
  letter : Option Char := none
  deriving DecidableEq, Repr

namespace Flag

def verbose : Flag := { name := "--verbose".toList, letter := some 'v' }

def strictFloats : Flag := { name := "--strict-floats".toList }

def write : Flag := { name := "--write".toList, letter := some 'w' }

def help : Flag := { name := "--help".toList }

def installCompletion : Flag := { name := "--install-completion".toList }

def showCompletion : Flag := { name := "--show-completion".toList }

def isHelp (flag : Flag) : Bool :=
  flag == help || flag == installCompletion || flag == showCompletion

/-- Whether an option sets a flag and nothing else. -/
def isSetBy (flag : Flag) (option : Text) : Bool :=
  option == flag.name ||
    match flag.letter with
    | some letter => option.tail.all fun char => char == letter
    | none => false

end Flag

def endOfOptions : Text := ['-', '-']

def isOption : Text → Bool
  | '-' :: _ :: _ => true
  | _ => false

structure Arguments where
  flags : List Flag := []
  operands : List Text := []
  deriving DecidableEq, Repr

namespace Arguments

def asksForHelp (arguments : Arguments) : Bool := arguments.flags.any Flag.isHelp

def addOption? (allowed : List Flag) (option : Text) (arguments : Arguments) : Option Arguments :=
  (allowed.find? fun flag => flag.isSetBy option).map fun flag =>
    { arguments with flags := flag :: arguments.flags }

/-- The arguments with the options that come first taken apart; none if one is not allowed. -/
def leading? (allowed : List Flag) : List Text → Option Arguments
  | [] => some {}
  | first :: rest =>
      if first = endOfOptions then some { operands := rest }
      else if isOption first then (leading? allowed rest).bind (addOption? allowed first)
      else some { operands := first :: rest }

def all? (allowed : List Flag) : List Text → Option Arguments
  | [] => some {}
  | first :: rest =>
      if first = endOfOptions then some { operands := rest }
      else if isOption first then (all? allowed rest).bind (addOption? allowed first)
      else (all? allowed rest).map fun arguments =>
        { arguments with operands := first :: arguments.operands }

end Arguments

/-- What a command with one operand and an optional flag is asked for. -/
def operandTask? (flag : Option Flag) (task : Text → Bool → Task) (arguments : List Text) :
    Option Task :=
  match Arguments.all? (.help :: flag.toList) arguments with
  | none => none
  | some arguments =>
      if arguments.asksForHelp then some .help
      else
        match arguments.operands with
        | [operand] => some (task operand !arguments.flags.isEmpty)
        | _ => none

def inspectTask? (flag : Option Flag) : List Text → Option Task := operandTask? flag .inspect

def checkTask? : List Text → Option Task := operandTask? none fun path _ => .check path

def formatTask? : List Text → Option Task := operandTask? (some .write) .format

/-- What the options of a group, and the command behind them, ask for. -/
def groupTask? (task? : String → List Text → Option Task) (arguments : List Text) : Option Task :=
  match Arguments.leading? [.help] arguments with
  | none => none
  | some arguments =>
      if arguments.asksForHelp then some .help
      else
        match arguments.operands with
        | name :: rest => task? (String.ofList name) rest
        | [] => none

def lineTask? (name : String) (arguments : List Text) : Option Task :=
  match name with
  | "inspect" => inspectTask? (some .strictFloats) arguments
  | _ => none

def scriptTask? (name : String) (arguments : List Text) : Option Task :=
  match name with
  | "check" => checkTask? arguments
  | "format" => formatTask? arguments
  | _ => none

namespace Command

def all : List Command := [.inspect, .line, .script]

def name : Command → Text
  | .inspect => "inspect".toList
  | .line => "line".toList
  | .script => "script".toList

def ofName? (text : Text) : Option Command := all.find? fun command => command.name == text

def task? (arguments : List Text) : Command → Option Task
  | .inspect => inspectTask? none arguments
  | .line => groupTask? lineTask? arguments
  | .script => groupTask? scriptTask? arguments

end Command

namespace Invocation

def flags : List Flag := [.help, .installCompletion, .showCompletion, .verbose]

/-- What the arguments of a run start; nothing if they start no command. -/
def parse? (arguments : List Text) : Option Invocation :=
  match Arguments.leading? flags arguments with
  | none => none
  | some arguments =>
      if arguments.asksForHelp then some .help
      else
        match arguments.operands with
        | name :: rest =>
            (Command.ofName? name).map fun chosen =>
              .command (!arguments.flags.isEmpty) chosen rest
        | [] => none

def task? : Invocation → Option Task
  | .help => some .help
  | .command _ chosen arguments => chosen.task? arguments

end Invocation

end FrameScript.Cli
