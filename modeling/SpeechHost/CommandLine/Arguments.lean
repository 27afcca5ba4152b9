import SpeechHost.CommandLine.Form
/-!
# Reading arguments

Arguments are read from left to right against the form of a command. The first thing that settles
the matter wins: an argument that does not fit, or one that asks for help.
-/

namespace SpeechHost.CommandLine

inductive UsageError where
  | noCommand
  | unknownCommand (name : String)
  | unknownSwitch (word : String)
  | noValue (switch : String)
  | badValue (switch value : String)
  | repeated (switch : String)
  | missing (parameter : String)
  /-- There is no parameter left for an argument. -/
  | extra (word : String)
  deriving DecidableEq, Repr

def UsageError.message : UsageError → String
  | .noCommand => "a command is required"
  | .unknownCommand name => s!"there is no command '{name}'"
  | .unknownSwitch word => s!"there is no option '{word}'"
  | .noValue switch => s!"a value is required for '--{switch}'"
  | .badValue switch value => s!"'{value}' is no value for '--{switch}'"
  | .repeated switch => s!"'--{switch}' can be given only once"
  | .missing parameter => s!"'{parameter}' is required"
  | .extra word => s!"unexpected argument '{word}'"

/-- What was given to a command. -/
structure Given where
  /-- The switches, by their long names, with their values. -/
  values : List (String × String)
  /-- The values of the parameters, in order. -/
  words : List String
  deriving DecidableEq, Repr

def Given.nothing : Given := ⟨[], []⟩

def Given.has (g : Given) (long : String) : Bool :=
  (g.values.lookup long).isSome

def Given.take (g : Given) (s : Switch) (value : String) : Except UsageError Given :=
  if g.has s.long then .error (.repeated s.long)
  else if (s.kind.map (·.admits value)).getD true then
    .ok { g with values := g.values ++ [(s.long, value)] }
  else .error (.badValue s.long value)

/-- The parameter that an argument after `n` others belongs to. -/
def parameterAt? : List Parameter → (n : Nat) → Option Parameter
  | [], _ => none
  | p :: _, 0 => some p
  | p :: ps, n + 1 => if p.many then some p else parameterAt? ps n

def Given.takeWord (g : Given) (f : Form) (word : String) : Except UsageError Given :=
  match parameterAt? f.parameters g.words.length with
  | some _ => .ok { g with words := g.words ++ [word] }
  | none => .error (.extra word)

/-- Refuses what lacks a parameter. -/
def Given.complete (g : Given) (f : Form) : Except UsageError Given :=
  match (f.parameters.drop g.words.length).find? (·.required) with
  | some p => .error (.missing p.shown)
  | none => .ok g

inductive Effect where
  | done (g : Given)
  /-- The next argument is the value of a switch. -/
  | awaits (s : Switch)
  | help
  deriving DecidableEq, Repr

/-- Reads a switch by its long name, with what stands behind an equals sign. -/
def readLong (f : Form) (g : Given) (name : String) (value : Option String) :
    Except UsageError Effect :=
  match (f.switches ++ [helpSwitch]).find? (·.long == name), value with
  | none, _ => .error (.unknownSwitch s!"--{name}")
  | some s, some value =>
    if s.kind.isSome then .done <$> g.take s value else .error (.badValue name value)
  | some s, none =>
    if s.kind.isSome then .ok (.awaits s)
    else if s == helpSwitch then .ok .help
    else .done <$> g.take s ""

/-- Reads switches by their short names, which can stand in one argument. What stands behind one
that takes a value is the value, an equals sign in front left out. -/
def readShort (f : Form) (g : Given) : List Char → Except UsageError Effect
  | [] => .ok (.done g)
  | c :: cs =>
    match (f.switches ++ [helpSwitch]).find? (·.short == some c) with
    | none => .error (.unknownSwitch s!"-{c}")
    | some s =>
      if s.kind.isSome then
        match cs with
        | [] => .ok (.awaits s)
        | '=' :: value => .done <$> g.take s (String.ofList value)
        | value => .done <$> g.take s (String.ofList value)
      else if s == helpSwitch then .ok .help
      else do readShort f (← g.take s "") cs

def readWord (f : Form) (g : Given) (word : String) : Except UsageError Effect :=
  match word.toList with
  | '-' :: '-' :: cs =>
    let (name, rest) := cs.span (· != '=')
    readLong f g (String.ofList name) (rest.tail?.map String.ofList)
  | '-' :: c :: cs => readShort f g (c :: cs)
  | _ => .done <$> g.takeWord f word

/-- Whether an argument gives a switch, or ends the switches. -/
def isSwitch (word : String) : Bool :=
  match word.toList with
  | '-' :: _ :: _ => true
  | _ => false

/-- Takes arguments that are all values of parameters. -/
def readWords (f : Form) (g : Given) : List String → Except UsageError Given
  | [] => .ok g
  | word :: words => do readWords f (← g.takeWord f word) words

/-- Reads the arguments of a command, of which `awaited` is a switch that lacks its value. Gives
nothing if help is asked for. -/
def readFrom (f : Form) (awaited : Option Switch) (g : Given) :
    List String → Except UsageError (Option Given)
  | [] =>
    match awaited with
    | some s => .error (.noValue s.long)
    | none => some <$> g.complete f
  | word :: words =>
    match awaited with
    | some s =>
      if isSwitch word then .error (.noValue s.long)
      else do readFrom f none (← g.take s word) words
    | none =>
      if word == "--" then do
        some <$> (← readWords f g words).complete f
      else do
        match ← readWord f g word with
        | .done g => readFrom f none g words
        | .awaits s => readFrom f (some s) g words
        | .help => return none

/-- Reads the arguments of a command. Gives nothing if help is asked for. -/
def Form.read (f : Form) (words : List String) : Except UsageError (Option Given) :=
  readFrom f none .nothing words

end SpeechHost.CommandLine
