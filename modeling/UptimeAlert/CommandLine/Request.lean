import UptimeAlert.CommandLine.Path
import UptimeAlert.Log
import UptimeAlert.Text.DecimalDigit
import UptimeAlert.Text.Quoted

namespace UptimeAlert.CommandLine

open UptimeAlert.Text

inductive Flag where
  | help
  | version
  | configCheck
  deriving DecidableEq, Repr

inductive Parameter where
  | logLevel
  | template
  | templateFile
  | monitor
  | heartbeat
  | msg
  | send
  deriving DecidableEq, Repr

inductive Switch where
  | flag (f : Flag)
  | parameter (p : Parameter)
  deriving DecidableEq, Repr

/-- A channel that notifications are sent through. -/
inductive ChannelKind where
  | mail
  | webhook
  deriving DecidableEq, Repr

namespace ChannelKind

def all : List ChannelKind := [.mail, .webhook]

def name : ChannelKind → String
  | .mail => "smtp"
  | .webhook => "webhook"

def ofName? (name : String) : Option ChannelKind :=
  all.find? fun kind => kind.name == name

end ChannelKind

def Flag.spellings : Flag → List String
  | .help => ["-h", "--help"]
  | .version => ["--version"]
  | .configCheck => ["--config-check"]

def Flag.title (f : Flag) : String :=
  "/".intercalate f.spellings

def Parameter.title : Parameter → String
  | .logLevel => "--log-level"
  | .template => "--template"
  | .templateFile => "--template-file"
  | .monitor => "--monitor"
  | .heartbeat => "--heartbeat"
  | .msg => "--msg"
  | .send => "--send"

/-- All spellings with their options, in order. -/
def spellings : List (String × Switch) :=
  ([Flag.help, .version, .configCheck].flatMap fun f => f.spellings.map fun s => (s, .flag f)) ++
    [Parameter.logLevel, .template, .templateFile, .monitor, .heartbeat, .msg, .send].map
      fun p => (p.title, .parameter p)

inductive UsageError where
  | ambiguous (given : String) (matching : List String)
  | valueMissing (p : Parameter)
  | valueIgnored (f : Flag) (value : String)
  | unknownChoice (p : Parameter) (value : String) (choices : List String)
  | conflict (p other : Parameter)
  | unrecognized (arguments : List String)
  deriving DecidableEq, Repr

def UsageError.message : UsageError → String
  | .ambiguous given matching =>
    "ambiguous option: " ++ given ++ " could match " ++ ", ".intercalate matching
  | .valueMissing p => "argument " ++ p.title ++ ": expected one argument"
  | .valueIgnored f value =>
    "argument " ++ f.title ++ ": ignored explicit argument " ++ String.ofList (quote value.toList)
  | .unknownChoice p value choices =>
    "argument " ++ p.title ++ ": invalid choice: " ++ String.ofList (quote value.toList) ++
      " (choose from " ++
      ", ".intercalate (choices.map fun choice => String.ofList (quote choice.toList)) ++ ")"
  | .conflict p other => "argument " ++ p.title ++ ": not allowed with argument " ++ other.title
  | .unrecognized arguments => "unrecognized arguments: " ++ " ".intercalate arguments

/-- What an argument is: a plain text, the mark after which all are plain, an option with the value
that is attached to it, or what looks like an option but is none. -/
inductive Word where
  | plain (text : String)
  | mark
  | option (s : Switch) (attached : Option String)
  | unknown (text : String)
  deriving DecidableEq, Repr

/-- Whether an argument looks like a negative number: digits with a point before the last of them,
or without one. A line break may follow. -/
def isNegativeNumber (cs : List Char) : Bool :=
  match cs with
  | '-' :: number =>
    let number := if number.getLast? = some '\n' then number.dropLast else number
    let whole := number.takeWhile isDecimalDigit
    match number.dropWhile isDecimalDigit with
    | [] => !whole.isEmpty
    | '.' :: places => !places.isEmpty && places.all isDecimalDigit
    | _ => false
  | _ => false

/-- What is wrongly attached to the short spelling of help. The same letter may be repeated, and a
letter of no option counts as a further argument. -/
def attachedToHelp : List Char → Option String
  | 'h' :: '=' :: value => some (String.ofList value)
  | 'h' :: more => attachedToHelp more
  | '-' :: value => some (String.ofList ('-' :: value))
  | _ => none

/-- The options that a long spelling may begin. -/
def candidates (start : List Char) : List (String × Switch) :=
  spellings.filter fun (spelling, _) => start.isPrefixOf spelling.toList

/-- An argument that no option begins with. -/
def withoutOption (arg : String) : Word :=
  if isNegativeNumber arg.toList || arg.toList.contains ' ' then .plain arg else .unknown arg

/-- An argument that begins with a hyphen and something else, `name` being what stands before an
equals sign and `attached` what stands after it. -/
def shortened (arg : String) (name : List Char) (attached : Option String) :
    Except UsageError Word :=
  match arg.toList with
  | '-' :: '-' :: _ =>
    match candidates name with
    | [] => .ok (withoutOption arg)
    | [(_, s)] => .ok (.option s attached)
    | several => .error (.ambiguous arg (several.map Prod.fst))
  | '-' :: 'h' :: cluster => .ok (.option (.flag .help) (attachedToHelp cluster))
  | _ => .ok (withoutOption arg)

/-- What a single argument is. -/
def classify (arg : String) : Except UsageError Word :=
  match arg.toList with
  | '-' :: _ :: _ =>
    match spellings.lookup arg with
    | some s => .ok (.option s none)
    | none =>
      match cut? ['='] arg.toList with
      | none => shortened arg arg.toList none
      | some (name, value) =>
        match spellings.lookup (String.ofList name) with
        | some s => .ok (.option s (some (String.ofList value)))
        | none => shortened arg name (some (String.ofList value))
  | _ => .ok (.plain arg)

def words : List String → Except UsageError (List Word)
  | [] => .ok []
  | arg :: rest =>
    if arg = "--" then .ok (.mark :: rest.map .plain)
    else do
      let word ← classify arg
      let others ← words rest
      return word :: others

/-- Where a template comes from. -/
inductive TemplateInput where
  | text (template : String)
  | file (path : Path)
  deriving DecidableEq, Repr

structure Request where
  checkOnly : Bool
  logLevel : Option LogLevel
  template : Option TemplateInput
  monitor : Option Path
  heartbeat : Option Path
  msg : Option String
  channel : Option ChannelKind
  deriving DecidableEq, Repr

namespace Request

def empty : Request := ⟨false, none, none, none, none, none, none⟩

/-- The request with a parameter set; the last value of a parameter counts. -/
def set (r : Request) (p : Parameter) (value : String) : Except UsageError Request :=
  match p with
  | .logLevel =>
    match LogLevel.ofName? value with
    | some level => .ok { r with logLevel := some level }
    | none => .error (.unknownChoice p value (LogLevel.all.map LogLevel.name))
  | .template =>
    match r.template with
    | some (.file _) => .error (.conflict p .templateFile)
    | _ => .ok { r with template := some (.text value) }
  | .templateFile =>
    match r.template with
    | some (.text _) => .error (.conflict p .template)
    | _ => .ok { r with template := some (.file (Path.ofString value)) }
  | .monitor => .ok { r with monitor := some (Path.ofString value) }
  | .heartbeat => .ok { r with heartbeat := some (Path.ofString value) }
  | .msg => .ok { r with msg := some value }
  | .send =>
    match ChannelKind.ofName? value with
    | some kind => .ok { r with channel := some kind }
    | none => .error (.unknownChoice p value (ChannelKind.all.map ChannelKind.name))

end Request

/-- What arguments come to: to help or the version, which end reading at once, or to a request. -/
inductive Invocation where
  | help
  | version
  | run (r : Request)
  deriving DecidableEq, Repr

namespace Invocation

/-- Reads arguments from left to right; `unrecognized` are those that belong to no option. -/
def ofWords (r : Request) (unrecognized : List String) : List Word → Except UsageError Invocation
  | [] => if unrecognized.isEmpty then .ok (.run r) else .error (.unrecognized unrecognized)
  | .plain text :: rest => ofWords r (unrecognized ++ [text]) rest
  | .mark :: rest => ofWords r (unrecognized ++ ["--"]) rest
  | .unknown text :: rest => ofWords r (unrecognized ++ [text]) rest
  | .option (.flag f) (some value) :: _ => .error (.valueIgnored f value)
  | .option (.flag .help) none :: _ => .ok .help
  | .option (.flag .version) none :: _ => .ok .version
  | .option (.flag .configCheck) none :: rest =>
    ofWords { r with checkOnly := true } unrecognized rest
  | .option (.parameter p) (some value) :: rest =>
    match r.set p value with
    | .ok r => ofWords r unrecognized rest
    | .error e => .error e
  | .option (.parameter p) none :: .plain value :: rest =>
    match r.set p value with
    | .ok r => ofWords r unrecognized rest
    | .error e => .error e
  | .option (.parameter p) none :: _ => .error (.valueMissing p)

def read (arguments : List String) : Except UsageError Invocation :=
  words arguments >>= ofWords .empty []

end Invocation

end UptimeAlert.CommandLine
