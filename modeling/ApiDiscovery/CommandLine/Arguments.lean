import ApiDiscovery.Text.Pieces

/-!
# Arguments

What a command line asks for.  Options may stand before the command, behind it
and between its own arguments; the same one may be given once on each side, and
the one behind the command counts.  An option takes the next argument unless
that begins with a dash, or what follows an equals sign.  Reading stops at the
first thing that is wrong, and at a request for the version or for help.
-/

namespace ApiDiscovery.CommandLine

inductive ValueOption where
  | config
  | serviceFile
  | serviceUrl
  | restFile
  | restUrl
  | apiKey
  | body
deriving DecidableEq, Repr

namespace ValueOption

/-- The options that may be given on both sides of the command. -/
def shared : List ValueOption :=
  [.config, .serviceFile, .serviceUrl, .restFile, .restUrl, .apiKey]

def name : ValueOption → String
  | .config => "config"
  | .serviceFile => "service-file"
  | .serviceUrl => "service-url"
  | .restFile => "rest-file"
  | .restUrl => "rest-url"
  | .apiKey => "api-key"
  | .body => "body"

/-- The option takes a path, which may not be empty. -/
def isPath : ValueOption → Bool
  | .config => true
  | .serviceFile => true
  | .restFile => true
  | _ => false

def accepts (option : ValueOption) (value : String) : Bool := !option.isPath || value != ""

end ValueOption

inductive Verb where
  | tree
  | list
  | call
deriving DecidableEq, Repr

def Verb.ofName? (name : String) : Option Verb :=
  if name = "tree" then some .tree
  else if name = "list" then some .list
  else if name = "call" then some .call
  else none

/-- The options that may be given before the command, or behind a command. -/
def optionsBehind : Option Verb → List ValueOption
  | some .call => .body :: ValueOption.shared
  | _ => ValueOption.shared

/-- What was given on one side of the command. -/
structure Given where
  values : List (ValueOption × String) := []
  verbose : Bool := false
deriving Repr

def Given.value? (given : Given) (option : ValueOption) : Option String := given.values.lookup option

structure State where
  before : Given := {}
  verb : Option Verb := none
  behind : Given := {}
  words : List String := []
  pending : Option ValueOption := none
  onlyWords : Bool := false
deriving Repr

inductive Stop where
  | usage
  | version
  | help
deriving DecidableEq, Repr

namespace State

def current (state : State) : Given :=
  match state.verb with
  | none => state.before
  | some _ => state.behind

def withCurrent (state : State) (given : Given) : State :=
  match state.verb with
  | none => { state with before := given }
  | some _ => { state with behind := given }

def giveValue (state : State) (option : ValueOption) (value : String) : Except Stop State :=
  if (state.current.value? option).isSome || !option.accepts value then .error .usage
  else
    .ok { state.withCurrent
        { state.current with values := (option, value) :: state.current.values } with
      pending := none }

def giveVerbose (state : State) : Except Stop State :=
  if state.current.verbose then .error .usage
  else .ok (state.withCurrent { state.current with verbose := true })

def giveWord (state : State) (word : String) : Except Stop State :=
  match state.verb with
  | none =>
      if state.onlyWords then .error .usage
      else
        match Verb.ofName? word with
        | some verb => .ok { state with verb := some verb }
        | none => if word = "help" then .error .help else .error .usage
  | some .call =>
      if state.words.isEmpty || word.toList.contains '=' then
        .ok { state with words := state.words ++ [word] }
      else .error .usage
  | some _ => .error .usage

def giveLong (state : State) (written : List Char) : Except Stop State :=
  let (name, value) :=
    match Text.splitFirst '=' written with
    | none => (String.ofList written, none)
    | some (name, value) => (String.ofList name, some (String.ofList value))
  match (optionsBehind state.verb).find? fun option => option.name == name, value with
  | some option, some value => state.giveValue option value
  | some option, none =>
      if (state.current.value? option).isSome then .error .usage
      else .ok { state with pending := some option }
  | none, some _ => .error .usage
  | none, none =>
      if name = "verbose" then state.giveVerbose
      else if name = "help" then .error .help
      else if name = "version" ∧ state.verb.isNone then .error .version
      else .error .usage

def giveShort (state : State) : List Char → Except Stop State
  | [] => .ok state
  | c :: rest =>
      if c = 'v' then
        match state.giveVerbose with
        | .error stop => .error stop
        | .ok next => next.giveShort rest
      else if c = 'h' then .error .help
      else if c = 'V' ∧ state.verb.isNone then .error .version
      else .error .usage

def give (state : State) (argument : String) : Except Stop State :=
  match state.pending with
  | some option =>
      match argument.toList with
      | '-' :: _ :: _ => .error .usage
      | _ => state.giveValue option argument
  | none =>
      if state.onlyWords then state.giveWord argument
      else
        match argument.toList with
        | ['-', '-'] => .ok { state with onlyWords := true }
        | '-' :: '-' :: written => state.giveLong written
        | '-' :: c :: rest => state.giveShort (c :: rest)
        | _ => state.giveWord argument

end State

inductive Command where
  | tree
  | list
  | call (method : String) (arguments : List (String × String)) (body : Option String)
deriving DecidableEq, Repr

structure Invocation where
  command : Command
  verbose : Bool
  config : Option String
  serviceFile : Option String
  serviceUrl : Option String
  restFile : Option String
  restUrl : Option String
  apiKey : Option String
deriving DecidableEq, Repr

/-- An argument of a call: a name and a value, parted by the first equals sign. -/
def argumentOf (word : String) : Option (String × String) :=
  (Text.splitFirst '=' word.toList).map fun (name, value) =>
    (String.ofList name, String.ofList value)

def State.finish (state : State) (environmentKey : Option String) : Except Stop Invocation :=
  let value? (option : ValueOption) : Option String :=
    state.behind.value? option <|> state.before.value? option
  let invocation (command : Command) : Except Stop Invocation :=
    .ok {
      command
      verbose := state.before.verbose || state.behind.verbose
      config := value? .config
      serviceFile := value? .serviceFile
      serviceUrl := value? .serviceUrl
      restFile := value? .restFile
      restUrl := value? .restUrl
      apiKey := value? .apiKey <|> environmentKey }
  if state.pending.isSome then .error .usage
  else
    match state.verb, state.words with
    | some .tree, _ => invocation .tree
    | some .list, _ => invocation .list
    | some .call, method :: words =>
        invocation (.call method (words.filterMap argumentOf) (state.behind.value? .body))
    | some .call, [] => .error .usage
    | none, _ => .error .usage

/-- What the arguments ask for, the environment giving the key if they do not. -/
def parse (arguments : List String) (environmentKey : Option String) : Except Stop Invocation :=
  match arguments.foldlM State.give {} with
  | .error stop => .error stop
  | .ok state => state.finish environmentKey

end ApiDiscovery.CommandLine
