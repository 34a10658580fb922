/-! Command lines. Words are read one by one on a path of levels: the program, its subcommand, and
for `config` the subcommand of that. Options that hold for the whole program may stand on any level.
-/
namespace FieldGuard

/-- The shells that completion scripts are written for. -/
inductive Shell where
  | bash
  | zsh
  | fish
  deriving DecidableEq, Repr

def Shell.name : Shell → String
  | .bash => "bash"
  | .zsh => "zsh"
  | .fish => "fish"

def Shell.ofName? (name : String) : Option Shell :=
  [Shell.bash, .zsh, .fish].find? (·.name == name)

/-- Where the condition to evaluate comes from. -/
inductive ConditionSource where
  | written (source : String)
  | named (name : String)
  deriving DecidableEq, Repr

inductive Command where
  | check (source : String) (tokens : Bool)
  | eval (condition : ConditionSource) (subject : String)
  | show
  | path
  | set (key : String) (value : String)
  | reset
  | verify
  | completions (shell : Shell)
  deriving DecidableEq, Repr

/-- The options that hold for every command. -/
structure Options where
  config : Option String
  json : Bool
  noJson : Bool
  quiet : Bool
  verbose : Bool
  deriving DecidableEq, Repr

/-- A command line that can be run. -/
structure Invocation where
  options : Options
  command : Command
  deriving DecidableEq, Repr

/-- Why a command line is not run. -/
inductive Refusal where
  /-- It cannot be read; a question for help is no option here and counts as such. -/
  | malformed
  /-- It asks for the version only. -/
  | version
  deriving DecidableEq, Repr

namespace Arguments

inductive Opt where
  | config
  | json
  | noJson
  | quiet
  | verbose
  | version
  | tokens
  | condition
  | subject
  deriving DecidableEq, Repr

namespace Opt

def long : Opt → String
  | .config => "config"
  | .json => "json"
  | .noJson => "no-json"
  | .quiet => "quiet"
  | .verbose => "verbose"
  | .version => "version"
  | .tokens => "tokens"
  | .condition => "condition"
  | .subject => "subject"

def short? : Opt → Option Char
  | .json => some 'j'
  | .quiet => some 'q'
  | .verbose => some 'v'
  | .version => some 'V'
  | .condition => some 'c'
  | .subject => some 's'
  | _ => none

def takesValue : Opt → Bool
  | .config | .condition | .subject => true
  | _ => false

/-- A path must not be empty. -/
def mayBeEmpty : Opt → Bool
  | .config | .subject => false
  | _ => true

/-- The options that hold for every command. -/
def common : List Opt := [.config, .json, .noJson, .quiet, .verbose]

end Opt

/-- The levels of a command line. -/
inductive Level where
  | program
  | check
  | eval
  | config
  | show
  | path
  | set
  | reset
  | verify
  | completions
  deriving DecidableEq, Repr

namespace Level

def name : Level → String
  | .program => "editcond"
  | .check => "check"
  | .eval => "eval"
  | .config => "config"
  | .show => "show"
  | .path => "path"
  | .set => "set"
  | .reset => "reset"
  | .verify => "verify"
  | .completions => "completions"

def options : Level → List Opt
  | .program => Opt.common ++ [.version]
  | .check => Opt.common ++ [.tokens]
  | .eval => Opt.common ++ [.condition, .subject]
  | _ => Opt.common

/-- The subcommands of a level. -/
def below : Level → List Level
  | .program => [.check, .eval, .config, .completions]
  | .config => [.show, .path, .set, .reset, .verify]
  | _ => []

/-- How many words a level takes at most. -/
def capacity : Level → Nat
  | .check | .eval | .completions => 1
  | .set => 2
  | _ => 0

end Level

/-- An option with its value; a flag has the empty one. -/
abbrev Given := List (Opt × String)

/-- What has been read of a command line. -/
structure State where
  /-- Options of the levels above. -/
  above : Given
  level : Level
  given : Given
  words : List String
  /-- An option that waits for its value. -/
  pending : Option Opt
  /-- Whether the rest are words, whatever they look like. -/
  onlyWords : Bool
  deriving DecidableEq, Repr

def start : State where
  above := []
  level := .program
  given := []
  words := []
  pending := none
  onlyWords := false

/-- Takes an option. Each may be given once on a level, and the version ends the reading. -/
def give (s : State) (o : Opt) (value : String) : Except Refusal State :=
  if o = .version then .error .version
  else if (s.given.map (·.1)).contains o then .error .malformed
  else if value = "" ∧ !o.mayBeEmpty then .error .malformed
  else .ok { s with given := s.given ++ [(o, value)], pending := none }

/-- Takes a long option without its two dashes. -/
def takeLong (s : State) (text : String) : Except Refusal State :=
  let name := String.ofList (text.toList.takeWhile (· ≠ '='))
  match s.level.options.find? (·.long == name), text.toList.dropWhile (· ≠ '=') with
  | none, _ => .error .malformed
  | some o, [] => if o.takesValue then .ok { s with pending := some o } else give s o ""
  | some o, _ :: value => if o.takesValue then give s o (String.ofList value) else .error .malformed

/-- Takes short options written together; what follows one that takes a value is the value. -/
def takeShort (s : State) : List Char → Except Refusal State
  | [] => .ok s
  | c :: rest =>
    match s.level.options.find? (·.short? == some c) with
    | none => .error .malformed
    | some o =>
      if o.takesValue then
        match rest with
        | [] => .ok { s with pending := some o }
        | '=' :: value => give s o (String.ofList value)
        | value => give s o (String.ofList value)
      else
        match give s o "" with
        | .ok s => takeShort s rest
        | .error e => .error e

/-- Flags that exclude each other on one level. -/
def conflicting (g : Given) : Bool :=
  (g.map (·.1)).contains .json && (g.map (·.1)).contains .noJson

/-- Takes a word: a subcommand where the level has some, else one of the level's own words. -/
def takeWord (s : State) (word : String) : Except Refusal State :=
  match s.level.below.find? fun l => !s.onlyWords && l.name == word with
  | some l =>
    if conflicting s.given then .error .malformed
    else .ok { start with above := s.above ++ s.given, level := l }
  | none =>
    if s.words.length < s.level.capacity then .ok { s with words := s.words ++ [word] }
    else .error .malformed

/-- Whether an argument starts with a dash and is not a dash alone. -/
def looksLikeOption (a : String) : Bool :=
  match a.toList with
  | '-' :: _ :: _ => true
  | _ => false

/-- Reads one argument. -/
def step (s : State) (a : String) : Except Refusal State :=
  if s.onlyWords then takeWord s a
  else
    match s.pending with
    | some o => if looksLikeOption a then .error .malformed else give s o a
    | none =>
      match a.toList with
      | ['-', '-'] => .ok { s with onlyWords := true }
      | '-' :: '-' :: name => takeLong s (String.ofList name)
      | '-' :: c :: rest => takeShort s (c :: rest)
      | _ => takeWord s a

/-- The value of an option; the deepest level counts. -/
def value? (g : Given) (o : Opt) : Option String :=
  g.reverse.lookup o

def has (g : Given) (o : Opt) : Bool :=
  (value? g o).isSome

/-- The options that hold for every command, from all levels. -/
def commonOptions (g : Given) : Options where
  config := value? g .config
  json := has g .json
  noJson := has g .noJson
  quiet := has g .quiet
  verbose := has g .verbose

/-- The command of a level with its words and options, if nothing is missing. -/
def command? (level : Level) (given : Given) (words : List String) : Option Command :=
  match level, words with
  | .check, [source] => some (.check source (has given .tokens))
  | .eval, words =>
    match words, value? given .condition, value? given .subject with
    | [source], none, some subject => some (.eval (.written source) subject)
    | [], some name, some subject => some (.eval (.named name) subject)
    | _, _, _ => none
  | .show, [] => some .show
  | .path, [] => some .path
  | .set, [key, value] => some (.set key value)
  | .reset, [] => some .reset
  | .verify, [] => some .verify
  | .completions, [name] => (Shell.ofName? name).map .completions
  | _, _ => none

/-- What has been read, at the end of a command line. -/
def finish (s : State) : Except Refusal Invocation :=
  if s.pending.isSome ∨ conflicting s.given then .error .malformed
  else
    match command? s.level s.given s.words with
    | some command => .ok ⟨commonOptions (s.above ++ s.given), command⟩
    | none => .error .malformed

end Arguments

/-- Reads a command line. -/
def Invocation.ofArguments (args : List String) : Except Refusal Invocation := do
  Arguments.finish (← args.foldlM Arguments.step Arguments.start)

end FieldGuard
