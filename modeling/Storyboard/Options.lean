import Storyboard.Project.Basic
import Storyboard.Json.Reader
import Storyboard.Decimal.Read

/-!
# Command-line options

The preview runner takes a project file and options. `Options.parse` reads the words of
a command line in order: flags set or clear a switch, `--name=value` options set a
value (a later one wins, `--allow-domain` adds a host each time), the first word that
does not start with `-` is the project file, and anything else is ignored. A value that
cannot be read (an unknown trigger, a payload that is not JSON, a depth that is not a
whole number) leaves the option unset. `Options.applyTo` lays the options over the
project's runtime settings.
-/

namespace Storyboard

/-- How much the runner logs. -/
inductive LogLevel where
  | off | error | warn | info | debug | trace
deriving DecidableEq, Repr

/-- The name of a log level. -/
def LogLevel.name : LogLevel → String
  | .off => "off" | .error => "error" | .warn => "warn"
  | .info => "info" | .debug => "debug" | .trace => "trace"

/-- The options of the preview runner. -/
structure Options where
  /-- The project file. -/
  projectPath : Option String := none
  /-- An event to run by id after loading. -/
  eventId : Option String := none
  /-- A trigger to fire after loading. -/
  trigger : Option TriggerKind := none
  /-- The element the trigger fires on. -/
  elementId : Option String := none
  /-- A custom event to fire after loading. -/
  emit : Option String := none
  /-- The payload of that custom event. -/
  payload : Option Json := none
  /-- A depth limit instead of the project's. -/
  maxDepth : Option Nat := none
  /-- Hosts to allow besides the project's. -/
  allowedDomains : List String := []
  /-- Print the placed widgets. -/
  showLayout : Bool := false
  /-- Print the usage and stop. -/
  showHelp : Bool := false
  /-- Review the project before running. -/
  enableLint : Bool := true
  /-- Log nothing. -/
  quiet : Bool := false
  /-- How much to log. -/
  logLevel : LogLevel := .info

namespace Options

/-- The rest of a word after a prefix. -/
def after? (pre word : String) : Option String :=
  if word.startsWith pre then some (word.drop pre.length).toString else none

/-- Read one word of a command line. -/
def step (o : Options) (word : String) : Options :=
  match word with
  | "--no-lint" => { o with enableLint := false }
  | "--lint" => { o with enableLint := true }
  | "--layout" => { o with showLayout := true }
  | "--quiet" | "-q" => { o with quiet := true, logLevel := .off }
  | "--log-level=off" => { o with logLevel := .off }
  | "--log-level=error" => { o with logLevel := .error }
  | "--log-level=warn" => { o with logLevel := .warn }
  | "--log-level=info" => { o with logLevel := .info }
  | "--log-level=debug" => { o with logLevel := .debug }
  | "--log-level=trace" => { o with logLevel := .trace }
  | "--help" | "-h" => { o with showHelp := true }
  | _ =>
    if let some id := after? "--event=" word then { o with eventId := some id }
    else if let some kind := after? "--trigger=" word then
      match TriggerKind.ofName? kind with
      | some k => { o with trigger := some k }
      | none => o
    else if let some id := after? "--element=" word then { o with elementId := some id }
    else if let some name := after? "--emit=" word then { o with emit := some name }
    else if let some text := after? "--payload=" word then
      match Json.parse text with
      | .ok v => { o with payload := some v }
      | .error _ => o
    else if let some depth := after? "--max-depth=" word then
      match Decimal.readIndex? depth.toList with
      | some n => { o with maxDepth := some n }
      | none => o
    else if let some host := after? "--allow-domain=" word then
      { o with allowedDomains := o.allowedDomains ++ [host] }
    else if !word.startsWith "-" && o.projectPath.isNone then { o with projectPath := some word }
    else o

/-- Read a command line. -/
def parse (words : List String) : Options := words.foldl step {}

/-- Whether these are the options of an empty command line. -/
def isDefault (o : Options) : Bool :=
  o.projectPath.isNone && o.eventId.isNone && o.trigger.isNone && o.elementId.isNone
    && o.emit.isNone && o.payload.isNone && o.maxDepth.isNone && o.allowedDomains.isEmpty
    && !o.showLayout && !o.showHelp && o.enableLint && !o.quiet && o.logLevel == .info

/-- Lay the options over runtime settings: the depth limit replaces the project's, and
each extra host is added unless already allowed. -/
def applyTo (o : Options) (s : Settings) : Settings :=
  let s := match o.maxDepth with
    | some d => { s with maxEventDepth := d }
    | none => s
  o.allowedDomains.foldl Settings.allowDomain s

/-- The usage text. -/
def usage : String :=
  "Storyboard Preview Runner

USAGE:
    storyboard <PROJECT.json> [OPTIONS]

OPTIONS:
    --event=ID               Execute the event with this id after the screen loads
    --trigger=KIND           Fire a UI trigger (click/change/load/submit/hover/custom)
    --element=ID             Element id for --trigger
    --emit=NAME              Fire custom events listening to NAME
    --payload=JSON           Payload passed as params with --emit
    --max-depth=N            Override runtime.maxEventDepth
    --allow-domain=HOST      Add a host to the api_call allow-list (repeatable)
    --layout                 Print reflowed widget positions
    --lint/--no-lint         Enable/disable project lint (default: enabled)
    --quiet, -q              Suppress all logs except panics
    --log-level=LEVEL        Set log level (off/error/warn/info/debug/trace)
    --help, -h               Show this help"

end Options

end Storyboard
