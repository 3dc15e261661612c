import Storyboard.Options
import Storyboard.Project.Read
import Storyboard.Preview.Session
import Storyboard.Layout.Tree
import Storyboard.Lint
import Storyboard.Json.Printer

/-!
# The preview runner

`storyboard PROJECT.json [OPTIONS]` loads a project, reviews it, loads its screen, runs
what the options ask for (an event by id, a trigger, a custom event), and prints each
outcome, the state, the event journal and, with `--layout`, the placed widgets. The exit
code is 0 when everything succeeded, 1 when something failed or the project could not
be read, and 2 without a project file. Requests get no answer: there is no network.
-/

namespace Storyboard

namespace Runner

/-- The lines that report an outcome under a label. -/
def outcomeLines (label : String) (r : Outcome) : List String :=
  ["[" ++ label ++ "] " ++ (if r.success then "ok" else "failed")]
    ++ (match r.error with | some e => ["    " ++ e] | none => [])
    ++ r.changes.map (fun (path, v) => "    " ++ path ++ " = " ++ v.render)
    ++ r.effects.map (fun e => "    effect " ++ e.toJson.render)

/-- The title-case name of a trigger kind. -/
def triggerTitle : TriggerKind → String
  | .click => "Click" | .change => "Change" | .load => "Load"
  | .submit => "Submit" | .hover => "Hover" | .custom => "Custom"

/-- The title-case name of a verdict. -/
def verdictTitle : Verdict → String
  | .executed => "Executed" | .skipped => "Skipped" | .disabled => "Disabled" | .failed => "Failed"

/-- The line of a journal entry, indented by its depth. -/
def entryLine (e : Entry) : String :=
  let line := "".pushn ' ' (2 * e.depth) ++ e.eventId ++ " [" ++ triggerTitle e.trigger ++ "] "
    ++ verdictTitle e.verdict
  match e.error with
  | some m => line ++ " " ++ m
  | none => line

/-- The lines of the placed widgets, depth first from the top-level ones; `fuel` bounds
the lines printed. -/
def layoutLines (t : Tree) : Nat → List (String × Nat) → List String
  | 0, _ => []
  | _, [] => []
  | fuel + 1, (id, depth) :: rest =>
    match t.get? id with
    | none => layoutLines t fuel rest
    | some w =>
      let n := NumberLayout.plain.render
      ("".pushn ' ' (2 * depth) ++ w.id ++ " (" ++ w.widgetType ++ ") x=" ++ n w.position.x ++ " y="
        ++ n w.position.y ++ " w=" ++ n w.size.width ++ " h=" ++ n w.size.height)
      :: layoutLines t fuel ((t.childrenOf id).map (fun c => (c.id, depth + 1)) ++ rest)

/-- Whether a finding is shown at a log level. -/
def shows (level : LogLevel) (d : Diagnostic) : Bool :=
  match level, d.level with
  | .off, _ => false
  | .error, .error => true
  | .error, _ => false
  | .warn, .info => false
  | _, _ => true

/-- The lines of the review, as the log shows them. -/
def reviewLines (o : Options) (p : Project) : List String :=
  if !o.enableLint || o.quiet then [] else
  let ds := p.review
  let tag : Level → String := fun | .error => "[Error]" | .warning => "[Warning]" | .info => "[Info]"
  (ds.filter (shows o.logLevel)).map (fun d => tag d.level ++ " " ++ d.location.getD "" ++ " " ++ d.message)
    ++ (if Diagnostic.anyError ds && o.logLevel != .off then
          ["Lint errors found. Use --no-lint to skip lint checks."] else [])

/-- Run a loaded project as the options ask: the report lines and whether all went well. -/
def run (o : Options) (p : Project) : List String × Bool :=
  let p := { p with runtime := o.applyTo p.runtime }
  let s := Session.ofProject p []
  let (loaded, s) := s.load {}
  let lines := outcomeLines "load" loaded
  let ok := loaded.success
  let (lines, ok, s) := match o.eventId with
    | some id => match s.fireEvent id {} with
      | some (r, s) => (lines ++ outcomeLines ("event " ++ id) r, ok && r.success, s)
      | none => (lines ++ ["event '" ++ id ++ "' not found"], false, s)
    | none => (lines, ok, s)
  let (lines, ok, s) := match o.trigger with
    | some k =>
      let (r, s) := s.trigger k o.elementId {}
      (lines ++ outcomeLines ("trigger " ++ triggerTitle k) r, ok && r.success, s)
    | none => (lines, ok, s)
  let (lines, ok, s) := match o.emit with
    | some name =>
      let (r, s) := s.fireCustom name o.payload
      (lines ++ outcomeLines ("emit " ++ name) r, ok && r.success, s)
    | none => (lines, ok, s)
  let lines := lines ++ ["", "state", s.world.store.toJson.renderPretty, "", "event log"]
    ++ s.world.journal.map entryLine
  let lines := if o.showLayout then
      let t := (Tree.ofWidgets p.widgets).relayoutAll.2
      lines ++ ["", "layout"] ++ layoutLines t (Nat.pow (t.widgets.length + t.roots.length + 1) 2) (t.roots.map fun r => (r, 0))
    else lines
  (lines, ok)

end Runner

end Storyboard

open Storyboard in
/-- Run the preview runner on the command line's words. -/
def main (args : List String) : IO UInt32 := do
  let o := Options.parse args
  if o.showHelp then
    IO.println Options.usage
    return 0
  let some path := o.projectPath
    | IO.println Options.usage
      return 2
  match ← (IO.FS.readFile path).toBaseIO with
  | .error e =>
    IO.eprintln ("IO error reading " ++ path ++ ": " ++ toString e)
    return 1
  | .ok text =>
  match Project.parse text with
  | .error f =>
    IO.eprintln ("invalid project file: " ++ f.text)
    return 1
  | .ok p =>
    for l in Runner.reviewLines o p do
      IO.eprintln l
    let (lines, ok) := Runner.run o p
    for l in lines do
      IO.println l
    return if ok then 0 else 1
