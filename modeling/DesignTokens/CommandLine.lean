import DesignTokens.CommandLine.Options
import DesignTokens.LogLevel
import DesignTokens.Summary
import DesignTokens.Version
import DesignTokens.Watch

/-! # The command line

A run compiles the theme once, or in watch mode again after every save. It shows a summary of each
build, and its exit code says whether all artifacts were made and stored. -/
namespace DesignTokens

namespace CommandLine

/-- How a run ends: with an exit code, or at a problem that it does not handle. -/
inductive Ended
  | exit (code : Nat)
  | problem (p : Problem)
  deriving DecidableEq, Repr

/-- The exit code of the process. -/
def Ended.code : Ended → Nat
  | .exit code => code
  | .problem _ => 1

/-- What a run has come to: the world, what it wrote for the user, the threshold of its log if it
set one, and its end. -/
structure Run where
  world : World
  output : Text
  errors : Text
  threshold : Option Log.Threshold
  log : Log
  ended : Ended

/-- The surroundings of a run: where it prints, and how the number of an option is read. -/
structure Host where
  terminal : Console.Terminal
  number? : String → Option Binary64

def Host.usual : Host := ⟨.usual, intervalText?⟩

/-- A build in watch mode that has no report shows nothing. -/
def tell (host : Host) : Telling Text
  | some r => r.summary host.terminal
  | none => .ok ""

def watchingText (host : Host) (s : Settings) : Except Problem Text :=
  Console.printed host.terminal
    ("Watching " ++ s.tokens.text ++ " for changes (Ctrl+C to stop)")

def Options.explicit (o : Options) : Settings.Explicit :=
  ⟨o.tokens, o.output, o.interval.map Value.float⟩

def Options.threshold (o : Options) (env : Environment) : Log.Threshold :=
  Log.threshold env o.verbose o.watch

def errorText (message : Text) : Text := "Error: " ++ message ++ "\n"

/-- A document that is refused is reported; other problems are not handled. -/
def failed (p : Problem) : Text × Ended :=
  match p with
  | .load (.refused cause file) =>
    (errorText (LoadError.refused cause file).text, .exit 1)
  | p => ("", .problem p)

/-- A single build. If only the line below the table cannot be shown, the table has been. -/
def build (host : Host) (w : World) (o : Options) (s : Settings) : Run :=
  let threshold := some (o.threshold w.environment)
  let built := w.build s none
  match built.result with
  | .error p =>
    let (errors, ended) := failed p
    ⟨built.world, "", errors, threshold, built.log, ended⟩
  | .ok r =>
    match r.summary host.terminal with
    | .ok text => ⟨built.world, text, "", threshold, built.log, .exit (if r.success then 0 else 1)⟩
    | .error p =>
      let before := (r.tableText host.terminal).toOption.getD ""
      ⟨built.world, before, "", threshold, built.log, .problem p⟩

/-- Watch mode with the saves that happen meanwhile. -/
def watch (host : Host) (w : World) (o : Options) (s : Settings) (edits : List Edit)
    (ending : Ending) : Run :=
  let threshold := some (o.threshold w.environment)
  match watchingText host s with
  | .error p => ⟨w, "", "", threshold, [], .problem p⟩
  | .ok text =>
    let watched := (w.share s.tokens).andThen fun w h => w.watch s h (tell host) edits ending
    match watched.result with
    | .ok texts =>
      ⟨watched.world, text ++ Text.join texts, "", threshold, watched.log, .exit 0⟩
    | .error p => ⟨watched.world, text, "", threshold, watched.log, .problem p⟩

/-- A compilation, once logging has been set up. -/
def compile (host : Host) (w : World) (o : Options) (edits : List Edit) (ending : Ending) : Run :=
  let threshold := o.threshold w.environment
  match threshold.level with
  | .error f => ⟨w, "", "", some threshold, [], .problem (.level f)⟩
  | .ok _ =>
    match w.settings o.explicit with
    | .error p =>
      ⟨w, "", errorText ("invalid configuration: " ++ p.text), some threshold, [], .exit 1⟩
    | .ok s => if o.watch then watch host w o s edits ending else build host w o s

/-- The paths that a compilation reads and writes. -/
def paths (s : Settings) : List Path :=
  s.tokens :: s.output :: builtin.map fun g => s.output ++ Path.ofString (Artifact.filenameOf g.1)

def versionText : String := Version.distribution ++ " " ++ Version.release ++ "\n"

def usage : String := "Usage: " ++ Version.distribution ++ " [OPTIONS]\n"

/-- The help text: a line for each option. -/
def help : String :=
  let letter (c : Choice) : String :=
    match Choice.short.find? fun e => e.2 = c with
    | some (letter, _) => ", -" ++ letter.toString
    | none => ""
  usage ++ String.join (Choice.long.map fun e => "  " ++ e.1 ++ letter e.2 ++ "\n")

/-- A run with its arguments. Faults in them end it with exit code 2. -/
def run (host : Host) (w : World) (arguments : List String) (edits : List Edit)
    (ending : Ending) : Run :=
  match parse host.number? arguments with
  | .error f => ⟨w, "", usage ++ errorText f.message, none, [], .exit 2⟩
  | .ok .showVersion => ⟨w, versionText, "", none, [], .exit 0⟩
  | .ok .showHelp => ⟨w, help, "", none, [], .exit 0⟩
  | .ok (.compile o) => compile host w o edits ending

end CommandLine

end DesignTokens
