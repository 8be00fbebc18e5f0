import FixtureKit.CommandLine.Arguments
import FixtureKit.CommandLine.Failure
import FixtureKit.CommandLine.Filter
import FixtureKit.Fixtures.Generate
import FixtureKit.Fixtures.Verify

/-!
# Running the Command Line

A run reads its arguments, makes the fixtures, verifies them if asked to, and prints the report.
What it leaves is a status, two texts and the files.

## Conventions

* The status is 0 for success, help and version, 1 for a failure and 2 for refused arguments.
* Messages are written to the error text as far as the filter shows them, in front of a failure.
  A filter that is set counts before what the arguments ask for, unless it cannot be read.
* Messages have colours unless they are not wished for. Help and refusals have none unless they
  are demanded as well.

## Main results

* `run_of_interruption` — arguments that ask for no work leave the files as they are.
-/

namespace FixtureKit

/-- What a run is told apart from its arguments. -/
structure Environment where
  /-- The message filter, if one is set. -/
  filter : Option String
  /-- The wish for no colours, if it is set; it counts if it is not empty. -/
  noColour : Option String
  /-- The demand for colours, if it is set; it counts if it is not empty. -/
  forcedColour : Option String
  deriving DecidableEq

/-- What a run leaves. -/
structure Outcome (σ : Type) where
  status : Nat
  output : String
  errors : String
  files : FileSystem
  /-- The state of the generator afterwards. -/
  state : σ

/-- The detail that counted flags ask for: warnings, and one more for each. -/
def detailOfVerbosity (verbosity : Nat) : Nat :=
  min (verbosity + 2) Filter.fullDetail

/-- The filter of a run. -/
def Environment.messageFilter (environment : Environment) (verbosity : Nat) : Filter :=
  match environment.filter.bind Filter.parse? with
  | some filter => filter
  | none => Filter.ofDetail (detailOfVerbosity verbosity)

/-- Whether messages are written with colours. -/
def Environment.coloured (environment : Environment) : Bool :=
  (environment.noColour.getD "").isEmpty

/-- Whether help and refusals are written with colours. -/
def Environment.coloursUsage (environment : Environment) : Bool :=
  environment.coloured && !(environment.forcedColour.getD "").isEmpty

/-- The lines of events that are shown. -/
def Environment.lines (environment : Environment) (verbosity : Nat) (time : String)
    (events : List Event) : String :=
  let shown := (events.map Event.message).filter (environment.messageFilter verbosity).shows
  String.join (shown.map fun message => message.line environment.coloured time)

/-- The text of a failure with fixtures. -/
def FixtureError.failureText (e : FixtureError) (attempt : String) : String :=
  Failure.text attempt (e.message :: e.causes)

/-- The compression that settings ask for. -/
def Settings.compression (settings : Settings) : Compression :=
  if settings.deflates then .deflated else .stored

/-- Does what settings ask for. -/
def Settings.run {σ : Type} (settings : Settings) (generator : Generator σ) (state : σ)
    (fs : FileSystem) (environment : Environment) (time : String) : Outcome σ :=
  let lines := environment.lines settings.verbosity time
  let destination := settings.destination
  let made := generate generator state fs destination settings.compression
  match made.result with
  | .error e =>
    let text := e.failureText ("Failed to generate fixtures in " ++ destination)
    ⟨1, "", lines made.events ++ e.notice ++ text, made.files, made.state⟩
  | .ok report =>
    if settings.verifies then
      match verify made.files destination with
      | .error e =>
        let text := e.failureText ("Fixtures in " ++ destination ++ " did not verify")
        ⟨1, "", lines made.events ++ text, made.files, made.state⟩
      | .ok _ =>
        ⟨0, report.text, lines (made.events ++ [.verified destination]), made.files, made.state⟩
    else
      ⟨0, report.text, lines made.events, made.files, made.state⟩

/-- The outcome of arguments that ask for no work. -/
def Interruption.outcome {σ : Type} (interruption : Interruption) (state : σ) (fs : FileSystem)
    (environment : Environment) : Outcome σ :=
  match interruption with
  | .help => ⟨0, helpText.written environment.coloursUsage, "", fs, state⟩
  | .version => ⟨0, versionText, "", fs, state⟩
  | .refused e => ⟨2, "", e.text.written environment.coloursUsage, fs, state⟩

/-- Runs the command line. All messages get the given time. -/
def run {σ : Type} (generator : Generator σ) (state : σ) (fs : FileSystem)
    (environment : Environment) (time : String) (arguments : List String) : Outcome σ :=
  match Settings.ofArguments arguments with
  | .error interruption => interruption.outcome state fs environment
  | .ok settings => settings.run generator state fs environment time

/-- Arguments that ask for no work leave the files as they are. -/
theorem run_of_interruption {σ : Type} {generator : Generator σ} {state : σ} {fs : FileSystem}
    {environment : Environment} {time : String} {arguments : List String}
    {interruption : Interruption} (h : Settings.ofArguments arguments = .error interruption) :
    (run generator state fs environment time arguments).files = fs := by
  rw [run, h]
  cases interruption <;> rfl

end FixtureKit
