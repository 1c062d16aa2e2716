import Std.Time.DateTime.Timestamp
import Std.Time.DateTime.PlainDateTime
import TurnTaking.Replay
/-!
# The command

Replays a script from a file or from the standard input and prints what the conversation makes
known. Everything that is decided is decided by `Replay.run`; here it is given what it can see,
and what it says is printed.
-/

namespace TurnTaking.Main

open Time

/-- The present, as a text. -/
def arrivalText : IO String := do
  let nanos := (← Std.Time.Timestamp.now).toNanosecondsSinceUnixEpoch.val
  let perDay : Int := 86400 * 1000000000
  let day := Std.Time.PlainDate.ofEpochDay ⟨nanos / perDay⟩
  let rest := (nanos % perDay).toNat
  let stamp := do
    let date ← Date.ofNumbers? day.year.toInt day.month.val.toNat day.day.val.toNat
    Stamp.ofParts? date (rest / 1000000000) (rest % 1000000000)
  return (stamp.map fun s => String.ofList s.text).getD ""

/-- The text of a file, if it can be read. -/
def fileText? (path : String) : IO (Option String) := do
  try
    return some (← IO.FS.readFile path)
  catch _ =>
    return none

/-- The file of variables in this directory or the nearest one above it. -/
def envFile? : IO (Option String) := do
  let above := ((← IO.currentDir).toString.splitOn "/").length
  for k in List.range (above + 1) do
    let path := String.join (List.replicate k "../") ++ ".env"
    if let some text ← fileText? path then
      return some text
  return none

/-- What is left to read. -/
partial def readOn (input : IO.FS.Stream) (text : String) : IO String := do
  let line ← input.getLine
  if line.isEmpty then return text else readOn input (text ++ line)

/-- The variables that settings or a file of variables can ask for. -/
def environmentOf (names : List String) : IO Environment := do
  let mut env : Environment := []
  for name in names do
    if let some value ← IO.getEnv name then
      env := (name, value) :: env
  return env

/-- What the command can see. -/
def surroundings (invocation : Invocation) : IO Replay.Surroundings := do
  let envFile ← envFile?
  let settingsNames := [Settings.backchannelsKey, Settings.commandsKey, Settings.graceKey]
  let environment ← environmentOf (settingsNames ++ (envFile.map EnvFile.mentioned).getD [])
  match invocation with
  | .replay o =>
    match o.script with
    | some path =>
      let text ← fileText? path
      return { environment, envFile, file := fun _ => text, standardInput := "" }
    | none =>
      let text ← readOn (← IO.getStdin) ""
      return { environment, envFile, file := fun _ => none, standardInput := text }
  | _ => return { environment, envFile, file := fun _ => none, standardInput := "" }

/-- The milliseconds for which a replay that keeps to the times of its script lasts. -/
def lasting (around : Replay.Surroundings) : Invocation → UInt32
  | .replay o =>
    if o.realtime then
      match Replay.prepare around around.environment o with
      | .ok (_, entries) => (entries.getLast?.map (·.atMs.toUInt32)).getD 0
      | .error _ => 0
    else 0
  | _ => 0

end TurnTaking.Main

open TurnTaking TurnTaking.Main in
/-- Runs the command. -/
def main (args : List String) : IO UInt32 := do
  let invocation := CommandLine.parse args
  let around ← surroundings invocation
  let arrival ← arrivalText
  let (ending, malformed) := Replay.run around .zero args
  if malformed then
    IO.eprintln EnvFile.LineFault.malformed.message
  match ending with
  | .printed lines =>
    IO.sleep (lasting around invocation)
    for line in lines do
      IO.println (line.text arrival)
  | .failed e => IO.eprintln ("Error: " ++ e.message)
  | .misuse => IO.eprintln "error: unexpected arguments"
  | .aborted message => IO.eprintln message
  return .ofNat ending.status
