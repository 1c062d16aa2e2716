import TurnTaking.CommandLine
import TurnTaking.Conversation.Sitting
import TurnTaking.EnvFile
import TurnTaking.Json.Sorted
import TurnTaking.Script
import TurnTaking.Time.Clock
/-!
# Replaying a script

A replay reads a script and has a conversation hear it: each event is sent at its time, by a clock
that is moved by hand, and the sender waits whenever the queue is full. What the conversation makes
known is printed, then what the host was asked for, and last the final account. A replay that keeps
to the times of its script has a clock that moves on its own, so that no two events are sent at the
same time.

`Replay.run` is the whole command, from the arguments to the lines that it prints.
-/

namespace TurnTaking

open Time Number

/-- What a replay prints. -/
inductive OutputLine where
  | record (r : Record)
  /-- How often the host took each request. -/
  | host (interrupts clears : Nat)
  | account (r : FinalReport)
  | plain (text : String)

namespace OutputLine

/-- The text of a count of requests. -/
def hostText (interrupts clears : Nat) : String :=
  "interrupt=" ++ String.ofList (Nat.toDigits 10 interrupts) ++
    " clear_turn=" ++ String.ofList (Nat.toDigits 10 clears)

/-- A line as it is printed: its subject, a tab, and what is said. -/
def text (arrival : String) : OutputLine → String
  | record r => r.topic ++ "\t" ++ (r.payload.toJson arrival).sortKeys.text
  | host interrupts clears => "adapter\t" ++ hostText interrupts clears
  | account r => "report\t" ++ r.toJson.text
  | plain t => t

end OutputLine

/-- Why a replay fails. -/
inductive ReplayError where
  | settings (cause : SettingsError)
  | grace (seconds : Binary64)
  | unreadable (path : String)
  | script (cause : ScriptError)
deriving DecidableEq, Repr

/-- The text of a failure. -/
def ReplayError.message : ReplayError → String
  | settings _ => "invalid arbiter configuration"
  | grace seconds => "--grace-secs " ++ seconds.plainText ++ " is not a valid duration"
  | unreadable path => "failed to read script " ++ path
  | script cause => cause.message

/-- How a command ends. -/
inductive ReplayEnding where
  | printed (lines : List OutputLine)
  | failed (error : ReplayError)
  | misuse
  /-- The queue, the clock or a variable has no room. -/
  | aborted (message : String)

/-- The status with which a command exits. -/
def ReplayEnding.status : ReplayEnding → Nat
  | printed _ => 0
  | failed _ => 1
  | misuse => 2
  | aborted _ => 101

namespace Replay

/-- What a command can see. -/
structure Surroundings where
  environment : Environment
  /-- The text of the file of variables, if there is one. -/
  envFile : Option String
  /-- The text of a file, if it can be read. -/
  file : String → Option String
  standardInput : String

/-- The version that is printed. -/
def versionText : String :=
  "parley-replay 0.1.0"

/-- The time that passes between two events at least when the clock moves on its own. -/
def sendingTime : Duration :=
  ⟨1000⟩

/-- Sends the entries of a script, the first one `late` after its time, and each by `delay` later
than the one before it. -/
def feed (delay : Duration) (s : Sitting) (clock : Clock) (late : Duration) :
    List ScriptEntry → Except ClockError Sitting
  | [] => .ok s
  | entry :: rest => do
    let clock ← clock.setOffset (.ofMillis entry.atMs.toNat + late)
    feed delay (s.sendWaiting ⟨clock.now, entry.event⟩).1 clock (late + delay) rest

/-- What is printed when a sitting is over. -/
def outputOf (s : Sitting) : List OutputLine :=
  s.conversation.context.journal.records.map .record ++
    [.host (s.conversation.context.outbox.host.count .interrupt)
      (s.conversation.context.outbox.host.count .clearTurn)] ++
    (s.outcome.map .account).toList

/-- Replays the entries of a script, with a clock that starts at `origin`; each event is sent by
`delay` later than the one before it. -/
def play (settings : Settings) (capacity : Nat) (origin : Instant) (delay : Duration)
    (entries : List ScriptEntry) : ReplayEnding :=
  match Inbox.ofCapacity capacity with
  | .error e => .aborted e.message
  | .ok inbox =>
    match feed delay (.fresh inbox settings .willing) (.startingAt origin) .zero entries with
    | .error e => .aborted e.message
    | .ok s => .printed (outputOf s.conclude)

/-- The grace window of the command line, if it gives one. -/
def withGrace (settings : Settings) (seconds : Option Binary64) : Except ReplayError Settings :=
  match seconds with
  | none => .ok settings
  | some x =>
    match Duration.ofSeconds? x with
    | some grace => .ok (settings.withGrace grace)
    | none => .error (.grace x)

/-- The text of the script. -/
def scriptText (around : Surroundings) (path : Option String) : Except ReplayError String :=
  match path with
  | none => .ok around.standardInput
  | some p =>
    match around.file p with
    | some text => .ok text
    | none => .error (.unreadable p)

/-- The settings and the entries of a replay. -/
def prepare (around : Surroundings) (env : Environment) (options : Options) :
    Except ReplayError (Settings × List ScriptEntry) := do
  let settings ← (Settings.ofLookup env.get?).mapError .settings
  let settings ← withGrace settings options.graceSeconds
  let text ← scriptText around options.script
  let entries ← (Script.ofText text).mapError .script
  return (settings, entries)

/-- What a command line comes to. -/
def obey (around : Surroundings) (env : Environment) (origin : Instant) : Invocation → ReplayEnding
  | .version => .printed [.plain versionText]
  | .help => .printed []
  | .misuse => .misuse
  | .replay options =>
    match prepare around env options with
    | .error e => .failed e
    | .ok (settings, entries) =>
      play settings (options.capacity.getD Inbox.standardCapacity) origin
        (if options.realtime then sendingTime else .zero) entries

/-- What a command comes to, and whether the file of variables is malformed. -/
def run (around : Surroundings) (origin : Instant) (args : List String) : ReplayEnding × Bool :=
  let (env, fault) := match around.envFile with
    | some text => EnvFile.load around.environment text
    | none => (around.environment, none)
  match fault with
  | some (.unstorable cause) => (.aborted cause.message, false)
  | _ => (obey around env origin (CommandLine.parse args), fault.isSome)

end Replay

end TurnTaking
