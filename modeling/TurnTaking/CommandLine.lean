import TurnTaking.Inbox
import TurnTaking.Number.Numeral
/-!
# The command line

A replay is asked for by options: the script to read, the grace window, whether to keep to the
times of the script, and the capacity of the queue. Arguments are read from left to right, and the
first request for the version or for help, or the first fault, decides.
-/

namespace TurnTaking

open Number

/-- What a replay is asked for. -/
structure Options where
  /-- The path of the script; without one it comes from the standard input. -/
  script : Option String
  graceSeconds : Option Binary64
  realtime : Bool
  capacity : Option Nat
deriving DecidableEq, Repr

/-- What a command line asks for. -/
inductive Invocation where
  | replay (options : Options)
  | version
  | help
  /-- The command line is at fault. -/
  | misuse
deriving DecidableEq, Repr

namespace CommandLine

/-- The options that take a value. -/
inductive Valued where
  | script
  | graceSeconds
  | capacity
deriving DecidableEq, Repr

/-- The options. -/
inductive Switch where
  | valued (v : Valued)
  | realtime
  | version
  | help
deriving DecidableEq, Repr

/-- The option of a long name. -/
def ofLongName (name : List Char) : Option Switch :=
  if name = "script".toList then some (.valued .script)
  else if name = "grace-secs".toList then some (.valued .graceSeconds)
  else if name = "capacity".toList then some (.valued .capacity)
  else if name = "realtime".toList then some .realtime
  else if name = "version".toList then some .version
  else if name = "help".toList then some .help
  else none

/-- The option of a short name. -/
def ofShortName (c : Char) : Option Switch :=
  if c = 's' then some (.valued .script)
  else if c = 'V' then some .version
  else if c = 'h' then some .help
  else none

/-- No options. -/
def noOptions : Options :=
  ⟨none, none, false, none⟩

/-- The options with a value for one that has none yet. -/
def setValue (o : Options) (v : Valued) (text : String) : Option Options :=
  match v with
  | .script =>
    if o.script.isSome || text.isEmpty then none else some { o with script := some text }
  | .graceSeconds =>
    if o.graceSeconds.isSome then none
    else (Binary64.ofText? text.toList).map fun x => { o with graceSeconds := some x }
  | .capacity =>
    if o.capacity.isSome then none
    else (natOfText? text.toList).map fun n => { o with capacity := some n }

/-- Whether an argument cannot be the value of the option before it. -/
def looksLikeOption (arg : String) : Bool :=
  match arg.toList with
  | '-' :: _ :: _ => true
  | _ => false

/-- What an argument says on its own. -/
inductive Argument where
  /-- An option and the value that is written with it. -/
  | switch (s : Switch) (value : Option String)
  /-- Two hyphens: no options follow. -/
  | endOfOptions
  | other
deriving DecidableEq, Repr

/-- What an argument says on its own. -/
def classify (arg : String) : Argument :=
  match arg.toList with
  | ['-', '-'] => .endOfOptions
  | '-' :: '-' :: body =>
    let name := body.takeWhile (· != '=')
    match ofLongName name, body.dropWhile (· != '=') with
    | some s, '=' :: value => .switch s (some (String.ofList value))
    | some s, _ => .switch s none
    | none, _ => .other
  | '-' :: c :: body =>
    match ofShortName c, body with
    | some s, [] => .switch s none
    | some (.valued v), '=' :: value => .switch (.valued v) (some (String.ofList value))
    | some (.valued v), value => .switch (.valued v) (some (String.ofList value))
    | some s, _ => .switch s none
    | none, _ => .other
  | _ => .other

/-- What the arguments ask for, after those that have given `o`. -/
def read (o : Options) : List String → Invocation
  | [] => .replay o
  | arg :: rest =>
    match classify arg with
    | .switch (.valued v) (some text) =>
      match setValue o v text with
      | some o => read o rest
      | none => .misuse
    | .switch (.valued v) none =>
      match rest with
      | text :: rest =>
        if looksLikeOption text then .misuse
        else match setValue o v text with
          | some o => read o rest
          | none => .misuse
      | [] => .misuse
    | .switch .realtime none => if o.realtime then .misuse else read { o with realtime := true } rest
    | .switch .version none => .version
    | .switch .help none => .help
    | .switch _ (some _) => .misuse
    | .endOfOptions => if rest.isEmpty then .replay o else .misuse
    | .other => .misuse

/-- What a command line asks for. -/
def parse (args : List String) : Invocation :=
  read noOptions args

end CommandLine

end TurnTaking
