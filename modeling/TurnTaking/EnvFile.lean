import TurnTaking.Text.Blank
import TurnTaking.Text.LetterTable
import TurnTaking.Text.Quoted
/-!
# Files of variables

A file may set variables of the environment, one `NAME=value` a line, with quotes, escapes,
comments, an optional `export`, and other variables put in by `$NAME`. A line goes on over its end
while a quote is open. Variables that are already set keep their values. The first faulty line ends
the reading, and what has been set before stays set.

Lines and values are read by machines that look at one character at a time: `LineState.step` finds
where a line ends, `ValueState.step` what its value is.
-/

namespace TurnTaking

open Text

/-- Variables and their values, oldest first. -/
abbrev Environment := List (String × String)

/-- What follows in a text that starts with another one. -/
def remainder? : List Char → List Char → Option (List Char)
  | [], cs => some cs
  | p :: ps, c :: cs => if p = c then remainder? ps cs else none
  | _ :: _, [] => none

/-- The value of a variable. A variable is known by its text `name=value`, so that a name with an
equals sign in it finds what comes later in the text; the empty name finds nothing. -/
def Environment.get? (env : Environment) (name : String) : Option String :=
  if name.isEmpty then none
  else env.findSome? fun entry =>
    (remainder? (name ++ "=").toList (entry.1 ++ "=" ++ entry.2).toList).map String.ofList

/-- A value that a variable cannot hold. -/
structure Unstorable where
  name : String
  value : String
deriving DecidableEq, Repr

/-- The text of a refusal to give a variable its value. -/
def Unstorable.message (u : Unstorable) : String :=
  "failed to set environment variable \x60" ++ quote u.name ++ "\x60 to \x60" ++ quote u.value ++
    "\x60: file name contained an unexpected NUL byte"

/-- The environment in which a variable has a value. No value may hold the character that marks the
end of values. -/
def Environment.set (env : Environment) (name value : String) : Except Unstorable Environment :=
  if value.toList.contains '\x00' then .error ⟨name, value⟩ else .ok (env ++ [(name, value)])

/-- The environment in which a variable has a value, unless it had one before. -/
def Environment.setIfAbsent (env : Environment) (name value : String) :
    Except Unstorable Environment :=
  if (env.get? name).isSome then .ok env else env.set name value

namespace EnvFile

/-! ## Where a line ends -/

/-- What the characters of a line so far have left open. -/
inductive LineState where
  /-- Nothing. -/
  | complete
  /-- A blank, behind which a comment may begin. -/
  | blank
  | escape
  | strong
  | strongEscape
  | weak
  | weakEscape
  | comment
deriving DecidableEq, Repr

/-- The state of a line after one more character. -/
def LineState.step (s : LineState) (c : Char) : LineState :=
  match s with
  | complete =>
    if isBlank c && c != '\n' && c != '\r' then blank
    else if c = '\\' then escape
    else if c = '"' then weak
    else if c = '\'' then strong
    else complete
  | blank =>
    if c = '#' then comment
    else if c = '\\' then escape
    else if c = '"' then weak
    else if c = '\'' then strong
    else complete
  | escape => complete
  | weak => if c = '\\' then weakEscape else if c = '"' then complete else weak
  | weakEscape => weak
  | strong => if c = '\\' then strongEscape else if c = '\'' then complete else strong
  | strongEscape => strong
  | comment => comment

/-- The text of a line up to a comment, and what it leaves open. -/
def beforeComment (s : LineState) : List Char → List Char × LineState
  | [] => ([], s)
  | c :: cs =>
    match s.step c with
    | .comment => ([], .comment)
    | t =>
      let (kept, last) := beforeComment t cs
      (c :: kept, last)

/-- The lines of a text with their ends. -/
def rawLines : List Char → List (List Char)
  | [] => []
  | c :: cs =>
    if c = '\n' then [c] :: rawLines cs
    else match rawLines cs with
      | [] => [[c]]
      | line :: rest => (c :: line) :: rest

/-- A line without its end. -/
def dropEnd (line : List Char) : List Char :=
  if line.getLast? = some '\n' then dropReturn line.dropLast else line

/-- Whether a line is a comment. -/
def isComment (line : List Char) : Bool :=
  (stripStart isBlank line).head? = some '#'

/-- Joins lines that belong together; `begun` is what has been read of the line that is not
complete, in the state `s`. Where the text ends within a line, nothing is given for it. -/
def joinLines (begun : List Char) (s : LineState) : List (List Char) → List (Option (List Char))
  | [] => if s = .complete then [] else [none]
  | raw :: rest =>
    let whole := begun ++ raw
    if isComment whole then some [] :: joinLines [] .complete rest
    else
      match beforeComment s raw with
      | (_, .complete) => some (dropEnd whole) :: joinLines [] .complete rest
      | (kept, .comment) => some (begun ++ kept) :: joinLines [] .complete rest
      | (_, t) => joinLines whole t rest

/-! ## What a value is -/

/-- The quotes that a value is in. -/
inductive Quote where
  | none
  | strong
  | weak
deriving DecidableEq, Repr

/-- How far the end of a value has come. -/
inductive Ending where
  | notYet
  /-- Only blanks and a comment may follow. -/
  | blanks
  | comment
deriving DecidableEq, Repr

/-- A value that is being read. -/
structure ValueState where
  /-- The value so far, last character first. -/
  rev : List Char
  quote : Quote
  escaped : Bool
  /-- The name that is being read, last character first, and whether it stands in braces. -/
  naming : Option (Bool × List Char)
  ending : Ending

namespace ValueState

/-- A value before its first character. -/
def start : ValueState :=
  ⟨[], .none, false, none, .notYet⟩

/-- A value with one more character. -/
def push (s : ValueState) (c : Char) : ValueState :=
  { s with rev := c :: s.rev }

/-- A value with the value of a named variable put in. -/
def putIn (s : ValueState) (look : String → Option String) (name : List Char) : ValueState :=
  let value := ((look (String.ofList name.reverse)).getD "").toList
  { s with rev := value.reverse ++ s.rev, naming := none }

/-- What a backslash and another character stand for. -/
def escapeOf? (c : Char) : Option Char :=
  if c = 'n' then some '\n'
  else if c = '\\' ∨ c = '\'' ∨ c = '"' ∨ c = '$' ∨ c = ' ' then some c
  else none

/-- The state of a value in which a name is being read, after one more character. -/
def stepName (s : ValueState) (look : String → Option String) (braced : Bool) (name : List Char)
    (c : Char) : ValueState :=
  if isLetterOrDigit c then { s with naming := some (braced, c :: name) }
  else if braced then
    if c = '\x7d' then s.putIn look name else { s with naming := some (true, c :: name) }
  else if c = '\x7b' && name.isEmpty then { s with naming := some (true, []) }
  else
    let put := s.putIn look name
    if c = '$' then { put with naming := some (false, []) } else put.push c

/-- The state of a value outside strong quotes, escapes and names, after one more character. -/
def stepPlain (s : ValueState) (c : Char) : ValueState :=
  if c = '$' then { s with naming := some (false, []) }
  else if s.quote = .weak then
    if c = '"' then { s with quote := .none }
    else if c = '\\' then { s with escaped := true }
    else s.push c
  else if c = '\'' then { s with quote := .strong }
  else if c = '"' then { s with quote := .weak }
  else if c = '\\' then { s with escaped := true }
  else if c = ' ' ∨ c = '\t' then { s with ending := .blanks }
  else s.push c

/-- The state of a value after one more character; none if it cannot stand there. -/
def step (look : String → Option String) (s : ValueState) (c : Char) : Option ValueState :=
  match s.ending with
  | .comment => some s
  | .blanks =>
    if c = ' ' ∨ c = '\t' then some s
    else if c = '#' then some { s with ending := .comment }
    else none
  | .notYet =>
    if s.escaped then (escapeOf? c).map fun d => { s.push d with escaped := false }
    else if s.quote = .strong then
      some (if c = '\'' then { s with quote := .none } else s.push c)
    else match s.naming with
      | some (braced, name) => some (s.stepName look braced name c)
      | none => some (s.stepPlain c)

/-- The value, if nothing is left open. -/
def finish (look : String → Option String) (s : ValueState) : Option String :=
  if s.quote != .none then none
  else match s.naming with
    | some (true, _) => none
    | some (false, name) => some (String.ofList (s.putIn look name).rev.reverse)
    | none => some (String.ofList s.rev.reverse)

end ValueState

/-- The value that a text writes. -/
def readValue (look : String → Option String) (cs : List Char) : Option String :=
  (cs.foldlM (ValueState.step look) .start).bind (·.finish look)

/-! ## Lines -/

/-- Whether a character may stand in a name. -/
def isNameChar (c : Char) : Bool :=
  c.isAlphanum || c == '_' || c == '.'

/-- A name at the start of a text, and what follows it and the blanks behind it. -/
def takeName (cs : List Char) : Option (List Char × List Char) :=
  match cs with
  | [] => none
  | c :: _ =>
    if c.isAlpha || c == '_' then
      some (cs.takeWhile isNameChar, stripStart isBlank (cs.dropWhile isNameChar))
    else none

/-- What follows an equals sign at the start of a text. -/
def takeEquals : List Char → Option (List Char)
  | '=' :: cs => some cs
  | _ => none

/-- The name that a line sets, and what follows the equals sign. -/
def takeAssignment (cs : List Char) : Option (List Char × List Char) := do
  let (name, rest) ← takeName cs
  match takeEquals rest with
  | some value => return (name, value)
  | none =>
    if name = "export".toList then
      let (name, rest) ← takeName rest
      return (name, ← takeEquals rest)
    else none

/-- Why a line sets nothing. -/
inductive LineFault where
  | malformed
  | unstorable (cause : Unstorable)
deriving DecidableEq, Repr

/-- The text of a line's fault. -/
def LineFault.message : LineFault → String
  | malformed => "Failed to load .env"
  | unstorable cause => cause.message

/-- A file that is being read: the environment, and the values that the file itself has set, latest
first. -/
structure Loading where
  environment : Environment
  known : List (String × String)

/-- The value of a variable: that of the environment first, then that of the file. -/
def Loading.look (l : Loading) (name : String) : Option String :=
  l.environment.get? name <|> l.known.lookup name

/-- The variables after another assignment. -/
def Loading.set (l : Loading) (name value : String) : Except Unstorable Loading :=
  (l.environment.setIfAbsent name value).map fun env => ⟨env, (name, value) :: l.known⟩

/-- The name that a line sets and its value, if the line sets one; nothing if it is malformed. -/
def Loading.assignment (l : Loading) (line : List Char) : Option (Option (String × String)) :=
  let text := trim line
  if text.isEmpty || text.head? = some '#' then some none
  else do
    let (name, rest) ← takeAssignment text
    let rest := stripStart isBlank rest
    if rest.isEmpty || rest.head? = some '#' then return some (String.ofList name, "")
    else return some (String.ofList name, ← readValue l.look rest)

/-- The variables after a line. -/
def Loading.readLine (l : Loading) (line : List Char) : Except LineFault Loading :=
  match l.assignment line with
  | none => .error .malformed
  | some none => .ok l
  | some (some (name, value)) => (l.set name value).mapError .unstorable

/-- The variables after some lines, and the fault of the first faulty one. -/
def Loading.readLines (l : Loading) : List (Option (List Char)) → Loading × Option LineFault
  | [] => (l, none)
  | none :: _ => (l, some .malformed)
  | some line :: rest =>
    match l.readLine line with
    | .ok l => l.readLines rest
    | .error fault => (l, some fault)

/-- A text without the mark of its byte order. -/
def dropMark : List Char → List Char
  | '\ufeff' :: cs => cs
  | cs => cs

/-- The environment with the variables of a file, and the fault that ended the reading. -/
def load (env : Environment) (text : String) : Environment × Option LineFault :=
  let lines := joinLines [] .complete (rawLines (dropMark text.toList))
  let (l, fault) := Loading.readLines ⟨env, []⟩ lines
  (l.environment, fault)

/-- The names of which a file can speak: its runs of characters of names, of letters and digits, and
what stands between braces. -/
def mentioned (text : String) : List String :=
  let runs (p : Char → Bool) := (splitWhere (! p ·) text.toList).filter (! ·.isEmpty)
  (runs isNameChar ++ runs isLetterOrDigit ++ runs fun c => c != '\x7b' && c != '\x7d').map
    String.ofList

end EnvFile

end TurnTaking
