import AqlGateway.Aql.Translation
import AqlGateway.Command.Console
import AqlGateway.Remote.Client
import AqlGateway.Shell.Payload
import AqlGateway.Text.Bytes

/-!
# The interactive shell

The shell reads lines: statements for the engine, and its own commands, which begin with a
backslash.

* `Shell.sqlArgument?` — the text behind the command that shows a translation;
* `Shell.Request.ofLine` — what a line asks for;
* `Shell.run` — a whole session over the bytes of an input.
-/

namespace AqlGateway.Shell

open Aql Remote

/-! ### Lines -/

/-- What a line asks for. -/
inductive Request
  | nothing
  /-- To show the translation of a text. -/
  | translation (text : String)
  | quit
  | help
  | counters
  | unknown (command : String)
  | statement (text : String)
  deriving DecidableEq, Repr

/-- The text behind `\sql`, unless something other than a blank follows that word. -/
def sqlArgument? (line : String) : Option String :=
  match Text.expect? ['\\', 's', 'q', 'l'] line.toList with
  | none => none
  | some [] => some ""
  | some (c :: rest) => if Text.isBlank c then some (String.ofList (c :: rest)) else none

/-- What a line without blanks at its ends asks for. -/
def Request.ofTrimmed (line : String) : Request :=
  match sqlArgument? line with
  | some text => .translation text
  | none =>
    if line = "" then .nothing
    else if line = "\\q" ∨ line = "\\quit" then .quit
    else if line = "\\?" ∨ line = "\\h" ∨ line = "\\help" then .help
    else if line = "\\stats" then .counters
    else if line.toList.head? = some '\\' then .unknown line
    else .statement line

/-- What a line asks for. -/
def Request.ofLine (line : String) : Request := ofTrimmed (Text.trimText line)

/-! ### Answers -/

def help : String := Text.joinWith "\n"
  ["Meta-commands:",
    "  \\q, \\quit          - Quit",
    "  \\sql <aql>         - Show the SQL translation of a statement",
    "  \\stats             - Show client counters",
    "  \\?, \\h, \\help      - Show this help",
    "",
    "AQL: LAHAN, TANAM KE, PANEN, PUPUK, GUSUR DARI, BAKAR LAHAN, LIHAT LAHAN, HITUNG"]

def countersText (stats : ClientStats) : String :=
  "attempts: " ++ toString stats.attempts ++ ", reconnects: " ++ toString stats.reconnects
    ++ ", failures: " ++ toString stats.failures

def complaint (e : Error) : String := "✗ " ++ e.message

/-- A shell at work: the client's side of the network, and what was written. -/
structure Session where
  link : Link
  console : Console

namespace Session

def say (line : String) (session : Session) : Session :=
  { session with console := session.console.say line }

def warn (line : String) (session : Session) : Session :=
  { session with console := session.console.warn line }

/-- Connects and greets. -/
def start (client : Client) (session : Session) : Session :=
  let greeted := session.say ("SawitQL 0.3.0 - connecting to " ++ client.address ++ "...")
  let (outcome, link) := client.connect greeted.link
  let dialed := { greeted with link := link }
  let told := match outcome with
    | .ok () => dialed.say "✓ Connected!\n"
    | .error e => (dialed.warn (complaint e)).warn "  Statements will retry the connection.\n"
  told.say "Type '\\?' for help, '\\q' to quit.\n"

/-- Sends a statement and shows its answer. -/
def send (client : Client) (statement : String) (session : Session) : Session :=
  let (outcome, link) := client.query statement session.link
  let answered := { session with link := link }
  match outcome with
  | .ok data => answered.say (renderPayload data)
  | .error e => answered.warn (complaint e)

def handle (client : Client) (request : Request) (session : Session) : Session :=
  match request with
  | .nothing => session
  | .quit => session
  | .translation text => match toSql .strict text with
    | .ok sql => session.say sql
    | .error e => session.warn (complaint e)
  | .help => session.say Shell.help
  | .counters => session.say (countersText session.link.stats)
  | .unknown command =>
    session.say ("Unknown meta-command: " ++ command ++ ". Use \\? for help.")
  | .statement text => session.send client text

/-- Closes the connection and takes leave. -/
def finish (session : Session) : Session :=
  { session with link := session.link.shutdown }.say "Bye."

/-- The text of the error that a line is not text. -/
def notText : String := "stream did not contain valid UTF-8"

/-- Handles lines until one asks to quit, until they end, or until one is not text. -/
def serve (client : Client) : List (List UInt8) → Session → Session
  | [], session => session.finish
  | line :: rest, session =>
    match Text.Utf8.decode line with
    | .error _ => { session with console := session.console.fail notText [notText] }
    | .ok text => match Request.ofLine text with
      | .quit => session.finish
      | request => serve client rest (session.handle client request)

end Session

/-- A session of the shell with an input. -/
def run (client : Client) (link : Link) (input : List UInt8) : Session :=
  (Session.start client ⟨link, {}⟩).serve client (Text.byteLines input)

end AqlGateway.Shell
