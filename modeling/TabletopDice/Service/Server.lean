import TabletopDice.Service.Routes
import TabletopDice.Service.Target
import TabletopDice.Session

/-!
The service as a whole: which route a request takes, which source it draws from, and which entries
of the log are kept. A request for a roll or for statistics fetches its source as soon as its body
has been read as data, even if the body then turns out to be wrong.
-/

set_option autoImplicit false

namespace TabletopDice

open Data

namespace Service

/-- A source that was supplied to the service, with a record of the requests made to it. -/
abbrev Supplied := Generator × List Requests

def suppliedSource : Source Supplied :=
  Generator.source.observed Requests.note

def replyOf {State : Type} (handled : EStateM.Result Reply (Desk State) Value) : Reply :=
  match handled with
  | .ok body _ => .result body
  | .error reply _ => reply

def deskOf {State : Type} (handled : EStateM.Result Reply (Desk State) Value) : Desk State :=
  match handled with
  | .ok _ desk => desk
  | .error _ desk => desk

abbrev Route (α : Type) := (State : Type) → Source State → α → Handling State Value

/-- The running service: its session, the source supplied to it, if any, and the rank that entries
of the log need. -/
structure Server where
  session : Session
  supplied : Option Supplied := none
  threshold : Nat := 20

namespace Server

/-- A server for a session. The configured log level has to be known. -/
def start (session : Session) (supplied : Option Supplied) : Except String Server := do
  let threshold ← logThreshold session.settings.logLevel
  return { session, supplied, threshold }

/-- The reply to a request, the entries kept of it, and the server afterwards. -/
abbrev Outcome := Reply × List LogEntry × Server

def replied (server : Server) (reply : Reply) : Outcome :=
  (reply, [], server)

def keptEntries (server : Server) (log : List LogEntry) : List LogEntry :=
  log.filter (server.threshold ≤ ·.level.rank)

/-- Answers a request by a route that draws: on the supplied source if there is one, else on the
session's shared source, which is built if need be before the body is checked. -/
def drawing {α : Type} (server : Server) (check : Value → Checked α) (route : Route α)
    (body : Option Value) : Outcome :=
  match server.supplied with
  | some supplied =>
      match checkBody check body with
      | .refused issues => server.replied (.ofIssues issues)
      | .accepted request =>
          let handled := route Supplied suppliedSource request { source := supplied }
          let desk := deskOf handled
          (replyOf handled, server.keptEntries desk.log,
            { server with supplied := some desk.source })
  | none =>
      let (shared, session) := server.session.fetch
      let server := { server with session }
      match checkBody check body with
      | .refused issues => server.replied (.ofIssues issues)
      | .accepted request =>
          let handled := route Generator Generator.source request { source := shared.generator }
          let desk := deskOf handled
          let shared := { shared with generator := desk.source }
          (replyOf handled, server.keptEntries desk.log,
            { server with session := { session with shared := some shared } })

/-- Answers a request by the route that explains, which needs no source. -/
def explaining (server : Server) (body : Option Value) : Outcome :=
  match checkBody ValidateRequest.check body with
  | .refused issues => server.replied (.ofIssues issues)
  | .accepted request =>
      let handled := validate server.session.settings request { source := () }
      (replyOf handled, server.keptEntries (deskOf handled).log, server)

def index : Value :=
  .object [("name", .text "Dicekit"), ("status", .text "ok")]

abbrev Action := Server → Option Value → Outcome

def actions : List (String × Action) := [
  ("/roll", fun server =>
    server.drawing RollRequest.check fun _ source => roll source server.session.settings),
  ("/validate", explaining),
  ("/statistics", fun server =>
    server.drawing StatisticsRequest.check fun _ source =>
      statistics source server.session.settings)]

def notFound : Reply := .detail 404 (.text "Not Found")

def wrongMethod : Reply := .detail 405 (.text "Method Not Allowed")

/-- The answer to a path that the service has without the slashes at its end. -/
def moved : Reply := .empty 307

/-- Answers a request for a path by a method, whose letters are capital. -/
def dispatch (server : Server) (path : List Char) (method : String) (body : Body) : Outcome :=
  if path == ['/'] then
    server.replied (if method == "GET" then .answer 200 index else wrongMethod)
  else
    match actions.lookup (String.ofList path) with
    | none =>
        let known := (actions.lookup (String.ofList (withoutEndSlashes path))).isSome
        server.replied (if known then moved else notFound)
    | some action =>
        if method != "POST" then server.replied wrongMethod
        else
          match body.decode with
          | .error reply => server.replied reply
          | .ok body => action server body

/-- Answers a request. The method `HEAD` asks for answers without their bodies. -/
def respond (server : Server) (request : Request) : Outcome :=
  match pathOf request.target with
  | .error fault => server.replied (.failed (.target fault))
  | .ok path =>
      let method := String.ofList (Text.upper request.method.toList)
      let (reply, log, server) := server.dispatch path method request.body
      (if method == "HEAD" then reply.withoutBody else reply, log, server)

end Server

end Service

end TabletopDice
