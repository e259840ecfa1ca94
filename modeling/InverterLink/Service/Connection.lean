import InverterLink.Command.Request
import InverterLink.Service.Line
import InverterLink.Service.Session

/-!
# Connections

A request is a line of words: a handshake, the choice of a format, or a command to execute. Each is
answered by a reply: the word `ok` or `err`, a body unless it is empty, and an empty line. A
connection remembers the format that its client has chosen.

## Main definitions

* `Request.ofLine`: the request that a line makes.
* `Reply.text`: a reply as it is sent.
* `Connection.respond`: the reply to a request.
* `Connection.serve`: the replies to everything that a client sends.
-/

namespace InverterLink

/-- What a client asks for. -/
inductive Request where
  /-- Agrees on the version of these requests. -/
  | handshake
  /-- Chooses the format of the replies to come. -/
  | chooseFormat (format : Format)
  /-- Executes a command, with its arguments in the form in which they are packed. -/
  | execute (command : Command) (args : List String)
deriving DecidableEq

namespace Request

/-- The version of these requests. -/
def version : Nat := 1

/-- The words of a line, with blanks between them. -/
def words (line : List Char) : List String :=
  ((line.splitOn ' ').filter (!·.isEmpty)).map String.ofList

/-- Demands a single argument. -/
def single : List String → Except Error String
  | [arg] => .ok arg
  | args => .error (.argument (.wrongTokenCount 1 args.length))

/-- The request for a handshake. -/
def ofVersion (text : String) : Except Error Request :=
  if Digits.readSignedBelow? Command.registerBound text.toList = some version then .ok handshake
  else .error (.argument (.invalid "protocol version"))

/-- The request that words make. -/
def ofWords : List String → Except Error Request
  | "v" :: args => do ofVersion (← single args)
  | "format" :: args => do return chooseFormat (← Format.ofName (← single args))
  | ["exec"] => .error (.argument (.wrongTokenCount 1 0))
  | "exec" :: name :: args => do
    let (command, args) ← Command.ofRequest name args
    return execute command args
  | "raw" :: _ => .error .unimplemented
  | word :: _ => .error (.argument (.unknownToken word))
  | [] => .error (.argument (.unknownToken ""))

/-- The request that a line makes. -/
def ofLine (line : List Char) : Except Error Request :=
  ofWords (words line)

end Request

/-- What a client is answered. -/
structure Reply where
  ok : Bool
  body : List Char
deriving DecidableEq

namespace Reply

/-- The end of a line. -/
def lineEnd : List Char := ['\r', '\n']

/-- The word for the outcome. -/
def outcome (ok : Bool) : List Char :=
  if ok then ['o', 'k'] else ['e', 'r', 'r']

/-- A reply as it is sent: the outcome, the body on lines of its own unless it is empty, and an
empty line. -/
def text (r : Reply) : List Char :=
  outcome r.ok ++ (if r.body.isEmpty then [] else lineEnd ++ r.body) ++ lineEnd ++ lineEnd

/-- The reply that shows an error. -/
def ofError (format : Format) (e : Error) : Reply :=
  ⟨false, (Response.ofError e).render format⟩

/-- The reply that shows the outcome of a command. -/
def ofOutcome (format : Format) : Except Error Response → Reply
  | .ok response => ⟨true, response.render format⟩
  | .error e => ofError format e

end Reply

/-- The state of a connection. -/
structure Connection where
  /-- The format of the replies. -/
  format : Format := .json
deriving DecidableEq

namespace Connection

/-- The reply to a line, with the states of the connection and of the session after it. -/
def respond (c : Connection) (s : Session) (line : List Char) :
    Option (Reply × Connection × Session) :=
  match Request.ofLine line with
  | .error e => some (Reply.ofError c.format e, c, s)
  | .ok .handshake => some (⟨true, []⟩, c, s)
  | .ok (.chooseFormat format) => some (⟨true, []⟩, { c with format }, s)
  | .ok (.execute command args) =>
    (s.execute command args).map fun (outcome, s) => (Reply.ofOutcome c.format outcome, c, s)

/-- How the answering of lines stops. -/
structure Answered where
  replies : List Reply
  connection : Connection
  session : Session
  /-- The client has ended the connection. -/
  isEnded : Bool

/-- Answers lines in order, up to the one that ends the connection. -/
def answer (c : Connection) (s : Session) : List Line → Option Answered
  | [] => some ⟨[], c, s, false⟩
  | .ended :: _ => some ⟨[], c, s, true⟩
  | .oversized :: lines => do
    let rest ← answer c s lines
    return { rest with
      replies := Reply.ofError c.format (.argument (.oversized Line.limit)) :: rest.replies }
  | .request text :: lines => do
    let (reply, c, s) ← c.respond s text
    let rest ← answer c s lines
    return { rest with replies := reply :: rest.replies }

/-- Answers what a client sends in chunks until it closes its side. Nothing more is read once the
daemon is to stop, but everything in a chunk that has been read is answered. -/
def serve (c : Connection) (s : Session) (buffer : LineBuffer) :
    List (List UInt8) → Option (List Reply × Session)
  | [] =>
    if s.isShuttingDown then some ([], s)
    else (c.answer s buffer.finish.1).map fun answered => (answered.replies, answered.session)
  | chunk :: chunks =>
    if s.isShuttingDown then some ([], s)
    else do
      let (lines, buffer) := buffer.feed chunk
      let answered ← c.answer s lines
      if answered.isEnded then return (answered.replies, answered.session)
      else
        let (replies, s) ← answered.connection.serve answered.session buffer chunks
        return (answered.replies ++ replies, s)

end Connection

end InverterLink
