import InverterLink.Service.Connection
import InverterLink.Service.Registry

/-!
# The server

A server accepts connections until the daemon is to stop, and lets each of them be answered by the
one session. When it has stopped, a device that has failed makes the whole run a failure, so that
whoever watches the daemon starts it again.
-/

namespace InverterLink

/-- The state of a server. -/
structure Server where
  session : Session
  connections : Registry := {}

/-- Why a server stopped with a failure. -/
inductive ServerError where
  | deviceFailed
deriving DecidableEq

/-- The wording of a server error. -/
def ServerError.message : ServerError → String
  | deviceFailed => "too many consecutive device errors, giving up"

namespace Server

/-- Serves one connection, which sends the given chunks and closes its side. -/
def serveConnection (server : Server) (address : String) (chunks : List (List UInt8)) :
    Option (List Reply × Server) :=
  let (number, connections) := server.connections.register address
  (Connection.serve {} server.session {} chunks).map fun (replies, session) =>
    (replies, ⟨session, connections.remove number⟩)

/-- Serves connections one after another. One that comes when the daemon is to stop is not accepted,
and gets nothing. -/
def serveAll (server : Server) :
    List (String × List (List UInt8)) → Option (List (List Reply) × Server)
  | [] => some ([], server)
  | (address, chunks) :: clients =>
    if server.session.isShuttingDown then do
      let (replies, server) ← server.serveAll clients
      return ([] :: replies, server)
    else do
      let (first, server) ← server.serveConnection address chunks
      let (replies, server) ← server.serveAll clients
      return (first :: replies, server)

/-- The outcome of a server that has stopped. -/
def outcome (server : Server) : Except ServerError Unit :=
  if server.session.deviceFailed then .error .deviceFailed else .ok ()

end Server

end InverterLink
