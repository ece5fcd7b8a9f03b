import SignedHttp.Error
import SignedHttp.Value

/-!
# Log entries

What signing and verification report about their work. No entry has a place for a secret or a
signature. Of an Authorization value that belongs to no scheme an entry shows what stands before its
first space.

* `LogEntry`: the events; `LogEntry.level`, `LogEntry.text` and `LogEntry.fields` give their written
  form.
* `Logged`: a result with the entries that were written on the way to it.
-/

set_option autoImplicit false

namespace SignedHttp

inductive LogEntry
  | schemeUnmatched (token : Option String)
  | requestSigned (version identity method : String)
  | responseSigned (version : String) (status : Int)
  | requestVerified (version identity : String)
  | requestRejected (version : Option String) (error : AuthError) (method : String) (path : Value)
  | responseRejected (version : String) (error : AuthError) (status : Int)

namespace LogEntry

def level : LogEntry → String
  | schemeUnmatched _ | requestSigned .. | responseSigned .. | requestVerified .. => "debug"
  | requestRejected .. | responseRejected .. => "warning"

def text : LogEntry → String
  | schemeUnmatched _ => "No protocol version matched authorization header"
  | requestSigned .. => "Signed request"
  | responseSigned .. => "Signed response"
  | requestVerified .. => "Request verified"
  | requestRejected .. => "Request verification failed"
  | responseRejected .. => "Response verification failed"

/-- A text that may be absent. -/
def optional : Option String → Value
  | some s => .text s
  | none => .null

def fields : LogEntry → List (String × Value)
  | schemeUnmatched token => [("scheme", optional token)]
  | requestSigned version identity method =>
    [("version", .text version), ("identity", .text identity), ("method", .text method)]
  | responseSigned version status => [("version", .text version), ("status", .int status)]
  | requestVerified version identity =>
    [("version", .text version), ("identity", .text identity)]
  | requestRejected version error method path =>
    [("version", optional version), ("error_type", .text error.kind.code),
     ("reason", .text error.message), ("method", .text method), ("path", path)]
  | responseRejected version error status =>
    [("version", .text version), ("error_type", .text error.kind.code),
     ("reason", .text error.message), ("status", .int status)]

/-- The entry with another path, if it names one. -/
def withPath (path : Value) : LogEntry → LogEntry
  | requestRejected version error method _ => requestRejected version error method path
  | e => e

end LogEntry

structure Logged (α : Type) where
  value : α
  log : List LogEntry

end SignedHttp
