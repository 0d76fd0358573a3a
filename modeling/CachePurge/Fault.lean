import CachePurge.Host.Basic
import CachePurge.Json.Read
import CachePurge.Settings.Variable

/-!
Why a request or a whole purger failed.
-/

namespace CachePurge

/-- What the client itself has to report of a request to a URL. -/
inductive ClientFault where
  | refused (url : String)
  | notSent (url : String)
  | bodyLost (url : String)
  deriving DecidableEq, Repr

def ClientFault.message : ClientFault → String
  | .refused url => "builder error for url (" ++ url ++ ")"
  | .notSent url => "error sending request for url (" ++ url ++ ")"
  | .bodyLost url => "error decoding response body for url (" ++ url ++ ")"

inductive Fault where
  | client (reason : ClientFault)
  | unreadable (reason : Json.SyntaxError)
  | invalidUrl (reason : UrlError)
  | invalidHeader
  | environment (reason : EnvironmentFault)
  | unexpectedStatus (target : String) (status : Nat)
  | malformedResponse (text : String)
  | vendorFault (text : String)
  | configuration (text : String)
  | panicked (text : String)

namespace Fault

def message : Fault → String
  | .client reason => "HTTP error: " ++ reason.message
  | .unreadable reason => "Serialization error: " ++ reason.message
  | .invalidUrl reason => "Invalid URL: " ++ reason.message
  | .invalidHeader => "Invalid header value: failed to parse header value"
  | .environment reason => "Environment error: " ++ reason.message
  | .unexpectedStatus target status =>
    "Unexpected status " ++ Nat.repr status ++ " from " ++ target
  | .malformedResponse text => "Malformed response: " ++ text
  | .vendorFault text => "Vendor fault: " ++ text
  | .configuration text => "Configuration error: " ++ text
  | .panicked text => "Request panicked: " ++ text

/-- Whether the purger cannot work at all. -/
def isConfiguration : Fault → Bool
  | .configuration _ | .environment _ => true
  | _ => false

end Fault

/-- A breach of what a call was promised, which breaks it off. -/
structure Panic where
  message : String
  deriving DecidableEq, Repr

/-- How a call ends. -/
inductive Ending where
  | done
  | failed (fault : Fault)
  | panicked (panic : Panic)

end CachePurge
