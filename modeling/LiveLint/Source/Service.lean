import LiveLint.Lint.Response
import LiveLint.Source.Command
import LiveLint.Source.WebAddress
import LiveLint.Text.Form

/-! A linter that is a web service: the document is posted to it as a form. -/

namespace LiveLint

/-- Why a service could not be reached. -/
inductive Unreachable where
  | tls
  | timeout
  | refused
  | other
  deriving DecidableEq

/-- What came of a request. -/
inductive Reply where
  | body (bytes : List UInt8)
  | status (code : Int)
  | unreachable (cause : Unreachable)
  | timedOut
  | failed (fault : Fault)

structure Service where
  url : String
  timeout : Binary64

namespace Service

def ofValues (url timeout : Value) : Except Fault Service := do
  let timeout ← readTimeout timeout
  .ok { url := Text.trim url.displayOrEmpty, timeout }

/-- The form that carries a document. -/
def form (document : String) : String := "source=" ++ Text.formEncode document

def unreachableMessage (s : Service) : Unreachable → String
  | .tls => "TLS handshake with lint service failed."
  | .timeout => "Lint service timed out."
  | .refused => "Connection refused by lint service."
  | .other => "Could not reach lint service at " ++ s.url ++ "."

def readReply (s : Service) : Reply → Except Fault Outcome
  | .body bytes => Response.decodeText (Text.decodeReplacing bytes)
  | .status code => .ok (Response.failed ("Lint service answered HTTP " ++ toString code ++ "."))
  | .unreachable cause => .ok (Response.failed (s.unreachableMessage cause))
  | .timedOut => .ok (Response.failed "Lint service timed out.")
  | .failed f => .error f

end Service
end LiveLint
