import SiteAnalytics.Http.Message
import SiteAnalytics.Text.Numeral
import SiteAnalytics.Text.Wildcard

/-!
# HTTP on the wire

A request is written with a head and its body, and asks the server to close the connection when it
has answered. So the answer is all that arrives until then, and its body is what follows the first
empty line.
-/

namespace SiteAnalytics

/-- The end of a line. -/
def lineEnd : String := "\r\n"

/-- Host and port, as a server is named in a request. -/
def WebAddress.authority (a : WebAddress) : String :=
  match a.port with
  | none => a.host
  | some port => a.host ++ ":" ++ toString port

/-- The host as it is looked up: a numeric address stands without its brackets. -/
def WebAddress.lookupName (a : WebAddress) : String :=
  String.ofList (a.host.toList.filter fun c => c != '[' && c != ']')

/-- A request as it is sent. -/
def HttpRequest.wire (r : HttpRequest) : String :=
  let header (name value : String) : String := name ++ ": " ++ value ++ lineEnd
  r.method ++ " " ++ r.target ++ " HTTP/1.0" ++ lineEnd ++ header "Host" r.server.authority ++
    header "Authorization" r.authorization ++
    header "Content-Length" (toString r.body.utf8ByteSize) ++ header "Connection" "close" ++
    lineEnd ++ r.body

/-- Reads an answer as it arrives. -/
def HttpResponse.read? (s : String) : Option HttpResponse := do
  let cs := s.toList
  let sent ← Wildcard.after? (lineEnd ++ lineEnd).toList cs
  let status := ((cs.dropWhile (· != ' ')).drop 1).takeWhile (· != ' ')
  match Numeral.readNat 999 (status.takeWhile fun c => c != '\r') with
  | .ok status => return { status, sent := String.ofList sent }
  | .error _ => none

end SiteAnalytics
