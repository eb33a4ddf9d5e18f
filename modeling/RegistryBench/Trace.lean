import RegistryBench.Error
import RegistryBench.Trace.Headers

/-!
# Request traces

A request that is served by sending further requests could come back to itself. Every request
carries the URLs of those before it in a header field; a request whose URL is among them is
refused, and otherwise its URL is added.
-/

namespace RegistryBench

/-- The values of the trace header, oldest first. -/
structure Trace where
  /-- The values. -/
  values : List Bytes
deriving DecidableEq

namespace Trace

/-- The name of the trace header. -/
def headerName : String := "x-registry-request-url"

/-- The trace of a request that nothing came before. -/
def empty : Trace := ⟨[]⟩

/-- The trace that a request carries. -/
def ofHeaders (headers : Headers) : Trace :=
  ⟨headers.values headerName⟩

/-- How many values a trace has. -/
def length (trace : Trace) : Nat :=
  trace.values.length

/-- Whether a trace has no values. -/
def isEmpty (trace : Trace) : Bool :=
  trace.values.isEmpty

/-- Whether an octet is visible ASCII, a space or a tab. -/
def isVisible (octet : UInt8) : Bool :=
  octet == 0x09 || (0x20 ≤ octet && octet < 0x7F)

/-- The values that are visible, as text. -/
def urls (trace : Trace) : List String :=
  (trace.values.filter fun value => value.all isVisible).filterMap Text.ofUtf8?

/-- Whether a URL is in a trace. -/
def contains (trace : Trace) (url : String) : Bool :=
  trace.values.contains (Text.utf8 url)

/-- Whether an octet may stand in a header value. -/
def isAllowed (octet : UInt8) : Bool :=
  octet == 0x09 || (0x20 ≤ octet && octet != 0x7F)

/-- The trace with one more URL. -/
def push (trace : Trace) (url : String) : Except Error Trace :=
  let value := Text.utf8 url
  if value.all isAllowed then .ok ⟨trace.values ++ [value]⟩
  else .error (.badRequest (.headerValue headerName url))

/-- Header fields that carry this trace, in place of the one they carried. -/
def writeTo (trace : Trace) (headers : Headers) : Headers :=
  (headers.remove headerName).append headerName trace.values

/-- Header fields carry the trace that was written to them, and no other one. -/
@[simp]
theorem ofHeaders_writeTo (trace : Trace) (headers : Headers) :
    ofHeaders (trace.writeTo headers) = trace := by
  simp [ofHeaders, writeTo]

/-- Writing a trace changes no other header field. -/
@[simp]
theorem remove_writeTo (trace : Trace) (headers : Headers) :
    (trace.writeTo headers).remove headerName = headers.remove headerName := by
  simp [writeTo]

/-- The trace of a request to some URL that is sent while one with this trace is served. -/
def extend (parent : Trace) (url : String) : Except Error Trace :=
  if parent.contains url then .error (.loopDetected url) else parent.push url

end Trace

/-- A request: its canonical URL and its header fields. -/
structure Request where
  /-- The URL. -/
  url : String
  /-- The header fields. -/
  headers : Headers
deriving DecidableEq

namespace Trace

/-- What becomes of a request when it is to be sent. -/
structure Hop where
  /-- The trace it is sent with, or why it is refused. -/
  result : Except Error Trace
  /-- The request afterwards. -/
  request : Request
  /-- What is reported. -/
  events : List Log.Event

/-- The module that reports about traces. -/
def reporter : String := "regharness::requesttrace"

/-- Send a request while one with this trace is served. A request that is refused stays as it
is. -/
def hop (parent : Trace) (request : Request) : Hop :=
  match parent.extend request.url with
  | .ok trace =>
    { result := .ok trace
      request := { request with headers := trace.writeTo request.headers }
      events := [.debug reporter "traced request"
        [("url", request.url), ("hops", trace.length.repr)]] }
  | .error e =>
    { result := .error e
      request
      events :=
        if parent.contains request.url then
          [⟨.warn, reporter, "request loop detected",
            [("url", request.url), ("hops", parent.length.repr)]⟩]
        else [] }

/-- Send requests, each while the last one that was not refused is served; the first one while one
with these header fields is. -/
def chain (served : Headers) : List Request → List Hop
  | [] => []
  | request :: requests =>
    let sent := (ofHeaders served).hop request
    let served :=
      match sent.result with
      | .ok _ => sent.request.headers
      | .error _ => served
    sent :: chain served requests

end Trace

end RegistryBench
