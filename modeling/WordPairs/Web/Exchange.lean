import WordPairs.Error
import WordPairs.Web.Url.Parser
import WordPairs.Web.Url.Target

/-!
# Requests over a network

A request is answered by a final response or not at all; interim responses before it are read past.
Responses that send the client on to another target are followed, ten at most, and the first one
that is not followed is the answer.
-/

namespace WordPairs.Web

/-- What a server sends back in the end. -/
structure Response where
  /-- The status. -/
  status : Nat
  /-- Where the server sends the client on to. -/
  location : Option String
  /-- The bytes of the body that are sent. -/
  body : List UInt8
  /-- How many more bytes the length of the body promises. -/
  missing : Nat
  /-- The response is a final one. -/
  final : isFinal status = true

/-- What becomes of one request at a server. -/
inductive Handling where
  /-- The connection is closed without an answer. -/
  | dropped
  /-- An interim response is sent, and the rest follows. -/
  | announced (rest : Handling)
  /-- A final response is sent. -/
  | answered (response : Response)

/-- The final response to a request, if there is one. -/
def Handling.response? : Handling → Option Response
  | dropped => none
  | announced rest => rest.response?
  | answered response => some response

/-- What becomes of requests. -/
inductive Network where
  /-- No request reaches a server. -/
  | unreachable
  /-- The first, second and following requests are handled in this way, and those beyond the list
  are dropped. -/
  | serving (handlings : List Handling)

/-- The number of times a client lets itself be sent on. -/
def redirectLimit : Nat := 10

namespace Response

/-- Where a response sends the client on to, if it does and a request can be sent there. -/
def target? (response : Response) (url : Url) : Option Url :=
  if isRedirect response.status then
    (response.location.bind (url.resolve? ·)).filter (·.isSendable)
  else none

/-- The body as it is received. -/
def read (response : Response) : Except TransportError (List UInt8) :=
  if isBodiless response.status then .ok []
  else if 0 < response.missing then .error .truncatedBody
  else .ok response.body

end Response

/-- The outcome of asking for a URL, and the URLs asked for on the way. -/
structure Exchange where
  /-- The response that was not followed, or why there is none. -/
  result : Except TransportError Response
  /-- The URLs in the order in which they were asked for. -/
  requests : List Url

/-- Asks a server for a URL and follows what it answers, at most `left` times. Failures name the URL
that was asked for first. -/
def ask (first : Url) : Nat → Url → List Handling → Exchange
  | left, url, handlings =>
    if !url.isRequestable then ⟨.error (.unsupportedScheme first.text), []⟩
    else
      match handlings with
      | [] => ⟨.error (.unanswered first.text), [url]⟩
      | handling :: handlings =>
        match handling.response? with
        | none => ⟨.error (.unanswered first.text), [url]⟩
        | some response =>
          match response.target? url with
          | none => ⟨.ok response, [url]⟩
          | some next =>
            match left with
            | 0 => ⟨.error (.tooManyRedirects first.text), [url]⟩
            | left + 1 =>
              let exchange := ask first left next handlings
              ⟨exchange.result, url :: exchange.requests⟩

/-- Asks for the URL that a text stands for. -/
def get (text : String) (network : Network) : Exchange :=
  match (Url.parse? text).map Url.withoutCredentials with
  | none => ⟨.error .unparsable, []⟩
  | some url =>
    if !url.isRequestable then ⟨.error (.unsupportedScheme url.text), []⟩
    else if !url.isSendable then ⟨.error (.unsendable url.text), []⟩
    else
      match network with
      | .unreachable => ⟨.error (.unanswered url.text), []⟩
      | .serving handlings => ask url redirectLimit url handlings

end WordPairs.Web
