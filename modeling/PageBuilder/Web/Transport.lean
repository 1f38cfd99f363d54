import PageBuilder.Failure
import PageBuilder.Json.Reader
import PageBuilder.Web.Request
import PageBuilder.Web.Status
import PageBuilder.Web.Token
import PageBuilder.Web.Url

/-!
# Sending requests

A request is checked before it leaves: its URL must be one of the web, its method and the names of
its headers are made of certain characters, the values of its headers hold no control characters,
and the URL must be a valid address. A `Transport` then carries it, and either answers or says why
not.
-/

namespace PageBuilder
namespace Web

/-- An answer to a request. -/
structure Response where
  status : UInt16
  body : String

/-- What carries requests: an answer, or the text that says why there is none. -/
abbrev Transport := Url → Request → Except String Response

/-- A transport that reaches nobody. -/
def Transport.unreachable : Transport := fun url _ =>
  .error <| "error sending request for url (" ++ url.text ++
    "): error trying to connect: tcp connect error: Network is unreachable (os error 101)"

/-- A character that may stand in the value of a header. -/
def isHeaderChar (c : Char) : Bool := (0x20 ≤ c.toNat && c.toNat ≠ 0x7F) || c == '\t'

/-- What is wrong with the headers. -/
def headerFault? (headers : Dict String) : Option String :=
  headers.findSome? fun e =>
    if !isToken e.1 then some "builder error: invalid HTTP header name"
    else if !e.2.toList.all isHeaderChar then some "builder error: failed to parse header value"
    else none

/-- What keeps a request with a good URL from leaving. -/
def requestFault? (r : Request) (url : Url) : Option Failure :=
  if !isMethod r.method then some (.effect "http" ("invalid method '" ++ r.method ++ "'"))
  else match headerFault? r.headers with
    | some fault => some (.transport fault)
    | none =>
      if url.isSendable then none
      else
        some (.transport
          ("builder error for url (" ++ url.text ++ "): Parsed Url is not a valid Uri"))

/-- The URL of a request that may leave. Its login leaves apart from it. -/
def check (r : Request) : Except Failure Url :=
  match Url.parse r.url with
  | .error e => .error (.effect "http" ("invalid url '" ++ r.url ++ "': " ++ e.message))
  | .ok url =>
    if !url.isWeb then .error (.effect "http" ("unsupported scheme '" ++ url.scheme ++ "'"))
    else match requestFault? r url.withoutLogin with
      | some fault => .error fault
      | none => .ok url.withoutLogin

/-- The answer to a request, whatever its status. -/
def send (carry : Transport) (r : Request) : Except Failure Response :=
  match check r with
  | .error e => .error e
  | .ok url =>
    match carry url r with
    | .ok answer => .ok answer
    | .error message => .error (.transport message)

/-- The value of a body: what it spells as JSON, or else the text itself. -/
def bodyValue (body : String) : Json := (Json.ofText? body).getD (.string body)

/-- The value of an answer, if its status means success. -/
def Response.value (answer : Response) (url : String) : Except Failure Json :=
  if isSuccess answer.status.toNat then .ok (bodyValue answer.body)
  else .error (.effect "http" (url ++ " returned " ++ statusText answer.status.toNat))

/-! ### What a request comes to -/

/-- A request has the answer of the transport, if it may leave. -/
theorem toOption_send (carry : Transport) (r : Request) :
    (send carry r).toOption = (check r).toOption.bind fun url => (carry url r).toOption := by
  unfold send
  cases check r with
  | error e => rfl
  | ok url => cases h : carry url r <;> simp [Except.toOption, h]

theorem bodyValue_of_spells {body : String} {v : Json} (h : Json.ofText? body = some v) :
    bodyValue body = v := by
  rw [bodyValue, h, Option.getD_some]

theorem bodyValue_of_not_spells {body : String} (h : Json.ofText? body = none) :
    bodyValue body = .string body := by
  rw [bodyValue, h, Option.getD_none]

/-- An answer has a value exactly if its status lies between 200 and 299, and then it is what the
body spells or else the body itself. -/
theorem Response.toOption_value (answer : Response) (url : String) :
    (answer.value url).toOption =
      if 200 ≤ answer.status.toNat ∧ answer.status.toNat ≤ 299 then
        some ((Json.ofText? answer.body).getD (.string answer.body))
      else none := by
  simp only [value, isSuccess, Bool.and_eq_true, decide_eq_true_eq]
  split
  next =>
    cases hbody : Json.ofText? answer.body with
    | none => rw [bodyValue_of_not_spells hbody]; rfl
    | some v => rw [bodyValue_of_spells hbody]; rfl
  next => rfl

end Web
end PageBuilder
