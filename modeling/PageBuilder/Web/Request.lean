import PageBuilder.Json.Record

/-!
# Requests

A request to a server. Its stored form leaves out the body that is `null` and the headers if there
are none.
-/

namespace PageBuilder

/-- A request to a server. -/
structure Request where
  method : String
  url : String
  /-- The body; `null` for a request without one. -/
  body : Json := .null
  headers : Dict String := []

open Json in
instance : Codec Request where
  encode r := .object <|
    fieldIfValue "body" r.body ++ fieldIfAny "headers" r.headers ++ field "method" r.method ++
      field "url" r.url
  decode v := do
    v.checkObject
    return {
      method := ← required v "method"
      url := ← required v "url"
      body := valueOrNull v "body"
      headers := ← withDefault v "headers" [] }

end PageBuilder
