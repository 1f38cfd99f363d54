import PageBuilder.Formula.Parser
import PageBuilder.Policy.Registry
import PageBuilder.Session.Command

/-!
# Failures

Everything that can go wrong, and the text that says so.
-/

namespace PageBuilder

/-- Why an operation failed. -/
inductive Failure where
  /-- A text is no formula. -/
  | formula (error : Formula.SyntaxError)
  /-- A registry or a style value is refused. -/
  | policy (error : Policy.Error)
  /-- A command does not apply. -/
  | store (error : StoreError)
  /-- An effect of some kind is refused. -/
  | effect (kind message : String)
  /-- A request did not get an answer. -/
  | transport (message : String)
  /-- The settings are invalid. -/
  | settings (message : String)
  /-- A file cannot be read. -/
  | file (path : String)
  /-- A text or value is not the JSON that it should be. -/
  | json
  /-- A text is not the YAML that it should be. -/
  | yaml

/-- The text of a failure. -/
def Failure.message : Failure → String
  | formula error => "Expression error: " ++ error.message
  | policy error => "Policy error: " ++ error.message
  | store error => "Store error: " ++ error.message
  | effect kind message => "Effect '" ++ kind ++ "' failed: " ++ message
  | transport message => message
  | settings message => "Configuration error: " ++ message
  | file path => "cannot read " ++ path
  | json => "malformed JSON"
  | yaml => "malformed YAML"

end PageBuilder
