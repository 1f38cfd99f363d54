import PageBuilder.Failure

/-!
# Settings

The settings of the program come from three environment variables: a policy file, the port of the
server, and the number of seconds after which requests are given up.
-/

namespace PageBuilder

/-- The settings of the program. -/
structure Settings where
  /-- The policy file; without one the builtin policies hold. -/
  policyPath : Option String := none
  port : Nat := 7878
  timeoutSeconds : Nat := 30
deriving DecidableEq

namespace Settings

/-- The number below `limit` that a variable holds. -/
def number (env : Dict String) (name : String) (limit default : Nat) : Except Failure Nat :=
  match env.get? name with
  | none => .ok default
  | some text =>
    match Numeral.natural? limit text.toList with
    | some n => .ok n
    | none => .error (.settings ("invalid " ++ name ++ ": " ++ text))

/-- The settings in an environment. An empty policy path counts as none. -/
def ofEnvironment (env : Dict String) : Except Failure Settings := do
  let policyPath := (env.get? "STAGECRAFT_POLICY").filter fun path => path ≠ ""
  let port ← number env "STAGECRAFT_PORT" (Nat.pow 2 16) 7878
  let timeout ← number env "STAGECRAFT_HTTP_TIMEOUT_SECS" (Nat.pow 2 64) 30
  return { policyPath := policyPath, port := port, timeoutSeconds := timeout }

end Settings

end PageBuilder
