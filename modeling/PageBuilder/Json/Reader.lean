import PageBuilder.Json.Shape
import PageBuilder.Json.Token

/-!
# Reading JSON

A text is read token by token for a value of an expected shape. The state of the reader is the stack
of containers that are open and what may follow; the first token that may not follow ends the
reading. At most 127 containers are open at once, not counting those that are skipped. Of two
entries with one key the later counts.
-/

namespace PageBuilder
namespace Json
namespace Reader

/-- A field of a record: its name, whether it must be there, and what is expected of it. -/
abbrev Field := String × Bool × Shape

/-- A container that is open and waits for a value. -/
inductive Frame where
  /-- The items read so far, the last one first. -/
  | items (whole : Shape) (done : List Json)
  /-- The fields read so far of a record that is written as a list, the one that is read, and those
  that follow. -/
  | row (whole : Shape) (done : Dict Json) (field : Field) (rest : List Field)
  /-- The entries read so far, and the key of the value. -/
  | entry (whole : Shape) (done : Dict Json) (key : String)

/-- What may follow. -/
inductive Place where
  | value (shape : Shape)
  | firstItem (whole : Shape)
  | firstKey (whole : Shape)
  | nextKey (whole : Shape) (done : Dict Json)
  | colon (whole : Shape) (done : Dict Json) (key : String)
  | after (v : Json)

/-- The open containers, the innermost first, and what may follow. -/
structure State where
  stack : List Frame
  place : Place

/-- The largest number of open containers. -/
def depthLimit : Nat := 127

/-- One more container may be open. -/
def checkDepth (stack : List Frame) : Shape → Except Fault Unit
  | .skipped => .ok ()
  | _ => if stack.length < depthLimit then .ok () else .error .malformed

/-- Take a token where a value of a shape may start. -/
def takeValue (stack : List Frame) (shape : Shape) : Token → Except Fault State
  | .scalar v => do return ⟨stack, .after (← shape.ofScalar v)⟩
  | .openArray => do
    let whole ← shape.ofBracket
    checkDepth stack whole
    return ⟨stack, .firstItem whole⟩
  | .openObject => do
    let whole ← shape.ofBrace
    checkDepth stack whole
    return ⟨stack, .firstKey whole⟩
  | .hugeNumber | .halfPair =>
    match shape with
    | .skipped => .ok ⟨stack, .after .null⟩
    | _ => .error .malformed
  | _ => .error .malformed

/-- Take the first token after an opening bracket. -/
def takeFirstItem (stack : List Frame) (whole : Shape) (t : Token) : Except Fault State :=
  match whole, t with
  | .record _, .closeArray => do return ⟨stack, .after (← whole.closeObject [])⟩
  | .record (f :: fs), t => takeValue (.row whole [] f fs :: stack) f.2.2 t
  | _, .closeArray => do return ⟨stack, .after (← whole.closeList [])⟩
  | _, t => takeValue (.items whole [] :: stack) whole.item t

/-- Take the token of a key. -/
def takeKey (stack : List Frame) (whole : Shape) (done : Dict Json) : Token → Except Fault State
  | .scalar (.string key) => do
    whole.checkKey done key
    return ⟨stack, .colon whole done key⟩
  | .halfPair =>
    match whole with
    | .skipped => .ok ⟨stack, .colon whole done ""⟩
    | _ => .error .malformed
  | .scalar _ | .openArray | .openObject => .error (whole.keyFault done)
  | _ => .error .malformed

/-- Add an entry, if it is kept. -/
def addEntry (whole : Shape) (done : Dict Json) (key : String) (v : Json) : Dict Json :=
  if whole.keeps key then done.insert key v else done

/-- Take a token after the value `v`. -/
def takeAfter (v : Json) : List Frame → Token → Except Fault State
  | .items whole done :: stack, .comma => .ok ⟨.items whole (v :: done) :: stack, .value whole.item⟩
  | .items whole done :: stack, .closeArray => do
    return ⟨stack, .after (← whole.closeList (v :: done).reverse)⟩
  | .row whole done f (g :: fs) :: stack, .comma =>
    .ok ⟨.row whole (done.insert f.1 v) g fs :: stack, .value g.2.2⟩
  | .row whole done f _ :: stack, .closeArray => do
    return ⟨stack, .after (← whole.closeObject (done.insert f.1 v))⟩
  | .entry whole done key :: stack, .comma =>
    .ok ⟨stack, .nextKey whole (addEntry whole done key v)⟩
  | .entry whole done key :: stack, .closeObject => do
    return ⟨stack, .after (← whole.closeObject (addEntry whole done key v))⟩
  | _, _ => .error .malformed

/-- Take a token. -/
def step (s : State) (t : Token) : Except Fault State :=
  match s.place, t with
  | .value shape, t => takeValue s.stack shape t
  | .firstItem whole, t => takeFirstItem s.stack whole t
  | .firstKey whole, .closeObject => do return ⟨s.stack, .after (← whole.closeObject [])⟩
  | .firstKey whole, t => takeKey s.stack whole [] t
  | .nextKey whole done, t => takeKey s.stack whole done t
  | .colon whole done key, .colon =>
    .ok ⟨.entry whole done key :: s.stack, .value (whole.value key)⟩
  | .colon .., _ => .error .malformed
  | .after v, t => takeAfter v s.stack t

/-- Take the tokens of a text. -/
def run (s : State) (cs : List Char) : Except Fault State :=
  match cs with
  | [] => .ok s
  | c :: cs =>
    if Token.isBlank c then run s cs
    else
      match step s (Token.next c cs).1 with
      | .error fault => .error fault
      | .ok s => run s (Token.next c cs).2
termination_by cs.length
decreasing_by
  · simp
  · have := Token.length_next_le c cs
    simp only [List.length_cons]
    omega

/-- The value, once nothing is open. -/
def finish : State → Except Fault Json
  | ⟨[], .after v⟩ => .ok v
  | _ => .error .malformed

end Reader

/-- The value of a shape that a text spells. -/
def ofTextAs (shape : Shape) (text : String) : Except Fault Json :=
  match Reader.run ⟨[], .value shape⟩ text.toList with
  | .error fault => .error fault
  | .ok s => Reader.finish s

/-- The value that a text spells. -/
def ofText? (text : String) : Option Json := (ofTextAs .any text).toOption

end Json
end PageBuilder
