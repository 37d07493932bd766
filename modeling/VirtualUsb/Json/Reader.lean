import VirtualUsb.Json.Token

/-!
# Reading JSON

Reading goes through the tokens once. The arrays and objects that are still open stand on a stack,
so a text may nest as deep as it likes.
-/

namespace VirtualUsb.Json

/-- An array or object that is still open, with what it holds so far, the last first. -/
inductive Frame
  | array (done : List Json)
  | object (done : List (Option String × Json)) (key : Option String)

/-- What a reader has seen, and hence what may come next. -/
inductive ReaderState
  | value (frames : List Frame)
  | itemOrEnd (frames : List Frame)
  | keyOrEnd (frames : List Frame)
  | key (frames : List Frame) (done : List (Option String × Json))
  | colon (frames : List Frame) (done : List (Option String × Json)) (key : Option String)
  | after (frames : List Frame) (value : Json)

namespace ReaderState

/-- Takes a token that begins a value. -/
def begin (frames : List Frame) : Token → Option ReaderState
  | .openBracket => some (itemOrEnd frames)
  | .openBrace => some (keyOrEnd frames)
  | .scalar v => some (after frames v)
  | .string text => some (after frames (.string text))
  | _ => none

/-- Takes a token. -/
def step : ReaderState → Token → Option ReaderState
  | value frames, t => begin frames t
  | itemOrEnd frames, .closeBracket => some (after frames (.array []))
  | itemOrEnd frames, t => begin (.array [] :: frames) t
  | keyOrEnd frames, .closeBrace => some (after frames (.object []))
  | keyOrEnd frames, .string k => some (colon frames [] k)
  | key frames done, .string k => some (colon frames done k)
  | colon frames done k, .colon => some (value (.object done k :: frames))
  | after (.array done :: frames) v, .comma => some (value (.array (v :: done) :: frames))
  | after (.array done :: frames) v, .closeBracket =>
    some (after frames (.array (v :: done).reverse))
  | after (.object done k :: frames) v, .comma => some (key frames ((k, v) :: done))
  | after (.object done k :: frames) v, .closeBrace =>
    some (after frames (.object ((k, v) :: done).reverse))
  | _, _ => none

/-- Takes tokens one after another. -/
def run (state : ReaderState) : List Token → Option ReaderState
  | [] => some state
  | t :: rest => (state.step t).bind (·.run rest)

end ReaderState

/-- The value of a text that holds one value and nothing else. -/
def read? (text : String) : Option Json :=
  match (Token.ofText text).bind (ReaderState.run (.value [])) with
  | some (.after [] v) => some v
  | _ => none

end VirtualUsb.Json
