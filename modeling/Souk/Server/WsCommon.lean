import Souk.Python.JsonDecoder

/-!
# What the two WebSocket relays share

Messages as ASGI delivers them, the parse of a frame, and the replies of core.  Core is not part of
this repository: every awaited or synchronous call into it is answered by a value of the types
below, chosen by the environment at the moment of the call.
-/

namespace Souk.Server

open Souk.Python

/-- A raw ASGI message: text, bytes, or the end of the socket. -/
inductive RawMessage where
  | text (text : Str)
  | bytes
  | disconnect

/-- How a call into core fails: with one of core's own errors or with a `ValueError`. -/
inductive CoreError where
  | funduq (message : Str)
  | value (message : Str)

namespace CoreError

/-- `str(e)`. -/
def text : CoreError → Str
  | .funduq message | .value message => message

/-- The class under which the error leaves a handler which does not catch it. -/
def raised : CoreError → Raised
  | .funduq _ => .funduqError
  | .value _ => .valueError

end CoreError

/-- `sorted(names)`: strings order by code point. -/
def sortedNames (names : List Str) : List Str :=
  names.insertionSort fun left right => left ≤ right

/-- `parse_frame`: the JSON object in one message, or none.  Only a `JSONDecodeError` is caught. -/
def parseFrame (limits : Json.Limits) : RawMessage → Except Raised (Option Dict)
  | .text text =>
      match Json.loads limits text with
      | .ok value => .ok value.asDict?
      | .error .jsonDecodeError => .ok none
      | .error raised => .error raised
  | .bytes | .disconnect => .ok none

/-- `value not in names` for a set of strings: the lookup hashes the value. -/
def notInSet (value : Value) (names : List Str) : Except Raised Bool :=
  if value.hashable then
    .ok (match value.asStr? with
      | some name => name ∉ names
      | none => true)
  else .error .typeError

end Souk.Server
