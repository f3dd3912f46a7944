import Intellisphere.Foundation.Text

/-! The gRPC status Core returns when its provider fails. -/

namespace Intellisphere.Core

open Intellisphere.Foundation

/-- The gRPC codes Core uses. -/
inductive Code where
  | canceled
  | deadlineExceeded
  | resourceExhausted
  | internal
  | unavailable
  | unauthenticated
  deriving DecidableEq, Repr

/-- A Go string is any sequence of bytes. -/
abbrev GoString :=
  List UInt8

structure Status where
  code : Code
  message : GoString
  deriving DecidableEq, Repr

/-- Compare every stretch of `s` of the length of `substr`. The search is case-sensitive. -/
def containsLower (s substr : GoString) : Bool :=
  (List.range (s.length + 1 - substr.length)).any
    (fun i => (s.drop i).take substr.length == substr)

def contains (s substr : GoString) : Bool :=
  substr.length ≤ s.length && (s == substr || (0 < s.length && containsLower s substr))

/-- The status for an adapter error, chosen by the first pattern its text contains. -/
def mapAdapterError (errMsg : GoString) : Status :=
  let mentions (pattern : String) := contains errMsg (utf8Bytes pattern)
  let code : Code :=
    if mentions "rate limit" || mentions "429" then .resourceExhausted
    else if mentions "unauthorized" || mentions "401" || mentions "invalid api key" then
      .unauthenticated
    else if mentions "timeout" || mentions "deadline" then .deadlineExceeded
    else if mentions "500" || mentions "502" || mentions "503" then .unavailable
    else .internal
  { code, message := errMsg }

end Intellisphere.Core
