import Mathlib.Data.List.Sort
import McpPortal.Foundation.Unicode
import McpPortal.Operations

/-!
# The effect of a method

A method outside the table is never exposed as a tool, in any mode.
-/

namespace McpPortal

open Foundation

def methodEffect : List (String × Effect) :=
  [ ("GET", .readOnly),
    ("PUT", .idempotentWrite),
    ("DELETE", .idempotentWrite),
    ("POST", .action),
    ("PATCH", .action) ]

def exposedMethods : List String :=
  Dict.keys methodEffect

/-- `UnsupportedMethod`, with the method it was raised for. -/
structure UnsupportedMethod where
  method : String
  deriving DecidableEq

variable (unicode : PyUnicode)

def UnsupportedMethod.message (error : UnsupportedMethod) : String :=
  "HTTP method " ++ reprString unicode.isPrintable error.method ++
    " is never exposed as a tool; exposed methods are " ++
    (Json.arr ((exposedMethods.insertionSort (· ≤ ·)).map .str)).repr unicode.isPrintable

def effectForMethod (method : String) : Except UnsupportedMethod Effect :=
  match Dict.get? methodEffect (unicode.upper method) with
  | some effect => .ok effect
  | none => .error { method }

def effectForOperationType : GraphQlOperationType → Effect
  | .query => .readOnly
  | .mutation => .action

end McpPortal
