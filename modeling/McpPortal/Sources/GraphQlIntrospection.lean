import McpPortal.Foundation.Dynamic
import McpPortal.Foundation.Fallible

/-!
# The schema a GraphQL upstream introspects

Kinds are the texts the upstream answers with, which nothing checks. A type reference
wraps another one for lists and non-null types; the wrapper of a reference that was cut
off by the depth of the query wraps nothing.
-/

namespace McpPortal

open Foundation

/-- `TypeRef`, without an `of_type` and with one. -/
inductive TypeRef where
  | bare (kind : String) (name : Option String)
  | wrapping (kind : String) (name : Option String) (ofType : TypeRef)
  deriving DecidableEq

namespace TypeRef

def kind : TypeRef → String
  | .bare kind _ => kind
  | .wrapping kind _ _ => kind

def name : TypeRef → Option String
  | .bare _ name => name
  | .wrapping _ name _ => name

end TypeRef

structure FieldArg where
  name : String
  type : TypeRef

structure FieldInfo where
  name : String
  type : TypeRef
  args : List FieldArg := []
  description : Option String := none

structure TypeInfo where
  kind : String
  name : String
  fields : List FieldInfo := []

structure IntrospectedSchema where
  queryType : String
  mutationType : Option String := none
  typesByName : List (String × TypeInfo)

def isWrapper (kind : String) : Bool :=
  kind = "NON_NULL" || kind = "LIST"

section Read

variable {Error : Type}

/-- `named_type`: the innermost type; a wrapper is asserted to wrap something. -/
def namedType : TypeRef → Except (PyException Error) TypeRef
  | .bare kind name => if isWrapper kind then throw .assertionError else return .bare kind name
  | .wrapping kind name ofType =>
      if isWrapper kind then namedType ofType else return .wrapping kind name ofType

/-- `render_type_ref`. -/
def renderTypeRef : TypeRef → Except (PyException Error) String
  | .bare kind name =>
      if isWrapper kind then throw .assertionError
      else
        match name with
        | some name => return name
        | none => throw .assertionError
  | .wrapping kind name ofType =>
      if kind = "NON_NULL" then do
        let rendered ← renderTypeRef ofType
        return rendered ++ "!"
      else if kind = "LIST" then do
        let rendered ← renderTypeRef ofType
        return "[" ++ rendered ++ "]"
      else
        match name with
        | some name => return name
        | none => throw .assertionError

end Read

end McpPortal
