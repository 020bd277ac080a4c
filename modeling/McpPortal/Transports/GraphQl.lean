import McpPortal.Transports.Http

/-!
# Building a GraphQL request

One POST with the document and the variables that were given; the credential is
attached last here as well.
-/

namespace McpPortal

open Foundation

/-- `{v.name: arguments[v.name] for v in binding.variables if v.name in arguments}`. -/
def graphqlVariables (binding : GraphQlBinding) (arguments : JsonObject) : JsonObject :=
  Dict.ofList (binding.variableList.filterMap fun given =>
    (Dict.get? arguments given.name).map fun value => (given.name, value))

def buildGraphqlRequest (binding : GraphQlBinding) (endpoint : String) (arguments : JsonObject)
    (credential : Option Credential) : PreparedRequest where
  method := "POST"
  url := endpoint
  headers := attachCredential [("Content-Type", "application/json")] credential
  body := some (dumps (.obj
    [ ("query", .str binding.document), ("variables", .obj (graphqlVariables binding arguments)) ]))

/-- The request either transport prepares for an operation. -/
def operationRequest (isPrintable : Char → Bool) (operation : Operation) (baseUrl : String)
    (arguments : JsonObject) (credential : Option Credential) : Build PreparedRequest :=
  match operation.binding with
  | .http binding => buildRequest isPrintable binding baseUrl arguments credential
  | .graphQl binding => return buildGraphqlRequest binding baseUrl arguments credential

end McpPortal
