import McpPortal.Config.Models
import McpPortal.Config.Policy
import McpPortal.Foundation.Unicode

/-!
# The header denylist

A header parameter that names a security-relevant header, or the credential header
of any upstream, lets a caller reshape the request or replace its credential. The
comparison is made on the lowered name.
-/

namespace McpPortal

open Foundation

/-- Raised for any configuration problem, always at startup. -/
structure ConfigError where
  message : String
  deriving DecidableEq

/-- A validated configuration, the texts of its secret references, and its policy. -/
structure LoadedConfig where
  config : McpPortalConfig
  secrets : List (String × String) := []
  policy : Option PolicyConfig := none

def denylistedHeaders : List String :=
  [ "authorization", "proxy-authorization", "host", "cookie", "set-cookie", "content-length",
    "transfer-encoding", "connection", "upgrade", "te", "trailer", "expect" ]

def denylistedPrefixes : List String :=
  ["proxy-", "x-forwarded-"]

variable (unicode : PyUnicode)

def isDenylisted (header : String) (extra : List String) : Bool :=
  let lowered := unicode.lower header
  decide (lowered ∈ denylistedHeaders) || decide (lowered ∈ extra) ||
    denylistedPrefixes.any fun opening => opening.toList.isPrefixOf lowered.toList

/-- The lowered credential headers of all upstreams that have one. -/
def credentialHeadersFor (config : McpPortalConfig) : List String :=
  (config.upstreams.filter fun upstream => upstream.2.outbound.mode ≠ .none).map fun upstream =>
    unicode.lower upstream.2.outbound.header

def denylistedError (id header : String) : ConfigError where
  message := "operation " ++ reprString unicode.isPrintable id ++ " declares header parameter " ++
    reprString unicode.isPrintable header ++
    ", which is denylisted: a caller-supplied value here can bypass " ++
    "the outbound credential or reshape the request"

/-- The header a parameter entry names, when it names one. -/
def ParameterEntry.checkHeader (id : String) (credentialHeaders : List String)
    (param : ParameterEntry) : Except ConfigError Unit :=
  let header := textOr param.wireName param.arg
  if param.location = .header ∧ isDenylisted unicode header credentialHeaders = true then
    throw (denylistedError unicode id header)
  else return ()

def OperationEntry.checkHeaders (credentialHeaders : List String) (entry : OperationEntry) :
    Except ConfigError Unit :=
  match entry.binding with
  | .graphQl _ => return ()
  | .http binding =>
      binding.parameters.forM (ParameterEntry.checkHeader unicode entry.id credentialHeaders)

def checkHeaderDenylist (config : McpPortalConfig) : Except ConfigError Unit :=
  config.operations.forM (OperationEntry.checkHeaders unicode (credentialHeadersFor unicode config))

end McpPortal
