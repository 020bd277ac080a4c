import McpPortal.Config.Models
import McpPortal.Foundation.Floats
import McpPortal.Foundation.PyJsonText
import McpPortal.Foundation.PyText

/-!
# Retry timing and response mapping

What the transports share. A `Retry-After` header counts on a 429 only; every other
delay is drawn at random below a backoff that doubles. A retry has to fit into the
time that is left together with the attempt it pays for. The times of a configuration are
converted to floats, which fails on those beyond the largest one.
-/

namespace McpPortal

open Foundation

/-- A response of an upstream; `text` is its body as the HTTP client decodes it. -/
structure UpstreamResponse where
  status : Nat
  retryAfter : Option String := none
  contentType : Option String := none
  content : List UInt8 := []
  /-- `none` where decoding raises: the charset names a codec that does not decode to text, or one
  that finds no text here. -/
  text : Option String := some ""

/-- `str.isdigit` and `unicodedata.decimal` of a character, and decoding of bytes. -/
structure WireText where
  isDigit : Char → Bool
  decimal : Char → Option Nat
  decimalOfDigit : ∀ {char}, char.isDigit → decimal char = some (char.toNat - '0'.toNat)
  /-- `bytes.decode(errors="replace")`. -/
  decode : List UInt8 → String
  /-- What `json.loads` decodes bytes to; `none` is a `UnicodeDecodeError`. -/
  decodeJson : List UInt8 → Option CodePoints
  /-- `float` of a JSON number. -/
  readFloat : String → PyFloat

namespace WireText

variable (wire : WireText) (raw : List UInt8)

/-- The JSON value that a body is the text of, with integers of any length. -/
def parse : Option PyJson :=
  (wire.decodeJson raw).bind (JsonText.parse wire.readFloat)

/-- `json.loads`; `none` is a `ValueError`. -/
def loads : Option PyJson :=
  (wire.decodeJson raw).bind (loadsPoints wire.readFloat)

theorem loads_eq_filter :
    wire.loads raw = (wire.parse raw).filter fun value => !value.hasLongInt := by
  rw [loads, parse]
  cases wire.decodeJson raw <;> rfl

end WireText

/-- Decimal numbers of ASCII digits alone. -/
theorem decimal_of_isDigit {char : Char} (isDigit : char.isDigit = true) :
    (if char.isDigit then some (char.toNat - '0'.toNat) else none) =
      some (char.toNat - '0'.toNat) := if_pos isDigit

/-- `MAX_ATTEMPTS`. -/
def maxAttempts : Nat := 3

/-- `_BACKOFF_BASE_S`. -/
def backoffBase : Rat := 1 / 10

/-- `RETRY_AFTER_CAP_S`. -/
def retryAfterCap : Rat := 10

def isRetryableStatus (status : Nat) : Bool :=
  status ∈ [502, 503, 504] || status = 429

def isTextual (contentType : String) : Bool :=
  if contentType = "" then true
  else if contentType.startsWith "text/" then true
  else
    contentType ∈ ["application/json", "application/xml", "application/yaml"] ||
      contentType.endsWith "+json" || contentType.endsWith "+xml"

section Delay

variable (wire : WireText)

/-- `float` of a text of digits; `none` is a `ValueError`. -/
def floatOfDigits (text : String) : Option Rat :=
  Option.map (fun value : Nat => (value : Rat)) (readDigits wire.decimal 0 false text.toList)

/-- `retry_delay_s`, where `random()` is `drawn`. -/
def retryDelay (attempt : Nat) (statusCode : Option Nat) (retryAfterHeader : Option String)
    (drawn : Rat) : Option Rat :=
  let backoff := backoffBase * 2 ^ attempt * drawn
  match retryAfterHeader with
  | none => some backoff
  | some header =>
      if statusCode = some 429 && header ≠ "" && header.toList.all wire.isDigit then
        (floatOfDigits wire header).map fun seconds => min seconds retryAfterCap
      else some backoff

end Delay

/-- `milliseconds / 1000`. -/
def secondsOf (milliseconds : Nat) : Except NumberError Rat :=
  divideInts milliseconds 1000

/-- `remaining_budget_s`. -/
def remainingBudget (started now : Rat) : Option Nat → Except NumberError (Option Rat)
  | none => .ok none
  | some budget => (secondsOf budget).map fun total => some (float (total - float (now - started)))

/-- What `wait_for_retry` does: the budget is spent, it sleeps for a while, or it raises. -/
inductive Wait where
  | spent
  | sleeps (delay : Rat)
  | raises (error : NumberError)
  deriving DecidableEq

def waitForRetry (wire : WireText) (started now : Rat) (attempt : Nat)
    (response : Option UpstreamResponse) (maxTotalMs : Option Nat)
    (perAttemptTimeout drawn : Rat) : Wait :=
  match retryDelay wire attempt (response.map (·.status)) (response.bind (·.retryAfter)) drawn with
  | none => .raises .valueError
  | some delay =>
      match remainingBudget started now maxTotalMs with
      | .error error => .raises error
      | .ok none => .sleeps delay
      | .ok (some remaining) =>
          if float (delay + perAttemptTimeout) > remaining then .spent else .sleeps delay

/-- `_wait_for_retry` of both transports. -/
def UpstreamConfig.waitForRetry (upstream : UpstreamConfig) (wire : WireText) (started now : Rat)
    (attempt : Nat) (response : Option UpstreamResponse) (drawn : Rat) : Wait :=
  match secondsOf upstream.timeoutMs with
  | .error error => .raises error
  | .ok timeout =>
      McpPortal.waitForRetry wire started now attempt response (some upstream.maxTotalMs) timeout
        drawn

section Mapping

variable (wire : WireText)

/-- `map_body`. -/
def mapBody (raw : List UInt8) (contentType : String) (cap : Nat) (decodedText : Option String) :
    String × Bool :=
  if !isTextual contentType then
    let kind := if contentType = "" then "unknown content type" else contentType
    ("[" ++ toString raw.length ++ " bytes of " ++ kind ++ ", not inlined]", false)
  else if raw.length ≤ cap then (decodedText.getD (wire.decode raw), false)
  else
    (wire.decode (raw.take cap) ++ "\n\n[truncated: " ++ toString raw.length ++ " bytes total, " ++
      toString cap ++ " shown]", true)

end Mapping

/-- `HttpResponse`, and `GraphQlResponse` with the same fields. -/
structure MappedResponse where
  status : Nat
  text : String
  truncated : Bool
  originalBytes : Nat
  deriving DecidableEq

/-- `content_type.split(";")[0].strip()` of the header. -/
def mediaType (response : UpstreamResponse) : String :=
  String.ofList (stripBy isPySpace
    ((response.contentType.getD "").toList.takeWhile fun char => char ≠ ';'))

end McpPortal
