import McpPortal.Foundation.PercentDecode
import McpPortal.Server.Mcp
import McpPortal.Transports.Sending

/-!
# GraphQL errors in tool results

A GraphQL server reports errors in the body of a response whose status is a success.
The transport gives such a response a status that the tool call takes for a failure.
It does so for the status 200 alone, whereas the tool call takes every 2xx for a success, and
where it can read the body: the interpreter refuses integers of too many digits, and a
response without a text is not mapped at all.
-/

namespace McpPortal

open Foundation

/-- The raw body is a JSON object, and what it has under `errors` is not empty. -/
def ReportsErrors (wire : WireText) (raw : List UInt8) : Prop :=
  ∃ fields errors, wire.parse raw = some (.obj fields) ∧
    lastField? fields "errors" = some errors ∧ errors.truthy = true

/-- Some integer of a JSON body has too many digits to be read. -/
def HoldsLongInt (wire : WireText) (raw : List UInt8) : Prop :=
  ∃ value, wire.parse raw = some value ∧ value.hasLongInt = true

theorem hasGraphqlErrors_iff {wire : WireText} {raw : List UInt8} :
    hasGraphqlErrors wire raw = true ↔ ReportsErrors wire raw ∧ ¬HoldsLongInt wire raw := by
  rw [hasGraphqlErrors, wire.loads_eq_filter, ReportsErrors, HoldsLongInt]
  cases parsed : wire.parse raw with
  | none => simp
  | some value =>
      cases long : value.hasLongInt with
      | true => simp [Option.filter, long]
      | false =>
          cases value with
          | obj fields =>
              cases found : lastField? fields "errors" <;> simp [Option.filter, long, found]
          | _ => simp [Option.filter, long]

/-- A response whose text can be read is mapped, and its status differs from the upstream's on a 200
with errors alone. -/
theorem status_map_graphql (wire : WireText) (upstream : UpstreamConfig)
    {response : UpstreamResponse} (readable : response.text.isSome = true) :
    ∃ mapped, GraphQlTransport.map wire upstream response = some mapped ∧
      (mapped.status = 502 ∧ response.status = 200 ∧ ReportsErrors wire response.content ∧
          ¬HoldsLongInt wire response.content ∨
        mapped.status = response.status ∧ ¬(response.status = 200 ∧
          ReportsErrors wire response.content ∧ ¬HoldsLongInt wire response.content)) := by
  rcases Option.isSome_iff_exists.mp readable with ⟨text, isText⟩
  simp only [GraphQlTransport.map, isText, Option.map_some, Option.some.injEq, exists_eq_left']
  split
  case isTrue remapped =>
    rw [Bool.and_eq_true, decide_eq_true_eq, hasGraphqlErrors_iff] at remapped
    exact Or.inl ⟨rfl, remapped⟩
  case isFalse kept =>
    rw [Bool.and_eq_true, decide_eq_true_eq, hasGraphqlErrors_iff] at kept
    exact Or.inr ⟨rfl, kept⟩

section Calls

variable (isPrintable : Char → Bool) (validate : Validator) (network : Network) (wire : WireText)
  (attempts : Nat → Attempt) (started : Rat) (invoker : ToolInvoker TransportAdapter)
  (name : String) (arguments : Option JsonObject) (principal : Option Principal)

/-- A call whose operation, if it is a GraphQL one, runs on a network that sends in this way. -/
def callGraphql : Traced Execution CallOutcome :=
  invoker.call isPrintable validate
    (TransportAdapter.execute isPrintable
      (network.sending wire attempts started (GraphQlTransport.map wire)))
    name arguments principal

/-- A call executes a GraphQL operation, and the upstream's last answer to it is a success. -/
structure AnsweredByGraphql (settings : TransportSettings) (response : UpstreamResponse) :
    Prop where
  executed : ∃ execution binding adapter run,
    (callGraphql isPrintable validate network wire attempts started invoker name arguments
      principal).actions = [execution] ∧
    execution.operation.binding = .graphQl binding ∧
    Dict.get? invoker.transports execution.operation.upstream = some adapter ∧
    (adapter = .graphQl settings ∨ adapter = .protocolRouting settings) ∧
    GraphQlTransport.run isPrintable network wire attempts started settings execution = .ok run ∧
    run.ending = .outcome (.responded response)
  succeeded : 200 ≤ response.status ∧ response.status < 300

/-- Errors make the result an error, and a 200 without errors keeps its status. -/
structure FailsOnErrors (settings : TransportSettings) (response : UpstreamResponse) : Prop where
  failed : ReportsErrors wire response.content →
    ∃ result, (callGraphql isPrintable validate network wire attempts started invoker name arguments
      principal).result = .ok result ∧ result.isError = true
  kept : response.status = 200 → ¬ReportsErrors wire response.content →
    ∃ mapped, GraphQlTransport.map wire settings.upstream response = some mapped ∧
      mapped.status = response.status

/-- The text of a response is there where it counts, and its errors are found. -/
structure ShowsErrors (response : UpstreamResponse) : Prop where
  readable : response.status = 200 ∨ ReportsErrors wire response.content →
    response.text.isSome = true
  found : ReportsErrors wire response.content →
    response.status = 200 ∧ ¬HoldsLongInt wire response.content

variable {isPrintable validate network wire attempts started invoker name arguments principal}
  {settings : TransportSettings} {response : UpstreamResponse}

/-- The result of an answered call is made of the mapped response. -/
theorem AnsweredByGraphql.result_eq
    (answered : AnsweredByGraphql isPrintable validate network wire attempts started invoker name
      arguments principal settings response) :
    (callGraphql isPrintable validate network wire attempts started invoker name arguments
      principal).result =
        match GraphQlTransport.map wire settings.upstream response with
        | some mapped =>
            .ok { text := mapped.text, isError := !(200 ≤ mapped.status && mapped.status < 300) }
        | none => .error .transport := by
  rcases answered.executed with
    ⟨execution, binding, adapter, run, reached, isGraphQl, found, serves, ran, ended⟩
  have transported : TransportAdapter.execute isPrintable
      (network.sending wire attempts started (GraphQlTransport.map wire)) adapter execution =
        ((Outcome.responded response).result (GraphQlTransport.map wire settings.upstream)).map
          MappedResponse.toolResult := by
    have executes : GraphQlTransport.execute isPrintable
        (network.sending wire attempts started (GraphQlTransport.map wire)) settings execution =
          ((Outcome.responded response).result (GraphQlTransport.map wire settings.upstream)).map
            MappedResponse.toolResult := by
      rw [GraphQlTransport.execute_sending, ran]
      simp only [Except.bind, Run.result, ended]
    rcases serves with rfl | rfl
    · exact executes
    · simp only [TransportAdapter.execute, isGraphQl]
      exact executes
  unfold callGraphql ToolInvoker.call at reached ⊢
  split at reached
  · cases reached
  case h_2 operation routed =>
    dsimp only at reached ⊢
    split at reached
    · cases reached
    · cases reached
    · split at reached
      · cases reached
      case isFalse allowed =>
        split at reached
        · cases reached
        case h_2 transport isTransport =>
          cases reached
          rw [isTransport] at found
          cases found
          simp only [allowed, Traced.act, transported, Outcome.result]
          cases GraphQlTransport.map wire settings.upstream response <;> rfl

/-- A response without a text makes the call raise. -/
theorem AnsweredByGraphql.raises
    (answered : AnsweredByGraphql isPrintable validate network wire attempts started invoker name
      arguments principal settings response) (unreadable : response.text = none) :
    (callGraphql isPrintable validate network wire attempts started invoker name arguments
      principal).result = .error .transport ∧
    GraphQlTransport.map wire settings.upstream response = none := by
  have unmapped : GraphQlTransport.map wire settings.upstream response = none := by
    rw [GraphQlTransport.map, unreadable, Option.map_none]
  have isResult := answered.result_eq
  rw [unmapped] at isResult
  exact ⟨isResult, unmapped⟩

/-- A call fails on errors exactly when they come with the status 200, in a body of which every
integer can be read, and the response has a text where it has errors or that status. -/
theorem callGraphql_failsOnErrors_iff
    (answered : AnsweredByGraphql isPrintable validate network wire attempts started invoker name
      arguments principal settings response) :
    FailsOnErrors isPrintable validate network wire attempts started invoker name arguments
        principal settings response ↔ ShowsErrors wire response := by
  cases isText : response.text with
  | none =>
      rcases answered.raises isText with ⟨raised, unmapped⟩
      have silent : ShowsErrors wire response ↔
          response.status ≠ 200 ∧ ¬ReportsErrors wire response.content := by
        constructor
        · intro shows
          have unreadable := mt shows.readable (by simp [isText])
          exact not_or.mp unreadable
        · rintro ⟨notSuccess, noErrors⟩
          exact ⟨fun counts => (counts.elim notSuccess noErrors).elim, fun reports =>
            absurd reports noErrors⟩
      rw [silent]
      constructor
      · intro fails
        have noErrors : ¬ReportsErrors wire response.content := by
          intro reports
          rcases fails.failed reports with ⟨result, isResult, _⟩
          cases raised.symm.trans isResult
        refine ⟨?_, noErrors⟩
        intro isSuccess
        rcases fails.kept isSuccess noErrors with ⟨mapped, isMapped, _⟩
        cases unmapped.symm.trans isMapped
      · rintro ⟨notSuccess, noErrors⟩
        exact ⟨fun reports => absurd reports noErrors, fun isSuccess => absurd isSuccess notSuccess⟩
  | some text =>
      have readable : response.text.isSome = true := by rw [isText, Option.isSome_some]
      rcases status_map_graphql wire settings.upstream readable with ⟨mapped, isMapped, status⟩
      have isResult := answered.result_eq
      rw [isMapped] at isResult
      dsimp only at isResult
      rcases status with ⟨failed, isSuccess, reports, short⟩ | ⟨kept, notAll⟩
      · constructor
        · intro _
          exact ⟨fun _ => readable, fun _ => ⟨isSuccess, short⟩⟩
        · intro _
          refine ⟨fun _ => ⟨_, isResult, ?_⟩, fun _ silent => absurd reports silent⟩
          rw [failed]
          rfl
      · constructor
        · intro fails
          refine ⟨fun _ => readable, ?_⟩
          intro reports
          rcases fails.failed reports with ⟨result, isOther, isError⟩
          rw [isResult] at isOther
          cases isOther
          have succeeded := answered.succeeded
          simp [kept, succeeded] at isError
        · intro shows
          constructor
          · intro reports
            have seen := shows.found reports
            exact absurd ⟨seen.1, reports, seen.2⟩ notAll
          · intro _ _
            exact ⟨mapped, isMapped, kept⟩

section Invoice

private def invoiceBinding : GraphQlBinding where
  operationType := .mutation
  document := "mutation { createInvoice }"

private def invoiceOperation : Operation where
  id := "createInvoice"
  upstream := "billing"
  name := "createInvoice"
  title := ""
  description := ""
  groupTags := []
  effect := .action
  sensitivity := .normal
  inputSchema := []
  binding := .graphQl invoiceBinding

private def billingSettings : TransportSettings where
  upstream := { baseUrl := some { text := "https://invoices.test" }, positive := positive_defaultLimits }
  baseUrl := "https://invoices.test"
  credentialSource := .static none

private def billingInvoker : ToolInvoker TransportAdapter where
  toolset :=
    { operations := [invoiceOperation]
      byName := [("createInvoice", invoiceOperation)]
      indexed := rfl
      noneShadowed := rfl }
  transports := [("billing", .graphQl billingSettings)]
  policy := .empty

private def utf8Wire : WireText where
  isDigit := Char.isDigit
  decimal char := if char.isDigit then some (char.toNat - '0'.toNat) else none
  decimalOfDigit := @decimal_of_isDigit
  decode bytes := (Percent.decodeUtf8 bytes).getD ""
  decodeJson bytes := (Percent.decodeUtf8 bytes).map codePoints
  readFloat literal := { repr := literal, value := 0 }

private def unreachable : Network where
  acquireToken _ _ _ _ := .error .other
  send _ _ _ := .error .other

/-- The invoice is refused, and the refusal comes with a status. -/
private def refusal (status : Nat) : UpstreamResponse where
  status := status
  contentType := some "application/json"
  content := "\x7b\"errors\":[\"refused\"]\x7d".toUTF8.toList
  text := some "\x7b\"errors\":[\"refused\"]\x7d"

private def refusing (status : Nat) : Nat → Attempt := fun _ =>
  { outcome := .responded (refusal status), duration := 1, drawn := 1 }

private theorem fitsFloats_billing : billingSettings.upstream.FitsFloats :=
  ⟨by decide +kernel, by decide +kernel⟩

private theorem answered_refusal {status : Nat}
    (succeeded : 200 ≤ status ∧ status < 300) :
    AnsweredByGraphql (fun _ => true) (fun _ _ => .valid) unreachable utf8Wire (refusing status) 0
      billingInvoker "createInvoice" none none billingSettings (refusal status) := by
  constructor
  · refine ⟨{ operation := invoiceOperation, arguments := [] }, invoiceBinding,
      .graphQl billingSettings, _, rfl, rfl, rfl, Or.inl rfl, rfl, ?_⟩
    rw [sendAll_eq fitsFloats_billing]
    rfl
  · exact succeeded

private theorem hasGraphqlErrors_refusal (status : Nat) :
    hasGraphqlErrors utf8Wire (refusal status).content = true := by
  change hasGraphqlErrors utf8Wire "\x7b\"errors\":[\"refused\"]\x7d".toUTF8.toList = true
  decide +kernel

/-- A refusal with the status 200 fails the call. -/
theorem callGraphql_failsOnErrors_iff_invoice :
    FailsOnErrors (fun _ => true) (fun _ _ => .valid) unreachable utf8Wire (refusing 200) 0
      billingInvoker "createInvoice" none none billingSettings (refusal 200) :=
  (callGraphql_failsOnErrors_iff (answered_refusal (by decide))).mpr
    ⟨fun _ => rfl, fun _ => ⟨rfl, (hasGraphqlErrors_iff.mp (hasGraphqlErrors_refusal 200)).2⟩⟩

/-- A refusal with the status 201 is reported as done. -/
theorem callGraphql_reports_refusal_as_done :
    ReportsErrors utf8Wire (refusal 201).content ∧
      (callGraphql (fun _ => true) (fun _ _ => .valid) unreachable utf8Wire (refusing 201) 0
        billingInvoker "createInvoice" none none).result.toOption =
          some { text := "\x7b\"errors\":[\"refused\"]\x7d", isError := false } ∧
      ¬FailsOnErrors (fun _ => true) (fun _ _ => .valid) unreachable utf8Wire (refusing 201) 0
        billingInvoker "createInvoice" none none billingSettings (refusal 201) := by
  have reports := (hasGraphqlErrors_iff.mp (hasGraphqlErrors_refusal 201)).1
  have done : (callGraphql (fun _ => true) (fun _ _ => .valid) unreachable utf8Wire (refusing 201) 0
      billingInvoker "createInvoice" none none).result.toOption =
        some { text := "\x7b\"errors\":[\"refused\"]\x7d", isError := false } := by
    decide +kernel
  refine ⟨reports, done, ?_⟩
  intro fails
  rcases fails.failed reports with ⟨result, isResult, isError⟩
  rw [isResult] at done
  cases done
  cases isError

end Invoice

end Calls

end McpPortal
