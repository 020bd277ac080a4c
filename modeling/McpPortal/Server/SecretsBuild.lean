import McpPortal.App
import McpPortal.Foundation.Lockstep
import McpPortal.Server.Admission

/-!
# Other secrets behind the same references

Two loaded configurations may differ in what their secret references stand for. They are built
into applications that differ in the values of credentials only, or fail alike, and both admit the
same calls.
-/

namespace McpPortal

open Foundation

/-- The same references stand for something. -/
def SameReferences (left right : List (String × String)) : Prop :=
  ∀ ref, (Dict.get? left ref).isSome = (Dict.get? right ref).isSome

/-- No credential, or credentials of the same header. -/
inductive SameHeader : Option Credential → Option Credential → Prop
  | absent : SameHeader none none
  | present {header left right : String} :
      SameHeader (some { header, value := left }) (some { header, value := right })

theorem SameHeader.refl (credential : Option Credential) : SameHeader credential credential := by
  cases credential with
  | none => exact .absent
  | some credential => exact .present

inductive CredentialSource.Alike : CredentialSource → CredentialSource → Prop
  | static {left right : Option Credential} (same : SameHeader left right) :
      Alike (.static left) (.static right)
  | clientCredentials {outbound : OutboundConfig} {left right : List (String × String)}
      {upstreamKey : String} :
      Alike (.clientCredentials outbound left upstreamKey)
        (.clientCredentials outbound right upstreamKey)
  | tokenExchange {outbound : OutboundConfig} {left right upstreamKey : String} :
      Alike (.tokenExchange outbound left upstreamKey) (.tokenExchange outbound right upstreamKey)

structure TransportSettings.Alike (left right : TransportSettings) : Prop where
  upstream : left.upstream = right.upstream
  baseUrl : left.baseUrl = right.baseUrl
  credentialSource : left.credentialSource.Alike right.credentialSource

inductive TransportAdapter.Alike : TransportAdapter → TransportAdapter → Prop
  | http {left right : TransportSettings} (same : left.Alike right) :
      Alike (.http left) (.http right)
  | graphQl {left right : TransportSettings} (same : left.Alike right) :
      Alike (.graphQl left) (.graphQl right)
  | protocolRouting {left right : TransportSettings} (same : left.Alike right) :
      Alike (.protocolRouting left) (.protocolRouting right)

/-- The transport of an upstream, under its key. -/
def SameTransport (left right : String × TransportAdapter) : Prop :=
  left.1 = right.1 ∧ left.2.Alike right.2

structure App.Alike (left right : App) : Prop where
  toolset : left.invoker.toolset = right.invoker.toolset
  policy : left.invoker.policy = right.invoker.policy
  principal : left.invoker.principal = right.invoker.principal
  transports : List.Forall₂ SameTransport left.invoker.transports right.invoker.transports

structure Job.Alike (left right : Job) : Prop where
  name : left.name = right.name
  adapter : left.adapter.Alike right.adapter
  execution : left.execution = right.execution

inductive Admission.Alike : Admission → Admission → Prop
  | answers (outcome : CallOutcome) : Alike (.answers outcome) (.answers outcome)
  | executes {left right : Job} (same : left.Alike right) : Alike (.executes left) (.executes right)

section Alike

variable {left right : TransportAdapter}

theorem TransportAdapter.Alike.settings (alike : left.Alike right) :
    left.settings.Alike right.settings := by
  cases alike with
  | http same => exact same
  | graphQl same => exact same
  | protocolRouting same => exact same

theorem TransportAdapter.Alike.serves (alike : left.Alike right) (binding : PyCall.CalledBinding) :
    PyCall.Serves left binding ↔ PyCall.Serves right binding := by
  cases alike <;> cases binding <;> rfl

/-- Sources that differ in their secrets ask for the same, or have their own credentials. -/
theorem CredentialSource.Alike.demand {left right : CredentialSource} (alike : left.Alike right)
    (execution : Execution) :
    (∃ own ownToo, left = .static own ∧ left.demand execution = .inl own ∧
        right.demand execution = .inl ownToo ∧ SameHeader own ownToo) ∨
      ∃ request, left.demand execution = .inr request ∧ right.demand execution = .inr request := by
  cases alike with
  | static same => exact Or.inl ⟨_, _, rfl, rfl, rfl, same⟩
  | clientCredentials => exact Or.inr ⟨_, rfl, rfl⟩
  | tokenExchange => exact Or.inr ⟨_, rfl, rfl⟩

theorem get?_of_sameTransport {left right : List (String × TransportAdapter)}
    (transports : List.Forall₂ SameTransport left right) (key : String) :
    Option.Rel TransportAdapter.Alike (Dict.get? left key) (Dict.get? right key) := by
  induction transports with
  | nil => exact .none
  | @cons first firstToo rest restToo same _ ih =>
      rcases first with ⟨leftKey, adapter⟩
      rcases firstToo with ⟨rightKey, adapterToo⟩
      rcases same with ⟨rfl, alike⟩
      rw [Dict.get?_cons, Dict.get?_cons]
      split
      · exact .some alike
      · exact ih

end Alike

section Build

variable {left right : List (String × String)} (same : SameReferences left right)

include same in
theorem SameReferences.resolved (ref : String) :
    (Dict.get? left ref = none ∧ Dict.get? right ref = none) ∨
      ∃ secret other, Dict.get? left ref = some secret ∧ Dict.get? right ref = some other := by
  have stands := same ref
  cases isLeft : Dict.get? left ref with
  | none =>
      rw [isLeft, Option.isSome_none, eq_comm, Option.isSome_eq_false_iff,
        Option.isNone_iff_eq_none] at stands
      exact Or.inl ⟨rfl, stands⟩
  | some secret =>
      rw [isLeft, Option.isSome_some, eq_comm, Option.isSome_iff_exists] at stands
      rcases stands with ⟨other, isRight⟩
      exact Or.inr ⟨secret, other, rfl, isRight⟩

include same in
theorem agree_credentialFor (isPrintable : Char → Bool) (outbound : OutboundConfig) :
    Agree SameHeader (credentialFor isPrintable outbound left)
      (credentialFor isPrintable outbound right) := by
  unfold credentialFor
  split
  · exact .ok .absent
  · split
    · exact .error _
    case h_2 ref _ =>
      rcases same.resolved ref.text with ⟨isLeft, isRight⟩ | ⟨secret, other, isLeft, isRight⟩
      · rw [isLeft, isRight]
        exact .error _
      · rw [isLeft, isRight]
        exact .ok .present

include same in
theorem agree_credentialSourceFor (unicode : PyUnicode) (key : String) (outbound : OutboundConfig) :
    Agree CredentialSource.Alike (credentialSourceFor unicode left key outbound)
      (credentialSourceFor unicode right key outbound) := by
  unfold credentialSourceFor
  split
  case h_1 => exact .ok .clientCredentials
  case h_2 =>
    split
    case h_1 ref _ _ _ =>
      rcases same.resolved ref.text with ⟨isLeft, isRight⟩ | ⟨secret, other, isLeft, isRight⟩
      · rw [isLeft, isRight]
        exact .error _
      · rw [isLeft, isRight]
        exact .ok .tokenExchange
    case h_2 => exact .error _
  case h_3 =>
    apply Agree.bind ((agree_credentialFor same unicode.isPrintable outbound).mapError _)
    intro credential credentialToo sameHeader
    exact .ok (.static sameHeader)

theorem alike_adapterFor (key : String) (operations : List Operation)
    {left right : TransportSettings} (alike : left.Alike right) :
    (adapterFor key operations left).Alike (adapterFor key operations right) := by
  unfold adapterFor
  dsimp only
  split
  · exact .protocolRouting alike
  · split
    · exact .graphQl alike
    · exact .http alike

include same in
theorem agree_transportFor (unicode : PyUnicode) (operations : List Operation)
    (resolvedBaseUrl : String → String) (upstream : String × UpstreamConfig) :
    Agree SameTransport (transportFor unicode left operations resolvedBaseUrl upstream)
      (transportFor unicode right operations resolvedBaseUrl upstream) := by
  apply Agree.bind (agree_credentialSourceFor same unicode upstream.1 upstream.2.outbound)
  intro source sourceToo alike
  exact .ok ⟨rfl, alike_adapterFor upstream.1 operations ⟨rfl, rfl, alike⟩⟩

include same in
/-- With other secrets the same application is built, credentials apart, or the same is raised. -/
theorem agree_buildApp (unicode : PyUnicode) (suffix : String → String)
    (introspect : IntrospectUpstreams) (config : McpPortalConfig) (policy : Option PolicyConfig) :
    Agree App.Alike (buildApp unicode suffix introspect { config, secrets := left, policy })
      (buildApp unicode suffix introspect { config, secrets := right, policy }) := by
  unfold buildApp
  dsimp only
  apply Agree.bind (.refl _)
  rintro introspected _ rfl
  apply Agree.bind (.refl _)
  rintro explicit _ rfl
  apply Agree.bind (.refl _)
  rintro toolset _ rfl
  apply Agree.bind (.refl _)
  rintro principal _ rfl
  apply Agree.bind (Agree.mapM config.upstreams fun upstream _ =>
    agree_transportFor same unicode toolset.operations introspected.resolvedBaseUrl upstream)
  intro transports transportsToo alike
  exact .ok ⟨rfl, rfl, rfl, alike⟩

end Build

section Admit

variable (isPrintable : Char → Bool) (validate : Validator) {left right : App}

theorem App.Alike.admission (alike : left.Alike right) (name : String)
    (arguments : Option JsonObject) (principal : Option Principal) :
    (left.invoker.admission isPrintable validate name arguments principal).Alike
      (right.invoker.admission isPrintable validate name arguments principal) := by
  unfold ToolInvoker.admission ToolInvoker.effectivePrincipal
  rw [alike.toolset, alike.policy, alike.principal]
  cases Dict.get? right.invoker.toolset.byName name with
  | none => exact .answers _
  | some operation =>
      dsimp only
      cases validate (arguments.getD []) operation.inputSchema with
      | raised => exact .answers _
      | invalid absolutePath message => exact .answers _
      | valid =>
          dsimp only
          split
          · exact .answers _
          · have found := get?_of_sameTransport alike.transports operation.upstream
            revert found
            generalize Dict.get? left.invoker.transports operation.upstream = adapter
            generalize Dict.get? right.invoker.transports operation.upstream = adapterToo
            intro found
            cases found with
            | none => exact .answers _
            | some same => exact .executes ⟨rfl, same, rfl⟩

/-- With other secrets the same calls are admitted, to the same operations. -/
theorem App.Alike.admitCall (alike : left.Alike right) (config : McpPortalConfig)
    (accessToken : Option AccessToken) (request : CallToolRequest) :
    (McpPortal.admitCall isPrintable validate left config accessToken request).Alike
      (McpPortal.admitCall isPrintable validate right config accessToken request) := by
  unfold McpPortal.admitCall
  cases config.server.transport with
  | stdio => exact alike.admission isPrintable validate _ _ _
  | http =>
      dsimp only
      cases principalForRequest config accessToken with
      | error error => exact .answers _
      | ok principal =>
          cases principal with
          | none => exact .answers _
          | some principal => exact alike.admission isPrintable validate _ _ _

end Admit

end McpPortal
