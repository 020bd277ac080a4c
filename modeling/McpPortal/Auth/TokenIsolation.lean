import Mathlib.Data.Fintype.Pigeonhole
import McpPortal.Auth.Acquire

/-!
# Whose token a caller gets

Read from its end, a cache key gives back the mode, the upstream, the sorted scopes
and the two hashes. Requests share a token only if they agree in all of these, and
two that do differ in what was hashed share one whenever the hashes collide, which
no function into 64-bit integers avoids.
-/

namespace McpPortal

open Foundation

section CacheKeys

variable (isPrintable : Char → Bool) (hash : PyHash)

theorem colon_notMem_toString (value : Int) : ':' ∉ (toString value).toList := by
  intro colon
  have isNumber := (JsonText.numberToken_int (fun text => ⟨0, text⟩) value).chars _ colon
  cases isNumber

theorem toList_append_colon (before after : String) :
    (before ++ ":" ++ after).toList = before.toList ++ ':' :: after.toList := by
  simp

/-- A hash printed after a colon at the end of a text is found again. -/
theorem hash_unique {first second : String} {firstHash secondHash : Int64}
    (same : first ++ ":" ++ toString firstHash.toInt = second ++ ":" ++ toString secondHash.toInt) :
    first = second ∧ firstHash = secondHash := by
  rw [← String.toList_inj, toList_append_colon, toList_append_colon] at same
  rcases lastSeparator_unique (colon_notMem_toString _) (colon_notMem_toString _) same with
    ⟨sameStart, sameChars⟩
  have sameInt := Int.repr_injective (String.toList_inj.mp sameChars)
  exact ⟨String.toList_inj.mp sameStart, Int64.toInt_inj.mp sameInt⟩

/-- So are the scopes, whatever comes before the colon. -/
theorem scopesText_unique {first second : String} {firstScopes secondScopes : List String}
    (same : first ++ ":" ++ scopesText isPrintable firstScopes =
      second ++ ":" ++ scopesText isPrintable secondScopes) :
    first = second ∧ firstScopes.Perm secondScopes := by
  rw [← String.toList_inj, String.toList_append, @String.toList_append (second ++ ":")] at same
  rcases reprTuple_unique isPrintable same with ⟨sameStart, sameSorted⟩
  refine ⟨?_, ?_⟩
  · rw [String.toList_append, String.toList_append] at sameStart
    exact String.toList_inj.mp (List.append_cancel_right sameStart)
  · exact (List.perm_insertionSort _ firstScopes).symm.trans
      (sameSorted ▸ List.perm_insertionSort _ secondScopes)

theorem scopesText_of_perm {firstScopes secondScopes : List String}
    (perm : firstScopes.Perm secondScopes) :
    scopesText isPrintable firstScopes = scopesText isPrintable secondScopes := by
  have sorted : firstScopes.insertionSort (· ≤ ·) = secondScopes.insertionSort (· ≤ ·) := by
    apply List.Perm.eq_of_pairwise' (List.pairwise_insertionSort _ _)
      (List.pairwise_insertionSort _ _)
    exact (List.perm_insertionSort _ _).trans (perm.trans (List.perm_insertionSort _ _).symm)
  rw [scopesText, scopesText, sorted]

namespace CredentialRequest

/-- The request reaches the cache. -/
def HasKey (request : CredentialRequest) : Prop :=
  request.mode = .tokenExchange → request.subjectToken ≠ none

/-- The requests have the same cache key. -/
structure Collides (first second : CredentialRequest) : Prop where
  mode : first.mode = second.mode
  upstreamKey : first.upstreamKey = second.upstreamKey
  scopes : first.scopes.Perm second.scopes
  carry : hash.ofDetails first.carry = hash.ofDetails second.carry
  subjectToken : first.subjectToken.map hash.ofString = second.subjectToken.map hash.ofString

/-- A key names its mode first. -/
theorem cacheKey_clientCredentials_ne (source : ClientCredentialsSource)
    (carry otherCarry : List AuthorizationDetail) (otherSource : TokenExchangeSource)
    (subjectToken : Option String) (expiresAt : Option Int) :
    cacheKey isPrintable hash (.clientCredentials source carry) ≠
      cacheKey isPrintable hash (.tokenExchange otherSource otherCarry subjectToken expiresAt) := by
  intro same
  cases subjectToken with
  | none => cases same
  | some token =>
      simp only [cacheKey, Except.ok.injEq, ← String.toList_inj, String.toList_append] at same
      have heads := congrArg List.head? same
      simp at heads

theorem collides_of_cacheKey_eq {first second : CredentialRequest} (firstHas : first.HasKey)
    (same : first.cacheKey isPrintable hash = second.cacheKey isPrintable hash) :
    Collides hash first second := by
  cases first with
  | clientCredentials firstSource firstCarry =>
      cases second with
      | clientCredentials secondSource secondCarry =>
          rw [cacheKey, cacheKey, Except.ok.injEq] at same
          rcases hash_unique same with ⟨sameScoped, sameCarry⟩
          rcases scopesText_unique isPrintable sameScoped with ⟨sameUpstream, sameScopes⟩
          have upstreamKey := (String.append_right_inj _).mp sameUpstream
          exact ⟨rfl, upstreamKey, sameScopes, sameCarry, rfl⟩
      | tokenExchange =>
          exact (cacheKey_clientCredentials_ne isPrintable hash _ _ _ _ _ _ same).elim
  | tokenExchange firstSource firstCarry firstSubject _ =>
      cases second with
      | clientCredentials =>
          exact (cacheKey_clientCredentials_ne isPrintable hash _ _ _ _ _ _ same.symm).elim
      | tokenExchange secondSource secondCarry secondSubject _ =>
          rcases Option.ne_none_iff_exists'.mp (firstHas rfl) with ⟨firstToken, rfl⟩
          cases secondSubject with
          | none => cases same
          | some secondToken =>
              simp only [cacheKey, Except.ok.injEq] at same
              rcases hash_unique same with ⟨sameScoped, sameCarry⟩
              rcases scopesText_unique isPrintable sameScoped with ⟨sameHashed, sameScopes⟩
              rcases hash_unique sameHashed with ⟨sameUpstream, sameSubject⟩
              have upstreamKey := (String.append_right_inj _).mp sameUpstream
              exact ⟨rfl, upstreamKey, sameScopes, sameCarry, congrArg some sameSubject⟩

theorem Collides.cacheKey_eq {first second : CredentialRequest}
    (collides : Collides hash first second) :
    first.cacheKey isPrintable hash = second.cacheKey isPrintable hash := by
  rcases collides with ⟨mode, upstreamKey, scopes, carry, subjectToken⟩
  have printed := scopesText_of_perm isPrintable scopes
  cases first with
  | clientCredentials firstSource firstCarry =>
      cases second with
      | clientCredentials secondSource secondCarry =>
          simp only [CredentialRequest.upstreamKey, CredentialRequest.carry,
            CredentialRequest.scopes] at upstreamKey carry printed
          rw [cacheKey, cacheKey, upstreamKey, carry, printed]
      | tokenExchange => cases mode
  | tokenExchange firstSource firstCarry firstSubject _ =>
      cases second with
      | clientCredentials => cases mode
      | tokenExchange secondSource secondCarry secondSubject _ =>
          simp only [CredentialRequest.upstreamKey, CredentialRequest.carry] at upstreamKey carry
          simp only [CredentialRequest.subjectToken, CredentialRequest.scopes] at subjectToken printed
          cases firstSubject with
          | none =>
              rw [Option.map_none, eq_comm, Option.map_eq_none_iff] at subjectToken
              rw [subjectToken, cacheKey, cacheKey]
          | some firstToken =>
              rw [Option.map_some, eq_comm, Option.map_eq_some_iff] at subjectToken
              rcases subjectToken with ⟨secondToken, rfl, sameHash⟩
              simp only [cacheKey, upstreamKey, carry, printed, sameHash]

/-- The requests differ in mode, upstream, set of scopes, carried details or subject token. -/
def Differs (first second : CredentialRequest) : Prop :=
  first.mode ≠ second.mode ∨ first.upstreamKey ≠ second.upstreamKey ∨
    ¬(∀ scope, scope ∈ first.scopes ↔ scope ∈ second.scopes) ∨
    first.carry ≠ second.carry ∨ first.subjectToken ≠ second.subjectToken

/-- The requests differ in what a cache key tells: details and subject tokens by their hashes. -/
def ToldApart (first second : CredentialRequest) : Prop :=
  first.mode ≠ second.mode ∨ first.upstreamKey ≠ second.upstreamKey ∨
    ¬first.scopes.Perm second.scopes ∨
    hash.ofDetails first.carry ≠ hash.ofDetails second.carry ∨
    first.subjectToken.map hash.ofString ≠ second.subjectToken.map hash.ofString

theorem toldApart_iff {first second : CredentialRequest} :
    ToldApart hash first second ↔ ¬Collides hash first second := by
  constructor
  · rintro apart ⟨mode, upstreamKey, scopes, carry, subjectToken⟩
    rcases apart with apart | apart | apart | apart | apart
    · exact apart mode
    · exact apart upstreamKey
    · exact apart scopes
    · exact apart carry
    · exact apart subjectToken
  · intro distinct
    by_contra agree
    simp only [ToldApart, ne_eq, not_or, not_not] at agree
    rcases agree with ⟨mode, upstreamKey, scopes, carry, subjectToken⟩
    exact distinct ⟨mode, upstreamKey, scopes, carry, subjectToken⟩

end CredentialRequest

end CacheKeys

namespace Acquire

open CredentialRequest
open TokenCache (Tracked trackedMachine)

/-- No call for `second` returns a token that a fetch for `first` has minted. -/
def NeverServed (world : World) (first second : CredentialRequest) : Prop :=
  ∀ state, (machine world).Reached state → ∀ task token,
    state.requestOf task = some second → state.tracked.state.calls task = .returned token →
      ∃ fetcher time minted request, TokenCache.Serves state.tracked task token fetcher time minted ∧
        state.requestOf fetcher = some request ∧ request ≠ first

/-- The cache keys differ, and neither request gets a token of the other. -/
structure Isolated (world : World) (first second : CredentialRequest) : Prop where
  keysDiffer : first.cacheKey world.isPrintable world.hash ≠
    second.cacheKey world.isPrintable world.hash
  neverServed : NeverServed world first second
  neverServedBack : NeverServed world second first

theorem neverServed_of_cacheKey_ne {world : World} {first second : CredentialRequest}
    (keysDiffer : first.cacheKey world.isPrintable world.hash ≠
      second.cacheKey world.isPrintable world.hash) : NeverServed world first second := by
  intro state reached task token isSecond returned
  have requested := requested_of_reachedWithin reached
  rcases requested.known.served returned with ⟨fetcher, time, minted, serves⟩
  rcases requested.mintedKey serves.isMinted with ⟨key, fetcherKey⟩
  rcases requested.keyed fetcherKey with ⟨request, isRequest, hasKey⟩
  refine ⟨fetcher, time, minted, request, serves, isRequest, ?_⟩
  rintro rfl
  have taskKey := serves.sameKey.symm.trans fetcherKey
  rcases requested.keyed taskKey with ⟨other, isOther, otherKey⟩
  rw [isSecond, Option.some.injEq] at isOther
  subst other
  exact keysDiffer (hasKey.trans otherKey.symm)

/-- Requests that differ are isolated exactly when what their keys tell differs. -/
theorem isolated_iff_toldApart (world : World) (first second : CredentialRequest)
    (firstHas : first.HasKey) : Isolated world first second ↔ ToldApart world.hash first second := by
  rw [toldApart_iff]
  constructor
  · intro isolated collides
    exact isolated.keysDiffer (collides.cacheKey_eq world.isPrintable world.hash)
  · intro distinct
    have keysDiffer : first.cacheKey world.isPrintable world.hash ≠
        second.cacheKey world.isPrintable world.hash := by
      intro same
      exact distinct (collides_of_cacheKey_eq world.isPrintable world.hash firstHas same)
    exact ⟨keysDiffer, neverServed_of_cacheKey_ne keysDiffer,
      neverServed_of_cacheKey_ne keysDiffer.symm⟩

/-- A token that is stored for a while is returned to the next request with the same key. -/
theorem not_neverServed_of_cacheKey_eq {world : World} {first second : CredentialRequest}
    {key token : String} {ttlSeconds : Rat} {reply : TokenReply}
    (firstKey : first.cacheKey world.isPrintable world.hash = .ok key)
    (secondKey : second.cacheKey world.isPrintable world.hash = .ok key)
    (mints : first.mint world.parseFloat world.wallOffset reply = .ok (token, ttlSeconds))
    (live : 0 < ttlSeconds) : ¬NeverServed world first second := by
  intro neverServed
  have shared : ∃ state, (machine world).run (machine world).start
        [.get 0 first, .replied 0 reply, .get 1 second] = some state ∧
      state.requestOf 0 = some first ∧ state.requestOf 1 = some second ∧
      state.tracked.state.calls 1 = .returned token ∧ state.tracked.servedBy 1 = some (0, 0) := by
    simp [Machine.run, machine, step, State.caches, State.setRequest, State.setReply, trackedMachine,
      TokenCache.step, TokenCache.State.startCall, TokenCache.State.cached,
      TokenCache.State.lockFor, AsyncLock.acquireNow, TokenCache.State.underLock,
      TokenCache.State.setCall, TokenCache.State.setLock, TokenCache.State.store,
      TokenCache.State.purgeExpired, TokenCache.State.purges, TokenCache.State.release,
      Tracked.record, Tracked.recordServed, Function.update, firstKey, secondKey, mints, live]
  rcases shared with ⟨state, ran, isFirst, isSecond, returned, servedBy⟩
  have reached : (machine world).Reached state :=
    Machine.reachedWithin_of_run (fun _ _ _ => trivial) .start ran
  rcases neverServed state reached 1 token isSecond returned with
    ⟨fetcher, time, minted, request, serves, isRequest, different⟩
  have sameFetcher := servedBy.symm.trans serves.served
  rw [Option.some.injEq, Prod.mk.injEq] at sameFetcher
  rw [← sameFetcher.1, isFirst, Option.some.injEq] at isRequest
  exact different isRequest.symm

section Subjects

/-- A caller of one upstream, by its subject token. -/
private def exchangeFor (subjectToken : String) : CredentialRequest :=
  .tokenExchange { tokenEndpoint := "https://idp/token", scopes := ["read"], upstreamKey := "bank" }
    [] (some subjectToken) none

private def acceptedReply : TokenReply where
  status := 200
  body := .ok (.obj [("access_token", .str "token")])

theorem finite_int64 : Finite Int64 :=
  Finite.of_injective (fun value : Int64 => value.toBitVec.toFin) fun _ _ same =>
    Int64.toBitVec.inj (BitVec.toFin_inj.mp same)

/-- Under any hash, two of the subject tokens `a`, `aa`, `aaa`, … collide. -/
theorem exists_subjectTokens_collide (hash : PyHash) :
    ∃ first second : String, first ≠ second ∧ hash.ofString first = hash.ofString second := by
  have finite := finite_int64
  rcases Finite.exists_ne_map_eq_of_infinite fun length : Nat =>
    hash.ofString (String.ofList (List.replicate length 'a')) with ⟨first, second, different, same⟩
  refine ⟨_, _, ?_, same⟩
  intro sameText
  have sameLength := congrArg List.length (String.ofList_injective sameText)
  rw [List.length_replicate, List.length_replicate] at sameLength
  exact different sameLength

/-- Whatever the hash, some caller is returned a token minted for another one. -/
theorem not_neverServed_subjectTokens :
    ¬∃ world : World, ∀ first second : CredentialRequest, first.HasKey → second.HasKey →
      Differs first second → NeverServed world first second := by
  rintro ⟨world, neverServed⟩
  rcases exists_subjectTokens_collide world.hash with ⟨first, second, different, same⟩
  have differs : Differs (exchangeFor first) (exchangeFor second) := by
    refine Or.inr (Or.inr (Or.inr (Or.inr ?_)))
    exact fun sameToken => different (Option.some.inj sameToken)
  have sameKey : (exchangeFor second).cacheKey world.isPrintable world.hash =
      (exchangeFor first).cacheKey world.isPrintable world.hash := by
    simp only [exchangeFor, cacheKey, same]
  have shares : ¬NeverServed world (exchangeFor first) (exchangeFor second) := by
    have mints : (exchangeFor first).mint world.parseFloat world.wallOffset acceptedReply =
        .ok ("token", max 0 (300 - expiryLeeway)) := by
      have lifetime : expiresIn world.parseFloat [("access_token", .str "token")] = .ok 300 :=
        pyFloat_int world.parseFloat (by decide +kernel)
      simp [CredentialRequest.mint, exchangeFor, readTokenReply, acceptedReply, lifetime, Dict.get?]
    apply not_neverServed_of_cacheKey_eq rfl sameKey mints
    norm_num [expiryLeeway]
  apply shares (neverServed _ _ _ _ differs)
  · exact fun _ => Option.some_ne_none _
  · exact fun _ => Option.some_ne_none _

/-- A hash by length tells these two callers apart. -/
theorem isolated_iff_toldApart_lengths :
    Isolated
      { isPrintable := fun _ => true
        hash := { ofString := fun text => .ofInt text.length, ofDetails := fun _ => 0 }
        parseFloat := .error
        wallOffset := 0 }
      (exchangeFor "alice") (exchangeFor "bob") := by
  have hasKey : (exchangeFor "alice").HasKey := fun _ => Option.some_ne_none _
  apply (isolated_iff_toldApart _ _ _ hasKey).mpr
  refine Or.inr (Or.inr (Or.inr (Or.inr ?_)))
  decide

end Subjects

end Acquire

end McpPortal
