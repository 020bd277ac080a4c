import McpPortal.Foundation.UrlSplit
import McpPortal.Transports.GraphQl
import McpPortal.Transports.Routes

/-!
# Where a request goes

Whatever the arguments are, what follows the base URL in the URL of a request begins with a slash.
So the request goes to the authority of the base URL, even where its path does not stay below it.
-/

namespace McpPortal

open Foundation

theorem takeWhile_append_of_stops {Item : Type} {keeps : Item → Bool} {items more : List Item}
    (stops : ∀ first ∈ more.head?, keeps first = false) :
    (items ++ more).takeWhile keeps = items.takeWhile keeps := by
  induction items with
  | nil =>
      cases more with
      | nil => rfl
      | cons first rest => simp [stops first rfl]
  | cons item rest ih => rw [List.cons_append, List.takeWhile_cons, List.takeWhile_cons, ih]

theorem authority_of_scheme {scheme rest : List Char} (noColon : ∀ char ∈ scheme, char ≠ ':') :
    Url.authority (scheme ++ ':' :: rest) = Url.authorityOf rest := by
  have dropped : (scheme ++ ':' :: rest).dropWhile (· ≠ ':') = ':' :: rest := by
    rw [List.dropWhile_append_of_pos fun char charMem => decide_eq_true (noColon char charMem)]
    simp
  rw [Url.authority, dropped]
  rfl

/-- A path below a URL with a host leaves the authority as it is. -/
theorem authority_below {scheme host below : List Char} {first : Char}
    (noColon : ∀ char ∈ scheme, char ≠ ':') (isHost : host.head? = some first)
    (named : first ≠ '/') :
    Url.authority ((scheme ++ ':' :: '/' :: '/' :: host).rdropWhile (· = '/') ++ '/' :: below) =
      Url.authority (scheme ++ ':' :: '/' :: '/' :: host) := by
  have kept : (scheme ++ ':' :: '/' :: '/' :: host).rdropWhile (· = '/') =
      scheme ++ ':' :: '/' :: '/' :: host.rdropWhile (· = '/') := by
    have split := @rdropWhile_append (scheme ++ [':', '/', '/']) host first
      (List.mem_of_mem_head? isHost) named
    simpa using split
  have slashes : host = host.rdropWhile (· = '/') ++ host.rtakeWhile (· = '/') :=
    (List.rdropWhile_append_rtakeWhile ..).symm
  rw [kept, List.append_assoc, List.cons_append, authority_of_scheme noColon,
    authority_of_scheme noColon]
  simp only [List.cons_append, Url.authorityOf]
  conv_rhs => rw [slashes]
  rw [takeWhile_append_of_stops, takeWhile_append_of_stops]
  · intro slash isFirst
    have isSlash := List.mem_rtakeWhile_imp (List.mem_of_mem_head? isFirst)
    rw [of_decide_eq_true isSlash]
    rfl
  · intro slash isFirst
    cases isFirst
    rfl

/-- An absolute URL has a scheme and a host. -/
theorem exists_host_of_isHttpUrl {text : String} (isUrl : isHttpUrl text = true) :
    ∃ scheme host first, text.toList = scheme ++ ':' :: '/' :: '/' :: host ∧
      (∀ char ∈ scheme, char ≠ ':') ∧ host.head? = some first ∧ first ≠ '/' := by
  unfold isHttpUrl at isUrl
  rcases List.any_eq_true.mp isUrl with ⟨opening, openingMem, opens⟩
  rw [Bool.and_eq_true, List.isPrefixOf_iff_prefix] at opens
  rcases opens with ⟨⟨host, isText⟩, hosted⟩
  rw [← isText, List.drop_left] at hosted
  cases isFirst : host.head? with
  | none =>
      rw [isFirst] at hosted
      cases hosted
  | some first =>
      rw [isFirst] at hosted
      simp only [Bool.and_eq_true, decide_eq_true_eq] at hosted
      have named : first ≠ '/' := hosted.1.1.1
      rcases List.mem_pair.mp openingMem with rfl | rfl
      · exact ⟨"http".toList, host, first, isText.symm, by simp, isFirst, named⟩
      · exact ⟨"https".toList, host, first, isText.symm, by simp, isFirst, named⟩

/-- Every request that is built for a base URL goes to the authority of the base URL. -/
theorem authority_operationRequest {isPrintable : Char → Bool} {operation : Operation}
    {baseUrl : String} {arguments : JsonObject} {credential : Option Credential}
    {request : PreparedRequest} (isUrl : isHttpUrl baseUrl = true)
    (built : operationRequest isPrintable operation baseUrl arguments credential = .ok request) :
    Url.authority request.url.toList = Url.authority baseUrl.toList := by
  unfold operationRequest at built
  split at built
  · rcases url_buildRequest built with ⟨_, _, _, isRequestUrl, _⟩
    rcases exists_host_of_isHttpUrl isUrl with ⟨scheme, host, first, isText, noColon, isFirst, named⟩
    rw [isRequestUrl, isText]
    exact authority_below noColon isFirst named
  · cases built
    rfl

end McpPortal
