import McpPortal.Auth.JwksDenial

/-!
# Where a key comes from

Whatever key a call is answered with was in the list of keys of a successful reply, under the
`kid` that the call asks for.
-/

namespace McpPortal

open Foundation

namespace JwksCache

/-- A successful reply lists the key under the kid. -/
def Reply.Provides (reply : Reply) (kid : String) (jwk : JsonObject) : Prop :=
  ∃ status payload items, reply = .response status (some (.obj payload)) ∧
    isSuccess status = true ∧ Dict.get? payload "keys" = some (.arr items) ∧
    .obj jwk ∈ items ∧ Dict.get? jwk "kid" = some (.str kid)

/-- A call for the kid, and what it is answered from these keys. -/
def Call.IsFor (keys : List (String × JsonObject)) (kid : String) : Call → Prop
  | .waiting asked => asked = kid
  | .fetching asked _ => asked = kid
  | .returned key => key = Dict.get? keys kid
  | .raised => True
  | _ => False

section Provided

variable {keys : List (String × JsonObject)} {kid : String} {jwk : JsonObject}

theorem storeKeys_provides {items : List Json}
    (stored : Dict.get? (storeKeys keys items).1 kid = some jwk) :
    Dict.get? keys kid = some jwk ∨
      (.obj jwk ∈ items ∧ Dict.get? jwk "kid" = some (.str kid)) := by
  induction items generalizing keys with
  | nil => exact Or.inl stored
  | cons item rest ih =>
      cases item with
      | obj listed =>
          rw [storeKeys] at stored
          split at stored
          case h_1 listedKid named =>
            rcases ih stored with before | ⟨later, isKid⟩
            · by_cases same : listedKid = kid
              · subst listedKid
                rw [Dict.get?_insert_self, Option.some.injEq] at before
                subst listed
                exact Or.inr ⟨List.mem_cons_self, named⟩
              · rw [Dict.get?_insert_of_ne _ _ same] at before
                exact Or.inl before
            · exact Or.inr ⟨List.mem_cons_of_mem _ later, isKid⟩
          case h_2 =>
            rcases ih stored with before | ⟨later, isKid⟩
            · exact Or.inl before
            · exact Or.inr ⟨List.mem_cons_of_mem _ later, isKid⟩
      | _ => exact Or.inl stored

theorem refreshed_provides {reply : Reply}
    (stored : Dict.get? (refreshed keys reply).1 kid = some jwk) :
    Dict.get? keys kid = some jwk ∨ reply.Provides kid jwk := by
  cases reply with
  | httpError => exact Or.inl stored
  | response status body =>
      simp only [refreshed] at stored
      split at stored
      · exact Or.inl stored
      case isFalse success =>
        split at stored
        case h_1 payload =>
          split at stored
          case h_1 items found =>
            rcases storeKeys_provides stored with before | ⟨listed, isKid⟩
            · exact Or.inl before
            · right
              cases isKeys : Dict.get? payload "keys" with
              | none =>
                  rw [isKeys] at found
                  cases found
                  cases listed
              | some value =>
                  rw [isKeys, Option.getD_some] at found
                  subst value
                  exact ⟨status, payload, items, rfl, by simpa using success, isKeys, listed, isKid⟩
          · exact Or.inl stored
          · exact Or.inl stored
          · exact Or.inl stored
        · exact Or.inl stored

theorem provides_of_step {state next : State} {action : Action}
    (stepped : step state action = some next) (stored : Dict.get? next.keys kid = some jwk) :
    Dict.get? state.keys kid = some jwk ∨
      ∃ task reply, action = .replied task reply ∧ reply.Provides kid jwk := by
  by_cases isReply : ∃ task reply, action = .replied task reply
  · rcases isReply with ⟨task, reply, rfl⟩
    rcases step_replied stepped with ⟨_, _, _, keys, _, _⟩
    rw [keys] at stored
    rcases refreshed_provides stored with before | provides
    · exact Or.inl before
    · exact Or.inr ⟨task, reply, rfl, provides⟩
  · have calm := calm_step (fun task reply same => isReply ⟨task, reply, same⟩) stepped
    rw [calm.sameKeys] at stored
    exact Or.inl stored

end Provided

section Asked

variable {state next : State} {task : TaskId} {kid : String}

theorem isFor_underLock : ((state.underLock task kid).calls task).IsFor
    (state.underLock task kid).keys kid := by
  unfold State.underLock
  split
  · simp [State.answer, State.setCall, State.release, Call.IsFor]
  · simp [State.setCall, Call.IsFor]

theorem isFor_of_start (stepped : step state (.start task kid) = some next) :
    (next.calls task).IsFor next.keys kid := by
  simp only [step] at stepped
  split at stepped
  case h_2 => cases stepped
  case h_1 =>
    cases stepped
    unfold State.startCall
    split
    case h_1 found =>
      simp only [State.setCall, Function.update_self, Call.IsFor]
      exact found.symm
    case h_2 =>
      split
      · exact isFor_underLock
      · simp [State.setCall, Call.IsFor]

theorem isFor_of_resume (isFor : (state.calls task).IsFor state.keys kid)
    (stepped : step state (.resume task) = some next) : (next.calls task).IsFor next.keys kid := by
  simp only [step] at stepped
  split at stepped
  case h_1 asked waiting =>
    rcases Option.map_eq_some_iff.mp stepped with ⟨held, _, rfl⟩
    rw [waiting] at isFor
    subst isFor
    exact isFor_underLock
  case h_2 => cases stepped

theorem isFor_of_replied {reply : Reply} (isFor : (state.calls task).IsFor state.keys kid)
    (stepped : step state (.replied task reply) = some next) :
    (next.calls task).IsFor next.keys kid := by
  rcases step_replied stepped with ⟨asked, now, fetching, _, _, answer⟩
  rw [fetching] at isFor
  subst isFor
  rw [answer]
  split
  · rfl
  · trivial

end Asked

end JwksCache

end McpPortal
