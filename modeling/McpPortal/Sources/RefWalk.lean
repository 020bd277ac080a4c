import McpPortal.Foundation.Dynamic
import McpPortal.Foundation.Fallible
import McpPortal.Foundation.Stateful

/-!
# Walking a value for its references

The walk rebuilds a value and hands every reference to the resolver. `Walked` says
what a successful walk returns in terms of what the references are expanded to, and
`meets_walk` bounds a walk by bounds on the expansions.
-/

namespace McpPortal

open Foundation

/-- The text of a reference, when the object is one. -/
def refOf? (fields : JsonObject) : Option String :=
  (Dict.get? fields "$ref").bind Json.string?

section Walk

variable {m : Type → Type} [Monad m] (expand : String → m Json)

mutual

/-- `_walk`, with what a reference is expanded to. -/
def walk : Json → m Json
  | .obj fields =>
      match refOf? fields with
      | some ref => expand ref
      | none => do
          let walked ← walkFields fields
          return .obj walked
  | .arr items => do
      let walked ← walkItems items
      return .arr walked
  | value => return value

def walkItems : List Json → m (List Json)
  | [] => return []
  | item :: rest => do
      let walked ← walk item
      let others ← walkItems rest
      return walked :: others

def walkFields : List (String × Json) → m (List (String × Json))
  | [] => return []
  | (key, value) :: rest => do
      let walked ← walk value
      let others ← walkFields rest
      return (key, walked) :: others

end

end Walk

mutual

/-- The texts of the references a walk of the value hands to the resolver. -/
def refsOf : Json → List String
  | .obj fields =>
      match refOf? fields with
      | some ref => [ref]
      | none => refsOfFields fields
  | .arr items => refsOfItems items
  | _ => []

def refsOfItems : List Json → List String
  | [] => []
  | item :: rest => refsOf item ++ refsOfItems rest

def refsOfFields : List (String × Json) → List String
  | [] => []
  | (_, value) :: rest => refsOf value ++ refsOfFields rest

end

mutual

/-- The result is the value with every reference replaced by something related to it. -/
def Walked (related : String → Json → Prop) : Json → Json → Prop
  | .obj fields, result =>
      match refOf? fields with
      | some ref => related ref result
      | none => ∃ walked, WalkedFields related fields walked ∧ .obj walked = result
  | .arr items, result => ∃ walked, WalkedItems related items walked ∧ .arr walked = result
  | value, result => value = result

def WalkedItems (related : String → Json → Prop) : List Json → List Json → Prop
  | [], result => [] = result
  | item :: rest, result => ∃ walked, Walked related item walked ∧
      ∃ others, WalkedItems related rest others ∧ walked :: others = result

def WalkedFields (related : String → Json → Prop) :
    List (String × Json) → List (String × Json) → Prop
  | [], result => [] = result
  | (key, value) :: rest, result => ∃ walked, Walked related value walked ∧
      ∃ others, WalkedFields related rest others ∧ (key, walked) :: others = result

end

section Walked

variable {related weaker : String → Json → Prop}

mutual

theorem Walked.mono {node result : Json} (walked : Walked related node result)
    (weakens : ∀ ref ∈ refsOf node, ∀ value, related ref value → weaker ref value) :
    Walked weaker node result := by
  cases node with
  | obj fields =>
      cases isRef : refOf? fields with
      | some ref =>
          simp only [Walked, refsOf, isRef, List.mem_singleton, forall_eq] at walked weakens ⊢
          exact weakens result walked
      | none =>
          simp only [Walked, refsOf, isRef] at walked weakens ⊢
          rcases walked with ⟨values, walked, rfl⟩
          exact ⟨values, WalkedFields.mono walked weakens, rfl⟩
  | arr items =>
      rcases walked with ⟨values, walked, rfl⟩
      exact ⟨values, WalkedItems.mono walked weakens, rfl⟩
  | _ => exact walked

theorem WalkedItems.mono {items result : List Json} (walked : WalkedItems related items result)
    (weakens : ∀ ref ∈ refsOfItems items, ∀ value, related ref value → weaker ref value) :
    WalkedItems weaker items result := by
  cases items with
  | nil => exact walked
  | cons item rest =>
      simp only [refsOfItems, List.forall_mem_append] at weakens
      rcases walked with ⟨value, first, others, later, rfl⟩
      exact ⟨value, first.mono weakens.1, others, WalkedItems.mono later weakens.2, rfl⟩

theorem WalkedFields.mono {fields result : List (String × Json)}
    (walked : WalkedFields related fields result)
    (weakens : ∀ ref ∈ refsOfFields fields, ∀ value, related ref value → weaker ref value) :
    WalkedFields weaker fields result := by
  cases fields with
  | nil => exact walked
  | cons field rest =>
      simp only [refsOfFields, List.forall_mem_append] at weakens
      rcases walked with ⟨value, first, others, later, rfl⟩
      exact ⟨value, first.mono weakens.1, others, WalkedFields.mono later weakens.2, rfl⟩

end

mutual

/-- Every reference of a walked value was expanded to something. -/
theorem Walked.expanded {node result : Json} (walked : Walked related node result) :
    ∀ ref ∈ refsOf node, ∃ value, related ref value := by
  cases node with
  | obj fields =>
      cases isRef : refOf? fields with
      | some ref =>
          simp only [Walked, refsOf, isRef, List.mem_singleton, forall_eq] at walked ⊢
          exact ⟨result, walked⟩
      | none =>
          simp only [Walked, refsOf, isRef] at walked ⊢
          rcases walked with ⟨values, walked, rfl⟩
          exact WalkedFields.expanded walked
  | arr items =>
      rcases walked with ⟨values, walked, rfl⟩
      exact WalkedItems.expanded walked
  | _ => simp [refsOf]

theorem WalkedItems.expanded {items result : List Json}
    (walked : WalkedItems related items result) :
    ∀ ref ∈ refsOfItems items, ∃ value, related ref value := by
  cases items with
  | nil => simp [refsOfItems]
  | cons item rest =>
      rcases walked with ⟨value, first, others, later, rfl⟩
      simp only [refsOfItems, List.forall_mem_append]
      exact ⟨first.expanded, WalkedItems.expanded later⟩

theorem WalkedFields.expanded {fields result : List (String × Json)}
    (walked : WalkedFields related fields result) :
    ∀ ref ∈ refsOfFields fields, ∃ value, related ref value := by
  cases fields with
  | nil => simp [refsOfFields]
  | cons field rest =>
      rcases walked with ⟨value, first, others, later, rfl⟩
      simp only [refsOfFields, List.forall_mem_append]
      exact ⟨first.expanded, WalkedFields.expanded later⟩

end

/-- A larger bound is as good as a smaller one. -/
def Grows (bounded : Nat → String → Json → Prop) : Prop :=
  ∀ smaller larger, smaller ≤ larger →
    ∀ ref value, bounded smaller ref value → bounded larger ref value

variable {bounded : Nat → String → Json → Prop}

mutual

/-- One bound serves all references of a value. -/
theorem Walked.exists_bound {node result : Json} (grows : Grows bounded)
    (walked : Walked (fun ref value => ∃ bound, bounded bound ref value) node result) :
    ∃ bound, Walked (bounded bound) node result := by
  cases node with
  | obj fields =>
      cases isRef : refOf? fields with
      | some ref => simpa only [Walked, isRef] using walked
      | none =>
          simp only [Walked, isRef] at walked ⊢
          rcases walked with ⟨values, walked, rfl⟩
          rcases WalkedFields.exists_bound grows walked with ⟨bound, within⟩
          exact ⟨bound, values, within, rfl⟩
  | arr items =>
      rcases walked with ⟨values, walked, rfl⟩
      rcases WalkedItems.exists_bound grows walked with ⟨bound, within⟩
      exact ⟨bound, values, within, rfl⟩
  | _ => exact ⟨0, walked⟩

theorem WalkedItems.exists_bound {items result : List Json} (grows : Grows bounded)
    (walked : WalkedItems (fun ref value => ∃ bound, bounded bound ref value) items result) :
    ∃ bound, WalkedItems (bounded bound) items result := by
  cases items with
  | nil => exact ⟨0, walked⟩
  | cons item rest =>
      rcases walked with ⟨value, first, others, later, rfl⟩
      rcases first.exists_bound grows with ⟨left, first⟩
      rcases WalkedItems.exists_bound grows later with ⟨right, later⟩
      refine ⟨max left right, value, ?_, others, ?_, rfl⟩
      · exact first.mono fun ref _ => grows left _ (Nat.le_max_left left right) ref
      · exact later.mono fun ref _ => grows right _ (Nat.le_max_right left right) ref

theorem WalkedFields.exists_bound {fields result : List (String × Json)} (grows : Grows bounded)
    (walked : WalkedFields (fun ref value => ∃ bound, bounded bound ref value) fields result) :
    ∃ bound, WalkedFields (bounded bound) fields result := by
  cases fields with
  | nil => exact ⟨0, walked⟩
  | cons field rest =>
      rcases walked with ⟨value, first, others, later, rfl⟩
      rcases first.exists_bound grows with ⟨left, first⟩
      rcases WalkedFields.exists_bound grows later with ⟨right, later⟩
      refine ⟨max left right, value, ?_, others, ?_, rfl⟩
      · exact first.mono fun ref _ => grows left _ (Nat.le_max_left left right) ref
      · exact later.mono fun ref _ => grows right _ (Nat.le_max_right left right) ref

end

end Walked

section Except

variable {Error : Type} {expand : String → Except Error Json}

mutual

theorem walk_eq_ok {node result : Json} :
    walk expand node = .ok result ↔
      Walked (fun ref value => expand ref = .ok value) node result := by
  cases node with
  | obj fields =>
      cases isRef : refOf? fields with
      | some ref => simp only [walk, Walked, isRef]
      | none => simp only [walk, Walked, isRef, bind_eq_ok, pure_eq_ok, walkFields_eq_ok]
  | arr items => simp only [walk, Walked, bind_eq_ok, pure_eq_ok, walkItems_eq_ok]
  | _ => simp only [walk, Walked, pure_eq_ok]

theorem walkItems_eq_ok {items result : List Json} :
    walkItems expand items = .ok result ↔
      WalkedItems (fun ref value => expand ref = .ok value) items result := by
  cases items with
  | nil => simp only [walkItems, WalkedItems, pure_eq_ok]
  | cons item rest =>
      simp only [walkItems, WalkedItems, bind_eq_ok, pure_eq_ok, walk_eq_ok,
        walkItems_eq_ok]

theorem walkFields_eq_ok {fields result : List (String × Json)} :
    walkFields expand fields = .ok result ↔
      WalkedFields (fun ref value => expand ref = .ok value) fields result := by
  cases fields with
  | nil => simp only [walkFields, WalkedFields, pure_eq_ok]
  | cons field rest =>
      simp only [walkFields, WalkedFields, bind_eq_ok, pure_eq_ok, walk_eq_ok, walkFields_eq_ok]

end

end Except

section Stateful

variable {State Error : Type} {expand : String → Stateful State Error Json}
  {invariant : State → Prop} {allowed : String → Except Error Json → Prop}

/-- The outcome of a walk over the given references: a walked value, or the error of one of them. -/
def WalkOutcome {Value : Type} (allowed : String → Except Error Json → Prop) (refs : List String)
    (walked : Value → Prop) : Except Error Value → Prop
  | .ok value => walked value
  | .error error => ∃ ref ∈ refs, allowed ref (.error error)

theorem WalkOutcome.mono_error {Value Other : Type} {refs more : List String}
    {walked : Value → Prop} {others : Other → Prop} {error : Error}
    (outcome : WalkOutcome allowed refs walked (.error error)) (within : refs ⊆ more) :
    WalkOutcome allowed more others (.error error) := by
  rcases outcome with ⟨ref, refMem, failed⟩
  exact ⟨ref, within refMem, failed⟩

mutual

/-- A walk keeps what every expansion keeps. -/
theorem meets_walk {node : Json}
    (expands : ∀ ref ∈ refsOf node, Stateful.Meets invariant (allowed ref) (expand ref)) :
    Stateful.Meets invariant (WalkOutcome allowed (refsOf node)
      (Walked (fun ref value => allowed ref (.ok value)) node)) (walk expand node) := by
  cases node with
  | obj fields =>
      cases isRef : refOf? fields with
      | some ref =>
          simp only [walk, refsOf, isRef, List.mem_singleton, forall_eq] at expands ⊢
          apply expands.mono
          intro outcome isAllowed
          cases outcome with
          | ok value => simpa only [WalkOutcome, Walked, isRef] using isAllowed
          | error error => exact ⟨ref, List.mem_singleton_self ref, isAllowed⟩
      | none =>
          simp only [walk, refsOf, isRef] at expands ⊢
          apply (meets_walkFields expands).bind
          · intro values walked
            apply Stateful.meets_pure
            simp only [WalkOutcome, Walked, isRef]
            exact ⟨values, walked, rfl⟩
          · intro error failed
            exact failed.mono_error (List.Subset.refl _)
  | arr items =>
      apply (meets_walkItems expands).bind
      · intro values walked
        apply Stateful.meets_pure
        exact ⟨values, walked, rfl⟩
      · intro error failed
        exact failed.mono_error (List.Subset.refl _)
  | _ => exact Stateful.meets_pure rfl

theorem meets_walkItems {items : List Json}
    (expands : ∀ ref ∈ refsOfItems items, Stateful.Meets invariant (allowed ref) (expand ref)) :
    Stateful.Meets invariant (WalkOutcome allowed (refsOfItems items)
      (WalkedItems (fun ref value => allowed ref (.ok value)) items)) (walkItems expand items) := by
  cases items with
  | nil => exact Stateful.meets_pure rfl
  | cons item rest =>
      simp only [refsOfItems, List.forall_mem_append] at expands ⊢
      apply (meets_walk expands.1).bind
      · intro value walked
        apply (meets_walkItems expands.2).bind
        · intro others later
          apply Stateful.meets_pure
          exact ⟨value, walked, others, later, rfl⟩
        · intro error failed
          exact failed.mono_error (List.subset_append_right _ _)
      · intro error failed
        exact failed.mono_error (List.subset_append_left _ _)

theorem meets_walkFields {fields : List (String × Json)}
    (expands : ∀ ref ∈ refsOfFields fields, Stateful.Meets invariant (allowed ref) (expand ref)) :
    Stateful.Meets invariant (WalkOutcome allowed (refsOfFields fields)
      (WalkedFields (fun ref value => allowed ref (.ok value)) fields))
      (walkFields expand fields) := by
  cases fields with
  | nil => exact Stateful.meets_pure rfl
  | cons field rest =>
      simp only [refsOfFields, List.forall_mem_append] at expands ⊢
      apply (meets_walk expands.1).bind
      · intro value walked
        apply (meets_walkFields expands.2).bind
        · intro others later
          apply Stateful.meets_pure
          exact ⟨value, walked, others, later, rfl⟩
        · intro error failed
          exact failed.mono_error (List.subset_append_right _ _)
      · intro error failed
        exact failed.mono_error (List.subset_append_left _ _)

end

end Stateful

end McpPortal
