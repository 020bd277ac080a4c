import McpPortal.Sources.Places

/-!
# The run of a walk

A walk expands the references it meets one after another, and ends with the first that
fails. What they are expanded to is within the value that is returned.
-/

namespace McpPortal

open Foundation

section Runs

variable {State Error : Type} {expand : String → Stateful State Error Json}

/-- The references are expanded one after another, each to its value. -/
inductive ExpandsAll (expand : String → Stateful State Error Json) :
    State → List (String × Json) → State → Prop
  | nil (state : State) : ExpandsAll expand state [] state
  | cons {state middle later : State} {ref : String} {value : Json} {rest : List (String × Json)}
      (first : expand ref state = (.ok value, middle)) (others : ExpandsAll expand middle rest later) :
      ExpandsAll expand state ((ref, value) :: rest) later

theorem ExpandsAll.append {state middle later : State} {left right : List (String × Json)}
    (first : ExpandsAll expand state left middle) (second : ExpandsAll expand middle right later) :
    ExpandsAll expand state (left ++ right) later := by
  induction first with
  | nil => exact second
  | cons expands _ ih => exact .cons expands (ih second)

/-- The references before one are expanded, and that one fails. -/
def Stops (expand : String → Stateful State Error Json) (refs : List String) (state : State)
    (error : Error) (later : State) : Prop :=
  ∃ expanded ref after middle, refs = expanded.map Prod.fst ++ ref :: after ∧
    ExpandsAll expand state expanded middle ∧ expand ref middle = (.error error, later)

theorem Stops.append_left {refs more : List String} {state later : State} {error : Error}
    (stops : Stops expand refs state error later) : Stops expand (refs ++ more) state error later := by
  rcases stops with ⟨expanded, ref, after, middle, rfl, expands, failed⟩
  exact ⟨expanded, ref, after ++ more, middle, by simp, expands, failed⟩

theorem Stops.after {expanded : List (String × Json)} {refs : List String}
    {state middle later : State} {error : Error} (expands : ExpandsAll expand state expanded middle)
    (stops : Stops expand refs middle error later) :
    Stops expand (expanded.map Prod.fst ++ refs) state error later := by
  rcases stops with ⟨others, ref, after, last, rfl, expandsOthers, failed⟩
  exact ⟨expanded ++ others, ref, after, last, by simp, expands.append expandsOthers, failed⟩

/-- The values that the references of a node are expanded to. -/
abbrev ExpandedTo (expanded : List (String × Json)) (ref : String) (value : Json) : Prop :=
  (ref, value) ∈ expanded

mutual

/-- What a walk returns is made of what its references are expanded to, one after another. -/
theorem walk_run_ok {node result : Json} {state later : State}
    (ran : walk expand node state = (.ok result, later)) :
    ∃ expanded, expanded.map Prod.fst = refsOf node ∧ ExpandsAll expand state expanded later ∧
      Walked (ExpandedTo expanded) node result ∧
      ∀ ref value, (ref, value) ∈ expanded → Within value result := by
  cases node with
  | obj fields =>
      cases isRef : refOf? fields with
      | some ref =>
          simp only [walk, isRef] at ran
          refine ⟨[(ref, result)], ?_, .cons ran (.nil later), ?_, ?_⟩
          · simp only [refsOf, isRef, List.map_cons, List.map_nil]
          · simp only [Walked, isRef, ExpandedTo, List.mem_singleton]
          · intro other value mem
            cases List.mem_singleton.mp mem
            exact .here
      | none =>
          simp only [walk, isRef, Stateful.bind_run_ok, Stateful.pure_run_ok] at ran
          rcases ran with ⟨values, _, ranFields, rfl, rfl⟩
          rcases walkFields_run_ok ranFields with ⟨expanded, refs, expands, walked, within⟩
          refine ⟨expanded, ?_, expands, ?_, ?_⟩
          · simp only [refsOf, isRef, refs]
          · simp only [Walked, isRef]
            exact ⟨values, walked, rfl⟩
          · intro ref value mem
            rcases within ref value mem with ⟨field, fieldMem, inside⟩
            exact .field fieldMem inside
  | arr items =>
      simp only [walk, Stateful.bind_run_ok, Stateful.pure_run_ok] at ran
      rcases ran with ⟨values, _, ranItems, rfl, rfl⟩
      rcases walkItems_run_ok ranItems with ⟨expanded, refs, expands, walked, within⟩
      refine ⟨expanded, refs, expands, ⟨values, walked, rfl⟩, ?_⟩
      intro ref value mem
      rcases within ref value mem with ⟨item, itemMem, inside⟩
      exact .item itemMem inside
  | _ =>
      simp only [walk, Stateful.pure_run_ok] at ran
      rcases ran with ⟨rfl, rfl⟩
      exact ⟨[], rfl, .nil state, rfl, by simp⟩

theorem walkItems_run_ok {items result : List Json} {state later : State}
    (ran : walkItems expand items state = (.ok result, later)) :
    ∃ expanded, expanded.map Prod.fst = refsOfItems items ∧ ExpandsAll expand state expanded later ∧
      WalkedItems (ExpandedTo expanded) items result ∧
      ∀ ref value, (ref, value) ∈ expanded → ∃ item ∈ result, Within value item := by
  cases items with
  | nil =>
      simp only [walkItems, Stateful.pure_run_ok] at ran
      rcases ran with ⟨rfl, rfl⟩
      exact ⟨[], rfl, .nil state, rfl, by simp⟩
  | cons item rest =>
      simp only [walkItems, Stateful.bind_run_ok, Stateful.pure_run_ok] at ran
      rcases ran with ⟨value, _, ranFirst, others, _, ranRest, rfl, rfl⟩
      rcases walk_run_ok ranFirst with ⟨first, firstRefs, expandsFirst, walkedFirst, inFirst⟩
      rcases walkItems_run_ok ranRest with ⟨later, laterRefs, expandsLater, walkedLater, inLater⟩
      refine ⟨first ++ later, ?_, expandsFirst.append expandsLater, ⟨value, ?_, others, ?_, rfl⟩, ?_⟩
      · rw [List.map_append, firstRefs, laterRefs, refsOfItems]
      · exact walkedFirst.mono fun _ _ _ mem => List.mem_append_left later mem
      · exact walkedLater.mono fun _ _ _ mem => List.mem_append_right first mem
      · intro ref expandedValue mem
        rcases List.mem_append.mp mem with inside | outside
        · exact ⟨value, List.mem_cons_self, inFirst ref expandedValue inside⟩
        · rcases inLater ref expandedValue outside with ⟨other, otherMem, within⟩
          exact ⟨other, List.mem_cons_of_mem value otherMem, within⟩

theorem walkFields_run_ok {fields result : List (String × Json)} {state later : State}
    (ran : walkFields expand fields state = (.ok result, later)) :
    ∃ expanded, expanded.map Prod.fst = refsOfFields fields ∧ ExpandsAll expand state expanded later ∧
      WalkedFields (ExpandedTo expanded) fields result ∧
      ∀ ref value, (ref, value) ∈ expanded → ∃ field ∈ result, Within value field.2 := by
  cases fields with
  | nil =>
      simp only [walkFields, Stateful.pure_run_ok] at ran
      rcases ran with ⟨rfl, rfl⟩
      exact ⟨[], rfl, .nil state, rfl, by simp⟩
  | cons field rest =>
      rcases field with ⟨key, node⟩
      simp only [walkFields, Stateful.bind_run_ok, Stateful.pure_run_ok] at ran
      rcases ran with ⟨value, _, ranFirst, others, _, ranRest, rfl, rfl⟩
      rcases walk_run_ok ranFirst with ⟨first, firstRefs, expandsFirst, walkedFirst, inFirst⟩
      rcases walkFields_run_ok ranRest with ⟨later, laterRefs, expandsLater, walkedLater, inLater⟩
      refine ⟨first ++ later, ?_, expandsFirst.append expandsLater, ⟨value, ?_, others, ?_, rfl⟩, ?_⟩
      · rw [List.map_append, firstRefs, laterRefs, refsOfFields]
      · exact walkedFirst.mono fun _ _ _ mem => List.mem_append_left later mem
      · exact walkedLater.mono fun _ _ _ mem => List.mem_append_right first mem
      · intro ref expandedValue mem
        rcases List.mem_append.mp mem with inside | outside
        · exact ⟨(key, value), List.mem_cons_self, inFirst ref expandedValue inside⟩
        · rcases inLater ref expandedValue outside with ⟨other, otherMem, within⟩
          exact ⟨other, List.mem_cons_of_mem _ otherMem, within⟩

end

mutual

/-- A walk fails with the first of its references that fails. -/
theorem walk_run_error {node : Json} {state later : State} {error : Error}
    (ran : walk expand node state = (.error error, later)) :
    Stops expand (refsOf node) state error later := by
  cases node with
  | obj fields =>
      cases isRef : refOf? fields with
      | some ref =>
          simp only [walk, refsOf, isRef] at ran ⊢
          exact ⟨[], ref, [], state, rfl, .nil state, ran⟩
      | none =>
          simp only [walk, refsOf, isRef, Stateful.bind_run_error, Stateful.pure_run_error,
            and_false, exists_false, or_false] at ran ⊢
          exact walkFields_run_error ran
  | arr items =>
      simp only [walk, refsOf, Stateful.bind_run_error, Stateful.pure_run_error,
        and_false, exists_false, or_false] at ran ⊢
      exact walkItems_run_error ran
  | _ => exact absurd ran Stateful.pure_run_error

theorem walkItems_run_error {items : List Json} {state later : State} {error : Error}
    (ran : walkItems expand items state = (.error error, later)) :
    Stops expand (refsOfItems items) state error later := by
  cases items with
  | nil => exact absurd ran Stateful.pure_run_error
  | cons item rest =>
      simp only [walkItems, refsOfItems, Stateful.bind_run_error, Stateful.pure_run_error,
        and_false, exists_false, or_false] at ran ⊢
      rcases ran with failed | ⟨value, middle, ranFirst, failed⟩
      · exact (walk_run_error failed).append_left
      · rcases walk_run_ok ranFirst with ⟨first, firstRefs, expands, _, _⟩
        rw [← firstRefs]
        exact (walkItems_run_error failed).after expands

theorem walkFields_run_error {fields : List (String × Json)} {state later : State} {error : Error}
    (ran : walkFields expand fields state = (.error error, later)) :
    Stops expand (refsOfFields fields) state error later := by
  cases fields with
  | nil => exact absurd ran Stateful.pure_run_error
  | cons field rest =>
      rcases field with ⟨key, node⟩
      simp only [walkFields, refsOfFields, Stateful.bind_run_error, Stateful.pure_run_error,
        and_false, exists_false, or_false] at ran ⊢
      rcases ran with failed | ⟨value, middle, ranFirst, failed⟩
      · exact (walk_run_error failed).append_left
      · rcases walk_run_ok ranFirst with ⟨first, firstRefs, expands, _, _⟩
        rw [← firstRefs]
        exact (walkFields_run_error failed).after expands

end

end Runs

end McpPortal
