import Mathlib.Data.List.ReduceOption
import McpPortal.Foundation.Fallible

/-!
# Exceptions that are not caught

A handler catches some exceptions and lets the others pass. What passes a composed
computation comes from the first of its parts that raises.
-/

namespace Foundation

universe u v w

variable {Error : Type u} {Value Result : Type v} {Item : Type w}

/-- The computation raises an exception that is not caught. -/
def Uncaught (caught : Error → Bool) : Except Error Value → Prop
  | .ok _ => False
  | .error error => caught error = false

/-- `try: action except caught: skip`. -/
def orSkip (caught : Error → Bool) : Except Error (Option Value) → Except Error (Option Value)
  | .ok value => .ok value
  | .error error => if caught error then .ok none else .error error

variable {caught : Error → Bool}

@[simp]
theorem uncaught_ok {value : Value} :
    Uncaught caught (.ok value : Except Error Value) ↔ False := Iff.rfl

@[simp]
theorem uncaught_error {error : Error} :
    Uncaught caught (.error error : Except Error Value) ↔ caught error = false := Iff.rfl

@[simp]
theorem uncaught_pure {value : Value} :
    Uncaught caught (pure value : Except Error Value) ↔ False := Iff.rfl

@[simp]
theorem uncaught_throw {error : Error} :
    Uncaught caught (throw error : Except Error Value) ↔ caught error = false := Iff.rfl

theorem uncaught_bind {action : Except Error Value} {next : Value → Except Error Result} :
    Uncaught caught (action >>= next) ↔
      Uncaught caught action ∨ ∃ value, action = .ok value ∧ Uncaught caught (next value) := by
  cases action with
  | error error => simp [bind, Except.bind]
  | ok value => simp [bind, Except.bind]

@[simp]
theorem uncaught_map {convert : Value → Result} {action : Except Error Value} :
    Uncaught caught (convert <$> action) ↔ Uncaught caught action := by
  cases action <;> rfl

/-- Skipping fails just where something passes the handler. -/
theorem exists_orSkip_eq_ok_iff {action : Except Error (Option Value)} :
    (∃ value, orSkip caught action = .ok value) ↔ ¬Uncaught caught action := by
  cases action with
  | ok value => simp [orSkip]
  | error error => cases isCaught : caught error <;> simp [orSkip, isCaught]

theorem orSkip_eq_some {action : Except Error (Option Value)} {value : Value} :
    orSkip caught action = .ok (some value) ↔ action = .ok (some value) := by
  cases action with
  | ok value => simp [orSkip]
  | error error => cases isCaught : caught error <;> simp [orSkip, isCaught]

/-- Two handlers let the same pass where they agree on what is raised. -/
theorem uncaught_congr {other : Error → Bool} {action : Except Error Value}
    (same : ∀ error, action = .error error → caught error = other error) :
    Uncaught caught action ↔ Uncaught other action := by
  cases action with
  | ok value => rfl
  | error error => rw [uncaught_error, uncaught_error, same error rfl]

/-- A computation none of whose exceptions is caught either succeeds or lets one pass. -/
theorem uncaught_iff_of_none_caught {action : Except Error Value}
    (noneCaught : ∀ error, action = .error error → caught error = false) :
    Uncaught caught action ↔ ¬∃ value, action = .ok value := by
  cases action with
  | ok value => simp
  | error error => simp [noneCaught error rfl]

/-- Nothing passes a loop when nothing passes an iteration. -/
theorem not_uncaught_foldlM {step : Value → Item → Except Error Value} {items : List Item}
    {start : Value} (never : ∀ value item, ¬Uncaught caught (step value item)) :
    ¬Uncaught caught (items.foldlM step start) := by
  intro passes
  cases ran : items.foldlM step start with
  | ok value =>
      rw [ran] at passes
      exact passes
  | error error =>
      rw [ran, uncaught_error] at passes
      rcases foldlM_eq_error ran with ⟨item, _, value, failed⟩
      apply never value item
      rw [failed]
      exact passes

/-- What passes a loop passes one of its iterations, which the ones before lead up to. -/
theorem uncaught_foldlM_iff_exists {step : Value → Item → Except Error Value} {items : List Item}
    {start : Value} :
    Uncaught caught (items.foldlM step start) ↔
      ∃ earlier item later value, items = earlier ++ item :: later ∧
        earlier.foldlM step start = .ok value ∧ Uncaught caught (step value item) := by
  induction items generalizing start with
  | nil => simp
  | cons item rest ih =>
      rw [List.foldlM_cons, uncaught_bind]
      constructor
      · rintro (first | ⟨next, stepped, later⟩)
        · exact ⟨[], item, rest, start, rfl, rfl, first⟩
        · rcases ih.mp later with ⟨earlier, failing, others, value, rfl, ran, failed⟩
          exact ⟨item :: earlier, failing, others, value, rfl,
            foldlM_cons_eq_ok.mpr ⟨next, stepped, ran⟩, failed⟩
      · rintro ⟨earlier, failing, others, value, split, ran, failed⟩
        cases earlier with
        | nil =>
            cases ran
            rw [List.nil_append, List.cons.injEq] at split
            exact Or.inl (split.1 ▸ failed)
        | cons first earlier =>
            rw [List.cons_append, List.cons.injEq] at split
            rcases split with ⟨rfl, rfl⟩
            rcases foldlM_cons_eq_ok.mp ran with ⟨next, stepped, ran⟩
            exact Or.inr ⟨next, stepped, ih.mpr ⟨earlier, failing, others, value, rfl, ran, failed⟩⟩

section Steps

variable {step : Value → Item → Except Error Value} {Passes : Item → Prop}
  (passes : ∀ value item, (∃ next, step value item = .ok next) ↔ Passes item)
include passes

/-- A loop whose iterations succeed by their items succeeds when all of them do. -/
theorem exists_foldlM_eq_ok_iff {items : List Item} {start : Value} :
    (∃ result, items.foldlM step start = .ok result) ↔ ∀ item ∈ items, Passes item := by
  induction items generalizing start with
  | nil => simp [pure, Except.pure]
  | cons item rest ih =>
      rw [List.forall_mem_cons]
      constructor
      · rintro ⟨result, ran⟩
        rcases foldlM_cons_eq_ok.mp ran with ⟨next, stepped, later⟩
        exact ⟨(passes start item).mp ⟨next, stepped⟩, ih.mp ⟨result, later⟩⟩
      · rintro ⟨first, others⟩
        rcases (passes start item).mpr first with ⟨next, stepped⟩
        rcases ih.mpr others with ⟨result, later⟩
        exact ⟨result, foldlM_cons_eq_ok.mpr ⟨next, stepped, later⟩⟩

/-- What passes a loop passes its first iteration that does not succeed. -/
theorem uncaught_foldlM_iff {Fails : Item → Prop}
    (fails : ∀ value item, Uncaught caught (step value item) ↔ Fails item) {items : List Item}
    {start : Value} :
    Uncaught caught (items.foldlM step start) ↔
      ∃ earlier item later, items = earlier ++ item :: later ∧
        (∀ before ∈ earlier, Passes before) ∧ Fails item := by
  induction items generalizing start with
  | nil => simp
  | cons item rest ih =>
      rw [List.foldlM_cons, uncaught_bind, fails]
      constructor
      · rintro (first | ⟨next, stepped, later⟩)
        · exact ⟨[], item, rest, rfl, by simp, first⟩
        · rcases ih.mp later with ⟨earlier, failing, others, rfl, before, failed⟩
          refine ⟨item :: earlier, failing, others, rfl, ?_, failed⟩
          exact List.forall_mem_cons.mpr ⟨(passes start item).mp ⟨next, stepped⟩, before⟩
      · rintro ⟨earlier, failing, others, split, before, failed⟩
        cases earlier with
        | nil =>
            rw [List.nil_append, List.cons.injEq] at split
            exact Or.inl (split.1 ▸ failed)
        | cons first earlier =>
            rw [List.cons_append, List.cons.injEq] at split
            rcases split with ⟨rfl, rfl⟩
            rw [List.forall_mem_cons] at before
            rcases (passes start item).mpr before.1 with ⟨next, stepped⟩
            exact Or.inr ⟨next, stepped, ih.mpr ⟨earlier, failing, others, rfl, before.2, failed⟩⟩

end Steps

/-- What passes a loop of checks passes its first check that does not succeed. -/
theorem uncaught_forM_iff {check : Item → Except Error PUnit} {items : List Item} :
    Uncaught caught (items.forM check) ↔
      ∃ earlier item later, items = earlier ++ item :: later ∧
        (∀ before ∈ earlier, check before = .ok PUnit.unit) ∧ Uncaught caught (check item) := by
  have asLoop : items.forM check = items.foldlM (fun _ item => check item) PUnit.unit := by
    induction items with
    | nil => rfl
    | cons item rest ih =>
        rw [List.foldlM_cons]
        exact bind_congr fun _ => ih
  have passes : ∀ (value : PUnit) item, (∃ next, check item = .ok next) ↔
      check item = .ok PUnit.unit := by
    intro _ item
    constructor
    · rintro ⟨⟨⟩, checked⟩
      exact checked
    · intro checked
      exact ⟨_, checked⟩
  rw [asLoop, uncaught_foldlM_iff passes fun _ _ => Iff.rfl]

/-- Nothing passes a conversion of all items when nothing passes that of one. -/
theorem not_uncaught_mapM {convert : Item → Except Error Value} {items : List Item}
    (never : ∀ item ∈ items, ¬Uncaught caught (convert item)) :
    ¬Uncaught caught (items.mapM convert) := by
  intro passes
  cases ran : items.mapM convert with
  | ok values =>
      rw [ran] at passes
      exact passes
  | error error =>
      rw [ran, uncaught_error] at passes
      rcases mapM_eq_error ran with ⟨item, itemMem, failed⟩
      apply never item itemMem
      rw [failed]
      exact passes

/-- Where nothing is caught, a conversion of all items fails with that of one. -/
theorem uncaught_mapM_iff {convert : Item → Except Error Value} {items : List Item}
    (noneCaught : ∀ item error, convert item = .error error → caught error = false) :
    Uncaught caught (items.mapM convert) ↔ ¬∀ item ∈ items, ∃ value, convert item = .ok value := by
  rw [← exists_mapM_eq_ok_iff]
  apply uncaught_iff_of_none_caught
  intro error failed
  rcases mapM_eq_error failed with ⟨item, _, itemFailed⟩
  exact noneCaught item error itemFailed

section TwoPasses

variable {Found : Type v} {Failure : Type u} {find : Item → Except Failure (Option Found)}
  {build : Found → Except Error (Option Value)}

/-- What one item comes to: nothing when nothing is found, else what is built of it. -/
def ComesTo (find : Item → Except Failure (Option Found))
    (build : Found → Except Error (Option Value)) (item : Item) (outcome : Option Value) : Prop :=
  (find item = .ok none ∧ outcome = none) ∨
    ∃ found, find item = .ok (some found) ∧ build found = .ok outcome

theorem reduceOption_cons_congr {first : Option Value} {left right : List (Option Value)}
    (same : left.reduceOption = right.reduceOption) :
    (first :: left).reduceOption = (first :: right).reduceOption := by
  cases first with
  | none => rw [List.reduceOption_cons_of_none, List.reduceOption_cons_of_none, same]
  | some value => rw [List.reduceOption_cons_of_some, List.reduceOption_cons_of_some, same]

/-- Finding all and then building all succeeds when both do for every single item. -/
theorem twoPasses_eq_ok_iff {items : List Item} {results : List Value} :
    (∃ found, items.mapM find = .ok found ∧
        ∃ built, found.reduceOption.mapM build = .ok built ∧ built.reduceOption = results) ↔
      ∃ outcomes, List.Forall₂ (ComesTo find build) items outcomes ∧
        outcomes.reduceOption = results := by
  simp only [mapM_eq_ok_iff_forall₂]
  induction items generalizing results with
  | nil => simp [List.forall₂_nil_left_iff]
  | cons item rest ih =>
      constructor
      · rintro ⟨_, finds, built, builds, rfl⟩
        cases finds with
        | @cons _ first _ others firstFound laterFound =>
            cases first with
            | none =>
                rw [List.reduceOption_cons_of_none] at builds
                rcases ih.mp ⟨others, laterFound, built, builds, rfl⟩ with ⟨outcomes, come, same⟩
                refine ⟨none :: outcomes, .cons (Or.inl ⟨firstFound, rfl⟩) come, ?_⟩
                rw [List.reduceOption_cons_of_none, same]
            | some found =>
                rw [List.reduceOption_cons_of_some] at builds
                cases builds with
                | @cons _ outcome _ laterBuilt firstBuilt laterBuilds =>
                    rcases ih.mp ⟨others, laterFound, laterBuilt, laterBuilds, rfl⟩ with
                      ⟨outcomes, come, same⟩
                    refine ⟨outcome :: outcomes, .cons (Or.inr ⟨found, firstFound, firstBuilt⟩) come,
                      reduceOption_cons_congr same⟩
      · rintro ⟨_, come, rfl⟩
        cases come with
        | @cons _ outcome _ outcomes firstComes laterCome =>
            rcases ih.mpr ⟨outcomes, laterCome, rfl⟩ with ⟨found, finds, built, builds, same⟩
            rcases firstComes with ⟨firstFound, rfl⟩ | ⟨first, firstFound, firstBuilt⟩
            · refine ⟨none :: found, .cons firstFound finds, built, ?_, ?_⟩
              · rw [List.reduceOption_cons_of_none]
                exact builds
              · rw [List.reduceOption_cons_of_none, same]
            · refine ⟨some first :: found, .cons firstFound finds, outcome :: built, ?_,
                reduceOption_cons_congr same⟩
              rw [List.reduceOption_cons_of_some]
              exact .cons firstBuilt builds

end TwoPasses

end Foundation
