import Mathlib.Data.List.Forall2

/-!
# Computations that may raise

How a successful run of a composed computation comes apart, and the induction rule
for a loop that stops at the first failing iteration.
-/

namespace Foundation

universe u v w

variable {Error : Type u} {Value Result : Type v} {Item : Type w}

theorem bind_eq_ok {action : Except Error Value} {next : Value → Except Error Result}
    {result : Result} :
    (action >>= next) = .ok result ↔ ∃ value, action = .ok value ∧ next value = .ok result := by
  cases action with
  | error error => simp [bind, Except.bind]
  | ok value => simp [bind, Except.bind]

@[simp]
theorem pure_eq_ok {value result : Value} :
    (pure value : Except Error Value) = .ok result ↔ value = result :=
  Except.ok.injEq value result ▸ Iff.rfl

@[simp]
theorem throw_ne_ok {error : Error} {result : Value} :
    (throw error : Except Error Value) = .ok result ↔ False := by
  simp [throw, throwThe, MonadExceptOf.throw]

@[simp]
theorem throw_bind {error : Error} {next : Value → Except Error Result} :
    ((throw error : Except Error Value) >>= next) = throw error := rfl

/-- A check that passed leaves what comes after it. -/
theorem check_eq_ok {failing : Prop} [Decidable failing] {error : Error}
    {rest : Except Error Result} {result : Result} :
    (if failing then throw error else rest) = .ok result ↔ ¬failing ∧ rest = .ok result := by
  by_cases fails : failing <;> simp [fails]

theorem foldlM_cons_eq_ok {step : Value → Item → Except Error Value} {start result : Value}
    {item : Item} {rest : List Item} :
    (item :: rest).foldlM step start = .ok result ↔
      ∃ next, step start item = .ok next ∧ rest.foldlM step next = .ok result := by
  rw [List.foldlM_cons, bind_eq_ok]

/-- What every successful iteration keeps, a loop that ran to its end keeps. -/
theorem foldlM_keeps {step : Value → Item → Except Error Value} (keeps : Value → Prop)
    {items : List Item} {start result : Value} (initially : keeps start)
    (stepKeeps : ∀ item ∈ items, ∀ value next, keeps value → step value item = .ok next → keeps next)
    (ran : items.foldlM step start = .ok result) : keeps result := by
  induction items generalizing start with
  | nil =>
      cases ran
      exact initially
  | cons item rest ih =>
      rcases foldlM_cons_eq_ok.mp ran with ⟨next, stepped, rest_ran⟩
      have kept := stepKeeps item List.mem_cons_self start next initially stepped
      apply ih kept _ rest_ran
      intro later laterMem
      exact stepKeeps later (List.mem_cons_of_mem _ laterMem)

/-- A loop of checks passes when every one of them does. -/
theorem forM_eq_ok {check : Item → Except Error PUnit} {items : List Item} :
    items.forM check = .ok PUnit.unit ↔ ∀ item ∈ items, check item = .ok PUnit.unit := by
  induction items with
  | nil => simp [List.forM]
  | cons item rest ih =>
      rw [List.forM, bind_eq_ok, List.forall_mem_cons, ← ih]
      constructor
      · rintro ⟨_, passed, later⟩
        exact ⟨passed, later⟩
      · rintro ⟨passed, later⟩
        exact ⟨_, passed, later⟩

theorem bind_eq_error {action : Except Error Value} {next : Value → Except Error Result}
    {error : Error} :
    (action >>= next) = .error error ↔
      action = .error error ∨ ∃ value, action = .ok value ∧ next value = .error error := by
  cases action with
  | error failure => simp [bind, Except.bind]
  | ok value => simp [bind, Except.bind]

@[simp]
theorem pure_ne_error {value : Value} {error : Error} :
    (pure value : Except Error Value) = .error error ↔ False := by
  simp [pure, Except.pure]

@[simp]
theorem throw_eq_error {thrown error : Error} :
    (throw thrown : Except Error Value) = .error error ↔ thrown = error := by
  simp [throw, throwThe, MonadExceptOf.throw]

/-- A loop of checks fails with the error of one of them. -/
theorem forM_eq_error {check : Item → Except Error PUnit} {items : List Item} {error : Error}
    (failed : items.forM check = .error error) : ∃ item ∈ items, check item = .error error := by
  induction items with
  | nil => cases failed
  | cons item rest ih =>
      rw [List.forM, bind_eq_error] at failed
      rcases failed with first | ⟨_, _, later⟩
      · exact ⟨item, List.mem_cons_self, first⟩
      · rcases ih later with ⟨other, otherMem, failing⟩
        exact ⟨other, List.mem_cons_of_mem _ otherMem, failing⟩

/-- A loop that stops early stops with the error of one of its iterations. -/
theorem foldlM_eq_error {step : Value → Item → Except Error Value} {items : List Item}
    {start : Value} {error : Error} (failed : items.foldlM step start = .error error) :
    ∃ item ∈ items, ∃ value, step value item = .error error := by
  induction items generalizing start with
  | nil => cases failed
  | cons item rest ih =>
      rw [List.foldlM_cons, bind_eq_error] at failed
      rcases failed with first | ⟨next, _, later⟩
      · exact ⟨item, List.mem_cons_self, start, first⟩
      · rcases ih later with ⟨other, otherMem, failing⟩
        exact ⟨other, List.mem_cons_of_mem _ otherMem, failing⟩

/-- A conversion of all items fails with the error of one of them. -/
theorem mapM_eq_error {convert : Item → Except Error Value} {items : List Item} {error : Error}
    (failed : items.mapM convert = .error error) : ∃ item ∈ items, convert item = .error error := by
  induction items with
  | nil => cases failed
  | cons item rest ih =>
      rw [List.mapM_cons, bind_eq_error] at failed
      rcases failed with first | ⟨_, _, later⟩
      · exact ⟨item, List.mem_cons_self, first⟩
      · rcases bind_eq_error.mp later with rest_failed | ⟨_, _, collected⟩
        · rcases ih rest_failed with ⟨other, otherMem, failing⟩
          exact ⟨other, List.mem_cons_of_mem _ otherMem, failing⟩
        · cases collected

/-- A conversion of all items succeeds when that of every single one does. -/
theorem exists_mapM_eq_ok_iff {convert : Item → Except Error Value} {items : List Item} :
    (∃ values, items.mapM convert = .ok values) ↔
      ∀ item ∈ items, ∃ value, convert item = .ok value := by
  induction items with
  | nil => simp
  | cons item rest ih =>
      simp only [List.mapM_cons, bind_eq_ok, pure_eq_ok, List.forall_mem_cons, ← ih]
      constructor
      · rintro ⟨_, value, first, values, later, _⟩
        exact ⟨⟨value, first⟩, values, later⟩
      · rintro ⟨⟨value, first⟩, values, later⟩
        exact ⟨value :: values, value, first, values, later, rfl⟩

theorem mem_of_mapM_eq_ok {convert : Item → Except Error Value} {items : List Item}
    {values : List Value} (ran : items.mapM convert = .ok values) {value : Value}
    (valueMem : value ∈ values) : ∃ item ∈ items, convert item = .ok value := by
  induction items generalizing values with
  | nil =>
      cases ran
      cases valueMem
  | cons item rest ih =>
      simp only [List.mapM_cons, bind_eq_ok, pure_eq_ok] at ran
      rcases ran with ⟨first, converted, others, later, rfl⟩
      rcases List.mem_cons.mp valueMem with rfl | otherMem
      · exact ⟨item, List.mem_cons_self, converted⟩
      · rcases ih later otherMem with ⟨found, foundMem, conversion⟩
        exact ⟨found, List.mem_cons_of_mem _ foundMem, conversion⟩

theorem exists_right_of_forall₂ {Relates : Item → Value → Prop} {items : List Item}
    {values : List Value} (related : List.Forall₂ Relates items values) {item : Item}
    (itemMem : item ∈ items) : ∃ value ∈ values, Relates item value := by
  induction related with
  | nil => cases itemMem
  | cons first _ ih =>
      rcases List.mem_cons.mp itemMem with rfl | later
      · exact ⟨_, List.mem_cons_self, first⟩
      · rcases ih later with ⟨value, valueMem, relates⟩
        exact ⟨value, List.mem_cons_of_mem _ valueMem, relates⟩

theorem exists_left_of_forall₂ {Relates : Item → Value → Prop} {items : List Item}
    {values : List Value} (related : List.Forall₂ Relates items values) {value : Value}
    (valueMem : value ∈ values) : ∃ item ∈ items, Relates item value :=
  exists_right_of_forall₂ related.flip valueMem

/-- Related lists agree in what related items agree in. -/
theorem map_eq_map_of_forall₂ {Common : Type w} {Relates : Item → Value → Prop}
    {ofItem : Item → Common} {ofValue : Value → Common}
    (agree : ∀ {item value}, Relates item value → ofItem item = ofValue value) {items : List Item}
    {values : List Value} (related : List.Forall₂ Relates items values) :
    items.map ofItem = values.map ofValue := by
  induction related with
  | nil => rfl
  | cons first _ ih => rw [List.map_cons, List.map_cons, agree first, ih]

/-- A conversion of all items that succeeds converts them one by one. -/
theorem mapM_eq_ok_iff_forall₂ {convert : Item → Except Error Value} {items : List Item}
    {values : List Value} :
    items.mapM convert = .ok values ↔
      List.Forall₂ (fun item value => convert item = .ok value) items values := by
  induction items generalizing values with
  | nil =>
      simp only [List.mapM_nil, pure_eq_ok, List.forall₂_nil_left_iff]
      exact eq_comm
  | cons item rest ih =>
      simp only [List.mapM_cons, bind_eq_ok, pure_eq_ok, ih, List.forall₂_cons_left_iff]
      constructor
      · rintro ⟨value, converted, others, later, rfl⟩
        exact ⟨value, others, converted, later, rfl⟩
      · rintro ⟨value, others, converted, later, rfl⟩
        exact ⟨value, converted, others, later, rfl⟩

theorem map_eq_ok {Other : Type w} {action : Except Error Value} {convert : Value → Other}
    {result : Other} :
    action.map convert = .ok result ↔ ∃ value, action = .ok value ∧ convert value = result := by
  cases action <;> simp [Except.map]

theorem exists_mapM_eq_some {convert : Item → Option Value} {Relates : Item → Value → Prop}
    {items : List Item}
    (converts : ∀ item ∈ items, ∃ value, convert item = some value ∧ Relates item value) :
    ∃ values, items.mapM convert = some values ∧ List.Forall₂ Relates items values := by
  induction items with
  | nil => exact ⟨[], rfl, .nil⟩
  | cons item rest ih =>
      rcases converts item List.mem_cons_self with ⟨value, converted, related⟩
      rcases ih fun other otherMem => converts other (List.mem_cons_of_mem _ otherMem) with
        ⟨values, ran, allRelated⟩
      exact ⟨value :: values, by simp [converted, ran], .cons related allRelated⟩

/-- Every item converts to a value related to it. -/
theorem exists_mapM_eq_ok {convert : Item → Except Error Value} {Relates : Item → Value → Prop}
    {items : List Item}
    (converts : ∀ item ∈ items, ∃ value, convert item = .ok value ∧ Relates item value) :
    ∃ values, items.mapM convert = .ok values ∧ List.Forall₂ Relates items values := by
  induction items with
  | nil => exact ⟨[], rfl, .nil⟩
  | cons item rest ih =>
      rcases converts item List.mem_cons_self with ⟨value, converted, related⟩
      rcases ih fun other otherMem => converts other (List.mem_cons_of_mem _ otherMem) with
        ⟨values, ran, allRelated⟩
      refine ⟨value :: values, ?_, .cons related allRelated⟩
      simp only [List.mapM_cons, bind_eq_ok, pure_eq_ok]
      exact ⟨value, converted, values, ran, rfl⟩

/-- What is kept of related items when every one of them has a value. -/
theorem forall₂_filterMap_id {Relates : Item → Value → Prop} {items : List Item}
    {values : List (Option Value)}
    (related : List.Forall₂ (fun item found => ∃ value, found = some value ∧ Relates item value)
      items values) :
    List.Forall₂ Relates items (values.filterMap id) := by
  induction related with
  | nil => exact .nil
  | cons first _ ih =>
      rcases first with ⟨value, rfl, relates⟩
      exact .cons relates ih

theorem mapError_eq_ok {Other : Type w} {action : Except Error Value} {translate : Error → Other}
    {result : Value} : action.mapError translate = .ok result ↔ action = .ok result := by
  cases action <;> simp [Except.mapError]

theorem mapError_eq_error {Other : Type w} {action : Except Error Value} {translate : Error → Other}
    {error : Other} : action.mapError translate = .error error ↔
      ∃ cause, action = .error cause ∧ translate cause = error := by
  cases action <;> simp [Except.mapError]

/-- Translating the error of a composed computation. -/
theorem mapError_bind {Other : Type w} {action : Except Error Value}
    {next : Value → Except Error Result} {translate : Error → Other} :
    (action >>= next).mapError translate =
      action.mapError translate >>= fun value => (next value).mapError translate := by
  cases action <;> rfl

/-- Translating the error of a loop. -/
theorem mapError_mapM {Other : Type w} {convert : Item → Except Error Value} {items : List Item}
    {translate : Error → Other} :
    (items.mapM convert).mapError translate =
      items.mapM fun item => (convert item).mapError translate := by
  induction items with
  | nil => rfl
  | cons item rest ih =>
      simp only [List.mapM_cons, mapError_bind, ih]
      rfl

end Foundation
