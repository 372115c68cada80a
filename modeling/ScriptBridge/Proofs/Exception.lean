import Mathlib.Data.List.Forall2

/-!
# Computations that return

What it takes for a computation in the exception monad to return: every step of it returns,
and a loop over a list returns exactly if every turn does.  A computation that does not return
throws one error, and a loop throws the first error of all its turns.
-/

namespace ScriptBridge.Exception

variable {Error Item Result State Other : Type}

theorem bind_eq_ok_iff {first : Except Error Result} {next : Result → Except Error Other}
    {other : Other} :
    first >>= next = .ok other ↔ ∃ result, first = .ok result ∧ next result = .ok other := by
  cases first with
  | error thrown => simp [bind, Except.bind]
  | ok result => simp [bind, Except.bind]

theorem map_eq_ok_iff {first : Except Error Result} {convert : Result → Other}
    {other : Other} :
    convert <$> first = .ok other ↔ ∃ result, first = .ok result ∧ convert result = other := by
  cases first with
  | error thrown => simp [Functor.map, Except.map]
  | ok result => simp [Functor.map, Except.map]

theorem pure_eq_ok_iff {result other : Result} :
    (pure result : Except Error Result) = .ok other ↔ result = other := by
  simp [pure, Except.pure]

theorem toOption_eq_some_iff {first : Except Error Result} {result : Result} :
    first.toOption = some result ↔ first = .ok result := by
  cases first <;> simp [Except.toOption]

theorem eq_ok_of_toOption {first : Except Error Result} {result : Result}
    (returned : first.toOption = some result) : first = .ok result :=
  toOption_eq_some_iff.mp returned

theorem mapM_eq_ok_iff {turn : Item → Except Error Result} {items : List Item}
    {results : List Result} :
    items.mapM turn = .ok results ↔
      List.Forall₂ (fun item result => turn item = .ok result) items results := by
  induction items generalizing results with
  | nil => cases results <;> simp [pure_eq_ok_iff]
  | cons item rest ih =>
      rw [List.mapM_cons]
      simp only [bind_eq_ok_iff, ih, pure_eq_ok_iff]
      cases results with
      | nil => simp
      | cons result results => simp

/-- Every result of a loop that returns is what some turn returned. -/
theorem exists_turn_of_mapM {turn : Item → Except Error Result} {items : List Item}
    {results : List Result} (returned : items.mapM turn = .ok results) {result : Result}
    (member : result ∈ results) : ∃ item ∈ items, turn item = .ok result := by
  rw [mapM_eq_ok_iff] at returned
  induction returned with
  | nil => simp at member
  | cons turned _ ih =>
      rcases List.mem_cons.mp member with rfl | later
      · exact ⟨_, by simp, turned⟩
      · rcases ih later with ⟨item, itemMem, turnedLater⟩
        exact ⟨item, by simp [itemMem], turnedLater⟩

/-- What holds before a loop that returns, and through every turn of it, holds after it. -/
theorem foldlM_induction {motive : State → Prop} {turn : State → Item → Except Error State}
    {items : List Item} {start last : State} (returned : items.foldlM turn start = .ok last)
    (before : motive start)
    (through : ∀ state, motive state → ∀ item ∈ items, ∀ next,
      turn state item = .ok next → motive next) :
    motive last := by
  induction items generalizing start with
  | nil =>
      rw [List.foldlM_nil, pure_eq_ok_iff] at returned
      exact returned ▸ before
  | cons item rest ih =>
      rw [List.foldlM_cons, bind_eq_ok_iff] at returned
      rcases returned with ⟨next, turned, returned⟩
      apply ih returned (through start before item (by simp) next turned)
      intro state holds later laterMem
      exact through state holds later (by simp [laterMem])

/-! ## What is thrown -/

/-- The error that a computation throws, if it throws one. -/
def thrown? : Except Error Result → Option Error
  | .error error => some error
  | .ok _ => none

@[simp]
theorem thrown?_throw (error : Error) : thrown? (throw error : Except Error Result) = some error :=
  rfl

@[simp]
theorem thrown?_pure (result : Result) : thrown? (pure result : Except Error Result) = none :=
  rfl

theorem eq_error_of_thrown? {first : Except Error Result} {error : Error}
    (thrown : thrown? first = some error) : first = .error error := by
  cases first with
  | error other => exact congrArg Except.error (Option.some.inj thrown)
  | ok result => cases thrown

theorem thrown?_map (first : Except Error Result) (convert : Result → Other) :
    thrown? (convert <$> first) = thrown? first := by
  cases first <;> rfl

theorem thrown?_bind_of_pure (first : Except Error Result)
    {next : Result → Except Error Other} (returns : ∀ result, thrown? (next result) = none) :
    thrown? (first >>= next) = thrown? first := by
  cases first with
  | error error => rfl
  | ok result => exact returns result

/-- A loop throws the first error of all its turns. -/
theorem thrown?_mapM {turn : Item → Except Error Result} {errors : Item → List Error}
    (throws : ∀ item, thrown? (turn item) = (errors item).head?) (items : List Item) :
    thrown? (items.mapM turn) = (items.flatMap errors).head? := by
  induction items with
  | nil => rfl
  | cons item rest ih =>
      rw [List.mapM_cons, List.flatMap_cons, List.head?_append, ← throws item, ← ih]
      cases turn item with
      | error error => rfl
      | ok result => exact thrown?_bind_of_pure (rest.mapM turn) fun _ => rfl

/-- A loop with a state throws the first error of all its turns, if the state does not
matter to what they throw. -/
theorem thrown?_foldlM {turn : State → Item → Except Error State} {errors : Item → List Error}
    (throws : ∀ state item, thrown? (turn state item) = (errors item).head?)
    (items : List Item) (start : State) :
    thrown? (items.foldlM turn start) = (items.flatMap errors).head? := by
  induction items generalizing start with
  | nil => rfl
  | cons item rest ih =>
      rw [List.foldlM_cons, List.flatMap_cons, List.head?_append, ← throws start item]
      cases turn start item with
      | error error => rfl
      | ok next => exact ih next

end ScriptBridge.Exception
