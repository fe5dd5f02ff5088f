import Mathlib.Data.List.Forall2

/-!
What computations have done. A sequence succeeds exactly when its steps succeed one after the other,
and a traversal exactly when every member is mapped to its own result. What has failed, failed at
the first step to fail.
-/

set_option autoImplicit false

namespace TabletopDice.Sequencing

section Plain

variable {Error Value Result : Type}

theorem bind_eq_ok_iff {step : Except Error Value} {later : Value → Except Error Result}
    {result : Result} :
    (step >>= later) = .ok result ↔ ∃ value, step = .ok value ∧ later value = .ok result := by
  cases step <;> simp [bind, Except.bind]

theorem pure_eq_ok_iff {value result : Value} :
    (pure value : Except Error Value) = .ok result ↔ value = result := by
  simp [pure, Except.pure]

theorem mapError_eq_ok_iff {Failure : Type} {outcome : Except Error Value}
    {view : Error → Failure} {value : Value} :
    outcome.mapError view = .ok value ↔ outcome = .ok value := by
  cases outcome <;> simp [Except.mapError]

theorem exists_of_mapError_eq_error {Failure : Type} {outcome : Except Error Value}
    {view : Error → Failure} {failure : Failure} (failed : outcome.mapError view = .error failure) :
    ∃ error, failure = view error := by
  cases outcome with
  | ok value => cases failed
  | error error =>
      cases failed
      exact ⟨error, rfl⟩

theorem exists_bind_eq_ok {step : Except Error Value} {later : Value → Except Error Result}
    (first : ∃ value, step = .ok value)
    (continued : ∀ value, step = .ok value → ∃ result, later value = .ok result) :
    ∃ result, (step >>= later) = .ok result := by
  obtain ⟨value, passed⟩ := first
  obtain ⟨result, finished⟩ := continued value passed
  exact ⟨result, bind_eq_ok_iff.mpr ⟨value, passed, finished⟩⟩

theorem exists_option_mapM_eq_ok {step : Value → Except Error Result} {value? : Option Value}
    (each : ∀ value ∈ value?, ∃ result, step value = .ok result) :
    ∃ results, value?.mapM step = .ok results := by
  cases value? with
  | none => exact ⟨none, rfl⟩
  | some value => exact exists_bind_eq_ok (each value rfl) fun result _ => ⟨some result, rfl⟩

theorem exists_mapM_eq_ok {step : Value → Except Error Result} {values : List Value}
    (each : ∀ value ∈ values, ∃ result, step value = .ok result) :
    ∃ results, values.mapM step = .ok results := by
  induction values with
  | nil => exact ⟨[], rfl⟩
  | cons first rest ih =>
      obtain ⟨here, later⟩ := List.forall_mem_cons.mp each
      rw [List.mapM_cons]
      refine exists_bind_eq_ok here fun result _ => exists_bind_eq_ok (ih later) fun results _ => ?_
      exact ⟨result :: results, rfl⟩

/-- A traversal succeeds exactly when every member does. -/
theorem exists_mapM_eq_ok_iff {step : Value → Except Error Result} {values : List Value} :
    (∃ results, values.mapM step = .ok results) ↔
      ∀ value ∈ values, ∃ result, step value = .ok result := by
  refine ⟨fun found => ?_, exists_mapM_eq_ok⟩
  induction values with
  | nil => simp
  | cons first rest ih =>
      obtain ⟨_, found⟩ := found
      rw [List.mapM_cons] at found
      obtain ⟨result, here, found⟩ := bind_eq_ok_iff.mp found
      obtain ⟨results, later, -⟩ := bind_eq_ok_iff.mp found
      exact List.forall_mem_cons.mpr ⟨⟨result, here⟩, ih ⟨results, later⟩⟩

theorem mapError_bind {Failure : Type} (step : Except Error Value)
    (later : Value → Except Error Result) (view : Error → Failure) :
    (step >>= later).mapError view =
      step.mapError view >>= fun value => (later value).mapError view := by
  cases step <;> rfl

/-- Two traversals fail alike and return the same if they do so member by member. -/
theorem mapError_mapM_eq {Failure : Type} {step : Value → Except Error Result}
    {view : Error → Failure} {values others : List Value}
    (alike : List.Forall₂ (fun value other =>
      (step value).mapError view = (step other).mapError view) values others) :
    (values.mapM step).mapError view = (others.mapM step).mapError view := by
  induction alike with
  | nil => rfl
  | cons first _ ih =>
      rw [List.mapM_cons, List.mapM_cons, mapError_bind, mapError_bind, first]
      simp only [mapError_bind, ih]

theorem mapM_eq_ok_iff {step : Value → Except Error Result} {values : List Value}
    {results : List Result} :
    values.mapM step = .ok results ↔
      List.Forall₂ (fun value result => step value = .ok result) values results := by
  induction values generalizing results with
  | nil =>
      rw [List.mapM_nil, pure_eq_ok_iff]
      constructor
      · intro same
        subst same
        exact .nil
      · intro none
        cases none
        rfl
  | cons first rest ih =>
      simp only [List.mapM_cons, bind_eq_ok_iff, pure_eq_ok_iff, ih]
      constructor
      · intro steps
        obtain ⟨result, firstDone, others, restDone, rfl⟩ := steps
        exact .cons firstDone restDone
      · intro all
        cases all with
        | cons firstDone restDone => exact ⟨_, firstDone, _, restDone, rfl⟩

/-- Whatever a view shows of each result, it shows of all results of a traversal. -/
theorem map_eq_of_mapM_eq_ok {Shown : Type} {step : Value → Except Error Result}
    {view : Result → Shown} {expected : Value → Shown} {values : List Value}
    {results : List Result}
    (each : ∀ value ∈ values, ∀ result, step value = .ok result → view result = expected value)
    (mapped : values.mapM step = .ok results) : results.map view = values.map expected := by
  rw [mapM_eq_ok_iff] at mapped
  induction mapped with
  | nil => rfl
  | cons first _ ih =>
      obtain ⟨here, later⟩ := List.forall_mem_cons.mp each
      rw [List.map_cons, List.map_cons, here _ first, ih later]

theorem option_map_eq_of_mapM_eq_ok {Shown : Type} {step : Value → Except Error Result}
    {view : Result → Shown} {expected : Value → Shown} {value? : Option Value}
    {result? : Option Result}
    (each : ∀ value result, step value = .ok result → view result = expected value)
    (mapped : value?.mapM step = .ok result?) : result?.map view = value?.map expected := by
  cases value? with
  | none =>
      cases mapped
      rfl
  | some value =>
      obtain ⟨result, passed, same⟩ := bind_eq_ok_iff.mp mapped
      cases same
      rw [Option.map_some, Option.map_some, each value result passed]

theorem exists_mem_of_mapM_eq_ok {step : Value → Except Error Result} {values : List Value}
    {results : List Result} (mapped : values.mapM step = .ok results) {result : Result}
    (member : result ∈ results) : ∃ value ∈ values, step value = .ok result := by
  rw [mapM_eq_ok_iff] at mapped
  induction mapped with
  | nil => cases member
  | @cons first done _ _ firstDone _ ih =>
      rcases List.mem_cons.mp member with rfl | later
      · exact ⟨first, List.mem_cons_self, firstDone⟩
      · obtain ⟨value, inside, valueDone⟩ := ih later
        exact ⟨value, List.mem_cons_of_mem first inside, valueDone⟩

theorem exists_result_of_mapM_eq_ok {step : Value → Except Error Result} {values : List Value}
    {results : List Result} (mapped : values.mapM step = .ok results) {value : Value}
    (member : value ∈ values) : ∃ result ∈ results, step value = .ok result := by
  rw [mapM_eq_ok_iff] at mapped
  induction mapped with
  | nil => cases member
  | @cons first done _ _ firstDone _ ih =>
      rcases List.mem_cons.mp member with rfl | later
      · exact ⟨done, List.mem_cons_self, firstDone⟩
      · obtain ⟨result, inside, valueDone⟩ := ih later
        exact ⟨result, List.mem_cons_of_mem done inside, valueDone⟩

theorem bind_eq_error_iff {step : Except Error Value} {later : Value → Except Error Result}
    {error : Error} :
    (step >>= later) = .error error ↔
      step = .error error ∨ ∃ value, step = .ok value ∧ later value = .error error := by
  cases step <;> simp [bind, Except.bind]

/-- A traversal fails with what the first member to fail fails with. -/
theorem mapM_eq_error_iff {step : Value → Except Error Result} {values : List Value}
    {error : Error} :
    values.mapM step = .error error ↔
      ∃ before value after, values = before ++ value :: after ∧
        (∀ earlier ∈ before, ∃ result, step earlier = .ok result) ∧ step value = .error error := by
  constructor
  · intro failed
    induction values with
    | nil => simp [pure, Except.pure] at failed
    | cons first rest ih =>
        simp only [List.mapM_cons, bind_eq_error_iff] at failed
        rcases failed with here | ⟨result, passed, later⟩
        · exact ⟨[], first, rest, rfl, by simp, here⟩
        · rcases later with failed | ⟨_, _, impossible⟩
          · obtain ⟨before, value, after, rfl, earlier, failed⟩ := ih failed
            exact ⟨first :: before, value, after, rfl,
              List.forall_mem_cons.mpr ⟨⟨result, passed⟩, earlier⟩, failed⟩
          · cases impossible
  · intro found
    obtain ⟨before, value, after, rfl, earlier, failed⟩ := found
    induction before with
    | nil =>
        rw [List.nil_append, List.mapM_cons, bind_eq_error_iff]
        exact .inl failed
    | cons first before ih =>
        obtain ⟨⟨result, passed⟩, earlier⟩ := List.forall_mem_cons.mp earlier
        rw [List.cons_append, List.mapM_cons, bind_eq_error_iff]
        exact .inr ⟨result, passed, bind_eq_error_iff.mpr (.inl (ih earlier))⟩

/-- An optional value passes a step that checks it and then views it. -/
theorem option_mapM_eq_ok_iff {step : Value → Except Error Result} {holds : Value → Prop}
    {view : Value → Result}
    (spec : ∀ value result, step value = .ok result ↔ holds value ∧ result = view value)
    {value? : Option Value} {result? : Option Result} :
    value?.mapM step = .ok result? ↔
      (∀ value ∈ value?, holds value) ∧ result? = value?.map view := by
  cases value? with
  | none =>
      have unchanged : (none : Option Value).mapM step = pure none := rfl
      rw [unchanged, pure_eq_ok_iff]
      simp [eq_comm]
  | some value =>
      have mapped : (some value).mapM step = some <$> step value := rfl
      rw [mapped]
      cases outcome : step value with
      | error error =>
          have refused : ¬ holds value := fun held => by
            simpa [outcome] using (spec value (view value)).mpr ⟨held, rfl⟩
          simp [Functor.map, Except.map, refused]
      | ok result =>
          obtain ⟨held, rfl⟩ := (spec value result).mp outcome
          simp [Functor.map, Except.map, held, eq_comm]

end Plain

section Stateful

variable {Error State Value Result : Type}

theorem run_bind_eq_ok_iff {step : EStateM Error State Value}
    {later : Value → EStateM Error State Result} {state next : State} {result : Result} :
    (step >>= later) state = .ok result next ↔
      ∃ value middle, step state = .ok value middle ∧ later value middle = .ok result next := by
  simp only [bind, EStateM.bind]
  cases step state with
  | error => simp
  | ok first middle =>
      constructor
      · exact fun done => ⟨first, middle, rfl, done⟩
      · intro steps
        obtain ⟨value, after, same, done⟩ := steps
        cases same
        exact done

theorem run_pure (value : Value) (state : State) :
    (pure value : EStateM Error State Value) state = .ok value state :=
  rfl

theorem run_bind_of_ok {step : EStateM Error State Value}
    {later : Value → EStateM Error State Result} {state next : State} {value : Value}
    (done : step state = .ok value next) : (step >>= later) state = later value next := by
  simp only [bind, EStateM.bind, done]

theorem run_bind_of_error {step : EStateM Error State Value}
    {later : Value → EStateM Error State Result} {state next : State} {error : Error}
    (failed : step state = .error error next) : (step >>= later) state = .error error next := by
  simp only [bind, EStateM.bind, failed]

theorem run_map_of_error {step : EStateM Error State Value} {state next : State} {error : Error}
    (failed : step state = .error error next) (view : Value → Result) :
    (view <$> step) state = .error error next := by
  simp only [Functor.map, EStateM.map, failed]

theorem run_map_eq_error_iff {step : EStateM Error State Value} {state next : State} {error : Error}
    {view : Value → Result} :
    (view <$> step) state = .error error next ↔ step state = .error error next := by
  simp only [Functor.map, EStateM.map]
  cases step state <;> simp

theorem run_pure_eq_ok_iff {value result : Value} {state next : State} :
    (pure value : EStateM Error State Value) state = .ok result next ↔
      value = result ∧ state = next := by
  simp [pure, EStateM.pure]

theorem run_bind_eq_error_iff {step : EStateM Error State Value}
    {later : Value → EStateM Error State Result} {state next : State} {error : Error} :
    (step >>= later) state = .error error next ↔
      step state = .error error next ∨
        ∃ value middle, step state = .ok value middle ∧ later value middle = .error error next := by
  simp only [bind, EStateM.bind]
  cases step state with
  | error => simp
  | ok value middle =>
      constructor
      · intro failed
        exact .inr ⟨value, middle, rfl, failed⟩
      · intro failed
        obtain impossible | ⟨first, after, same, failed⟩ := failed
        · cases impossible
        · cases same
          exact failed

theorem run_throw_eq_error_iff {error fault : Error} {state next : State} :
    (throw error : EStateM Error State Value) state = .error fault next ↔
      error = fault ∧ state = next := by
  change EStateM.Result.error error state = .error fault next ↔ _
  rw [EStateM.Result.error.injEq]

theorem run_pure_ne_error {value : Value} {error : Error} {state next : State} :
    (pure value : EStateM Error State Value) state ≠ .error error next := by
  simp [pure, EStateM.pure]

section Adapting

variable {Failure : Type} {action : EStateM Error State Value} {view : Error → Failure}
  {state next : State}

theorem run_adaptExcept_eq_ok_iff {value : Value} :
    action.adaptExcept view state = .ok value next ↔ action state = .ok value next := by
  unfold EStateM.adaptExcept
  cases action state <;> simp

theorem run_adaptExcept_eq_error_iff {failure : Failure} :
    action.adaptExcept view state = .error failure next ↔
      ∃ error, action state = .error error next ∧ view error = failure := by
  unfold EStateM.adaptExcept
  cases action state <;> simp [and_comm]

end Adapting

end Stateful

end TabletopDice.Sequencing
