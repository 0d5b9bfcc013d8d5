import Mathlib.Data.List.Forall2
import UnitLinker.Link.Layout

/-!
# Computations that may be refused

How a chain of steps, each of which gives a result or an error, comes to its
result. Later modules take chains apart with these lemmas and never look into
the monad itself.
-/

namespace UnitLinker

variable {ε δ α β σ : Type}

/-- A sequence of two computations succeeds exactly if both do. -/
theorem bind_eq_ok {result : Except ε α} {next : α → Except ε β} {value : β} :
    (result >>= next) = .ok value ↔ ∃ middle, result = .ok middle ∧ next middle = .ok value := by
  cases result <;> simp [bind, Except.bind]

/-- A chain is refused by its first step, or by what follows a step that succeeds. -/
theorem bind_eq_error {result : Except ε α} {next : α → Except ε β} {error : ε} :
    (result >>= next) = .error error
      ↔ result = .error error ∨ ∃ middle, result = .ok middle ∧ next middle = .error error := by
  cases result <;> simp [bind, Except.bind]

theorem pure_eq_ok {given value : α} : (pure given : Except ε α) = .ok value ↔ given = value := by
  simp [pure, Except.pure]

/-- A changed result is good exactly if the result is. -/
theorem map_eq_ok {result : Except ε α} {change : α → β} {value : β} :
    result.map change = .ok value ↔ ∃ given, result = .ok given ∧ change given = value := by
  cases result <;> simp [Except.map]

/-- Changing a result does not change its error. -/
theorem map_eq_error {result : Except ε α} {change : α → β} {error : ε} :
    result.map change = .error error ↔ result = .error error := by
  cases result <;> simp [Except.map]

theorem exists_ok_of_isOk {result : Except ε α} (isOk : result.isOk = true) :
    ∃ value, result = .ok value := by
  cases result with
  | ok value => exact ⟨value, rfl⟩
  | error error => cases isOk

/-- Renaming errors keeps results. -/
theorem mapError_eq_ok {result : Except ε α} {rename : ε → δ} {value : α} :
    result.mapError rename = .ok value ↔ result = .ok value := by
  cases result <;> simp [Except.mapError]

/-- A renamed error comes from an error. -/
theorem mapError_eq_error {result : Except ε α} {rename : ε → δ} {error : δ} :
    result.mapError rename = .error error ↔ ∃ given, result = .error given ∧ rename given = error := by
  cases result <;> simp [Except.mapError]

theorem refusing_eq_ok {result : Except LinkError α} {value : α} :
    Link.refusing result = .ok value ↔ result = .ok value := mapError_eq_ok

/-- A step on every item succeeds when each single step does. -/
theorem mapM_eq_ok {step : α → Except ε β} {items : List α} {values : List β} :
    items.mapM step = .ok values
      ↔ List.Forall₂ (fun item value => step item = .ok value) items values := by
  induction items generalizing values with
  | nil =>
    rw [List.mapM_nil, pure_eq_ok, List.forall₂_nil_left_iff]
    exact eq_comm
  | cons item rest ih =>
    rw [List.mapM_cons, bind_eq_ok, List.forall₂_cons_left_iff]
    constructor
    · rintro ⟨value, stepped, chained⟩
      obtain ⟨others, restStepped, given⟩ := bind_eq_ok.1 chained
      exact ⟨value, others, stepped, ih.1 restStepped, (pure_eq_ok.1 given).symm⟩
    · rintro ⟨value, others, stepped, restStepped, rfl⟩
      exact ⟨value, stepped, bind_eq_ok.2 ⟨others, ih.2 restStepped, rfl⟩⟩

/-- A step on every item succeeds if and only if no item is refused. -/
theorem exists_mapM_iff {step : α → Except ε β} {items : List α} :
    (∃ values, items.mapM step = .ok values) ↔ ∀ item ∈ items, ∃ value, step item = .ok value := by
  constructor
  · rintro ⟨values, mapped⟩ item member
    obtain ⟨place, inside, rfl⟩ := List.mem_iff_getElem.1 member
    have pieces := mapM_eq_ok.1 mapped
    exact ⟨_, pieces.get inside (pieces.length_eq ▸ inside)⟩
  · intro accepted
    induction items with
    | nil => exact ⟨[], rfl⟩
    | cons item rest ih =>
      obtain ⟨value, stepped⟩ := accepted item List.mem_cons_self
      obtain ⟨others, restStepped⟩ := ih fun other member =>
        accepted other (List.mem_cons_of_mem _ member)
      exact ⟨value :: others, mapM_eq_ok.2 (.cons stepped (mapM_eq_ok.1 restStepped))⟩

/-- The first item that is refused gives the error. -/
theorem mapM_eq_error {step : α → Except ε β} {before after : List α} {item : α} {error : ε}
    (accepted : ∀ earlier ∈ before, ∃ value, step earlier = .ok value)
    (refused : step item = .error error) : (before ++ item :: after).mapM step = .error error := by
  induction before with
  | nil =>
    rw [List.nil_append, List.mapM_cons, refused]
    rfl
  | cons earlier rest ih =>
    obtain ⟨value, stepped⟩ := accepted earlier List.mem_cons_self
    rw [List.cons_append, List.mapM_cons, stepped,
      ih fun other member => accepted other (List.mem_cons_of_mem _ member)]
    rfl

/-- If a step on every item is refused, then for the first item that is refused. -/
theorem exists_of_mapM_eq_error {step : α → Except ε β} {items : List α} {error : ε}
    (refused : items.mapM step = .error error) :
    ∃ before item after, items = before ++ item :: after
      ∧ (∀ earlier ∈ before, ∃ value, step earlier = .ok value) ∧ step item = .error error := by
  induction items with
  | nil => cases refused
  | cons item rest ih =>
    rw [List.mapM_cons] at refused
    rcases bind_eq_error.1 refused with first | ⟨value, stepped, later⟩
    · exact ⟨[], item, rest, rfl, nofun, first⟩
    · rcases bind_eq_error.1 later with restRefused | ⟨values, _, given⟩
      · obtain ⟨before, other, after, rfl, accepted, stopped⟩ := ih restRefused
        exact ⟨item :: before, other, after, rfl,
          List.forall_mem_cons.2 ⟨⟨value, stepped⟩, accepted⟩, stopped⟩
      · cases given

/-- A successful run over two lists is one over the first and then one over the second. -/
theorem foldlM_append_eq_ok {step : σ → α → Except ε σ} {start final : σ} {first second : List α} :
    (first ++ second).foldlM step start = .ok final
      ↔ ∃ middle, first.foldlM step start = .ok middle ∧ second.foldlM step middle = .ok final := by
  rw [List.foldlM_append, bind_eq_ok]

/-- A loop succeeds exactly if its first step and the loop over the rest do. -/
theorem foldlM_cons_eq_ok {step : σ → α → Except ε σ} {start final : σ} {item : α} {rest : List α} :
    (item :: rest).foldlM step start = .ok final
      ↔ ∃ middle, step start item = .ok middle ∧ rest.foldlM step middle = .ok final := by
  rw [List.foldlM_cons, bind_eq_ok]

/-- A run that is refused is refused at its first item that is, after a run over all
items before. -/
theorem exists_of_foldlM_eq_error {step : σ → α → Except ε σ} {start : σ} {items : List α}
    {error : ε} (refused : items.foldlM step start = .error error) :
    ∃ before item after state, items = before ++ item :: after
      ∧ before.foldlM step start = .ok state ∧ step state item = .error error := by
  induction items generalizing start with
  | nil => cases refused
  | cons item rest ih =>
    rw [List.foldlM_cons] at refused
    rcases bind_eq_error.1 refused with first | ⟨middle, stepped, later⟩
    · exact ⟨[], item, rest, start, rfl, rfl, first⟩
    · obtain ⟨before, other, after, state, rfl, run, stopped⟩ := ih later
      exact ⟨item :: before, other, after, state, rfl,
        foldlM_cons_eq_ok.2 ⟨middle, stepped, run⟩, stopped⟩

/-- All errors of a computation have a property. -/
def OnlyErrors (property : ε → Prop) (result : Except ε α) : Prop :=
  ∀ error, result = .error error → property error

namespace OnlyErrors

variable {property : ε → Prop}

/-- A computation that succeeds has no errors. -/
theorem ok (value : α) : OnlyErrors property (.ok value) := nofun

/-- A computation that fails has one error. -/
theorem error {error : ε} (holds : property error) :
    OnlyErrors property (.error error : Except ε α) := by
  rintro _ ⟨⟩
  exact holds

/-- A sequence of computations has the errors of its parts. -/
theorem bind {result : Except ε α} {next : α → Except ε β} (first : OnlyErrors property result)
    (second : ∀ value, OnlyErrors property (next value)) :
    OnlyErrors property (result >>= next) := by
  intro error refused
  rcases bind_eq_error.1 refused with atFirst | ⟨value, _, atSecond⟩
  · exact first error atFirst
  · exact second value error atSecond

theorem bind_pure {result : Except ε α} {change : α → β} (only : OnlyErrors property result) :
    OnlyErrors property (do return change (← result)) :=
  only.bind fun value => .ok (change value)

/-- A loop has the errors of its steps. -/
theorem mapM {step : α → Except ε β} {items : List α}
    (each : ∀ item ∈ items, OnlyErrors property (step item)) :
    OnlyErrors property (items.mapM step) := by
  intro error refused
  obtain ⟨before, item, after, rfl, _, stopped⟩ := exists_of_mapM_eq_error refused
  apply each item _ error stopped
  exact List.mem_append_right _ List.mem_cons_self

end OnlyErrors

/-- Two computations that are refused alike or give related results. -/
inductive SameOutcome {τ : Type} (related : σ → τ → Prop) : Except ε σ → Except ε τ → Prop where
  | refused (error : ε) : SameOutcome related (.error error) (.error error)
  | given {first : σ} {second : τ} (holds : related first second) :
      SameOutcome related (.ok first) (.ok second)

namespace SameOutcome

variable {τ σ' τ' : Type} {related : σ → τ → Prop} {relatedAfter : σ' → τ' → Prop}

/-- If one computation fails, the other one fails with the same error. -/
theorem eq_error {second : Except ε τ} {error : ε}
    (same : SameOutcome related (.error error) second) : second = .error error := by
  cases same
  rfl

/-- If one computation succeeds, so does the other, with a related value. -/
theorem exists_ok {first : σ} {second : Except ε τ}
    (same : SameOutcome related (.ok first) second) :
    ∃ value, second = .ok value ∧ related first value := by
  cases same with
  | given holds => exact ⟨_, rfl, holds⟩

/-- Outcomes that are the same up to a relation are so up to any weaker one. -/
theorem mono {weaker : σ → τ → Prop} {first : Except ε σ} {second : Except ε τ}
    (same : SameOutcome related first second)
    (implies : ∀ value other, related value other → weaker value other) :
    SameOutcome weaker first second := by
  cases same with
  | refused error => exact .refused error
  | given holds => exact .given (implies _ _ holds)

/-- What both runs give may be used in what follows. -/
theorem attach {first : Except ε σ} {second : Except ε τ}
    (same : SameOutcome related first second) : SameOutcome
      (fun value other => first = .ok value ∧ second = .ok other ∧ related value other)
      first second := by
  cases same with
  | refused error => exact .refused error
  | given holds => exact .given ⟨rfl, rfl, holds⟩

/-- Sequences of computations have the same outcome if their parts have. -/
theorem bind {first : Except ε σ} {second : Except ε τ} {next : σ → Except ε σ'}
    {otherNext : τ → Except ε τ'} (same : SameOutcome related first second)
    (sameNext : ∀ value other, related value other →
      SameOutcome relatedAfter (next value) (otherNext other)) :
    SameOutcome relatedAfter (first >>= next) (second >>= otherNext) := by
  cases same with
  | refused error => exact .refused error
  | given holds => exact sameNext _ _ holds

/-- If the second result can be read off the first one, both are equal once it is. -/
theorem bind_pure_eq {first : Except ε σ} {second : Except ε τ} {view : σ → τ}
    (same : SameOutcome related first second)
    (reads : ∀ value other, related value other → view value = other) :
    (do return view (← first)) = second := by
  cases same with
  | refused error => rfl
  | given holds => exact congrArg Except.ok (reads _ _ holds)

/-- Runs in lock step, the second one over the items that the first one takes, each
of them moved. -/
theorem foldlM_map {step : σ → α → Except ε σ} {otherStep : τ → β → Except ε τ} {move : α → β}
    (sameStep : ∀ state other item, related state other →
      SameOutcome related (step state item) (otherStep other (move item)))
    {state : σ} {other : τ} (start : related state other) (items : List α) :
    SameOutcome related (items.foldlM step state) ((items.map move).foldlM otherStep other) := by
  induction items generalizing state other with
  | nil => exact .given start
  | cons item rest ih =>
    rw [List.map_cons, List.foldlM_cons, List.foldlM_cons]
    exact (sameStep state other item start).bind fun next otherNext holds => ih holds

end SameOutcome

end UnitLinker
