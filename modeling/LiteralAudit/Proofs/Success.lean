import Mathlib.Data.List.Forall2

/-!
# Computations that succeed

Where a computation of several steps succeeds, each of its steps does. Where it fails, the first of
its steps that fails says why.
-/

namespace LiteralAudit

theorem bind_eq_ok
    {error alpha beta : Type} {first : Except error alpha} {next : alpha → Except error beta}
    {answer : beta} (succeeds : first >>= next = .ok answer) :
    ∃ found, first = .ok found ∧ next found = .ok answer := by
  cases first with
  | error cause => cases succeeds
  | ok found => exact ⟨found, rfl, succeeds⟩

theorem map_eq_ok
    {error alpha beta : Type} {first : Except error alpha} {convert : alpha → beta}
    {answer : beta} (succeeds : first.map convert = .ok answer) :
    ∃ found, first = .ok found ∧ convert found = answer := by
  cases first with
  | error cause => cases succeeds
  | ok found => exact ⟨found, rfl, Except.ok.inj succeeds⟩

theorem map_eq_ok_iff
    {error alpha beta : Type} {first : Except error alpha} {convert : alpha → beta}
    {answer : beta} :
    first.map convert = .ok answer ↔ ∃ found, first = .ok found ∧ convert found = answer := by
  constructor
  · exact map_eq_ok
  · rintro ⟨found, rfl, rfl⟩
    rfl

theorem map_eq_error_iff
    {error alpha beta : Type} {first : Except error alpha} {convert : alpha → beta}
    {cause : error} :
    first.map convert = .error cause ↔ first = .error cause := by
  cases first with
  | error found => rw [Except.map, Except.error.injEq, Except.error.injEq]
  | ok found => exact ⟨nofun, nofun⟩

theorem map_succeeds_iff
    {error alpha beta : Type} {first : Except error alpha} {convert : alpha → beta} :
    (∃ answer, first.map convert = .ok answer) ↔ ∃ found, first = .ok found := by
  simp only [map_eq_ok_iff]
  constructor
  · rintro ⟨_, found, succeeds, _⟩
    exact ⟨found, succeeds⟩
  · rintro ⟨found, succeeds⟩
    exact ⟨_, found, succeeds, rfl⟩

theorem fails_iff {error alpha : Type} {answer : Except error alpha} :
    (∃ cause, answer = .error cause) ↔ ¬ ∃ found, answer = .ok found := by
  cases answer with
  | error cause => simp
  | ok found => simp

theorem mapError_eq_ok
    {error other alpha : Type} {first : Except error alpha} {wrap : error → other} {answer : alpha}
    (succeeds : first.mapError wrap = .ok answer) :
    first = .ok answer := by
  cases first with
  | error cause => cases succeeds
  | ok found =>
      cases succeeds
      rfl

/-! ## One computation for each item of a list -/

section Items

variable {error alpha beta : Type} {compute : alpha → Except error beta} {items : List alpha}

theorem mapM_eq_ok_iff {answers : List beta} :
    items.mapM compute = .ok answers ↔
      List.Forall₂ (fun item answer => compute item = .ok answer) items answers := by
  induction items generalizing answers with
  | nil =>
      rw [List.mapM_nil, List.forall₂_nil_left_iff]
      exact ⟨fun same => (Except.ok.inj same).symm, fun same => congrArg Except.ok same.symm⟩
  | cons item further inductionHypothesis =>
      rw [List.mapM_cons, List.forall₂_cons_left_iff]
      constructor
      · intro succeeds
        obtain ⟨answer, head, rest⟩ := bind_eq_ok succeeds
        obtain ⟨later, tail, joined⟩ := bind_eq_ok rest
        exact ⟨answer, later, head, inductionHypothesis.mp tail, (Except.ok.inj joined).symm⟩
      · rintro ⟨answer, later, head, tail, rfl⟩
        rw [head, inductionHypothesis.mpr tail]
        rfl

theorem mapM_eq_some_iff {found? : alpha → Option beta} {answers : List beta} :
    items.mapM found? = some answers ↔
      List.Forall₂ (fun item answer => found? item = some answer) items answers := by
  induction items generalizing answers with
  | nil =>
      rw [List.mapM_nil, List.forall₂_nil_left_iff]
      exact ⟨fun same => (Option.some.inj same).symm, fun same => congrArg some same.symm⟩
  | cons item further inductionHypothesis =>
      rw [List.mapM_cons, List.forall₂_cons_left_iff]
      constructor
      · intro succeeds
        obtain ⟨answer, head, rest⟩ := Option.bind_eq_some_iff.mp succeeds
        obtain ⟨later, tail, joined⟩ := Option.bind_eq_some_iff.mp rest
        exact ⟨answer, later, head, inductionHypothesis.mp tail, (Option.some.inj joined).symm⟩
      · rintro ⟨answer, later, head, tail, rfl⟩
        rw [head, inductionHypothesis.mpr tail]
        rfl

theorem mapM_succeeds_iff :
    (∃ answers, items.mapM compute = .ok answers) ↔
      ∀ item ∈ items, ∃ answer, compute item = .ok answer := by
  simp only [mapM_eq_ok_iff]
  induction items with
  | nil =>
      constructor
      · intro _ item member
        cases member
      · intro _
        exact ⟨[], List.Forall₂.nil⟩
  | cons item further inductionHypothesis =>
      rw [List.forall_mem_cons, ← inductionHypothesis]
      constructor
      · rintro ⟨_, _ | ⟨head, tail⟩⟩
        exact ⟨⟨_, head⟩, ⟨_, tail⟩⟩
      · rintro ⟨⟨answer, head⟩, answers, tail⟩
        exact ⟨answer :: answers, List.Forall₂.cons head tail⟩

/-- A list of computations fails by its first item that fails. -/
theorem exists_first_error {cause : error} (fails : items.mapM compute = .error cause) :
    ∃ before item after, items = before ++ item :: after ∧
      (∀ earlier ∈ before, ∃ answer, compute earlier = .ok answer) ∧
      compute item = .error cause := by
  induction items with
  | nil => cases fails
  | cons item further inductionHypothesis =>
      rw [List.mapM_cons] at fails
      cases head : compute item with
      | error found =>
          rw [head] at fails
          cases fails
          exact ⟨[], item, further, rfl, List.forall_mem_nil _, head⟩
      | ok answer =>
          cases tail : further.mapM compute with
          | error found =>
              rw [head, tail] at fails
              cases fails
              obtain ⟨before, other, after, rfl, succeed, otherFails⟩ := inductionHypothesis tail
              exact ⟨item :: before, other, after, rfl,
                List.forall_mem_cons.mpr ⟨⟨answer, head⟩, succeed⟩, otherFails⟩
          | ok answers =>
              rw [head, tail] at fails
              cases fails

theorem mapM_eq_error_iff {cause : error} :
    items.mapM compute = .error cause ↔
      ∃ before item after, items = before ++ item :: after ∧
        (∀ earlier ∈ before, ∃ answer, compute earlier = .ok answer) ∧
        compute item = .error cause := by
  constructor
  · exact exists_first_error
  · rintro ⟨before, item, after, rfl, succeed, fails⟩
    obtain ⟨answers, found⟩ := mapM_succeeds_iff.mpr succeed
    rw [List.mapM_append, found, List.mapM_cons, fails]
    rfl

end Items

end LiteralAudit
