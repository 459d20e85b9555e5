import LiteralAudit.Audit.Memo

/-!
# Memos that agree with what they remember

A memo agrees with a partial function when every answer that it knows is the one that the function
gives. To fetch an answer that the same function computes gives the answer of the function, whatever
the memo holds, and leaves a memo that agrees with it as well.
-/

namespace LiteralAudit.Memo

variable {key value : Type} [BEq key]

@[simp]
theorem find?_empty (sought : key) :
    (empty : Memo key value).find? sought = none := by
  rfl

@[simp]
theorem find?_hit (memo : Memo key value) (sought : key) :
    memo.hit.find? sought = memo.find? sought := by
  rfl

@[simp]
theorem find?_miss (memo : Memo key value) (sought : key) :
    memo.miss.find? sought = memo.find? sought := by
  rfl

theorem find?_keep (memo : Memo key value) (kept sought : key) (answer : value) :
    (memo.keep kept answer).find? sought =
      if sought == kept then some answer else memo.find? sought := by
  simp only [find?, keep, List.lookup_cons]
  cases sought == kept with
  | true => rfl
  | false => rfl

/-- Every answer that the memo knows is the one that a partial function gives. -/
def Agrees (memo : Memo key value) (compute : key → Option value) : Prop :=
  ∀ sought answer, memo.find? sought = some answer → compute sought = some answer

theorem agrees_empty (compute : key → Option value) :
    (empty : Memo key value).Agrees compute := by
  intro sought answer known
  simp at known

theorem Agrees.hit {memo : Memo key value} {compute : key → Option value}
    (agrees : memo.Agrees compute) :
    memo.hit.Agrees compute :=
  agrees

theorem Agrees.miss {memo : Memo key value} {compute : key → Option value}
    (agrees : memo.Agrees compute) :
    memo.miss.Agrees compute :=
  agrees

/-- A memo that agrees with a computation answers as the computation does. -/
theorem Agrees.fetch?_value {memo : Memo key value} {compute : key → Option value}
    (agrees : memo.Agrees compute) (sought : key) :
    (memo.fetch? sought fun _ => compute sought).1 = compute sought := by
  unfold fetch?
  cases known : memo.find? sought with
  | some answer => exact (agrees sought answer known).symm
  | none =>
      cases computed : compute sought with
      | none => rfl
      | some answer => rfl

theorem Agrees.fetch_value {memo : Memo key value} {compute : key → value}
    (agrees : memo.Agrees fun sought => some (compute sought)) (sought : key) :
    (memo.fetch sought fun _ => compute sought).1 = compute sought := by
  unfold fetch
  cases known : memo.find? sought with
  | some answer => exact (Option.some.inj (agrees sought answer known)).symm
  | none => rfl

section Lawful

variable [LawfulBEq key]

theorem Agrees.keep {memo : Memo key value} {compute : key → Option value}
    (agrees : memo.Agrees compute) {kept : key} {computed : value}
    (computes : compute kept = some computed) :
    (memo.keep kept computed).Agrees compute := by
  intro sought answer known
  rw [find?_keep] at known
  by_cases same : sought == kept
  · rw [if_pos same] at known
    rw [eq_of_beq same, computes]
    exact known
  · rw [if_neg same] at known
    exact agrees sought answer known

/-- A fetch keeps nothing but what the computation gives. -/
theorem Agrees.fetch? {memo : Memo key value} {compute : key → Option value}
    (agrees : memo.Agrees compute) (sought : key) :
    (memo.fetch? sought fun _ => compute sought).2.Agrees compute := by
  unfold Memo.fetch?
  cases known : memo.find? sought with
  | some answer => exact agrees.hit
  | none =>
      cases computed : compute sought with
      | none => exact agrees.miss
      | some answer => exact agrees.miss.keep computed

theorem Agrees.fetch {memo : Memo key value} {compute : key → value}
    (agrees : memo.Agrees fun sought => some (compute sought)) (sought : key) :
    (memo.fetch sought fun _ => compute sought).2.Agrees fun sought => some (compute sought) := by
  unfold Memo.fetch
  cases known : memo.find? sought with
  | some answer => exact agrees.hit
  | none => exact agrees.miss.keep rfl

end Lawful

end LiteralAudit.Memo
