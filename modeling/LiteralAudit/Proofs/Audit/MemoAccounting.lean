import LiteralAudit.Proofs.Audit.MemoAgreement
import Mathlib.Data.Set.Card

/-!
# What the counters of a memo say

A memo accounts for some lookups when it knows exactly the keys for which an answer was found, each
of them once, and has counted the lookups as hits and misses: an answer that is found a second time
is a hit, and a lookup that finds nothing is a miss every time. To fetch an answer adds one lookup
to those that a memo accounts for.
-/

namespace LiteralAudit.Memo

variable {key value : Type}

/-- The keys for which an answer is known. -/
def keys (memo : Memo key value) : List key :=
  memo.entries.map (·.1)

@[simp]
theorem keys_hit (memo : Memo key value) : memo.hit.keys = memo.keys := by
  rfl

@[simp]
theorem keys_miss (memo : Memo key value) : memo.miss.keys = memo.keys := by
  rfl

@[simp]
theorem keys_keep (memo : Memo key value) (sought : key) (answer : value) :
    (memo.keep sought answer).keys = sought :: memo.keys := by
  rfl

@[simp]
theorem length_keys (memo : Memo key value) : memo.keys.length = memo.size := by
  rw [keys, List.length_map, size]

/-- What has become of a memo by some lookups, given with their answers. -/
structure Accounts (memo : Memo key value) (lookups : List (key × Option value)) : Prop where
  distinct : memo.keys.Nodup
  known : ∀ sought, sought ∈ memo.keys ↔ ∃ answer, (sought, some answer) ∈ lookups
  misses : memo.misses = memo.size + lookups.countP (·.2.isNone)
  total : memo.hits + memo.misses = lookups.length

theorem accounts_empty : (empty : Memo key value).Accounts [] where
  distinct := List.nodup_nil
  known := by simp [keys, empty]
  misses := rfl
  total := rfl

namespace Accounts

variable {memo : Memo key value} {lookups : List (key × Option value)}

/-- The number of answers is that of the different keys for which one was found. -/
theorem size_eq (accounts : memo.Accounts lookups) :
    memo.size = {sought | ∃ answer, (sought, some answer) ∈ lookups}.ncard := by
  classical
  have sameKeys :
      {sought | ∃ answer, (sought, some answer) ∈ lookups} = (memo.keys.toFinset : Set key) := by
    ext sought
    rw [Set.mem_ofPred_eq, List.coe_toFinset, Set.mem_ofPred_eq, accounts.known]
  rw [sameKeys, Set.ncard_coe_finset, List.toFinset_card_of_nodup accounts.distinct, length_keys]

/-! ## One more lookup -/

theorem hit (accounts : memo.Accounts lookups) {sought : key} (member : sought ∈ memo.keys)
    (answer : value) :
    memo.hit.Accounts (lookups ++ [(sought, some answer)]) where
  distinct := accounts.distinct
  known := by
    intro other
    obtain ⟨earlier, found⟩ := (accounts.known sought).mp member
    rw [keys_hit, accounts.known]
    constructor
    · rintro ⟨given, before⟩
      exact ⟨given, List.mem_append_left _ before⟩
    · rintro ⟨given, within⟩
      rcases List.mem_append.mp within with before | last
      · exact ⟨given, before⟩
      · obtain ⟨rfl, -⟩ := Prod.mk.inj (List.mem_singleton.mp last)
        exact ⟨earlier, found⟩
  misses := by
    simpa [Memo.hit, size] using accounts.misses
  total := by
    have total := accounts.total
    simp only [Memo.hit, List.length_append, List.length_singleton]
    omega

theorem keep (accounts : memo.Accounts lookups) {sought : key} (unknown : sought ∉ memo.keys)
    (answer : value) :
    (memo.miss.keep sought answer).Accounts (lookups ++ [(sought, some answer)]) where
  distinct := by
    rw [keys_keep, keys_miss]
    exact List.nodup_cons.mpr ⟨unknown, accounts.distinct⟩
  known := by
    intro other
    rw [keys_keep, keys_miss, List.mem_cons, accounts.known]
    constructor
    · rintro (rfl | ⟨given, before⟩)
      · exact ⟨answer, List.mem_append_right _ (List.mem_singleton_self _)⟩
      · exact ⟨given, List.mem_append_left _ before⟩
    · rintro ⟨given, within⟩
      rcases List.mem_append.mp within with before | last
      · exact Or.inr ⟨given, before⟩
      · exact Or.inl (Prod.mk.inj (List.mem_singleton.mp last)).1
  misses := by
    have misses := accounts.misses
    simp only [Memo.keep, Memo.miss, size, List.length_cons, List.countP_append,
      List.countP_singleton] at misses ⊢
    simp only [Option.isNone_some, Bool.false_eq_true, if_false]
    omega
  total := by
    have total := accounts.total
    simp only [Memo.keep, Memo.miss, List.length_append, List.length_singleton]
    omega

theorem miss (accounts : memo.Accounts lookups) (sought : key) :
    memo.miss.Accounts (lookups ++ [(sought, none)]) where
  distinct := accounts.distinct
  known := by
    intro other
    rw [keys_miss, accounts.known]
    simp
  misses := by
    have misses := accounts.misses
    simp only [Memo.miss, size, List.countP_append, List.countP_singleton] at misses ⊢
    simp only [Option.isNone_none, if_true]
    omega
  total := by
    have total := accounts.total
    simp only [Memo.miss, List.length_append, List.length_singleton]
    omega

end Accounts

section Lawful

variable [BEq key] [LawfulBEq key] {memo : Memo key value} {lookups : List (key × Option value)}

theorem mem_keys_of_find? {sought : key} {answer : value}
    (known : memo.find? sought = some answer) :
    sought ∈ memo.keys := by
  obtain ⟨before, after, order, -⟩ := List.lookup_eq_some_iff.mp known
  rw [keys, order]
  simp

theorem notMem_keys_of_find? {sought : key} (unknown : memo.find? sought = none) :
    sought ∉ memo.keys := by
  intro member
  obtain ⟨⟨_, answer⟩, inside, rfl⟩ := List.mem_map.mp member
  have differs := List.lookup_eq_none_iff.mp unknown _ inside
  simp at differs

/-- Every fetch is counted once, as a hit if its key was asked for with an answer before, else as a
miss. -/
theorem Accounts.fetch? (accounts : memo.Accounts lookups) (sought : key)
    (compute : Unit → Option value) :
    (memo.fetch? sought compute).2.Accounts
      (lookups ++ [(sought, (memo.fetch? sought compute).1)]) := by
  unfold Memo.fetch?
  cases known : memo.find? sought with
  | some answer => exact accounts.hit (mem_keys_of_find? known) answer
  | none =>
      cases compute () with
      | none => exact accounts.miss sought
      | some answer => exact accounts.keep (notMem_keys_of_find? known) answer

theorem Accounts.fetch (accounts : memo.Accounts lookups) (sought : key)
    (compute : Unit → value) :
    (memo.fetch sought compute).2.Accounts
      (lookups ++ [(sought, some (memo.fetch sought compute).1)]) := by
  unfold Memo.fetch
  cases known : memo.find? sought with
  | some answer => exact accounts.hit (mem_keys_of_find? known) answer
  | none => exact accounts.keep (notMem_keys_of_find? known) (compute ())

end Lawful

end LiteralAudit.Memo
