import LiteralAudit.Audit.Session
import LiteralAudit.Proofs.Audit.MemoAccounting

/-!
# Lookups in a table that grows

Struct types are added to a table while they are looked up in it, and the memo of their facts is
never cleared. It stays right because a table only grows at its end: an index that a lookup has
found leads to the same type ever after, and that an index leads to no type is not kept in the memo.
-/

namespace LiteralAudit

namespace Session

/-- What is done with the struct types of a session. -/
inductive TypeStep where
  | insert (record : RecordType)
  | get (type : Nat)

namespace TypeStep

/-- The type that a step adds. -/
def record? : TypeStep → Option RecordType
  | insert record => some record
  | get _ => none

def isGet : TypeStep → Bool
  | insert _ => false
  | get _ => true

end TypeStep

/-- What a step answers: the index of a new type, or the facts of the type of an index. -/
inductive TypeAnswer where
  | index (type : Nat)
  | info (found : Option StructInfo)
  deriving DecidableEq

def takeStep (session : Session) : TypeStep → TypeAnswer × Session
  | .insert record =>
      let (type, types) := session.types.insert record
      (.index type, { session with types })
  | .get type =>
      let (found, after) := session.info? type
      (.info found, after)

def takeSteps (session : Session) (steps : List TypeStep) : Session :=
  steps.foldl (fun session step => (session.takeStep step).2) session

end Session

/-! ## What the table alone says -/

namespace TypeTable

open Session (TypeStep)

def info? (table : TypeTable) (type : Nat) : Option StructInfo :=
  (table.get? type).map .ofRecord

/-- A table with the types that some steps add. -/
def grown (table : TypeTable) (steps : List TypeStep) : TypeTable :=
  ⟨table.types ++ steps.filterMap TypeStep.record?⟩

/-- The lookups among some steps, each with what the table says at that moment. -/
def lookups (table : TypeTable) : List TypeStep → List (Nat × Option StructInfo)
  | [] => []
  | .insert record :: further => lookups (table.insert record).2 further
  | .get type :: further => (type, table.info? type) :: lookups table further

variable (table : TypeTable)

theorem grown_nil : table.grown [] = table := by
  rw [grown, List.filterMap_nil, List.append_nil]

theorem grown_insert (record : RecordType) (further : List TypeStep) :
    table.grown (.insert record :: further) = (table.insert record).2.grown further := by
  simp [grown, insert, TypeStep.record?]

theorem grown_get (type : Nat) (further : List TypeStep) :
    table.grown (.get type :: further) = table.grown further := by
  rfl

theorem grown_append (front back : List TypeStep) :
    table.grown (front ++ back) = (table.grown front).grown back := by
  simp [grown]

/-- Every lookup is answered once. -/
theorem length_lookups (steps : List TypeStep) :
    (table.lookups steps).length = steps.countP TypeStep.isGet := by
  induction steps generalizing table with
  | nil => rfl
  | cons step further inductionHypothesis =>
      cases step with
      | insert record =>
          rw [lookups, inductionHypothesis, List.countP_cons_of_neg Bool.false_ne_true]
      | get type =>
          rw [lookups, List.length_cons, inductionHypothesis, List.countP_cons_of_pos rfl]

variable {table}

/-- What a table knows stays as it is. -/
theorem get?_grown {type : Nat} {record : RecordType} (known : table.get? type = some record)
    (steps : List TypeStep) :
    (table.grown steps).get? type = some record := by
  obtain ⟨within, _⟩ := List.getElem?_eq_some_iff.mp known
  rw [get?, grown, List.getElem?_append_left within]
  exact known

theorem get?_insert (table : TypeTable) (record : RecordType) :
    (table.insert record).2.get? table.size = some record :=
  List.getElem?_concat_length

/-- A record that is known stays known under its index when the table grows. -/
theorem info?_insert {type : Nat} {info : StructInfo} (known : table.info? type = some info)
    (record : RecordType) :
    (table.insert record).2.info? type = some info := by
  obtain ⟨found, at?, rfl⟩ := Option.map_eq_some_iff.mp known
  have kept := get?_grown at? [.insert record]
  rw [grown_insert, grown_nil] at kept
  rw [info?, kept]
  rfl

end TypeTable

/-! ## Steps -/

namespace Session

/-- A session whose memo of struct types holds nothing but what its table says, and accounts for
some lookups. -/
structure Follows (session : Session) (types : TypeTable)
    (lookups : List (Nat × Option StructInfo)) : Prop where
  sameTypes : session.types = types
  agrees : session.infos.Agrees types.info?
  accounts : session.infos.Accounts lookups

theorem follows_new (settings : Settings) (types : TypeTable) :
    (new settings types).Follows types [] where
  sameTypes := rfl
  agrees := Memo.agrees_empty _
  accounts := Memo.accounts_empty

namespace Follows

variable {session : Session} {types : TypeTable} {lookups : List (Nat × Option StructInfo)}

theorem info?_value (follows : session.Follows types lookups) (type : Nat) :
    (session.info? type).1 = types.info? type := by
  obtain rfl := follows.sameTypes
  exact follows.agrees.fetch?_value type

theorem insert (follows : session.Follows types lookups) (record : RecordType) :
    (session.takeStep (.insert record)).2.Follows (types.insert record).2 lookups where
  sameTypes := by
    rw [← follows.sameTypes]
    rfl
  agrees := by
    intro type info known
    exact TypeTable.info?_insert (follows.agrees type info known) record
  accounts := follows.accounts

theorem get (follows : session.Follows types lookups) (type : Nat) :
    (session.takeStep (.get type)).2.Follows types (lookups ++ [(type, types.info? type)]) where
  sameTypes := follows.sameTypes
  agrees := by
    obtain rfl := follows.sameTypes
    exact follows.agrees.fetch? type
  accounts := by
    obtain rfl := follows.sameTypes
    have counted := follows.accounts.fetch? type fun _ => session.types.info? type
    rw [follows.agrees.fetch?_value type] at counted
    exact counted

/-- Each step keeps to the table at its moment, so a whole run does. -/
theorem takeSteps (follows : session.Follows types lookups) (steps : List TypeStep) :
    (session.takeSteps steps).Follows (types.grown steps) (lookups ++ types.lookups steps) := by
  induction steps generalizing session types lookups with
  | nil =>
      rw [TypeTable.grown_nil, TypeTable.lookups, List.append_nil]
      exact follows
  | cons step further inductionHypothesis =>
      cases step with
      | insert record =>
          rw [TypeTable.grown_insert, TypeTable.lookups]
          exact inductionHypothesis (follows.insert record)
      | get type =>
          rw [TypeTable.grown_get, TypeTable.lookups, List.append_cons]
          exact inductionHypothesis (follows.get type)

end Follows

theorem follows_takeSteps (settings : Settings) (types : TypeTable) (steps : List TypeStep) :
    ((new settings types).takeSteps steps).Follows (types.grown steps) (types.lookups steps) :=
  (follows_new settings types).takeSteps steps

/-- After any steps, a new type gets the next index, under which exactly this type is found after
any further steps. To look up an index gives the facts of the type that the table has there at that
moment, and nothing exactly where the table is not that long. The memo holds an answer for every
index that was found, each other lookup of such an index was a hit, and each lookup that found
nothing was a miss. -/
theorem takeSteps_follows_table (settings : Settings) (types : TypeTable)
    (steps : List TypeStep) :
    (∀ record,
      (((new settings types).takeSteps steps).takeStep (.insert record)).1 =
        .index (types.grown steps).size ∧
      ∀ later,
        (((new settings types).takeSteps (steps ++ .insert record :: later)).takeStep
          (.get (types.grown steps).size)).1 = .info (some (.ofRecord record))) ∧
    (∀ type,
      (((new settings types).takeSteps steps).takeStep (.get type)).1 =
        .info (((types.grown steps).get? type).map .ofRecord) ∧
      ((((new settings types).takeSteps steps).takeStep (.get type)).1 = .info none ↔
        (types.grown steps).size ≤ type)) ∧
    ((new settings types).takeSteps steps).infos.size =
      {type | ∃ info, (type, some info) ∈ types.lookups steps}.ncard ∧
    ((new settings types).takeSteps steps).infos.misses =
      ((new settings types).takeSteps steps).infos.size +
        (types.lookups steps).countP (·.2.isNone) ∧
    ((new settings types).takeSteps steps).infos.hits +
        ((new settings types).takeSteps steps).infos.misses =
      steps.countP TypeStep.isGet := by
  have follows := follows_takeSteps settings types steps
  have answer : ∀ type,
      (((new settings types).takeSteps steps).takeStep (.get type)).1 =
        .info ((types.grown steps).info? type) := by
    intro type
    exact congrArg TypeAnswer.info (follows.info?_value type)
  refine ⟨?inserted, ?found, follows.accounts.size_eq, follows.accounts.misses, ?total⟩
  case inserted =>
    intro record
    refine ⟨?_, ?_⟩
    · rw [← follows.sameTypes]
      rfl
    · intro later
      have known := TypeTable.get?_grown ((types.grown steps).get?_insert record) later
      have laterFollows := follows_takeSteps settings types (steps ++ .insert record :: later)
      rw [TypeTable.grown_append, TypeTable.grown_insert] at laterFollows
      refine congrArg TypeAnswer.info ((laterFollows.info?_value _).trans ?_)
      rw [TypeTable.info?, known]
      rfl
  case found =>
    intro type
    refine ⟨answer type, ?_⟩
    rw [answer type, TypeAnswer.info.injEq, TypeTable.info?, Option.map_eq_none_iff,
      TypeTable.get?_eq_none_iff]
  case total =>
    rw [follows.accounts.total, TypeTable.length_lookups]

end Session

end LiteralAudit
