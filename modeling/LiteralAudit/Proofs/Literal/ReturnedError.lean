import LiteralAudit.Literal.Exemption
import Mathlib.Data.List.Nodup

/-!
# Errors returned beside a literal

An empty literal is in order when it is returned with an error. The check compares identifiers of
nodes and walks over two lists at once, the returned expressions and the declared results, of which
either may end first. In terms of positions it asks for an expression at another position than that
of the literal, where the innermost function declares an error and which is no bare `nil`. So what
is known of the position of the literal itself has no influence.
-/

namespace LiteralAudit

/-! ## Positions of a return statement -/

/-- An expression other than a bare `nil` stands where an error is declared. -/
def SetsErrorAt (results : List ReturnValue) (declared : List TypeRef) (position : Nat) : Prop :=
  ∃ result slot, results[position]? = some result ∧ declared[position]? = some slot ∧
    result.type.isUntypedNil = false ∧ slot.isErrorLike = true

/-- What stands at other positions does not matter for a position. -/
theorem setsErrorAt_set_iff {results : List ReturnValue} {declared : List TypeRef}
    {position changed : Nat} (different : position ≠ changed) (result : ReturnValue) :
    SetsErrorAt (results.set changed result) declared position ↔
      SetsErrorAt results declared position := by
  rw [SetsErrorAt, SetsErrorAt, List.getElem?_set_ne (Ne.symm different)]

namespace LiteralSite

variable {site : LiteralSite} {results : List ReturnValue} {declared : List TypeRef}

theorem isErrorBeside_iff {slot? : Option TypeRef} {result : ReturnValue} :
    site.isErrorBeside slot? result = true ↔
      (∃ slot, slot? = some slot ∧ result.type.isUntypedNil = false ∧ slot.isErrorLike = true) ∧
        result.node ≠ site.id := by
  cases slot? with
  | none => simp [isErrorBeside]
  | some slot => simp [isErrorBeside]

/-- The walk over both lists asks for a position that sets an error and is not that of the literal.
-/
theorem hasErrorBeside_iff :
    site.hasErrorBeside results declared = true ↔
      ∃ position, SetsErrorAt results declared position ∧
        results[position]?.map (·.node) ≠ some site.id := by
  -- Dropping the first of both lists moves every position by one.
  induction results generalizing declared with
  | nil => simp [hasErrorBeside, SetsErrorAt]
  | cons result further inductionHypothesis =>
      have first : site.isErrorBeside declared.head? result = true ↔
          SetsErrorAt (result :: further) declared 0 ∧
            (result :: further)[0]?.map (·.node) ≠ some site.id := by
        rw [isErrorBeside_iff, List.head?_eq_getElem?]
        simp [SetsErrorAt]
      have later : ∀ position,
          SetsErrorAt (result :: further) declared (position + 1) ↔
            SetsErrorAt further declared.tail position := by
        intro position
        simp [SetsErrorAt]
      rw [hasErrorBeside, Bool.or_eq_true, first, inductionHypothesis]
      constructor
      · rintro (atFirst | ⟨position, sets, other⟩)
        · exact ⟨0, atFirst⟩
        · exact ⟨position + 1, (later position).mpr sets, by simpa using other⟩
      · rintro ⟨position, sets, other⟩
        cases position with
        | zero => exact Or.inl ⟨sets, other⟩
        | succ position =>
            exact Or.inr ⟨position, (later position).mp sets, by simpa using other⟩

/-! ## Nodes around a returned literal -/

/-- Of some nodes, from the file inward, the innermost function declares these results. -/
def DeclaredAround (nodes : List Node) (declared : List TypeRef) : Prop :=
  ∃ outer function inner, nodes = outer ++ function :: inner ∧
    function.kind.declaredResults? = some declared ∧
    ∀ node ∈ inner, node.kind.declaredResults? = none

/-- The walk outward stops at the innermost function. -/
theorem declaredResults?_eq_some_iff :
    site.declaredResults? = some declared ↔ DeclaredAround site.ancestors declared := by
  unfold declaredResults? enclosingFunction? outward
  rw [Option.bind_eq_some_iff]
  simp only [List.find?_eq_some_iff_append]
  constructor
  · rintro ⟨function, ⟨-, inner, outer, split, others⟩, declares⟩
    refine ⟨outer.reverse, function, inner.reverse, ?_, declares, ?_⟩
    · rw [← List.reverse_reverse site.ancestors, split]
      simp
    · intro node member
      simpa using others node (List.mem_reverse.mp member)
  · rintro ⟨outer, function, inner, split, declares, others⟩
    have reversed : site.ancestors.reverse = inner.reverse ++ function :: outer.reverse := by
      simp [split]
    refine ⟨function, ⟨by simp [declares], inner.reverse, outer.reverse, reversed, ?_⟩, declares⟩
    intro node member
    simp [others node (List.mem_reverse.mp member)]

theorem DeclaredAround.unique {others : List TypeRef}
    (one : DeclaredAround site.ancestors declared) (other : DeclaredAround site.ancestors others) :
    declared = others := by
  rw [← declaredResults?_eq_some_iff] at one other
  exact Option.some.inj (one.symm.trans other)

/-- Nodes inside that are no functions make no difference. -/
theorem declaredAround_concat {nodes : List Node} {node : Node}
    (noFunction : node.kind.declaredResults? = none) :
    DeclaredAround (nodes ++ [node]) declared ↔ DeclaredAround nodes declared := by
  constructor
  · rintro ⟨outer, function, inner, split, declares, others⟩
    rcases List.eq_nil_or_concat' inner with rfl | ⟨front, last, rfl⟩
    · obtain ⟨-, same⟩ := List.append_inj' split rfl
      rw [← (List.cons.inj same).1, noFunction] at declares
      cases declares
    · rw [← List.cons_append, ← List.append_assoc] at split
      obtain ⟨rest, -⟩ := List.append_inj' split rfl
      exact ⟨outer, function, front, rest, declares,
        fun other member => others other (List.mem_append_left _ member)⟩
  · rintro ⟨outer, function, inner, rfl, declares, others⟩
    refine ⟨outer, function, inner ++ [node], by simp, declares, ?_⟩
    intro other member
    rcases List.mem_append.mp member with inside | last
    · exact others other inside
    · rw [List.mem_singleton.mp last, noFunction]

/-- The literal is a direct part of a return statement with these expressions. -/
def IsReturnedWith (site : LiteralSite) (results : List ReturnValue) : Prop :=
  site.parent?.map (·.kind) = some (.returnStmt results)

/-- A return statement is no function, so the innermost function stands outside it. -/
theorem IsReturnedWith.declaredAround_iff (returned : site.IsReturnedWith results) :
    DeclaredAround site.ancestors declared ↔ DeclaredAround site.ancestors.dropLast declared := by
  obtain ⟨parent, found, kind⟩ := Option.map_eq_some_iff.mp returned
  have last : parent ∈ site.ancestors.getLast? := by
    rwa [parent?, outward, List.head?_reverse] at found
  have noFunction : parent.kind.declaredResults? = none := by
    rw [kind]
    rfl
  rw [← List.dropLast_append_getLast? parent last, declaredAround_concat noFunction,
    List.dropLast_concat]

theorem returnedWith?_eq_some_iff :
    site.returnedWith? = some results ↔ site.IsReturnedWith results := by
  unfold returnedWith? IsReturnedWith
  cases site.parent? with
  | none => simp
  | some parent =>
      obtain ⟨id, span, kind⟩ := parent
      cases kind with
      | returnStmt found => simp
      | _ => simp

/-- An error exempts the literal by its own type, or by what is declared for its position. -/
theorem isExemptReturn_iff :
    site.isExemptReturn = true ↔
      ∃ results, site.IsReturnedWith results ∧
        ((∃ result ∈ results, result.type.isErrorInterface = true) ∨
          ∃ declared, DeclaredAround site.ancestors declared ∧
            ∃ position, SetsErrorAt results declared position ∧
              results[position]?.map (·.node) ≠ some site.id) := by
  simp only [← returnedWith?_eq_some_iff, ← declaredResults?_eq_some_iff, ← hasErrorBeside_iff]
  unfold isExemptReturn
  cases site.returnedWith? with
  | none => simp
  | some found =>
      cases site.declaredResults? with
      | none => simp
      | some declared => simp

theorem isExemptReturn_eq_false
    (notReturned : ∀ results, ¬ site.IsReturnedWith results) :
    site.isExemptReturn = false := by
  rw [Bool.eq_false_iff, ne_eq, isExemptReturn_iff]
  rintro ⟨results, returned, -⟩
  exact notReturned results returned

theorem isExemptReturn_of_errorInterface (returned : site.IsReturnedWith results)
    {result : ReturnValue} (member : result ∈ results)
    (interface : result.type.isErrorInterface = true) :
    site.isExemptReturn = true :=
  isExemptReturn_iff.mpr ⟨results, returned, Or.inl ⟨result, member, interface⟩⟩

/-! ## The position of a returned literal -/

/-- The literal is the expression at a position of a return statement whose expressions are
different nodes. -/
structure ReturnedAt (site : LiteralSite) (results : List ReturnValue) (position : Nat) : Prop where
  returned : site.IsReturnedWith results
  distinct : (results.map (·.node)).Nodup
  own : results[position]?.map (·.node) = some site.id

namespace ReturnedAt

variable {position : Nat}

/-- Different expressions are different nodes, so the node of the literal tells its position. -/
theorem node_eq_iff (placed : site.ReturnedAt results position) (other : Nat) :
    results[other]?.map (·.node) = some site.id ↔ other = position := by
  constructor
  · intro same
    rw [← List.getElem?_map] at same
    have inside : other < (results.map (·.node)).length := (List.getElem?_eq_some_iff.mp same).1
    rw [← List.getElem?_inj inside placed.distinct, same, List.getElem?_map, placed.own]
  · rintro rfl
    exact placed.own

theorem isExemptReturn_iff (placed : site.ReturnedAt results position)
    (noInterface : ∀ result ∈ results, result.type.isErrorInterface = false) :
    site.isExemptReturn = true ↔
      ∃ declared, DeclaredAround site.ancestors declared ∧
        ∃ other, other ≠ position ∧ SetsErrorAt results declared other := by
  rw [LiteralSite.isExemptReturn_iff]
  constructor
  · rintro ⟨found, returned, exempt⟩
    obtain rfl : found = results := by
      have same := returned.symm.trans placed.returned
      simpa using same
    rcases exempt with ⟨result, member, interface⟩ | ⟨declared, around, other, sets, beside⟩
    · rw [noInterface result member] at interface
      cases interface
    · exact ⟨declared, around, other, mt (placed.node_eq_iff other).mpr beside, sets⟩
  · rintro ⟨declared, around, other, beside, sets⟩
    exact ⟨results, placed.returned,
      Or.inr ⟨declared, around, other, sets, mt (placed.node_eq_iff other).mp beside⟩⟩

theorem set_own (placed : site.ReturnedAt results position) {other : LiteralSite}
    (sameId : other.id = site.id) {type : TypeRef}
    (returned : other.IsReturnedWith (results.set position ⟨site.id, type⟩)) :
    other.ReturnedAt (results.set position ⟨site.id, type⟩) position := by
  have own : (results.map (·.node))[position]? = some site.id := by
    rw [List.getElem?_map, placed.own]
  have sameNodes : (results.set position ⟨site.id, type⟩).map (·.node) = results.map (·.node) := by
    obtain ⟨inside, same⟩ := List.getElem?_eq_some_iff.mp own
    rw [List.map_set, ← same, List.set_getElem_self inside]
  refine ⟨returned, ?_, ?_⟩
  · rw [sameNodes]
    exact placed.distinct
  · rw [← List.getElem?_map, sameNodes, own, sameId]

/-- Whatever type but the error interface is recorded for the literal itself, the answer is the
same. -/
theorem isExemptReturn_set_own (placed : site.ReturnedAt results position)
    (noInterface : ∀ result ∈ results, result.type.isErrorInterface = false)
    {other : LiteralSite} (sameId : other.id = site.id)
    (sameOutside : other.ancestors.dropLast = site.ancestors.dropLast) {type : TypeRef}
    (returned : other.IsReturnedWith (results.set position ⟨site.id, type⟩))
    (noErrorInterface : type.isErrorInterface = false) :
    other.isExemptReturn = site.isExemptReturn := by
  have otherPlaced := placed.set_own sameId returned
  have otherInterface : ∀ result ∈ results.set position ⟨site.id, type⟩,
      result.type.isErrorInterface = false := by
    intro result member
    rcases List.mem_or_eq_of_mem_set member with kept | rfl
    · exact noInterface result kept
    · exact noErrorInterface
  rw [Bool.eq_iff_iff, placed.isExemptReturn_iff noInterface,
    otherPlaced.isExemptReturn_iff otherInterface]
  refine exists_congr fun declared => and_congr ?_ ?_
  · rw [otherPlaced.returned.declaredAround_iff, placed.returned.declaredAround_iff, sameOutside]
  · exact exists_congr fun _ => and_congr_right fun different =>
      setsErrorAt_set_iff different _

/-- The only error of a return statement does not exempt itself. -/
theorem isExemptReturn_of_only_error (placed : site.ReturnedAt results position)
    (noInterface : ∀ result ∈ results, result.type.isErrorInterface = false)
    (around : DeclaredAround site.ancestors declared)
    (only : ∀ other, SetsErrorAt results declared other ↔ other = position) :
    site.isExemptReturn = false := by
  rw [Bool.eq_false_iff, ne_eq, placed.isExemptReturn_iff noInterface]
  rintro ⟨others, aroundOthers, other, different, sets⟩
  obtain rfl := around.unique aroundOthers
  exact different ((only other).mp sets)

/-- It exempts all that is returned with it. -/
theorem isExemptReturn_of_sibling (placed : site.ReturnedAt results position)
    (noInterface : ∀ result ∈ results, result.type.isErrorInterface = false)
    (around : DeclaredAround site.ancestors declared)
    (only : ∀ other, SetsErrorAt results declared other ↔ other = position)
    {sibling : LiteralSite} (sameNodes : sibling.ancestors = site.ancestors) {other : Nat}
    (different : other ≠ position) (own : results[other]?.map (·.node) = some sibling.id) :
    sibling.isExemptReturn = true := by
  have siblingPlaced : sibling.ReturnedAt results other :=
    ⟨by rw [IsReturnedWith, parent?, outward, sameNodes]; exact placed.returned,
      placed.distinct, own⟩
  rw [siblingPlaced.isExemptReturn_iff noInterface, sameNodes]
  exact ⟨declared, around, position, Ne.symm different, (only position).mpr rfl⟩

end ReturnedAt

/-- Where no expression is of the error interface, a returned literal is exempt exactly when an
error is set at another position. So the only error does not exempt itself but all its siblings, and
the type of the literal itself makes no difference. An expression of the error interface exempts all
that is returned with it, and what is not returned is never exempt. -/
theorem isExemptReturn_of_returnedAt (site : LiteralSite) :
    (∀ results position, site.ReturnedAt results position →
      (∀ result ∈ results, result.type.isErrorInterface = false) →
      (site.isExemptReturn = true ↔
        ∃ declared, DeclaredAround site.ancestors declared ∧
          ∃ other, other ≠ position ∧ SetsErrorAt results declared other) ∧
      (∀ declared, DeclaredAround site.ancestors declared →
        (∀ other, SetsErrorAt results declared other ↔ other = position) →
          site.isExemptReturn = false ∧
          ∀ sibling : LiteralSite, sibling.ancestors = site.ancestors →
            ∀ other, other ≠ position → results[other]?.map (·.node) = some sibling.id →
              sibling.isExemptReturn = true) ∧
      ∀ (other : LiteralSite) (type : TypeRef), other.id = site.id →
        other.ancestors.dropLast = site.ancestors.dropLast →
        other.IsReturnedWith (results.set position ⟨site.id, type⟩) →
        type.isErrorInterface = false → other.isExemptReturn = site.isExemptReturn) ∧
    (∀ results, site.IsReturnedWith results →
      (∃ result ∈ results, result.type.isErrorInterface = true) → site.isExemptReturn = true) ∧
    ((∀ results, ¬ site.IsReturnedWith results) → site.isExemptReturn = false) := by
  refine ⟨?placed, ?interface, isExemptReturn_eq_false⟩
  case placed =>
    intro results position placed noInterface
    exact ⟨placed.isExemptReturn_iff noInterface, fun _ around only =>
      ⟨placed.isExemptReturn_of_only_error noInterface around only, fun _ same _ different own =>
        placed.isExemptReturn_of_sibling noInterface around only same different own⟩,
      fun _ _ sameId sameOutside returned noErrorInterface =>
        placed.isExemptReturn_set_own noInterface sameId sameOutside returned noErrorInterface⟩
  case interface =>
    rintro results returned ⟨result, member, interface⟩
    exact isExemptReturn_of_errorInterface returned member interface

/-- Two literals, of which the second one is an error. -/
def pairAndFault : List ReturnValue :=
  [⟨7, .named "p.Pair"⟩, ⟨8, ⟨"p.Fault", true⟩⟩]

/-- The nodes around a function literal, in a function that returns only an error. -/
def nodesAround : List Node :=
  [⟨1, .onLine 1 1 1, .file⟩, ⟨2, .onLine 3 1 50, .funcDecl [.errorInterface]⟩]

/-- The function literal, which returns the two literals. -/
def pairFunction : List Node :=
  [⟨3, .onLine 4 2 40, .funcLit [.named "p.Pair", .errorInterface]⟩,
    ⟨4, .onLine 5 3 30, .returnStmt pairAndFault⟩]

def siblingSite : LiteralSite := ⟨7, .onLine 5 10 16, some 0, [], nodesAround ++ pairFunction⟩

def faultSite : LiteralSite := ⟨8, .onLine 5 18 25, some 1, [], nodesAround ++ pairFunction⟩

/-- The only error is not exempt, but the literal beside it is. -/
theorem isExemptReturn_faultSite :
    faultSite.ReturnedAt pairAndFault 1 ∧
      (∀ result ∈ pairAndFault, result.type.isErrorInterface = false) ∧
      faultSite.isExemptReturn = false ∧ siblingSite.isExemptReturn = true := by
  have placed : faultSite.ReturnedAt pairAndFault 1 := ⟨rfl, by decide, rfl⟩
  have noInterface : ∀ result ∈ pairAndFault, result.type.isErrorInterface = false := by decide
  have around : DeclaredAround faultSite.ancestors [.named "p.Pair", .errorInterface] :=
    ⟨nodesAround, _, _, rfl, rfl, List.forall_mem_singleton.mpr rfl⟩
  have only : ∀ other,
      SetsErrorAt pairAndFault [.named "p.Pair", .errorInterface] other ↔ other = 1 := by
    intro other
    rcases other with _ | _ | other
    · have noError : (TypeRef.named "p.Pair").isErrorLike = false := by decide
      simp [SetsErrorAt, noError]
    · have notNil : (TypeRef.mk "p.Fault" true).isUntypedNil = false := by decide
      have isError : TypeRef.errorInterface.isErrorLike = true := by decide
      simp [SetsErrorAt, pairAndFault, notNil, isError]
    · simp [SetsErrorAt]
  obtain ⟨exemption, -, -⟩ := isExemptReturn_of_returnedAt faultSite
  obtain ⟨-, siblings, -⟩ := exemption _ _ placed noInterface
  obtain ⟨notExempt, others⟩ := siblings _ around only
  exact ⟨placed, noInterface, notExempt, others siblingSite rfl 0 (by decide) rfl⟩

end LiteralSite

end LiteralAudit
