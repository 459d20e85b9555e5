import LiteralAudit.Proofs.Audit.Transparency
import LiteralAudit.Proofs.Literal.Chain

/-!
# Nothing outside the innermost function

The verdict on a literal walks over the nodes around it four times: to the parent, to the innermost
function, through wrappers to the context, and through transparent nodes for a directive. A function
is neither a wrapper nor transparent, so that each of these walks ends at the innermost function or
before it. Whatever stands outside has no influence.
-/

namespace LiteralAudit

namespace Node

def isFunction (node : Node) : Bool :=
  node.kind.declaredResults?.isSome

theorem isTransparent_of_isFunction {node : Node} (function : node.isFunction = true) :
    node.kind.isTransparent = false := by
  obtain ⟨id, span, kind⟩ := node
  cases kind with
  | funcDecl results => rfl
  | funcLit results => rfl
  | _ => cases function

theorem isWrapper_of_isFunction {node : Node} (function : node.isFunction = true) :
    node.kind.isWrapper = false := by
  obtain ⟨id, span, kind⟩ := node
  cases kind with
  | funcDecl results => rfl
  | funcLit results => rfl
  | _ => cases function

/-- The first nodes, up to the first function. -/
def upToFunction : List Node → List Node
  | [] => []
  | node :: outer => if node.isFunction then [node] else node :: upToFunction outer

/-- Nodes behind the first function make no difference. -/
theorem upToFunction_append {function : Node} (isFunction : function.isFunction = true)
    (inner outer : List Node) :
    upToFunction (inner ++ function :: outer) = upToFunction (inner ++ [function]) := by
  induction inner with
  | nil => simp [upToFunction, isFunction]
  | cons node further inductionHypothesis =>
      simp only [List.cons_append, upToFunction, inductionHypothesis]

theorem head?_upToFunction (nodes : List Node) :
    (upToFunction nodes).head? = nodes.head? := by
  cases nodes with
  | nil => rfl
  | cons node outer =>
      rw [upToFunction]
      split
      · rfl
      · rfl

/-- A search that accepts every function finds what it finds up to the first one. -/
theorem find?_upToFunction {accepts : Node → Bool}
    (functions : ∀ node : Node, node.isFunction = true → accepts node = true)
    (nodes : List Node) :
    (upToFunction nodes).find? accepts = nodes.find? accepts := by
  induction nodes with
  | nil => rfl
  | cons node outer inductionHypothesis =>
      rw [upToFunction]
      by_cases function : node.isFunction = true
      · rw [if_pos function, List.find?_cons_of_pos (functions node function),
          List.find?_cons_of_pos (functions node function)]
      · rw [if_neg function, List.find?_cons, List.find?_cons, inductionHypothesis]

/-- A walk that passes no function stays before the first one. -/
theorem takeWhile_upToFunction {passes : Node → Bool}
    (functions : ∀ node : Node, node.isFunction = true → passes node = false)
    (nodes : List Node) :
    (upToFunction nodes).takeWhile passes = nodes.takeWhile passes := by
  induction nodes with
  | nil => rfl
  | cons node outer inductionHypothesis =>
      rw [upToFunction]
      by_cases function : node.isFunction = true
      · rw [if_pos function, List.takeWhile_cons, List.takeWhile_cons, functions node function]
        rfl
      · rw [if_neg function, List.takeWhile_cons, List.takeWhile_cons, inductionHypothesis]

end Node

namespace LiteralSite

/-- The literal in its innermost function, without the nodes outside. -/
def inFunction (site : LiteralSite) : LiteralSite :=
  { site with ancestors := (Node.upToFunction site.outward).reverse }

theorem outward_inFunction (site : LiteralSite) :
    site.inFunction.outward = Node.upToFunction site.outward := by
  rw [inFunction, outward, List.reverse_reverse]

theorem parent?_inFunction (site : LiteralSite) :
    site.inFunction.parent? = site.parent? := by
  rw [parent?, outward_inFunction, Node.head?_upToFunction, parent?]

/-- The declared results are those of the innermost function, which is kept. -/
theorem declaredResults?_inFunction (site : LiteralSite) :
    site.inFunction.declaredResults? = site.declaredResults? := by
  have sameFunction : site.inFunction.enclosingFunction? = site.enclosingFunction? := by
    rw [enclosingFunction?, outward_inFunction]
    exact Node.find?_upToFunction (fun _ function => function) site.outward
  rw [declaredResults?, sameFunction, declaredResults?]

/-- Whether an error is returned with the literal is seen inside the function. -/
theorem isExemptReturn_inFunction (site : LiteralSite) :
    site.inFunction.isExemptReturn = site.isExemptReturn := by
  have sameErrors : ∀ results declared,
      site.inFunction.hasErrorBeside results declared = site.hasErrorBeside results declared :=
    hasErrorBeside_eq_of_id_eq rfl
  simp only [isExemptReturn, returnedWith?, parent?_inFunction, declaredResults?_inFunction,
    sameErrors]

theorem ofSite_inFunction (site : LiteralSite) :
    LiteralContext.ofSite site.inFunction = LiteralContext.ofSite site := by
  have functions : ∀ node : Node, node.isFunction = true → (!node.kind.isWrapper) = true := by
    intro node function
    rw [Node.isWrapper_of_isFunction function]
    rfl
  rw [LiteralContext.ofSite, LiteralContext.ofSite, outward_inFunction,
    Node.find?_upToFunction functions]

/-- No node whose directive counts stands outside the innermost function. -/
theorem chain_inFunction (site : LiteralSite) :
    site.inFunction.chain = site.chain := by
  rw [chain, chain, outward_inFunction,
    Node.takeWhile_upToFunction fun _ => Node.isTransparent_of_isFunction]
  rfl

theorem resolveDirective_inFunction (site : LiteralSite) (comments : CommentIndex) :
    resolveDirective site.inFunction comments = resolveDirective site comments := by
  rw [resolveDirective_eq_firstOf, resolveDirective_eq_firstOf, chain_inFunction]

/-- Two literals that are the same up to some function are the same in the innermost one. -/
theorem inFunction_eq_of_ancestors {site : LiteralSite} {function : Node}
    {outer inner : List Node} (isFunction : function.isFunction = true)
    (ancestors : site.ancestors = outer ++ function :: inner) (others : List Node) :
    ({ site with ancestors := others ++ function :: inner } : LiteralSite).inFunction =
      site.inFunction := by
  have outward : ∀ nodes : List Node,
      (nodes ++ function :: inner).reverse = inner.reverse ++ function :: nodes.reverse := by
    intro nodes
    simp
  have same :
      Node.upToFunction (others ++ function :: inner).reverse =
        Node.upToFunction site.ancestors.reverse := by
    rw [ancestors, outward, outward, Node.upToFunction_append isFunction,
      Node.upToFunction_append isFunction inner.reverse outer.reverse]
  simp only [inFunction, LiteralSite.outward, same]

end LiteralSite

namespace Visit

def inFunction (visit : Visit) : Visit :=
  { visit with site := visit.site.inFunction }

theorem verdictOn_inFunction (visit : Visit) (settings : Settings) (info : StructInfo) :
    visit.inFunction.verdictOn settings info = visit.verdictOn settings info := by
  have excused : visit.inFunction.isExcused settings info = visit.isExcused settings info := by
    rw [isExcused, isExcused, inFunction, visit.site.isExemptReturn_inFunction,
      visit.site.ofSite_inFunction]
    rfl
  have directed : visit.inFunction.directive settings info = visit.directive settings info := by
    rw [directive, directive, inFunction, visit.site.resolveDirective_inFunction]
  have audited : visit.inFunction.isAudited settings info = visit.isAudited settings info := by
    rw [isAudited, isAudited, directed]
  rw [verdictOn, verdictOn, excused, audited]
  rfl

theorem verdict_inFunction (visit : Visit) (settings : Settings) (types : TypeTable) :
    visit.inFunction.verdict settings types = visit.verdict settings types := by
  rw [verdict, verdict]
  simp only [verdictOn_inFunction]
  rfl

end Visit

namespace Session

/-- After any calls, the nodes outside a function around a literal, so in particular those outside
the innermost one, can be replaced by any others without any effect on the answer. -/
theorem visit_value_of_outer_replaced
    (settings : Settings) (types : TypeTable) (calls others : List Call) {literal : Visit}
    {function : Node} {outer inner : List Node}
    (isFunction : function.kind.declaredResults?.isSome = true)
    (ancestors : literal.site.ancestors = outer ++ function :: inner) (replaced : List Node) :
    (((new settings types).performAll others).visit
        { literal with
          site := { literal.site with ancestors := replaced ++ function :: inner } }).value =
      (((new settings types).performAll calls).visit literal).value := by
  have sameSite := LiteralSite.inFunction_eq_of_ancestors isFunction ancestors replaced
  rw [visit_performAll_value, visit_performAll_value, ← Visit.verdict_inFunction,
    Visit.inFunction]
  dsimp only
  rw [sameSite]
  exact literal.verdict_inFunction settings types

/-- A function literal with a result beside an error. -/
def bareFunction : Node :=
  ⟨4, .onLine 4 9 40, .funcLit [.named "p.Pair", .errorInterface]⟩

def bareReturn : Node :=
  ⟨5, .onLine 5 3 24, .returnStmt [⟨6, .named "p.Pair"⟩, ⟨7, .named "*p.Fault"⟩]⟩

/-- The nodes around it, with a function that returns no error. -/
def nodesOutside : List Node :=
  [⟨1, .onLine 1 1 1, .file⟩, ⟨2, .onLine 3 1 50, .funcDecl [.named "func()"]⟩,
    ⟨3, .onLine 4 2 40, .returnStmt [⟨4, .named "func()"⟩]⟩]

/-- An empty literal that the function returns. -/
def returnedPair : Visit where
  packagePath := "example.com/p"
  file := "pair.go"
  site := ⟨6, .onLine 5 10 16, some 0, [], nodesOutside ++ bareFunction :: [bareReturn]⟩
  comments := .empty

/-- The same literal, with the function in another literal. -/
def enclosedPair : Visit :=
  { returnedPair with
    site := { returnedPair.site with
      ancestors := [⟨9, .onLine 2 1 60, .compositeLit⟩] ++ bareFunction :: [bareReturn] } }

/-- The function around an empty literal declares an error, or stands in another literal: the answer
is the same. -/
theorem visit_value_enclosedPair :
    bareFunction.kind.declaredResults?.isSome = true ∧
      returnedPair.site.ancestors = nodesOutside ++ bareFunction :: [bareReturn] ∧
      (((new .standard ⟨[⟨some "Pair", "p", "example.com/p", [⟨"First", ""⟩], []⟩]⟩).performAll
          []).visit enclosedPair).value =
        (((new .standard ⟨[⟨some "Pair", "p", "example.com/p", [⟨"First", ""⟩], []⟩]⟩).performAll
          []).visit returnedPair).value := by
  have isFunction : bareFunction.kind.declaredResults?.isSome = true := rfl
  have ancestors :
      returnedPair.site.ancestors = nodesOutside ++ bareFunction :: [bareReturn] := rfl
  exact ⟨isFunction, ancestors,
    visit_value_of_outer_replaced .standard _ [] [] isFunction ancestors _⟩

end Session

end LiteralAudit
