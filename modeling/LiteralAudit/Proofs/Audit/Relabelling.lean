import LiteralAudit.Proofs.Audit.Rearrangement
import LiteralAudit.Proofs.Literal.Chain
import Mathlib.Data.List.Forall2
import Mathlib.Data.Set.Function

/-!
# Identifiers are only names

Literals name struct types by their index in a table, and nodes by identifiers. The check of a
program reads a type only through the table, and compares the identifier of a literal only with
those of the expressions that are returned with it. So the types may stand at other indices, also
several times or at one index for several, and the nodes around each literal may have other
identifiers, as long as different ones stay different.
-/

namespace LiteralAudit

/-! ## Other identifiers of nodes -/

def ReturnValue.renamed (nodes : Nat → Nat) (result : ReturnValue) : ReturnValue :=
  { result with node := nodes result.node }

namespace NodeKind

def returnedNodes : NodeKind → List Nat
  | returnStmt results => results.map (·.node)
  | _ => []

def renamed (nodes : Nat → Nat) : NodeKind → NodeKind
  | returnStmt results => returnStmt (results.map (·.renamed nodes))
  | kind => kind

variable (nodes : Nat → Nat) (kind : NodeKind)

@[simp]
theorem isTransparent_renamed : (kind.renamed nodes).isTransparent = kind.isTransparent := by
  cases kind with
  | _ => rfl

@[simp]
theorem isWrapper_renamed : (kind.renamed nodes).isWrapper = kind.isWrapper := by
  cases kind with
  | _ => rfl

@[simp]
theorem declaredResults?_renamed :
    (kind.renamed nodes).declaredResults? = kind.declaredResults? := by
  cases kind with
  | _ => rfl

@[simp]
theorem ofKind_renamed :
    LiteralContext.ofKind (kind.renamed nodes) = LiteralContext.ofKind kind := by
  cases kind with
  | _ => rfl

end NodeKind

namespace Node

def renamed (nodes : Nat → Nat) (node : Node) : Node :=
  { node with id := nodes node.id, kind := node.kind.renamed nodes }

@[simp]
theorem kind_renamed (nodes : Nat → Nat) (node : Node) :
    (node.renamed nodes).kind = node.kind.renamed nodes := by
  rfl

/-- A search that looks at no identifier finds the same node. -/
theorem find?_renamed (nodes : Nat → Nat) {accepts : Node → Bool}
    (kept : ∀ node : Node, accepts (node.renamed nodes) = accepts node) (found : List Node) :
    (found.map (·.renamed nodes)).find? accepts =
      (found.find? accepts).map (·.renamed nodes) := by
  have sameSearch : (accepts ∘ fun node : Node => node.renamed nodes) = accepts := funext kept
  rw [List.find?_map, sameSearch]

end Node

namespace LiteralSite

/-- The nodes that a literal names: itself, the nodes around it, and what these return. -/
def nodeIds (site : LiteralSite) : List Nat :=
  site.id :: site.ancestors.flatMap fun node => node.id :: node.kind.returnedNodes

/-- The literal with another index of its type and other identifiers of nodes. -/
def relabelled (types nodes : Nat → Nat) (site : LiteralSite) : LiteralSite :=
  { site with
    id := nodes site.id
    type := site.type.map types
    ancestors := site.ancestors.map (·.renamed nodes) }

variable (types nodes : Nat → Nat) (site : LiteralSite)

theorem outward_relabelled :
    (site.relabelled types nodes).outward = site.outward.map (·.renamed nodes) := by
  rw [outward, outward, relabelled, List.map_reverse]

theorem declaredResults?_relabelled :
    (site.relabelled types nodes).declaredResults? = site.declaredResults? := by
  rw [declaredResults?, declaredResults?, enclosingFunction?, enclosingFunction?,
    outward_relabelled, Node.find?_renamed nodes (by simp)]
  cases site.outward.find? (·.kind.declaredResults?.isSome) with
  | none => rfl
  | some function => exact function.kind.declaredResults?_renamed nodes

theorem ofSite_relabelled :
    LiteralContext.ofSite (site.relabelled types nodes) = LiteralContext.ofSite site := by
  rw [LiteralContext.ofSite, LiteralContext.ofSite, outward_relabelled,
    Node.find?_renamed nodes (by simp)]
  cases site.outward.find? (!·.kind.isWrapper) with
  | none => rfl
  | some node => exact node.kind.ofKind_renamed nodes

theorem chain_relabelled : (site.relabelled types nodes).chain = site.chain := by
  have sameWalk :
      ((fun node : Node => node.kind.isTransparent) ∘ fun node : Node => node.renamed nodes) =
        fun node => node.kind.isTransparent := by
    funext node
    exact node.kind.isTransparent_renamed nodes
  rw [chain, chain, outward_relabelled, List.takeWhile_map, sameWalk, List.map_map]
  rfl

/-- Directives are found by places, which no relabelling touches. -/
theorem resolveDirective_relabelled (comments : CommentIndex) :
    resolveDirective (site.relabelled types nodes) comments = resolveDirective site comments := by
  rw [resolveDirective_eq_firstOf, resolveDirective_eq_firstOf, chain_relabelled]

/-! ## Returned literals -/

theorem returnedWith?_relabelled :
    (site.relabelled types nodes).returnedWith? =
      site.returnedWith?.map fun results => results.map (·.renamed nodes) := by
  unfold returnedWith? parent?
  rw [outward_relabelled, List.head?_map]
  cases site.outward.head? with
  | none => rfl
  | some parent =>
      obtain ⟨id, span, kind⟩ := parent
      cases kind with
      | _ => rfl

/-- What is returned with a literal is among the nodes that the literal names. -/
theorem node_mem_nodeIds {site : LiteralSite} {results : List ReturnValue}
    (returned : site.returnedWith? = some results) {result : ReturnValue}
    (member : result ∈ results) :
    result.node ∈ site.nodeIds := by
  unfold returnedWith? at returned
  split at returned
  · next id span found parent =>
      obtain rfl := Option.some.inj returned
      have around : ⟨id, span, .returnStmt found⟩ ∈ site.ancestors :=
        List.mem_reverse.mp (List.mem_of_head? parent)
      have named : result.node ∈ id :: (NodeKind.returnStmt found).returnedNodes :=
        List.mem_cons_of_mem id (List.mem_map.mpr ⟨result, member, rfl⟩)
      exact List.mem_cons_of_mem site.id (List.mem_flatMap.mpr ⟨_, around, named⟩)
  · cases returned

variable {types nodes site}

theorem isErrorBeside_relabelled {result : ReturnValue}
    (sameSlot : nodes result.node = nodes site.id → result.node = site.id)
    (declared : Option TypeRef) :
    (site.relabelled types nodes).isErrorBeside declared (result.renamed nodes) =
      site.isErrorBeside declared result := by
  -- This is the only place where two identifiers are compared.
  have sameTest : (nodes result.node != nodes site.id) = (result.node != site.id) := by
    rw [Bool.eq_iff_iff, bne_iff_ne, bne_iff_ne]
    exact not_congr ⟨sameSlot, congrArg nodes⟩
  rw [isErrorBeside, isErrorBeside, ← sameTest]
  rfl

theorem hasErrorBeside_relabelled {results : List ReturnValue}
    (sameSlot : ∀ result ∈ results, nodes result.node = nodes site.id → result.node = site.id)
    (declared : List TypeRef) :
    (site.relabelled types nodes).hasErrorBeside (results.map (·.renamed nodes)) declared =
      site.hasErrorBeside results declared := by
  induction results generalizing declared with
  | nil => rfl
  | cons result further inductionHypothesis =>
      obtain ⟨first, rest⟩ := List.forall_mem_cons.mp sameSlot
      rw [List.map_cons, hasErrorBeside, hasErrorBeside, inductionHypothesis rest,
        isErrorBeside_relabelled first]

/-- Nodes are compared with the literal alone, so distinct numbers are enough. -/
theorem isExemptReturn_relabelled (distinct : Set.InjOn nodes {id | id ∈ site.nodeIds}) :
    (site.relabelled types nodes).isExemptReturn = site.isExemptReturn := by
  unfold isExemptReturn
  rw [returnedWith?_relabelled, declaredResults?_relabelled]
  cases returned : site.returnedWith? with
  | none => rfl
  | some results =>
      have sameSlot : ∀ result ∈ results,
          nodes result.node = nodes site.id → result.node = site.id := by
        intro result member
        exact fun same =>
          distinct (node_mem_nodeIds returned member) List.mem_cons_self same
      have sameErrors :
          (results.map (·.renamed nodes)).any (·.type.isErrorInterface) =
            results.any (·.type.isErrorInterface) :=
        List.any_map
      rw [Option.map_some]
      dsimp only
      rw [sameErrors]
      cases site.declaredResults? with
      | none => rfl
      | some declared =>
          dsimp only
          rw [hasErrorBeside_relabelled sameSlot]

end LiteralSite

/-! ## Verdicts -/

namespace LiteralSite

/-- A literal in other words: its type stands at another index of another table, and the nodes that
it names have other identifiers, different ones for different nodes. -/
structure Relabelled (before after : TypeTable) (types : Nat → Nat) (site image : LiteralSite) :
    Prop where
  record : ∀ type ∈ site.type, after.get? (types type) = before.get? type
  sameUpToNodes :
    ∃ nodes : Nat → Nat, Set.InjOn nodes {id | id ∈ site.nodeIds} ∧
      image = site.relabelled types nodes

end LiteralSite

namespace Visit

theorem verdictOn_relabelled {types nodes : Nat → Nat} {site : LiteralSite}
    (distinct : Set.InjOn nodes {id | id ∈ site.nodeIds}) (packagePath file : String)
    (comments : CommentIndex) (settings : Settings) (info : StructInfo) :
    verdictOn ⟨packagePath, file, site.relabelled types nodes, comments⟩ settings info =
      verdictOn ⟨packagePath, file, site, comments⟩ settings info := by
  have exempt : (site.relabelled types nodes).isExemptReturn = site.isExemptReturn :=
    LiteralSite.isExemptReturn_relabelled distinct
  have context : LiteralContext.ofSite (site.relabelled types nodes) = .ofSite site :=
    site.ofSite_relabelled types nodes
  have resolved :
      resolveDirective (site.relabelled types nodes) comments = resolveDirective site comments :=
    site.resolveDirective_relabelled types nodes comments
  simp only [verdictOn, isExcused, isAudited, directive, exempt, context, resolved]
  rfl

/-- Only the facts behind an index matter, not the index. -/
theorem verdict_relabelled {before after : TypeTable} {types : Nat → Nat}
    {site image : LiteralSite} (relabelled : site.Relabelled before after types image)
    (packagePath file : String) (comments : CommentIndex) (settings : Settings) :
    verdict ⟨packagePath, file, image, comments⟩ settings after =
      verdict ⟨packagePath, file, site, comments⟩ settings before := by
  obtain ⟨record, nodes, distinct, rfl⟩ := relabelled
  have sameRecord :
      record? ⟨packagePath, file, site.relabelled types nodes, comments⟩ after =
        record? ⟨packagePath, file, site, comments⟩ before := by
    unfold record? LiteralSite.relabelled
    cases known : site.type with
    | none => rfl
    | some type => exact record type known
  rw [verdict, verdict, sameRecord]
  simp only [verdictOn_relabelled distinct]

end Visit

/-! ## Files and programs -/

/-- The same file, with its literals relabelled. -/
structure SourceFile.Relabelled (before after : TypeTable) (types : Nat → Nat)
    (file image : SourceFile) : Prop where
  path : image.path = file.path
  comments : image.comments = file.comments
  literals :
    List.Forall₂ (LiteralSite.Relabelled before after types) file.literals image.literals

structure Package.Relabelled (before after : TypeTable) (types : Nat → Nat)
    (package image : Package) : Prop where
  name : image.name = package.name
  path : image.path = package.path
  files : List.Forall₂ (SourceFile.Relabelled before after types) package.files image.files

/-- The same program over another table of types, with all its literals relabelled. -/
def Program.Relabelled (types : Nat → Nat) (program image : Program) : Prop :=
  List.Forall₂ (Package.Relabelled program.typeTable image.typeTable types)
    program.packages image.packages

structure ScannedFile.Relabelled (before after : TypeTable) (types : Nat → Nat)
    (scanned image : ScannedFile) : Prop where
  packagePath : image.packagePath = scanned.packagePath
  file : scanned.file.Relabelled before after types image.file

namespace ScannedFile

variable {before after : TypeTable} {types : Nat → Nat}

theorem among_relabelled {files images : List SourceFile}
    (pairs : List.Forall₂ (SourceFile.Relabelled before after types) files images)
    (settings : Settings) (packagePath : String) :
    List.Forall₂ (Relabelled before after types) (among settings packagePath files)
      (among settings packagePath images) := by
  induction pairs with
  | nil => exact List.Forall₂.nil
  | @cons file image further others relabelled _ inductionHypothesis =>
      have samePath := relabelled.path
      cases included : settings.isFileExcluded file.path with
      | true =>
          rw [among_cons_of_excluded included,
            among_cons_of_excluded (by rw [samePath]; exact included)]
          exact inductionHypothesis
      | false =>
          rw [among_cons_of_not_excluded included,
            among_cons_of_not_excluded (by rw [samePath]; exact included)]
          exact List.Forall₂.cons ⟨rfl, relabelled⟩ inductionHypothesis

theorem ofPackages_relabelled {packages images : List Package}
    (pairs : List.Forall₂ (Package.Relabelled before after types) packages images)
    (settings : Settings) :
    List.Forall₂ (Relabelled before after types) (packages.flatMap (ofPackage settings))
      (images.flatMap (ofPackage settings)) := by
  induction pairs with
  | nil => exact List.Forall₂.nil
  | cons package _ inductionHypothesis =>
      rw [List.flatMap_cons, List.flatMap_cons, ofPackage, ofPackage, package.path]
      exact List.rel_append (among_relabelled package.files settings _) inductionHypothesis

theorem commentsAt?_relabelled {files images : List ScannedFile}
    (pairs : List.Forall₂ (Relabelled before after types) files images)
    (settings : Settings) (tree : FileTree) (root : Option String) (path : String) :
    commentsAt? settings tree root images path = commentsAt? settings tree root files path := by
  induction pairs with
  | nil => rfl
  | @cons scanned image further others relabelled _ inductionHypothesis =>
      have sameComments :
          image.file.readComments settings tree root =
            scanned.file.readComments settings tree root :=
        SourceFile.readComments_eq relabelled.file.path relabelled.file.comments settings tree root
      rw [← List.singleton_append, ← List.singleton_append (l := further), commentsAt?_append,
        commentsAt?_append, commentsAt?_singleton, commentsAt?_singleton, relabelled.file.path,
        sameComments, inductionHypothesis]

theorem verdicts_relabelled {sites images : List LiteralSite}
    (pairs : List.Forall₂ (LiteralSite.Relabelled before after types) sites images)
    (packagePath file : String) (comments : CommentIndex) (settings : Settings) :
    (images.map fun site => (⟨packagePath, file, site, comments⟩ : Visit)).filterMap
        (·.verdict settings after) =
      (sites.map fun site => (⟨packagePath, file, site, comments⟩ : Visit)).filterMap
        (·.verdict settings before) := by
  induction pairs with
  | nil => rfl
  | cons same _ inductionHypothesis =>
      rw [List.map_cons, List.map_cons, List.filterMap_cons, List.filterMap_cons,
        Visit.verdict_relabelled same, inductionHypothesis]

theorem result_singleton_relabelled {scanned image : ScannedFile}
    (relabelled : scanned.Relabelled before after types image) (settings : Settings)
    (comments : String → CommentIndex) :
    result settings after comments [image] = result settings before comments [scanned] := by
  have verdicts :
      (image.visits (comments image.file.path)).filterMap (·.verdict settings after) =
        (scanned.visits (comments scanned.file.path)).filterMap (·.verdict settings before) := by
    rw [visits, visits, relabelled.packagePath, relabelled.file.path]
    exact verdicts_relabelled relabelled.file.literals _ _ _ settings
  have sameLength := relabelled.file.literals.length_eq
  simp only [result, List.flatMap_singleton, List.map_singleton, List.length_singleton, verdicts,
    sameLength]

/-- Relabelled files have the same verdicts in the same order, and the same counts. -/
theorem result_relabelled {files images : List ScannedFile}
    (pairs : List.Forall₂ (Relabelled before after types) files images)
    (settings : Settings) (comments : String → CommentIndex) :
    result settings after comments images = result settings before comments files := by
  induction pairs with
  | nil => rfl
  | @cons scanned image further others relabelled _ inductionHypothesis =>
      rw [← List.singleton_append, ← List.singleton_append (l := further), result_append,
        result_append, inductionHypothesis, result_singleton_relabelled relabelled]

end ScannedFile

namespace Program.Relabelled

variable {types : Nat → Nat} {program image : Program}

theorem scannedFiles (relabelled : program.Relabelled types image) (settings : Settings) :
    List.Forall₂ (ScannedFile.Relabelled program.typeTable image.typeTable types)
      (program.scannedFiles settings) (image.scannedFiles settings) :=
  ScannedFile.ofPackages_relabelled relabelled settings

end Program.Relabelled

namespace Settings

/-- Other indices of types and other identifiers of nodes change nothing in the check of a
program. -/
theorem checkProgram_value_eq_of_relabelled
    (settings : Settings) (tree : FileTree) (root : Option String) {types : Nat → Nat}
    {program image : Program} (relabelled : program.Relabelled types image) :
    (settings.checkProgram tree root image).value =
      (settings.checkProgram tree root program).value := by
  have files := relabelled.scannedFiles settings
  have sameComments :
      image.commentsAt settings tree root = program.commentsAt settings tree root := by
    funext path
    rw [Program.commentsAt, Program.commentsAt, ScannedFile.commentsAt?_relabelled files]
  rw [checkProgram_value, checkProgram_value, sameComments,
    ScannedFile.result_relabelled files]

/-- A function that returns an empty literal beside an error. -/
def nodesAroundPair : List Node :=
  [⟨1, .onLine 1 1 1, .file⟩,
    ⟨2, .onLine 3 1 50, .funcDecl [.named "p.Pair", .errorInterface]⟩,
    ⟨3, .onLine 4 2 24, .returnStmt [⟨4, .named "p.Pair"⟩, ⟨5, .named "*p.Fault"⟩]⟩]

/-- Literals of a type that the table holds twice, and of one that it does not hold. -/
def pairSites : List LiteralSite :=
  [⟨4, .onLine 4 9 15, some 1, [], nodesAroundPair⟩, ⟨7, .onLine 6 6 12, some 0, [], []⟩,
    ⟨9, .onLine 8 6 12, some 5, [], []⟩]

def pairTwiceProgram : Program where
  types := [⟨some "Pair", "p", "example.com/p", [⟨"First", ""⟩], []⟩,
    ⟨some "Pair", "p", "example.com/p", [⟨"First", ""⟩], []⟩]
  packages := [⟨"p", "example.com/p", [⟨"pair.go", none, pairSites⟩]⟩]

/-- Both indices become one. -/
def mergedIndex (index : Nat) : Nat :=
  if index < 2 then 1 else index

/-- Different on each of the nodes of the program, but not on all numbers. -/
def shuffledNode (node : Nat) : Nat :=
  7 * node % 10

/-- The program over a table that holds the type once, beside another. -/
def pairOnceProgram : Program where
  types := [⟨none, "q", "example.com/q", [], []⟩,
    ⟨some "Pair", "p", "example.com/p", [⟨"First", ""⟩], []⟩]
  packages := [⟨"p", "example.com/p",
    [⟨"pair.go", none, pairSites.map (·.relabelled mergedIndex shuffledNode)⟩]⟩]

theorem pairTwiceProgram_relabelled :
    pairTwiceProgram.Relabelled mergedIndex pairOnceProgram := by
  have distinct : ∀ site ∈ pairSites, ∀ first ∈ site.nodeIds, ∀ second ∈ site.nodeIds,
      shuffledNode first = shuffledNode second → first = second := by
    decide
  have record : ∀ site ∈ pairSites, ∀ type ∈ site.type,
      pairOnceProgram.typeTable.get? (mergedIndex type) =
        pairTwiceProgram.typeTable.get? type := by
    decide
  have sites : List.Forall₂
      (LiteralSite.Relabelled pairTwiceProgram.typeTable pairOnceProgram.typeTable mergedIndex)
      pairSites (pairSites.map (·.relabelled mergedIndex shuffledNode)) := by
    rw [List.forall₂_map_right_iff, List.forall₂_same]
    intro site member
    refine ⟨record site member, shuffledNode, ?_, rfl⟩
    intro first firstMember second secondMember same
    exact distinct site member first firstMember second secondMember same
  exact List.Forall₂.cons ⟨rfl, rfl, List.Forall₂.cons ⟨rfl, rfl, sites⟩ List.Forall₂.nil⟩
    List.Forall₂.nil

/-- A type stands in the table twice, or once at another index. -/
theorem checkProgram_pairOnceProgram :
    pairTwiceProgram.Relabelled mergedIndex pairOnceProgram ∧
      (standard.checkProgram ⟨.folder [], []⟩ none pairOnceProgram).value =
        (standard.checkProgram ⟨.folder [], []⟩ none pairTwiceProgram).value :=
  ⟨pairTwiceProgram_relabelled,
    standard.checkProgram_value_eq_of_relabelled ⟨.folder [], []⟩ none
      pairTwiceProgram_relabelled⟩

end Settings

end LiteralAudit
