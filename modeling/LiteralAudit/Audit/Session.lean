import LiteralAudit.Audit.Memo
import LiteralAudit.Audit.Note
import LiteralAudit.Audit.Visit
import LiteralAudit.Program.Basic
import LiteralAudit.Source.Grouping

/-!
# Sessions

A session decides literals one after the other for fixed settings and struct types. What was worked
out for one literal is kept in memos for the next one: the facts of struct types by index, the
comments of files by path, and the decisions of patterns by the full name of a type.
-/

namespace LiteralAudit

structure Session where
  settings : Settings
  types : TypeTable
  infos : Memo Nat StructInfo
  comments : Memo String CommentIndex
  /-- Which types the patterns ask for. -/
  selections : Memo String Bool
  /-- Of which types empty literals are in order. -/
  allowances : Memo String Bool

/-- A step of a session: its answer, the session after it, and the notes that it makes. -/
structure Step (answer : Type) where
  value : answer
  session : Session
  notes : List Note

namespace Session

def new (settings : Settings) (types : TypeTable) : Session :=
  ⟨settings, types, .empty, .empty, .empty, .empty⟩

def info? (session : Session) (type : Nat) : Option StructInfo × Session :=
  let (found, infos) := session.infos.fetch? type fun _ =>
    (session.types.get? type).map StructInfo.ofRecord
  (found, { session with infos })

def selectsType (session : Session) (name : TypeName) : Bool × Session :=
  if session.settings.filtersTypes then
    let (selected, selections) := session.selections.fetch name.matchingKey fun _ =>
      session.settings.selects name.matchingKey
    (selected, { session with selections })
  else (true, session)

def allowsEmpty (session : Session) (name : TypeName) (site : LiteralSite) : Bool × Session :=
  if session.settings.allowsEmptyIn (.ofSite site) then (true, session)
  else if session.settings.allowEmptyPatterns.isEmpty then (false, session)
  else
    let (allowed, allowances) := session.allowances.fetch name.matchingKey fun _ =>
      session.settings.allowEmptyPatterns.matchesWhole name.matchingKey
    (allowed, { session with allowances })

/-- Whether a literal of a struct type is empty and in order as it is. -/
def excuses (session : Session) (info : StructInfo) (visit : Visit) : Bool × Session :=
  if !visit.shape.isEmpty then (false, session)
  else if visit.site.isExemptReturn then (true, session)
  else session.allowsEmpty info.name visit.site

/-- Decides a literal that is not excused. -/
def judge (session : Session) (info : StructInfo) (visit : Visit) : Step (Option Diagnostic) :=
  match visit.directive session.settings info with
  | .ignore => ⟨none, session, [.directive visit.file visit.start .ignore]⟩
  | .enforce => ⟨visit.diagnose info, session, [.directive visit.file visit.start .enforce]⟩
  | .unspecified =>
      let (selected, after) := session.selectsType info.name
      ⟨if selected then visit.diagnose info else none, after, []⟩

def visitType (session : Session) (type : Nat) (visit : Visit) : Step (Option Diagnostic) :=
  match session.info? type with
  | (none, after) => ⟨none, after, [.unknownType visit.file visit.start type]⟩
  | (some info, after) =>
      let (excused, decided) := after.excuses info visit
      if excused then ⟨none, decided, []⟩ else decided.judge info visit

/-- Decides a literal. One that is of no struct type has no diagnostic. -/
def visit (session : Session) (literal : Visit) : Step (Option Diagnostic) :=
  match literal.site.type with
  | none => ⟨none, session, []⟩
  | some type => session.visitType type literal

end Session

/-! ## Files and packages -/

namespace SourceFile

/-- Where the source of a file is found. Relative paths start from a root, if there is one. -/
def locate (path : String) (root : Option String) : String :=
  match root with
  | none => path
  | some folder => Path.join folder path

/-- The comments of a file, and a note when they cannot be read from its source. -/
def readComments (file : SourceFile) (settings : Settings) (tree : FileTree)
    (root : Option String) : CommentIndex × List Note :=
  match file.comments with
  | some groups => (.ofGroups groups, [])
  | none =>
      if settings.useDirectives then
        let source := locate file.path root
        match tree.read source with
        | .ok content => (.ofGroups (CommentGroup.ofSource content), [])
        | .error fault => (.empty, [.commentsUnread file.path source fault])
      else (.empty, [])

end SourceFile

namespace Session

/-- The comments of a file, read once for every path. -/
def commentsOf (session : Session) (tree : FileTree) (root : Option String) (file : SourceFile) :
    Step CommentIndex :=
  match session.comments.find? file.path with
  | some index => ⟨index, { session with comments := session.comments.hit }, []⟩
  | none =>
      let (index, notes) := file.readComments session.settings tree root
      ⟨index, { session with comments := session.comments.miss.keep file.path index }, notes⟩

/-- The diagnostics of literals that stand in one file. -/
def checkLiterals (packagePath file : String) (comments : CommentIndex) (session : Session) :
    List LiteralSite → Step (List Diagnostic)
  | [] => ⟨[], session, []⟩
  | site :: further =>
      let first := session.visit ⟨packagePath, file, site, comments⟩
      let rest := checkLiterals packagePath file comments first.session further
      ⟨first.value.toList ++ rest.value, rest.session, first.notes ++ rest.notes⟩

/-- The result of one file; nothing of it is looked at when it is left out. -/
def checkFile (tree : FileTree) (root : Option String) (packagePath : String) (session : Session)
    (file : SourceFile) : Step CheckResult :=
  if session.settings.isFileExcluded file.path then
    ⟨.empty, session, [.fileExcluded file.path]⟩
  else
    let comments := session.commentsOf tree root file
    let found := checkLiterals packagePath file.path comments.value comments.session file.literals
    ⟨⟨found.value, 1, file.literals.length⟩, found.session, comments.notes ++ found.notes⟩

def checkFiles (tree : FileTree) (root : Option String) (packagePath : String)
    (session : Session) : List SourceFile → Step CheckResult
  | [] => ⟨.empty, session, []⟩
  | file :: further =>
      let first := session.checkFile tree root packagePath file
      let rest := checkFiles tree root packagePath first.session further
      ⟨first.value.merge rest.value, rest.session, first.notes ++ rest.notes⟩

def checkPackage (tree : FileTree) (root : Option String) (session : Session)
    (package : Package) : Step CheckResult :=
  session.checkFiles tree root package.path package.files

def checkPackages (tree : FileTree) (root : Option String) (session : Session) :
    List Package → Step CheckResult
  | [] => ⟨.empty, session, []⟩
  | package :: further =>
      let first := session.checkPackage tree root package
      let rest := checkPackages tree root first.session further
      ⟨first.value.merge rest.value, rest.session, first.notes ++ rest.notes⟩

def statistics (session : Session) : List Note := [
  .infoStatistics session.infos.size session.infos.hits session.infos.misses,
  .commentStatistics session.comments.hits session.comments.misses,
  .decisionStatistics session.selections.size session.allowances.size]

end Session

end LiteralAudit
