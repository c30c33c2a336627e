import DocLinks.Project.Published
import DocLinks.Redirect.Table
import DocLinks.Work

/-!
# Checking redirects

A redirect is skipped if its source is still a page of its own, and broken if its destination is not
served. It can be both.
-/

namespace DocLinks

/-- A redirect with what is wrong with it. -/
structure RedirectIssue where
  entry : RedirectEntry
  reason : String
  deriving DecidableEq, Repr

/-- The findings about a table. -/
structure RedirectCheck where
  total : Nat
  skipped : List RedirectIssue
  broken : List RedirectIssue
  deriving DecidableEq, Repr

namespace RedirectCheck

/-- The number of entries that nothing is wrong with; equal entries count once among those that
something is. -/
def valid (r : RedirectCheck) : Int :=
  (r.total : Int) - ((r.skipped ++ r.broken).map (·.entry)).eraseDups.length

def hasIssues (r : RedirectCheck) : Bool := !(r.skipped ++ r.broken).isEmpty

end RedirectCheck

/-- Checks the entries of a table. -/
def checkRedirects (t : FileTree) (root : FilePath) (book : Option FilePath)
    (entries : List RedirectEntry) : RedirectCheck where
  total := entries.length
  skipped := (entries.filter fun e => redirectConflicts t root e.fromPath e.toPath).map
    (⟨·, "source path exists as different content"⟩)
  broken := (entries.filter fun e => !servesPath t root book e.toPath).map
    (⟨·, "target does not exist"⟩)

/-- What is reported about a broken redirect. -/
def RedirectIssue.record (i : RedirectIssue) : LogRecord where
  level := .warning
  logger := loggerOf "validators.redirects"
  message := "Redirect " ++ i.entry.rawFrom ++ " -> " ++ i.entry.rawTo ++
    " points to a missing target"
  context := { lineNumber := some (i.entry.line : Int), errorCode := some "RDR-04" }

/-- Checks the entries of a table and reports the broken ones. -/
def checkTable {σ : Type} (root : FilePath) (book : Option FilePath) (table : RedirectTable) :
    Work σ RedirectCheck := do
  let r := checkRedirects (← Work.tree) root book table.entries
  (r.broken.map RedirectIssue.record).forM Work.report
  return r

end DocLinks
