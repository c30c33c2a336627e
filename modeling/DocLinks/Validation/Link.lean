import DocLinks.Context

/-!
# Checking links

A link is valid if its target is a file. If it is not, but a redirect leads from it to a file, the
link is redirect-available; otherwise it is broken.

## Contents
- `BrokenLink`, `ValidationResult`: verdicts.
- `validateLink`, `validateFile`, `validateAll`.
- `ValidationStats`: how many links have which verdict.
-/

namespace DocLinks

/-- The verdict on a link in one word. -/
inductive Status where
  | valid
  | broken
  | redirectAvailable
  deriving DecidableEq, Repr, Inhabited

def Status.name : Status → String
  | valid => "valid"
  | broken => "broken"
  | redirectAvailable => "redirect-available"

/-- A link whose target is missing, with the path that it resolves to and a description that is
never empty. -/
structure BrokenLink where
  sourceFile : String
  link : Link
  resolvedPath : Option String
  error : String
  error_ne : error ≠ ""
  deriving DecidableEq, Repr

/-- The description of a missing target. -/
def notFound (path : String) : String := "Target not found: " ++ path

theorem notFound_ne (path : String) : notFound path ≠ "" := fun h =>
  absurd (String.append_eq_empty_iff.1 h).1 (by decide)

instance : Inhabited BrokenLink := ⟨"", default, none, notFound "", notFound_ne ""⟩

/-- A broken link from parts that may not fit: the status has to say broken, and the description may
not be missing. -/
def BrokenLink.make (sourceFile : String) (link : Link) (status : Status)
    (resolvedPath error : Option String) : Except Fault BrokenLink :=
  if status ≠ .broken then .error (.brokenStatus status.name)
  else
    match error with
    | none => .error .brokenWithoutError
    | some e =>
      if h : e = "" then .error .brokenWithoutError
      else .ok ⟨sourceFile, link, resolvedPath, e, h⟩

/-- The verdict on a link. -/
inductive ValidationResult where
  | valid (sourceFile : String) (link : Link) (resolved : String)
  | redirectAvailable (sourceFile : String) (link : Link) (resolved destination : String)
  | broken (b : BrokenLink)
  deriving DecidableEq, Repr, Inhabited

namespace ValidationResult

def sourceFile : ValidationResult → String
  | valid s _ _ => s
  | redirectAvailable s _ _ _ => s
  | broken b => b.sourceFile

def link : ValidationResult → Link
  | valid _ l _ => l
  | redirectAvailable _ l _ _ => l
  | broken b => b.link

def status : ValidationResult → Status
  | valid _ _ _ => .valid
  | redirectAvailable _ _ _ _ => .redirectAvailable
  | broken _ => .broken

def resolvedPath : ValidationResult → Option String
  | valid _ _ r => some r
  | redirectAvailable _ _ r _ => some r
  | broken b => b.resolvedPath

/-- What is wrong, if anything is. -/
def error : ValidationResult → Option String
  | valid _ _ _ => none
  | redirectAvailable _ _ r d => some (notFound r ++ ". Redirect available to: " ++ d)
  | broken b => some b.error

/-- The broken link, if the verdict is that. -/
def broken? : ValidationResult → Option BrokenLink
  | broken b => some b
  | _ => none

/-- What is reported about a verdict. -/
def records : ValidationResult → List LogRecord
  | redirectAvailable s l r _ =>
    [{ level := .debug
       logger := loggerOf "validators.links"
       message := s ++ ":" ++ toString l.line ++ " redirect available for " ++ r
       context := { filePath := some s, lineNumber := some l.line, errorCode := some "LNK-02" } }]
  | _ => []

end ValidationResult

/-- The destination of a redirect for a path, if it is a file. -/
def liveRedirect? (t : FileTree) (root : FilePath) (table : Option RedirectTable)
    (path : String) : Option String :=
  ((table.bind (·.findTarget? path)).filter (· ≠ "")).filter (t.hasFile root ·)

/-- The verdict on a link of a document, given the redirects of the project. -/
def validateLink (t : FileTree) (root : FilePath) (table : Option RedirectTable)
    (source : String) (link : Link) : ValidationResult :=
  match link.kind with
  | .external => .valid source link link.targetPath
  | .anchorOnly => .valid source link source
  | .internal | .asset =>
    let r := resolveLink t root source link.targetPath
    if r.isFile then .valid source link r.resolved
    else
      match liveRedirect? t root table r.resolved with
      | some destination => .redirectAvailable source link r.resolved destination
      | none => .broken ⟨source, link, some r.resolved, notFound r.resolved, notFound_ne _⟩

/-- The verdicts on the links of one document. -/
def validateFile (t : FileTree) (root : FilePath) (table : Option RedirectTable)
    (f : FileLinks) : List ValidationResult :=
  f.links.map (validateLink t root table f.filePath)

/-- The verdicts on the links of several documents, one document after the other. -/
def validateFiles (t : FileTree) (root : FilePath) (table : Option RedirectTable)
    (fs : List FileLinks) : List ValidationResult :=
  fs.flatMap (validateFile t root table)

/-- How many links there are, how many have which verdict, and how many documents hold a link that
is not valid. -/
structure ValidationStats where
  total : Nat
  valid : Nat
  broken : Nat
  redirectAvailable : Nat
  filesAffected : Nat
  deriving DecidableEq, Repr

/-- The broken links among verdicts. -/
def brokenLinks (rs : List ValidationResult) : List BrokenLink :=
  rs.filterMap ValidationResult.broken?

/-- How often a status occurs among verdicts, given document and status of each. -/
def statsOf (verdicts : List (String × Status)) : ValidationStats :=
  let count (s : Status) := (verdicts.filter (·.2 = s)).length
  { total := verdicts.length
    valid := count .valid
    broken := count .broken
    redirectAvailable := count .redirectAvailable
    filesAffected := ((verdicts.filter (·.2 ≠ .valid)).map Prod.fst).eraseDups.length }

/-- The counts of verdicts. -/
def validationStats (rs : List ValidationResult) : ValidationStats :=
  statsOf (rs.map fun r => (r.sourceFile, r.status))

/-- Checks the links of several documents against the redirects of the context. -/
def validateAll (fs : List FileLinks) : Work Context (List ValidationResult) := do
  let c ← Work.scope
  let rs := validateFiles (← Work.tree) c.root c.table fs
  (rs.flatMap ValidationResult.records).forM Work.report
  Work.report
    { level := .info
      logger := loggerOf "validators.links"
      message := "Validated " ++ toString rs.length ++ " link(s), " ++
        toString (brokenLinks rs).length ++ " broken" }
  return rs

/-- Checks one link; another table than that of the context may be given. -/
def validateOne (source : String) (link : Link) (table : Option RedirectTable) :
    Work Context ValidationResult := do
  let c ← Work.scope
  let r := validateLink (← Work.tree) c.root (table <|> c.table) source link
  r.records.forM Work.report
  return r

end DocLinks
