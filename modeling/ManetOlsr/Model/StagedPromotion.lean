/-
The promotion of the staged rows of a run (`AppendUnderLock` and `PromoteStagedRows` of the
evaluation harness).

An accepted run appends its rows to four files, one after another.  Whether `open`, `flock` and
`write` succeed, and how much a write takes, are answers of the operating system; the code looks at
some of them, and at none of the results of `AppendUnderLock`.
-/
import Mathlib.Data.List.TakeDrop
import Mathlib.Logic.Function.Basic

namespace ManetOlsr

abbrev Bytes : Type := List UInt8

/-- The answers to one `AppendUnderLock`.  A write tells how many bytes it has taken, or fails. -/
structure SystemCalls where
  openSucceeds : Bool
  flockSucceeds : Bool
  headerWrite : Option ℕ
  bodyWrite : Option ℕ
deriving DecidableEq, Repr

/-- What `write` appends. -/
def written (bytes : Bytes) (answer : Option ℕ) : Bytes := bytes.take (answer.getD 0)

/-- The contents of the files that exist. -/
abbrev Files : Type := String → Option Bytes

def newline : UInt8 := 10

structure Append where
  result : Bool
  files : Files
  rows : Bytes  -- how much of the body was written

def appendUnderLock (path : String) (header body : Bytes) (calls : SystemCalls) (files : Files) :
    Append :=
  if path = "" ∨ body = [] then ⟨true, files, []⟩
  else if calls.openSucceeds = false then ⟨false, files, []⟩
  else
    -- `O_CREAT`
    let content := (files path).getD []
    if calls.flockSucceeds = false then ⟨false, Function.update files path (some content), []⟩
    else
      let headerPart :=
        if content.length = 0 ∧ header ≠ [] then written (header ++ [newline]) calls.headerWrite
        else []
      let rows := written body calls.bodyWrite
      ⟨true, Function.update files path (some (content ++ headerPart ++ rows)), rows⟩

/-! ### The four files -/

inductive StagedTable
  | features
  | labels
  | oracle
  | runs
deriving DecidableEq, Repr

structure Staging where
  featureRows : List Bytes := []
  labelRows : List Bytes := []
  oracleRows : List Bytes := []
deriving DecidableEq, Repr

/-- What `PromoteStagedRows` reads and writes.  The columns of the row of the run are given as they
are printed. -/
structure Harness where
  runRejected : Bool
  path : StagedTable → String
  header : StagedTable → Bytes
  runsColumns : Bytes
  staging : Staging
  files : Files

namespace Harness

variable (h : Harness) (calls : StagedTable → SystemCalls)

/-- The rows of the run. -/
def body : StagedTable → Bytes
  | .features => h.staging.featureRows.flatten
  | .labels => h.staging.labelRows.flatten
  | .oracle => h.staging.oracleRows.flatten
  | .runs => h.runsColumns ++ [newline]

/-- The harness during `PromoteStagedRows`, with the rows appended so far. -/
structure Promotion where
  harness : Harness
  rows : StagedTable → Bytes := fun _ => []

/-- One `AppendUnderLock`, whose result is dropped. -/
def Promotion.append (p : Promotion) (t : StagedTable) (calls : SystemCalls) : Promotion :=
  let a := appendUnderLock (p.harness.path t) (p.harness.header t) (p.harness.body t) calls
    p.harness.files
  { harness := { p.harness with files := a.files }
    rows := Function.update p.rows t a.rows }

def promoteStagedRows : Promotion :=
  if h.runRejected then { harness := h }
  else
    let p := (((Promotion.append { harness := h } .features (calls .features)).append
      .labels (calls .labels)).append .oracle (calls .oracle)).append .runs (calls .runs)
    { p with harness := { p.harness with staging := {} } }

end Harness

end ManetOlsr
