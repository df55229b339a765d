import ScriptDeploy.Json

/-!
# Reports of a deploy run

Each script of a run ends in one outcome: created, updated, skipped (a dry run sends nothing)
or failed with a reason. A report lists the scripts in the order they were processed, with
the remote path each was given (none when it failed before the path was known), and counts
the outcomes; a run succeeds when no script failed.

As JSON an outcome is an object with its status, and a failure also carries its reason; its
text is the status, or `failed: ` and the reason.
-/

namespace ScriptDeploy

inductive Outcome where
  | created
  | updated
  | skipped
  | failed (reason : String)
deriving DecidableEq, Repr, Inhabited

namespace Outcome

def isFailed : Outcome → Bool
  | .failed _ => true
  | _ => false

def status : Outcome → String
  | .created => "created"
  | .updated => "updated"
  | .skipped => "skipped"
  | .failed _ => "failed"

def text : Outcome → String
  | .failed reason => "failed: " ++ reason
  | o => o.status

def toJson : Outcome → Json
  | .failed reason => .object [("status", .string "failed"), ("reason", .string reason)]
  | o => .object [("status", .string o.status)]

end Outcome

/-- What happened to one script. -/
structure ItemReport where
  source : String
  remotePath : Option String
  outcome : Outcome
deriving DecidableEq, Repr, Inhabited

/-- What a run did, script by script. -/
structure Report where
  workspace : String
  dryRun : Bool
  items : List ItemReport
deriving DecidableEq, Repr, Inhabited

namespace Report

def count (r : Report) (p : Outcome → Bool) : Nat := (r.items.filter (p ·.outcome)).length

def created (r : Report) : Nat := r.count (· == .created)

def updated (r : Report) : Nat := r.count (· == .updated)

def skipped (r : Report) : Nat := r.count (· == .skipped)

def failed (r : Report) : Nat := r.count Outcome.isFailed

def isSuccess (r : Report) : Bool := !r.items.any (·.outcome.isFailed)

def itemJson (i : ItemReport) : Json :=
  .object [("source_path", .string i.source),
    ("remote_path", match i.remotePath with
      | some p => .string p
      | none => .null),
    ("outcome", i.outcome.toJson), ("display", .string i.outcome.text)]

/-- The report as JSON, with its counts. -/
def toJson (r : Report) : Json :=
  .object [("workspace", .string r.workspace), ("dry_run", .bool r.dryRun),
    ("items", .array (r.items.map itemJson)), ("created", .natural r.created),
    ("updated", .natural r.updated), ("skipped", .natural r.skipped),
    ("failed", .natural r.failed), ("is_success", .bool r.isSuccess)]

end Report

end ScriptDeploy
