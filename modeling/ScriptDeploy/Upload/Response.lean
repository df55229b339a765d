import ScriptDeploy.Text.Lowercase

/-!
# Answers to a create request

A create request succeeds with any status from 200 to 299. A 400 whose body, put in lower
case, holds `already exists` means the script is there already and should be updated instead.
Any other answer refuses the script.
-/

namespace ScriptDeploy.Upload

structure Response where
  status : Nat
  body : String
deriving DecidableEq, Repr, Inhabited

def Response.isSuccess (r : Response) : Bool := 200 ≤ r.status && r.status < 300

/-- What an answer to a create request means. -/
inductive CreateAnswer where
  | created
  | conflict
  | rejected (status : Nat) (body : String)
deriving DecidableEq, Repr, Inhabited

def conflictPhrase : String := "already exists"

/-- Whether `needle` occurs in `hay` as a run of consecutive characters. -/
def containsText (hay needle : String) : Bool :=
  let n := needle.toList
  go n hay.toList
where
  go (n : List Char) : List Char → Bool
    | [] => n.isEmpty
    | c :: rest => n.isPrefixOf (c :: rest) || go n rest

def classify (r : Response) : CreateAnswer :=
  if r.isSuccess then .created
  else if r.status == 400 && containsText (Text.toLowercase r.body) conflictPhrase then .conflict
  else .rejected r.status r.body

end ScriptDeploy.Upload
