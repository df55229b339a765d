import ScriptDeploy.Payload
import ScriptDeploy.Text.Percent
import ScriptDeploy.Upload.Response

/-!
# The create-then-update upload protocol

A client knows the API base, the workspace and the token. Uploading a script first posts it to
the create address. A success means it was created; a conflict means it exists already, and it
is then posted to the update address of its path, where a success means it was updated. Any
other answer refuses the script at the stage that got it, and a request that gets no answer
fails with its address. There is no retry: at most two requests per script.

The transport is a function on its own state, so that a sequence of uploads threads one
transport through all of them; each upload also gives the requests it made, in order.
-/

namespace ScriptDeploy.Upload

structure Request where
  url : String
  token : String
  body : Payload
deriving Repr, Inhabited

/-- A way of sending requests, with state: each request gives an answer or a failure message,
and a new state. -/
structure Transport (σ : Type) where
  send : σ → Request → Except String Response × σ

inductive Done where
  | created
  | updated
deriving DecidableEq, Repr, Inhabited

structure Client where
  baseUrl : String
  workspace : String
  token : String
deriving Repr, Inhabited

namespace Client

def createUrl (c : Client) : String := c.baseUrl ++ "/w/" ++ c.workspace ++ "/scripts/create"

def updateUrl (c : Client) (path : String) : String :=
  c.baseUrl ++ "/w/" ++ c.workspace ++ "/scripts/update/" ++ Text.encodeUriComponent path

def send {σ : Type} (c : Client) (t : Transport σ) (s : σ) (url : String) (p : Payload) :
    Except SyncError Response × σ :=
  match t.send s { url, token := c.token, body := p } with
  | (.ok r, s) => (.ok r, s)
  | (.error m, s) => (.error (.transport url m), s)

/-- Uploads a script: create, and update on a conflict. Gives the result, the transport's
new state and the requests made. -/
def upsert {σ : Type} (c : Client) (t : Transport σ) (s : σ) (p : Payload) :
    Except SyncError Done × σ × List Request :=
  let create : Request := { url := c.createUrl, token := c.token, body := p }
  match c.send t s create.url p with
  | (.error e, s) => (.error e, s, [create])
  | (.ok r, s) =>
    match classify r with
    | .created => (.ok .created, s, [create])
    | .rejected status body => (.error (.rejected p.path .create status body), s, [create])
    | .conflict =>
      let update : Request := { url := c.updateUrl p.path, token := c.token, body := p }
      match c.send t s update.url p with
      | (.error e, s) => (.error e, s, [create, update])
      | (.ok r, s) =>
        if r.isSuccess then (.ok .updated, s, [create, update])
        else (.error (.rejected p.path .update r.status r.body), s, [create, update])

end Client

end ScriptDeploy.Upload
