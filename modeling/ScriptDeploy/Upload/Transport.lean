import ScriptDeploy.Upload.Client

/-!
# Two transports: a script of answers and an in-memory server

A scripted transport answers each request with the next answer of a list, which is either a
response or a failure; once the list is used up every request fails with
`no scripted response left`.

The in-memory server keeps the last payload stored at each remote path. A create request for
a path it holds is refused with `400 Path conflict: script already exists`; otherwise it stores
the payload and answers `201` with the path. Any other request stores the payload and answers
`200` with the path.
-/

namespace ScriptDeploy.Upload

abbrev Scripted := Except String Response

def scripted : Transport (List Scripted) where
  send answers _ :=
    match answers with
    | [] => (.error "no scripted response left", [])
    | a :: rest => (a, rest)

/-- The stored scripts of the in-memory server: remote path and last payload, in the order the
paths were first stored. -/
abbrev Store := List (String × Payload)

/-- Stores a payload at its path, replacing an earlier one in place. -/
def Store.put (st : Store) (p : Payload) : Store :=
  if st.any (·.1 == p.path) then st.map fun e => if e.1 == p.path then (p.path, p) else e
  else st ++ [(p.path, p)]

def Store.holds (st : Store) (path : String) : Bool := st.any (·.1 == path)

def Store.answer (st : Store) (r : Request) : Response × Store :=
  if r.url.endsWith "/scripts/create" then
    if st.holds r.body.path then ({ status := 400, body := "Path conflict: script already exists" }, st)
    else ({ status := 201, body := r.body.path }, st.put r.body)
  else ({ status := 200, body := r.body.path }, st.put r.body)

/-- The in-memory server as a transport; it always answers. -/
def server : Transport Store where
  send st r := let (resp, st) := st.answer r; (.ok resp, st)

end ScriptDeploy.Upload
