/-!
# Reading bytes as UTF-8 text

Bytes are read as text by the UTF-8 rules. A lead byte fixes how many continuation bytes
follow and the range the first of them must lie in, so that overlong forms, surrogates and
values past `U+10FFFF` are refused.

`decodeLossy` reads every valid sequence as its character and puts one `U+FFFD` in place of
each broken piece: the longest beginning of a valid sequence, or a single byte that begins
none. Valid text reads back as itself. `decode?` reads the same way but gives nothing as soon
as a piece is broken.
-/

namespace ScriptDeploy.Text

/-- The number of continuation bytes after a lead byte, and the range of the first of them;
`none` for a byte that begins no sequence. -/
def leadRule (b : UInt8) : Option (Nat × UInt8 × UInt8) :=
  if b < 0xC2 then none
  else if b ≤ 0xDF then some (1, 0x80, 0xBF)
  else if b == 0xE0 then some (2, 0xA0, 0xBF)
  else if b == 0xED then some (2, 0x80, 0x9F)
  else if b ≤ 0xEF then some (2, 0x80, 0xBF)
  else if b == 0xF0 then some (3, 0x90, 0xBF)
  else if b ≤ 0xF3 then some (3, 0x80, 0xBF)
  else if b == 0xF4 then some (3, 0x80, 0x8F)
  else none

def continuationRun (wanted : Nat) (lo hi : UInt8) : List UInt8 → Nat
  | [] => 0
  | b :: rest =>
    match wanted with
    | 0 => 0
    | w + 1 => if lo ≤ b && b ≤ hi then continuationRun w 0x80 0xBF rest + 1 else 0

def codePoint (lead : UInt8) (more : List UInt8) : Nat :=
  let start := match more.length with
    | 1 => lead.toNat % 32
    | 2 => lead.toNat % 16
    | _ => lead.toNat % 8
  more.foldl (fun acc b => acc * 64 + b.toNat % 64) start

/-- Text from bytes, each broken piece replaced by `U+FFFD`. -/
def decodeLossy (bytes : List UInt8) : String :=
  String.ofList (go bytes)
where
  go : List UInt8 → List Char
    | [] => []
    | b :: rest =>
      if b < 0x80 then Char.ofNat b.toNat :: go rest
      else
        match leadRule b with
        | none => '\uFFFD' :: go rest
        | some (wanted, lo, hi) =>
          let run := continuationRun wanted lo hi rest
          if run == wanted then Char.ofNat (codePoint b (rest.take run)) :: go (rest.drop run)
          else '\uFFFD' :: go (rest.drop run)
  termination_by bs => bs.length
  decreasing_by
    all_goals simp only [List.length_drop, List.length_cons]
    all_goals omega

/-- Text from bytes that are valid UTF-8 throughout; none when any piece is broken. -/
def decode? (bytes : List UInt8) : Option String :=
  (go bytes).map String.ofList
where
  go : List UInt8 → Option (List Char)
    | [] => some []
    | b :: rest =>
      if b < 0x80 then (go rest).map (Char.ofNat b.toNat :: ·)
      else
        match leadRule b with
        | none => none
        | some (wanted, lo, hi) =>
          let run := continuationRun wanted lo hi rest
          if run == wanted then
            (go (rest.drop run)).map (Char.ofNat (codePoint b (rest.take run)) :: ·)
          else none
  termination_by bs => bs.length
  decreasing_by
    all_goals simp only [List.length_drop, List.length_cons]
    all_goals omega

end ScriptDeploy.Text
