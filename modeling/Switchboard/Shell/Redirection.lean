import Switchboard.Shell.Threads

/-!
# Redirections

Commands run with descriptors that lead elsewhere meanwhile.
-/

namespace Switchboard.Shell

/-- Where a path leads that is opened in one of the ways of redirections, or what is wrong. -/
def openPath (kind : RedirectKind) (path : Chars) : Run (Except String Channel) := do
  match kind with
  | .write forced => openWriting (.replace forced) path
  | .append => openWriting .append path
  | .open_ =>
    match ← openReading path with
    | .ok channel => return .ok channel
    | .error _ => openWriting .append path
  | _ => openReading path

/-- Leads a descriptor elsewhere; `false` says that it cannot be led there. -/
def redirect (capture : Capture) : Redirect → Run Bool
  | .mk fd kind target => do
    let text ← expandText capture target
    let t ← getThread
    let lead (c : Channel) : Run Bool := do
      changeThread fun t => t.setChannel fd c
      return true
    match kind with
    | .here => lead (← textChannel false text)
    | .duplicate =>
      if text = ['-'] then lead .closed
      else if text.length ≠ 1 || !text.all Char.isDigit then
        fail "Syntax error: Bad fd number".toList
      else match (t.channels.lookup (baseValue 10 text)).filter (· ≠ .closed) with
        | some channel => lead channel
        | none =>
          complain (text ++ ": Bad file descriptor".toList)
          return false
    | kind =>
      match ← openPath kind text with
      | .ok channel => lead channel
      | .error reason =>
        let verb := if kind = .read then "cannot open " else "cannot create "
        complain (verb.toList ++ text ++ [':', ' '] ++ reason.toList)
        return false

def redirectAll (capture : Capture) : List Redirect → Run Bool
  | [] => return true
  | r :: rest => do
    if ← redirect capture r then redirectAll capture rest
    else return false

/-- Does something with descriptors that lead elsewhere meanwhile. Where that cannot be, the shell
does not go on if the command is `special`. -/
def redirected (capture : Capture) (special : Bool) (redirects : List Redirect)
    (body : Run Unit) : Run Unit := do
  if redirects.isEmpty then body
  else
    let saved := (← getThread).channels
    let work : Run Unit := do
      if ← redirectAll capture redirects then body
      else if special then throw (.failed 2)
      else
        setStatus 2
        checkFailure
    finally_ work (changeThread fun t => { t with channels := saved })

/-- Takes note of what the main thread has let go of for good. -/
def noteReleases : Run Unit := do
  let t ← getThread
  if t.isMain then
    changeWorld fun w =>
      { w with
        outputRelease :=
          if t.holds (.output outputSink) then none else w.outputRelease.or (some w.clock)
        inputRelease := if t.holds (.input 0) then none else w.inputRelease.or (some w.clock) }

end Switchboard.Shell
