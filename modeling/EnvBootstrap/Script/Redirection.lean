import EnvBootstrap.Script.Expansion
import EnvBootstrap.Script.Lookup

/-!
# Redirections

Where the descriptors of a command lead.
-/

namespace EnvBootstrap.Script

inductive Redirected where
  | file (descriptor : Nat) (access : Access) (path : List Char)
  | copy (descriptor : Nat) (source : Option Nat)
  | document (descriptor number : Nat)

def Access.demand (access : Access) (keepsFiles : Bool) : Demand :=
  match access with
  | .read => { reads := true, writes := false, makes := false }
  | .both => { reads := true, writes := true, makes := true }
  | .append => { reads := false, writes := true, makes := true, appends := true }
  | .replace forced =>
    let isNew := keepsFiles && !forced
    { reads := false, writes := true, makes := true, empties := !isNew, isNew }

namespace Redirection

variable (outputOf : Option Command → Action (List Char))

def expand : Redirection → Action Redirected
  | .file descriptor access path => do
    return .file descriptor access (← Expansion.text outputOf { tilde := true } path)
  | .copy descriptor source => do
    match ← Expansion.text outputOf { tilde := true } source with
    | ['-'] => return .copy descriptor none
    | [c] =>
      if isDigit c then return .copy descriptor (some (decimal [c])) else mistaken
    | _ => mistaken
  | .document descriptor number => return .document descriptor number
where
  mistaken {α : Type} : Action α := do
    modify fun state => { state with line := state.lastLine }
    Action.fail "Syntax error: Bad fd number".toList

def expandAll : List Redirection → Action (List Redirected)
  | [] => return []
  | first :: rest => do
    let first ← expand outputOf first
    return first :: (← expandAll rest)

def isNew (state : State) (descriptor : Nat) : Bool :=
  match state.redirected with
  | kept :: _ => (kept.lookup descriptor).isNone
  | [] => false

def keep (descriptor : Nat) : Action Unit := modify fun state =>
  match state.redirected with
  | kept :: outer =>
    if isNew state descriptor then
      { state with
        redirected := ((descriptor, state.descriptor? descriptor) :: kept) :: outer }
    else state
  | [] => state

def apply (redirected : Redirected) : Action Unit := do
  match redirected with
  | .file descriptor access path =>
    let state ← get
    let demand := access.demand (state.has .noclobber)
    match state.world.openPath state.descriptors state.directory path demand with
    | .ok (world, opened) =>
      keep descriptor
      modify fun state => { state with world }.connect descriptor (some opened)
    | .error error =>
      let isThere := demand.isNew && (state.node? path).isSome && error = .isDirectory
      Action.fail (if demand.makes && !isThere then
          refusal "cannot create" path "Directory nonexistent" error
        else refusal "cannot open" path "No such file" error)
  | .copy descriptor none =>
    keep descriptor
    modify fun state => state.connect descriptor none
  | .copy descriptor (some source) =>
    if source ≠ descriptor then
      match (← get).descriptor? source with
      | some found =>
        keep descriptor
        modify fun state => state.connect descriptor (some found)
      | none =>
        if isNew (← get) descriptor then
          keep descriptor
          modify fun state => state.connect descriptor none
        Action.fail (digitsOf source ++ ": Bad file descriptor".toList)
  | .document descriptor number =>
    let document := ((← get).documents.lookup number).getD []
    let text ← Expansion.text outputOf { isQuoted := true } document
    let (world, opening) := (← get).world.open { target := .pipe { front := text } }
    keep descriptor
    modify fun state =>
      { state with world }.connect descriptor (some { opening, reads := true })

def applyAll : List Redirected → Action Unit
  | [] => return
  | first :: rest => do
    apply outputOf first
    applyAll rest

/-- Lets descriptors lead elsewhere; the status is that of an error, or zero. -/
def applySafely (redirected : List Redirected) : Action Nat := do
  match ← Action.outcome (applyAll outputOf redirected) with
  | .ok () => return 0
  | .error .error => return 2
  | .error jump => throw jump

end Redirection

namespace Action

def beginRedirections : Action Unit := modify fun state =>
  { state with redirected := [] :: state.redirected }

def endRedirections (stay : Bool) : Action Unit := modify fun state =>
  match state.redirected with
  | [] => state
  | kept :: outer =>
    let state := { state with redirected := outer }
    if stay then state
    else kept.foldl (fun state (number, descriptor) => state.connect number descriptor) state

def endRedirectionsTo (outer : Nat) : Nat → Action Unit
  | 0 => pure ()
  | fuel + 1 => do
    if (← get).redirected.length > outer then
      endRedirections false
      endRedirectionsTo outer fuel

end Action

end EnvBootstrap.Script
