/-
**Rehearsed handlers.**

In a rehearsal a handler follows a script, reply by reply, and then repeats its last word. A reply
may first change the store or the clock behind the engine's back.

* `Rehearsal.Effect`: a change behind the engine's back;
* `Rehearsal.Line`, `Rehearsal.Script`: one reply, and all of them;
* `Rehearsal.Cue`: what a handler asks its surroundings for;
* `Rehearsal.script`, `Rehearsal.draft`: scripts and whole drafts of registries from a request.
-/

import Leasehold.Registry.Draft
import Leasehold.Rehearsal.Numbered
import Leasehold.Wire.Entity

namespace Leasehold.Rehearsal

/-- A change to the store or the clock behind the engine's back. -/
inductive Effect (S P : Type) where
  | requestCancel (terminal : List S)
  | cancelIfFree (cancelled : S) (terminal : List S)
  | release (holder : String)
  | renew (holder : String) (duration : Duration)
  | lease (holder : String) (duration : Duration)
  | advance (duration : Duration)
  /-- Write the entity with a change. -/
  | write (change : Entity S P → Entity S P)

/-- One reply of a script. -/
structure Line (S P : Type) where
  effects : List (Effect S P)
  millis : Nat
  reply : Entity S P → Reply S P

/-- What a handler does, call by call, and what it does after that. -/
structure Script (S P : Type) where
  lines : List (Line S P)
  fallback : Line S P

namespace Script

variable {S P : Type}

/-- The next line, and the script from then on. -/
def next (script : Script S P) : Line S P × Script S P :=
  match script.lines with
  | [] => (script.fallback, script)
  | line :: rest => (line, { script with lines := rest })

end Script

/-- What a handler asks its surroundings for: its next reply, and to note that it is done. -/
inductive Cue (S P : Type) where
  | enter (handler : Nat) (entity : Entity S P)
  | leave

/-- What the surroundings give back. -/
abbrev Cue.Response {S P : Type} : Cue S P → Type
  | .enter .. => Reply S P
  | .leave => Unit

/-- The handler with a number. -/
def handler {S P : Type} (number : Nat) : Handler S P (Cue S P) Cue.Response := fun entity =>
  .call (.enter number entity) fun reply => .call .leave fun () => .done reply

/-! ### Requests -/

open Wire

section

variable {S P : Type} [DecidableEq S] [ProcessState S] [Payload P]

/-- A change behind the engine's back. -/
def effect (json : Json) : Read (Effect S P) := do
  match ← field json "fx" text with
  | "request_cancel" => return .requestCancel (← field json "terminal" (listOf state))
  | "cancel_if_free" =>
    return .cancelIfFree (← field json "state" state) (← field json "terminal" (listOf state))
  | "release" => return .release (← field json "holder" text)
  | "renew" => return .renew (← field json "holder" text) (← field json "duration" duration)
  | "lease" => return .lease (← field json "holder" text) (← field json "duration" duration)
  | "advance" => return .advance (← field json "duration" duration)
  | "write" => return .write (← field json "apply" changes)
  | _ => refuse

/-- The reply in a line. -/
def reply (json : Json) : Read (Entity S P → Reply S P) := do
  match ← field json "do" text with
  | "advance" =>
    let next ← field json "to" state
    let payload ← (json.field? "payload").mapM payload
    return fun entity => .decided (.success next (payload.getD entity.payload))
  | "retry" =>
    let reason ← field json "reason" text
    return fun _ => .decided (.retry reason)
  | "fatal" =>
    let reason ← field json "reason" text
    return fun _ => .decided (.fatal reason)
  | "error" =>
    let chain ← field json "chain" (listOf text)
    return fun _ => .failed (": ".intercalate chain.reverse)
  | "panic" =>
    let message ← field json "message" text
    match ← fieldOr json "as" "str" text with
    | "str" => return fun _ => .crashed (some message)
    | "string" => return fun _ => .crashed (some message)
    | "other" => return fun _ => .crashed none
    | _ => refuse
  | _ => refuse

/-- One reply of a script, with what comes before it. -/
def line (json : Json) : Read (Line S P) := do
  let effects ← fieldOr json "pre" [] (listOf effect)
  let millis ← fieldOr json "delay_ms" 0 timer
  return ⟨effects, millis, ← reply json⟩

/-- A whole script. -/
def script (json : Json) : Read (Script S P) := do
  return ⟨← fieldOr json "script" [] (listOf line), ← field json "fallback" line⟩

end

/-- A draft with scripted handlers. -/
abbrev ScriptedDraft : Type := Draft Numbered Anything (Cue Numbered Anything) Cue.Response

/-- A draft with the handlers of an array, and their scripts. -/
def handlers (draft : ScriptedDraft) :
    Nat → List Json → Read (ScriptedDraft × List (Script Numbered Anything))
  | _, [] => return (draft, [])
  | number, json :: rest => do
    let state ← field json "state" state
    let declared ← field json "next" (listOf Wire.state)
    let script ← script json
    let (draft, scripts) ←
      handlers (draft.withHandler state declared (handler number)) (number + 1) rest
    return (draft, script :: scripts)

/-- A draft with scripted handlers, and their scripts. -/
def draft (json : Json) : Read (ScriptedDraft × List (Script Numbered Anything)) := do
  let _ ← members json
  let entityType ← fieldOr json "entity_type" "test_process" text
  let initial ← field? json "initial" state
  let failed ← field? json "failed" state
  let cancelled ← field? json "cancelled" state
  let terminal ← fieldOr json "terminal" [] (listOf state)
  let transitions ← fieldOr json "transitions" [] (listOf (pairOf state (listOf state)))
  let draft : ScriptedDraft := {
    entityType := entityType, initial := initial, failed := failed, cancelled := cancelled,
    terminal := terminal, transitions := transitions }
  handlers draft 0 (← fieldOr json "handlers" [] (listOf pure))

end Leasehold.Rehearsal
