import Transcript.Cli.Console

/-!
# Command contexts

Commands run in contexts, which form a tree; a state attached to a context holds for the contexts
below it too. The state found last is remembered, and stands in where no context has one.

## Main definitions

- `Contexts`: contexts, the states attached to them, and the state remembered
- `Contexts.obtain`: the state that holds for a context
- `Contexts.update`: changes that state
-/

namespace Transcript.Cli

/-- What is attached to a context. -/
inductive Attached where
  /-- Nothing. -/
  | nothing
  /-- The state of this number. -/
  | state (id : Nat)
  /-- Something else. -/
  | other
  deriving DecidableEq, Inhabited

/-- A context: its parent, and what is attached to it. -/
structure Context where
  /-- The parent. -/
  parent : Option Nat := none
  /-- What is attached. -/
  attached : Attached := .nothing
  deriving DecidableEq, Inhabited

/-- Contexts, states, and the state remembered. -/
structure Contexts where
  /-- The contexts. -/
  contexts : List Context := []
  /-- The states made so far. -/
  states : List CliState := []
  /-- The state remembered. -/
  current : Option Nat := none

namespace Contexts

/-- The state of this number. -/
def state (s : Contexts) (id : Nat) : CliState :=
  (s.states[id]?).getD {}

/-- Makes a new state. -/
def make (s : Contexts) (state : CliState) : Nat × Contexts :=
  (s.states.length, { s with states := s.states ++ [state] })

/-- Attaches something to a context. -/
def attach (s : Contexts) (ctx : Nat) (attached : Attached) : Contexts :=
  { s with contexts := s.contexts.modify ctx fun c => { c with attached } }

/-- The state attached to a context or to the closest one above; `steps` bounds the climb. -/
def findFrom (s : Contexts) : Nat → Option Nat → Option Nat
  | 0, _ => none
  | _ + 1, none => none
  | steps + 1, some ctx =>
    match s.contexts[ctx]? with
    | none => none
    | some c =>
      match c.attached with
      | .state id => some id
      | _ => s.findFrom steps c.parent

/-- The state attached to a context or to the closest one above. -/
def find? (s : Contexts) (ctx : Option Nat) : Option Nat :=
  s.findFrom s.contexts.length ctx

/-- Remembers a state. -/
def remember (s : Contexts) (id : Nat) : Contexts :=
  { s with current := some id }

/-- The fault of asking for a state where there is none. -/
def noState : Fault :=
  .of .failure "CLI state is not initialised for this context."

/-- The state that holds for a context: one attached to it or above it, or a new one attached to it,
or the one remembered, or a new one. New states are made only if `create` says so. -/
def obtain (s : Contexts) (ctx : Option Nat) (create : Bool) : Except Fault (Nat × Contexts) :=
  match s.find? ctx with
  | some id => .ok (id, s.remember id)
  | none =>
    match ctx, create with
    | some ctx, true =>
      let (id, s) := s.make {}
      .ok (id, (s.attach ctx (.state id)).remember id)
    -- Without a context, or without leave to make a state, the remembered one answers.
    | _, _ =>
      match s.current with
      | some id => .ok (id, s)
      | none =>
        if create then
          let (id, s) := s.make {}
          .ok (id, s.remember id)
        else .error noState

/-- Changes a state. -/
def change (s : Contexts) (id : Nat) (f : CliState → CliState) : Contexts :=
  { s with states := s.states.modify id f }

/-- Changes the state that holds for a context; it is made if need be. -/
def update (s : Contexts) (ctx : Option Nat) (f : CliState → CliState) :
    Except Fault (Nat × Contexts) :=
  (s.obtain ctx true).map fun (id, s) => (id, s.change id f)

/-- Whether unexpected faults are shown in full. Looking at it makes no state. -/
def debugEnabled (s : Contexts) : Bool × Contexts :=
  match s.obtain none false with
  | .ok (id, s) => ((s.state id).showTracebacks, s)
  | .error _ => (false, s)

end Contexts

end Transcript.Cli
