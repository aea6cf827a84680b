import WorkflowCheck.FileTree.Edit
import WorkflowCheck.Notice
import WorkflowCheck.Report.Stream

/-! What a run does to the world around it: it prints, notes and saves, in that order of things
which its plan lists, and stops at the first thing that fails. -/

namespace WorkflowCheck

inductive Effect where
  | print (print : Report.Print)
  | note (notice : Notice)
  | save (path : Bytes) (text : String)
  deriving DecidableEq, Repr

/-- Effects, and what they come to if none of them fails. -/
structure Plan (α : Type) where
  effects : List Effect
  result : Except Failure α

namespace Plan

variable {α β : Type}

/-- Goes on with what a plan comes to, unless that is a failure. -/
def bind (plan : Plan α) (next : α → Plan β) : Plan β :=
  match plan.result with
  | .error failure => ⟨plan.effects, .error failure⟩
  | .ok x =>
    let rest := next x
    ⟨plan.effects ++ rest.effects, rest.result⟩

instance : Monad Plan where
  pure x := ⟨[], .ok x⟩
  bind := bind

def perform (effects : List Effect) : Plan Unit := ⟨effects, .ok ()⟩

end Plan

structure World where
  tree : FileTree
  streams : Report.Streams
  notices : List Notice

namespace World

def perform (w : World) : Effect → World × Option Failure
  | .print p =>
    ({ w with streams := w.streams.print p },
      if w.streams.fits p then none else some (.output .full))
  | .note n => ({ w with notices := w.notices ++ [n] }, none)
  | .save path text =>
    match w.tree.writeText path text with
    | .ok tree => ({ w with tree := tree }, none)
    | .error cause => (w, some (.io path cause))

def performAll (w : World) : List Effect → World × Option Failure
  | [] => (w, none)
  | e :: rest =>
    match w.perform e with
    | (w, none) => w.performAll rest
    | (w, some failure) => (w, some failure)

def follow {α : Type} (w : World) (plan : Plan α) : World × Except Failure α :=
  match w.performAll plan.effects with
  | (w, none) => (w, plan.result)
  | (w, some failure) => (w, .error failure)

end World

end WorkflowCheck
