import RequestLog.Bench.Basic

/-!
Scripts: applications given by lists of acts. The acts of the application are done when it is
called, those of its body while the body is walked through.
-/
namespace RequestLog

/-- An act of a scripted application. -/
inductive Act where
  | start (status : Value) (headers : HeaderSource) (trouble : Value)
  | fail (fault : Fault)
  | touch (change : Bench → Bench)
  | chunk (c : Value)

/-- The body of a scripted application. -/
inductive ScriptedBody where
  /-- The acts are done when the application is called, and the chunks kept for the walk. -/
  | ready (acts : List Act)
  /-- The acts are done anew in each walk; the body cannot be closed, though a value may be found
  in the place of a way to close it. -/
  | lazy (acts : List Act) (closer : Option Value)
  /-- The same, with a body that counts how often it is closed and may fail then. -/
  | closing (acts : List Act) (fault : Option Fault)

namespace Act

variable {α : Type}

/-- The process of acts that gives no chunks; those that it meets are collected. -/
def collect (next : List Value → Process Bench Empty α) :
    List Act → List Value → Process Bench Empty α
  | [], got => next got
  | start status headers trouble :: rest, got =>
    .start status headers trouble fun
      | .ok _ => collect next rest got
      | .error f => .fail f
  | fail f :: _, _ => .fail f
  | touch change :: rest, got => .touch (Action.change change) fun _ _ => collect next rest got
  | chunk c :: rest, got => collect next rest (got ++ [c])

def give : List Act → Process Bench Value Unit
  | [] => .done ()
  | start status headers trouble :: rest =>
    .start status headers trouble fun
      | .ok _ => give rest
      | .error f => .fail f
  | fail f :: _ => .fail f
  | touch change :: rest => .touch (Action.change change) fun _ _ => give rest
  | chunk c :: rest => .chunk c (give rest)

end Act

namespace ScriptedBody

def chunks : List Value → Process Bench Value Unit
  | [] => .done ()
  | c :: rest => .chunk c (chunks rest)

/-- The process that counts the closing of a body, and fails then if there is a fault. -/
def closeProcess (n : Nat) (fault : Option Fault) : Process Bench Empty Unit :=
  .touch (Action.change fun b =>
      { b with closings := b.closings.modify n fun k => k.map (· + 1) }) fun _ _ =>
    match fault with
    | some f => .fail f
    | none => .done ()

def make : ScriptedBody → Process Bench Empty (Body Bench)
  | ready acts => Act.collect (fun got => .done ⟨.done (chunks got), .missing⟩) acts []
  | .lazy acts closer =>
    .touch (Action.change fun b => { b with closings := b.closings ++ [none] }) fun _ _ =>
      .done ⟨.done (Act.give acts), closer.elim .missing .value⟩
  | closing acts fault =>
    .touch (Action.change fun b => { b with closings := b.closings ++ [some 0] }) fun _ b =>
      .done ⟨.done (Act.give acts), .able (closeProcess (b.closings.length - 1) fault)⟩

/-- The application of acts and a body, which does the same whatever the request is. -/
def app (acts : List Act) (body : ScriptedBody) : App Bench := fun _ =>
  Act.collect (fun _ => body.make) acts []

end ScriptedBody

end RequestLog
