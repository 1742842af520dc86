import Template.Render.Evaluate

/-!
What a program gets from a render. Where the use of a value has no end, or reads a map that is held,
there is no outcome: it kills the program, and so do context values that cannot be copied. How much
memory there is plays no part here.
-/

namespace Template

/-- What kills the program at an event. -/
def Event.fault? (hosts : Hosts) : Event → Option Fault
  | .use u s => u.fault? hosts s
  | _ => none

/-- What copying the values for a render comes to. Copies follow them down as printing does. -/
def Context.fault? (context : Context) (store : Store) : Option Fault :=
  context.values.findSome? fun (_, v) => v.printFault? store none

/-- The first fault is kept. -/
def Environment.guarded (env : Environment) : Observed (Option Fault) :=
  { env with observe := fun event fault? => fault? <|> event.fault? env.hosts }

/-- Renders a document, unless that kills the program. Nothing counts that comes after a fault. -/
def Document.answer (env : Environment) (context : Context) (d : Document) (store : Store) :
    Except Fault RenderOutcome :=
  match context.fault? store with
  | some fault => .error fault
  | none =>
    match d.renderObserved env.guarded none context store with
    | (_, some fault) => .error fault
    | (outcome, none) => .ok outcome

end Template
