import Template.Options
import Template.Render.Definitions
import Template.Render.Loader
import Template.Render.Scopes
import Template.Tree.Compile
import Template.Value.Use

/-!
The state of a render, and the computations on it. A computation ends with a result or with an
error; the state is there in both cases, so what is opened on the way in is closed on the way out.
Whoever starts a render can look on: an observer gets every event as it happens.
-/

namespace Template

/-- What a render knows and does not change. -/
structure Environment where
  options : Options
  loader : Loader
  hosts : Hosts

/-- How the rendering of nodes ended: at their end, by leaving the loop, the call or the template
around them, or by ending the whole render. -/
inductive Flow where
  | normal
  | leave
  | stop
deriving DecidableEq, Repr

/-- The text that was rendered, and how it ended. -/
structure Rendered where
  flow : Flow
  text : String
deriving DecidableEq, Repr

namespace Rendered

def ofText (text : String) : Rendered := ⟨.normal, text⟩

def empty : Rendered := ofText ""

/-- A frame that can be left takes notice of it; a stop goes through. -/
def absorbLeave (r : Rendered) : Rendered :=
  match r.flow with
  | .stop => r
  | _ => { r with flow := .normal }

end Rendered

inductive RenderError where
  /-- A template that was parsed on the way is none. -/
  | source (error : SourceError)
  | loader (error : LoaderError)
  | scope (error : ScopeError)
deriving Repr

namespace RenderError

def message : RenderError → String
  | source e => e.message
  | loader e => e.message
  | scope e => e.message

end RenderError

structure State where
  store : Store
  scopes : Scopes
  definitions : Definitions
  /-- The numbers of the running loops, the innermost first. -/
  loops : List Nat
  callDepth : Nat
  parseDepth : Nat
  /-- The names that the loader was asked for, in order. -/
  requests : Array String

namespace State

def initial (options : Options) (global : Entries Value) (store : Store) : State :=
  { store
    scopes := .ofGlobal global
    definitions := .empty options.allowRedefinition
    loops := []
    callDepth := 0
    parseDepth := 0
    requests := #[] }

def set (name : String) (value : Value) (s : State) : State :=
  { s with scopes := s.scopes.set name value }

/-- Sets names to values in turn; a name without a value becomes null. -/
def setAll : List String → List Value → State → State
  | [], _, s => s
  | name :: names, values, s => setAll names values.tail (s.set name (values.headD .null))

def define (ds : List Definition) (s : State) : State :=
  { s with definitions := s.definitions.defineAll ds }

def enterLoop (number : Nat) (s : State) : State := { s with loops := number :: s.loops }

def exitLoop (s : State) : State := { s with loops := s.loops.tail }

def enterCall (s : State) : State := { s with callDepth := s.callDepth + 1 }

def exitCall (s : State) : State := { s with callDepth := s.callDepth - 1 }

def enterParse (s : State) : State := { s with parseDepth := s.parseDepth + 1 }

def exitParse (s : State) : State := { s with parseDepth := s.parseDepth - 1 }

def request (name : String) (s : State) : State := { s with requests := s.requests.push name }

/-- The object of the innermost loop, or null. -/
def currentLoop (s : State) : Value :=
  match s.loops with
  | [] => .null
  | number :: _ => .object (.loop number)

end State

/-- What an observer of a render gets to know. -/
inductive Event where
  /-- A node is rendered from a state. -/
  | node (node : Tree.Node) (state : State)
  | print (text : String)
  /-- An expression looks up a name. -/
  | lookUp (name : String)
  | request (name : String)
  /-- The template in a string begins. -/
  | openString
  | closeString
  /-- Values are used as they are in a store. -/
  | use (use : Use) (store : Store)

/-- An environment and somebody who looks on and keeps an `ω`. -/
structure Observed (ω : Type) extends Environment where
  observe : Event → ω → ω

namespace Environment

/-- Nobody looks on. -/
def unobserved (env : Environment) : Observed Unit := { env with observe := fun _ _ => () }

/-- All events are kept, the first one first. -/
def recorded (env : Environment) : Observed (List Event) :=
  { env with observe := fun event events => events ++ [event] }

end Environment

abbrev Rendering (ω : Type) := ExceptT RenderError (StateT State (StateM ω))

namespace Rendering

variable {ω α β : Type}

theorem pure_run (a : α) (s : State) (w : ω) :
    (pure a : Rendering ω α) s w = ((.ok a, s), w) := rfl

theorem bind_run (c : Rendering ω α) (f : α → Rendering ω β) (s : State) (w : ω) :
    (c >>= f) s w =
      match c s w with
      | ((.ok a, s'), w') => f a s' w'
      | ((.error e, s'), w') => ((.error e, s'), w') := by
  simp only [bind, ExceptT.bind, ExceptT.mk, StateT.bind]
  obtain ⟨⟨r, s'⟩, w'⟩ := c s w
  cases r <;> rfl

theorem get_run (s : State) (w : ω) : (get : Rendering ω State) s w = ((.ok s, s), w) := rfl

theorem modify_run (f : State → State) (s : State) (w : ω) :
    (modify f : Rendering ω PUnit) s w = ((.ok ⟨⟩, f s), w) := rfl

theorem throw_run (e : RenderError) (s : State) (w : ω) :
    (throw e : Rendering ω α) s w = ((.error e, s), w) := rfl

/-- Tells the observer of an event. -/
def report (env : Observed ω) (event : State → Event) : Rendering ω Unit :=
  fun s w => ((.ok (), s), env.observe (event s) w)

/-- Runs steps on the store. -/
def onStore (action : Action α) : Rendering ω α :=
  fun ⟨store, scopes, definitions, loops, callDepth, parseDepth, requests⟩ w =>
    let (a, store) := action store
    ((.ok a, ⟨store, scopes, definitions, loops, callDepth, parseDepth, requests⟩), w)

theorem onStore_run (action : Action α) (s : State) (w : ω) :
    onStore action s w =
      ((.ok (action s.store).1, { s with store := (action s.store).2 }), w) := rfl

/-- Does what a use of values comes to, of which the observer is told first. -/
def use (env : Observed ω) (use : Use) (action : Action α) : Rendering ω α := do
  report env fun s => .use use s.store
  onStore action

/-- Runs a computation between two changes of the state. The second is made even if it fails. -/
def around (enter exit : State → State) (body : Rendering ω α) : Rendering ω α := fun s w =>
  let ((result, s), w) := body (enter s) w
  ((result, exit s), w)

theorem around_run (enter exit : State → State) (body : Rendering ω α) (s : State) (w : ω) :
    around enter exit body s w =
      (((body (enter s) w).1.1, exit (body (enter s) w).1.2), (body (enter s) w).2) := rfl

/-- Leaves the innermost scope. -/
def closeScope : Except RenderError α × State → Except RenderError α × State
  | (result, s) =>
    match s.scopes.pop with
    | .error e => (.error (.scope e), s)
    | .ok scopes => (result, { s with scopes })

/-- Runs a computation in a new scope, which is gone afterwards even if it fails. -/
def inScope (body : Rendering ω α) : Rendering ω α := fun s w =>
  let (out, w) := body { s with scopes := s.scopes.push } w
  (closeScope out, w)

theorem inScope_run (body : Rendering ω α) (s : State) (w : ω) :
    inScope body s w =
      (closeScope (body { s with scopes := s.scopes.push } w).1,
        (body { s with scopes := s.scopes.push } w).2) := rfl

/-- Runs a computation as the innermost loop. -/
def inLoop (body : Nat → Rendering ω α) : Rendering ω α := do
  let number ← onStore (Store.newLoop (← get).currentLoop)
  around (State.enterLoop number) State.exitLoop (body number)

def inCall (body : Rendering ω α) : Rendering ω α := around State.enterCall State.exitCall body

def inParse (body : Rendering ω α) : Rendering ω α := around State.enterParse State.exitParse body

/-- Renders the template in a string. -/
def inString (env : Observed ω) (body : Rendering ω α) : Rendering ω α := do
  report env fun _ => .openString
  let a ← body
  report env fun _ => .closeString
  return a

def display (env : Observed ω) (v : Value) : Rendering ω String :=
  use env (.display v) do return v.display env.hosts (← get)

def isTruthy (v : Value) : Rendering ω Bool := do
  return v.isTruthy (← get).store

/-- The value of a name; an unknown one has none, which is null. -/
def lookUp (env : Observed ω) (name : String) : Rendering ω Value := do
  report env fun _ => .lookUp name
  return ((← get).scopes.get? name).getD .null

/-- Prints a text. -/
def print (env : Observed ω) (text : String) : Rendering ω Rendered := do
  report env fun _ => .print text
  return .ofText text

/-- Asks the loader for a source. If failures are tolerated, there may be none. -/
def load (env : Observed ω) (name : String) : Rendering ω (Option String) := do
  report env fun _ => .request name
  let before := (← get).requests
  modify (State.request name)
  match env.loader before name with
  | .ok source => return some source
  | .error e => if env.options.tolerant then return none else throw (.loader e)

end Rendering

end Template
