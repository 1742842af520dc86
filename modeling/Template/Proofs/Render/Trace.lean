import Template.Proofs.Render.Observer
import Template.Proofs.Render.ScopeBalance

/-!
The events of a render have a grammar: templates in strings are bracketed, and a stop is the last
event of the template that it is in. The text that a render answers is what was printed outside
strings.
-/

namespace Template

namespace Event

/-- The number of strings around what follows. -/
def level (depth : Nat) : Event → Nat
  | .openString => depth + 1
  | .closeString => depth - 1
  | _ => depth

/-- The number of strings that the events leave open. -/
def openStrings (events : List Event) : Nat := events.foldl level 0

/-- What is printed outside all strings, where `depth` of them are open before. -/
def printedFrom : (depth : Nat) → List Event → String
  | _, [] => ""
  | 0, .print text :: events => text ++ printedFrom 0 events
  | depth, event :: events => printedFrom (event.level depth) events

def printed (events : List Event) : String := printedFrom 0 events

def isStop : Event → Bool
  | .node (.stop _) _ => true
  | _ => false

def isBracket : Event → Bool
  | .openString | .closeString => true
  | _ => false

theorem printedFrom_append (depth : Nat) (a b : List Event) :
    printedFrom depth (a ++ b) = printedFrom depth a ++ printedFrom (a.foldl level depth) b := by
  fun_induction printedFrom depth a with
  | case1 => simp
  | case2 text events ih => simp [printedFrom, level, ih, String.append_assoc]
  | case3 depth event events hne ih =>
      rw [List.cons_append, List.foldl_cons, ← ih, printedFrom]
      exact hne

end Event

/-- How a computation ended: at its end, with an error, or by a stop that was met in a state. -/
inductive Ending where
  | done
  | failed
  | stopped (s : State)

/-- The events of a computation with a certain end. -/
inductive Trace : List Event → Ending → Prop where
  | nil : Trace [] .done
  | fail : Trace [] .failed
  | single (event : Event) (hs : event.isStop = false) (hb : event.isBracket = false) :
      Trace [event] .done
  | stop (place : Region) (s : State) : Trace [.node (.stop place) s] (.stopped s)
  | append {a b : List Event} {ending : Ending} (ha : Trace a .done) (hb : Trace b ending) :
      Trace (a ++ b) ending
  /-- However the template in a string ends, the string goes on as a value. -/
  | string {a : List Event} {ending : Ending} (ha : Trace a ending) (hf : ending ≠ .failed) :
      Trace (.openString :: (a ++ [Event.closeString])) .done
  | openString {a : List Event} (ha : Trace a .failed) : Trace (.openString :: a) .failed

namespace Trace

variable {events : List Event} {ending : Ending}

theorem foldl_level (h : Trace events ending) (hf : ending ≠ .failed) (depth : Nat) :
    events.foldl Event.level depth = depth := by
  induction h generalizing depth with
  | nil | stop => rfl
  | fail | openString => exact absurd rfl hf
  | single event _ hb => cases event <;> simp_all [Event.level, Event.isBracket]
  | append _ _ iha ihb => rw [List.foldl_append, iha (by simp), ihb hf]
  | string _ ha iha => simp [Event.level, iha ha]

theorem printedFrom_succ (h : Trace events ending) (depth : Nat) :
    Event.printedFrom (depth + 1) events = "" := by
  induction h generalizing depth with
  | nil | fail | stop => rfl
  | single event _ hb => cases event <;> simp_all [Event.printedFrom, Event.isBracket]
  | append ha _ iha ihb =>
      rw [Event.printedFrom_append, iha, ha.foldl_level (by simp), ihb]
      rfl
  | string _ _ iha => simp [Event.printedFrom, Event.level, Event.printedFrom_append, iha]
  | openString _ iha => simp [Event.printedFrom, Event.level, iha]

theorem printed_append {a b : List Event} (ha : Trace a .done) :
    Event.printed (a ++ b) = Event.printed a ++ Event.printed b := by
  simp only [Event.printed]
  rw [Event.printedFrom_append, ha.foldl_level (by simp)]

theorem printed_string {a : List Event} (ha : Trace a ending) :
    Event.printed (.openString :: (a ++ [Event.closeString])) = "" := by
  simp [Event.printed, Event.printedFrom, Event.level, Event.printedFrom_append,
    ha.printedFrom_succ 0]

private theorem split_append {α : Type} {a b before after : List α} {x : α}
    (h : a ++ b = before ++ x :: after) :
    (∃ c, a = before ++ x :: c ∧ after = c ++ b) ∨ ∃ c, before = a ++ c ∧ b = c ++ x :: after := by
  rcases List.append_eq_append_iff.1 h with ⟨c, hb, ha⟩ | ⟨c, ha, hb⟩
  · exact .inr ⟨c, hb, ha⟩
  · cases c with
    | nil => exact .inr ⟨[], by simpa using ha.symm, by simpa using hb.symm⟩
    | cons y c =>
        obtain ⟨rfl, rfl⟩ := List.cons.inj hb
        exact .inl ⟨c, ha, rfl⟩

/-- A stop outside strings is the last event. Any other one is the last event of its string. -/
theorem after_stop (h : Trace events ending) {before after : List Event} {place : Region}
    {s : State} (he : events = before ++ .node (.stop place) s :: after) (depth : Nat) :
    (before.foldl Event.level depth = depth ∧ after = [] ∧ ending = .stopped s) ∨
      (depth < before.foldl Event.level depth ∧ ∃ rest, after = .closeString :: rest) := by
  induction h generalizing before after depth with
  | nil | fail => simp at he
  | single event hs _ =>
      rcases List.singleton_eq_append_iff.1 he with ⟨-, he⟩ | ⟨-, he⟩
      · obtain ⟨rfl, -⟩ := List.cons.inj he
        simp [Event.isStop] at hs
      · simp at he
  | stop place' s' =>
      rcases List.singleton_eq_append_iff.1 he with ⟨rfl, he⟩ | ⟨-, he⟩
      · obtain ⟨hn, rfl⟩ := List.cons.inj he
        cases hn
        exact .inl ⟨rfl, rfl, rfl⟩
      · simp at he
  | append ha hb iha ihb =>
      rcases split_append he with ⟨c, ha', rfl⟩ | ⟨c, rfl, hb'⟩
      · rcases iha ha' depth with ⟨-, -, hd⟩ | ⟨hl, rest, rfl⟩
        · cases hd
        · exact .inr ⟨hl, _, rfl⟩
      · rw [List.foldl_append, ha.foldl_level (by simp)]
        exact ihb hb' depth
  | @string a _ _ _ iha =>
      cases before with
      | nil => cases he
      | cons event before =>
          obtain ⟨rfl, ht⟩ := List.cons.inj he
          rcases split_append ht with ⟨c, ha', rfl⟩ | ⟨c, -, hb'⟩
          · rcases iha ha' (depth + 1) with ⟨hl, rfl, -⟩ | ⟨hl, rest, rfl⟩
            · exact .inr ⟨by simp [Event.level, hl], _, rfl⟩
            · exact .inr ⟨Nat.lt_of_succ_lt hl, _, rfl⟩
          · rcases List.singleton_eq_append_iff.1 hb' with ⟨-, he⟩ | ⟨-, he⟩ <;> simp at he
  | openString _ iha =>
      cases before with
      | nil => cases he
      | cons event before =>
          obtain ⟨rfl, ht⟩ := List.cons.inj he
          rcases iha ht (depth + 1) with ⟨-, -, hf⟩ | ⟨hl, hr⟩
          · cases hf
          · exact .inr ⟨Nat.lt_of_succ_lt hl, hr⟩

end Trace

end Template
