import PipelinesOperator.Event

/-!
# Dialogues

A dialogue is a computation that asks questions, one after the other, of somebody it does
not control, and tells events on the way.  What it does next depends on the answers.  A
dialogue is data, so all its runs can be reasoned about: against a store that answers
truthfully, against one that others write to between two questions, against one that lies.

## Main definitions

* `Dialogue.bind`, `Dialogue.thenTry`: one dialogue after another
* `Dialogue.expand`: every question answered by a dialogue with somebody else
* `Dialogue.run`: a run against one who answers from a state
-/

namespace PipelinesOperator

/-- A computation that asks questions of `Q`, answered by values of `A`, and gives an `α`. -/
inductive Dialogue (Q : Type) (A : Q → Type) (α : Type) where
  | done (a : α)
  | ask (q : Q) (next : A q → Dialogue Q A α)
  | tell (e : Event) (rest : Dialogue Q A α)

namespace Dialogue

variable {Q : Type} {A : Q → Type} {α β ε : Type}

/-- A dialogue, and then the one that its result calls for. -/
def bind (d : Dialogue Q A α) (f : α → Dialogue Q A β) : Dialogue Q A β :=
  match d with
  | .done a => f a
  | .ask q next => .ask q fun answer => (next answer).bind f
  | .tell e rest => .tell e (rest.bind f)

instance : Monad (Dialogue Q A) where
  pure := .done
  bind := bind

/-- Asks one question. -/
def question (q : Q) : Dialogue Q A (A q) := .ask q .done

/-- Tells events in order. -/
def tellAll (events : List Event) (rest : Dialogue Q A α) : Dialogue Q A α :=
  events.foldr .tell rest

/-- A dialogue that may fail, and then, if it did not, another one. -/
def thenTry (d : Dialogue Q A (Except ε α)) (f : α → Dialogue Q A (Except ε β)) :
    Dialogue Q A (Except ε β) :=
  d.bind fun
    | .ok a => f a
    | .error e => .done (.error e)

/-- The dialogue in which every question is answered through a dialogue of another kind. -/
def expand {Q' : Type} {A' : Q' → Type} (f : (q : Q) → Dialogue Q' A' (A q)) :
    Dialogue Q A α → Dialogue Q' A' α
  | .done a => .done a
  | .ask q next => (f q).bind fun answer => expand f (next answer)
  | .tell e rest => .tell e (expand f rest)

/-- What comes of a run: the result, the events told, and the state left behind. -/
structure Outcome (σ α : Type) where
  result : α
  events : List Event
  state : σ

/-- Runs a dialogue against one who answers from a state. -/
def run {σ : Type} (answer : (q : Q) → σ → A q × σ) : Dialogue Q A α → σ → Outcome σ α
  | .done a, s => ⟨a, [], s⟩
  | .ask q next, s =>
    let (a, s) := answer q s
    run answer (next a) s
  | .tell e rest, s =>
    let o := run answer rest s
    { o with events := e :: o.events }

end Dialogue

end PipelinesOperator
