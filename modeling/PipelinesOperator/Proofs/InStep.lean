import Mathlib.Data.List.Forall2
import PipelinesOperator.Proofs.Dialogue
import PipelinesOperator.Proofs.Except

/-!
# Dialogues in step

Two dialogues are in step if they ask like questions and go on in step whenever they are answered
alike, tell the same events, and end with related results.  What questions and answers count as
alike is up to whoever compares them.  Dialogues in step stay in step when they are put together,
and when each question is answered through dialogues that are in step for like questions.  So two
runs of them, against partners who answer like questions alike, cannot be told apart but by what
the likeness passes over.

## Main definitions

* `Dialogue.Likeness`: which questions are alike, and which of their answers
* `Dialogue.InStep like related d d'`: the dialogues `d` and `d'` are in step
* `Dialogue.Twins like answer answer' related`: partners who answer like questions alike

## Main results

* `InStep.bind`, `InStep.thenTry`, `InStep.expand`: dialogues in step, put together
* `InStep.run`: what two runs have in common
-/

namespace PipelinesOperator

namespace Dialogue

variable {Q Q' : Type} {A : Q → Type} {A' : Q' → Type} {α β γ δ ε σ τ : Type}

/-- Which questions are alike, and which of their answers. -/
structure Likeness (Q : Type) (A : Q → Type) where
  question : Q → Q → Prop
  answer : {q q' : Q} → A q → A q' → Prop

/-- Two dialogues that ask like questions, tell the same, and end with related results, as long as
they are answered alike. -/
inductive InStep (like : Likeness Q A) (related : α → β → Prop) :
    Dialogue Q A α → Dialogue Q A β → Prop where
  | done {a : α} {b : β} (h : related a b) : InStep like related (.done a) (.done b)
  | ask {q q' : Q} {next : A q → Dialogue Q A α} {next' : A q' → Dialogue Q A β}
      (hq : like.question q q')
      (h : ∀ a a', like.answer a a' → InStep like related (next a) (next' a')) :
      InStep like related (.ask q next) (.ask q' next')
  | tell (e : Event) {d : Dialogue Q A α} {d' : Dialogue Q A β} (h : InStep like related d d') :
      InStep like related (.tell e d) (.tell e d')

variable {like : Likeness Q A} {like' : Likeness Q' A'} {related : α → β → Prop}
  {related' : γ → δ → Prop}

namespace InStep

theorem tellAll (events : List Event) {d : Dialogue Q A α} {d' : Dialogue Q A β}
    (h : InStep like related d d') :
    InStep like related (.tellAll events d) (.tellAll events d') := by
  induction events with
  | nil => exact h
  | cons e events ih => exact .tell e ih

theorem bind {d : Dialogue Q A α} {d' : Dialogue Q A β} {f : α → Dialogue Q A γ}
    {f' : β → Dialogue Q A δ} (h : InStep like related d d')
    (hf : ∀ a b, related a b → InStep like related' (f a) (f' b)) :
    InStep like related' (d.bind f) (d'.bind f') := by
  induction h with
  | done h => exact hf _ _ h
  | ask hq _ ih => exact .ask hq ih
  | tell e _ ih => exact .tell e ih

/-- A dialogue that may fail, and then another one. -/
theorem thenTry {d : Dialogue Q A (Except ε α)} {d' : Dialogue Q A (Except ε β)}
    {f : α → Dialogue Q A (Except ε γ)} {f' : β → Dialogue Q A (Except ε δ)}
    (h : InStep like (Except.Like related) d d')
    (hf : ∀ a b, related a b → InStep like (Except.Like related') (f a) (f' b)) :
    InStep like (Except.Like related') (d.thenTry f) (d'.thenTry f') := by
  refine h.bind fun x y hxy => ?_
  cases hxy with
  | error e => exact .done (.error e)
  | ok hab => exact hf _ _ hab

/-- Every question is answered through a dialogue, and those for like questions are in step. -/
theorem expand {f f' : (q : Q) → Dialogue Q' A' (A q)} {d : Dialogue Q A α} {d' : Dialogue Q A β}
    (h : InStep like related d d')
    (hf : ∀ q q', like.question q q' → InStep like' like.answer (f q) (f' q')) :
    InStep like' related (d.expand f) (d'.expand f') := by
  induction h with
  | done h => exact .done h
  | ask hq _ ih => exact (hf _ _ hq).bind ih
  | tell e _ ih => exact .tell e ih

end InStep

/-- Two partners who answer like questions alike as long as their states are related, and whose
states stay related. -/
def Twins (like : Likeness Q A) (answer : (q : Q) → σ → A q × σ) (answer' : (q : Q) → τ → A q × τ)
    (related : σ → τ → Prop) : Prop :=
  ∀ q q' s s', like.question q q' → related s s' →
    like.answer (answer q s).1 (answer' q' s').1 ∧ related (answer q s).2 (answer' q' s').2

/-- Runs in step end with related results and states, tell the same, and ask like questions. -/
theorem InStep.run {d : Dialogue Q A α} {d' : Dialogue Q A β} {answer : (q : Q) → σ → A q × σ}
    {answer' : (q : Q) → τ → A q × τ} {states : σ → τ → Prop} (h : InStep like related d d')
    (twins : Twins like answer answer' states) {s : σ} {s' : τ} (hs : states s s') :
    related (run answer d s).result (run answer' d' s').result ∧
      (run answer d s).events = (run answer' d' s').events ∧
      states (run answer d s).state (run answer' d' s').state ∧
      List.Forall₂ like.question (questions answer d s) (questions answer' d' s') := by
  induction h generalizing s s' with
  | done h => exact ⟨h, rfl, hs, .nil⟩
  | @ask q q' next next' hq _ ih =>
    obtain ⟨hanswer, hstate⟩ := twins q q' s s' hq hs
    obtain ⟨hresult, hevents, hstates, hquestions⟩ := ih _ _ hanswer hstate
    exact ⟨hresult, hevents, hstates, .cons hq hquestions⟩
  | tell e _ ih =>
    obtain ⟨hresult, hevents, hstates, hquestions⟩ := ih hs
    refine ⟨hresult, ?_, hstates, hquestions⟩
    rw [run_tell, run_tell, hevents]

end Dialogue

end PipelinesOperator
