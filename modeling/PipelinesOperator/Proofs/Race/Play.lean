import PipelinesOperator.Proofs.Race.Run

/-!
# Playing out a schedule

A schedule says whose turn it is.  Who has the turn makes the next call, and a store that does not
fail answers it.  So runs can be computed: every schedule plays out to a run, and a pass that is
over shows its result.

## Main definitions

* `Scene.play`: the happenings of a schedule and the scene behind them
* `Scene.resolved?`: what a pass that is over has returned
* `Material.repeating`, `Entrant.plain`: material of one letter, and a plain pass that draws on it

## Main results

* `run_play`: a schedule plays out to a run
-/

namespace PipelinesOperator

open Dialogue

namespace Pass

/-- The next call of a pass, with what follows each answer. -/
def next? : Pass → Option ((q : StoreCall) × (q.Answer → Pass))
  | .done _ => none
  | .ask q next => some ⟨q, next⟩
  | .tell _ rest => next? rest

/-- The result of a pass that has no call left. -/
def result? : Pass → Option (Except ResolutionError Resolution)
  | .done x => some x
  | .ask .. => none
  | .tell _ rest => result? rest

theorem path_of_next? {d : Pass} {q : StoreCall} {next : q.Answer → Pass}
    (h : next? d = some ⟨q, next⟩) (a : q.Answer) : Dialogue.Path d [⟨q, a⟩] (next a) := by
  induction d with
  | done x => cases h
  | ask q' next' =>
    cases h
    exact .ask (.refl _)
  | tell e rest ih => exact .tell (ih h)

theorem gives_of_result? {d : Pass} {x : Except ResolutionError Resolution}
    (h : result? d = some x) : d.Gives [] x := by
  induction d with
  | done y =>
    cases h
    exact .refl _
  | ask q next => cases h
  | tell e rest ih => exact .tell (ih h)

end Pass

variable {ι : Type}

namespace Scene

/-- The resolution that a pass has returned, if it is over and has not failed. -/
def resolved? (c : Scene ι) (i : ι) : Option Resolution :=
  ((c.rest i).bind Pass.result?).bind Except.toOption

theorem returned_of_resolved? {c : Scene ι} {i : ι} {x : Resolution}
    (h : c.resolved? i = some x) : c.Returned i (.ok x) := by
  obtain ⟨e, he, hx⟩ := Option.bind_eq_some_iff.mp h
  obtain ⟨d, hd, hr⟩ := Option.bind_eq_some_iff.mp he
  cases e with
  | error e => cases hx
  | ok y =>
    obtain rfl := Option.some.inj hx
    exact ⟨d, hd, Pass.gives_of_result? hr⟩

variable [DecidableEq ι]

/-- The happenings of a schedule and the scene behind them. -/
def play : List ι → Scene ι → List (Happening ι) × Scene ι
  | [], c => ([], c)
  | i :: turns, c =>
    match (c.rest i).bind Pass.next? with
    | none => play turns c
    | some ⟨q, next⟩ =>
      let (a, store) := SecretStore.answer q c.store
      let (hs, c') := play turns ⟨store, Function.update c.rest i (some (next a))⟩
      (⟨.call i ⟨q, a⟩, c.store, store⟩ :: hs, c')

end Scene

variable [DecidableEq ι]

/-- A schedule plays out to a run. -/
theorem run_play (turns : List ι) (c : Scene ι) :
    Run c (c.play turns).1 (c.play turns).2 := by
  induction turns generalizing c with
  | nil => exact .start
  | cons i turns ih =>
    rw [Scene.play]
    split
    · exact ih c
    · rename_i q next h
      obtain ⟨d, hd, hn⟩ := Option.bind_eq_some_iff.mp h
      have hstep := Scene.Step.call hd (Pass.path_of_next? hn _) (.answered q c.store)
      exact (Run.start.step hstep).trans (ih _)

/-- In a schedule nobody writes but the passes. -/
theorem play_quiet (turns : List ι) (c : Scene ι) :
    ∀ h ∈ (c.play turns).1, h.act ≠ .outside := by
  induction turns generalizing c with
  | nil => exact fun _ h => absurd h List.not_mem_nil
  | cons i turns ih =>
    rw [Scene.play]
    split
    · exact ih c
    · intro h hh
      rcases List.mem_cons.mp hh with rfl | hh
      · exact nofun
      · exact ih _ h hh

/-! ## A plain entrant -/

namespace Material

/-- The small letters, counted round from `a`. -/
def letter (n : Nat) : UInt8 := .ofNat (97 + n % 26)

theorem isAlphanumeric_letter (n : Nat) : IsAlphanumeric [letter n] := by
  have h : ∀ k < 26, IsAlphanumeric [UInt8.ofNat (97 + k)] := by decide
  exact h (n % 26) (Nat.mod_lt n (by decide))

/-- Material that repeats one letter. -/
def repeating (n : Nat) : Material where
  password := List.replicate Names.passwordLength (letter n)
  accessKey := List.replicate Names.accessKeyLength (letter n)
  secretKey := List.replicate Names.secretKeyLength (letter n)
  password_length := List.length_replicate
  accessKey_length := List.length_replicate
  secretKey_length := List.length_replicate
  alphanumeric := by
    intro b hb
    simp only [List.mem_append, List.mem_replicate, ne_eq] at hb
    have heq : b = letter n := by grind
    exact isAlphanumeric_letter n b (by simp [heq])

end Material

/-- An application with managed storage that leaves every other choice to the operator. -/
def Application.plain : Application where
  metadata := { name := some "sample", space := some "pipelines", uid := some "1" }
  spec :=
    { components := { dspVersion := "v1", engineDriver := "argo" }
      database := ⟨.managed none, false⟩
      objectStorage := ⟨some (.managed { deploy := true, image := "minio:1" }), false⟩ }
  status := none

/-- A pass over the plain application with material of one letter. -/
def Entrant.plain (n : Nat) : Entrant := ⟨⟨∅⟩, .plain, .repeating n⟩

end PipelinesOperator
