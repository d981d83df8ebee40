import PipelinesOperator.Proofs.Race.Play

/-!
# Racing passes agree

Passes that share a store which only they write to agree on every credential: whoever returns,
returns what the final store holds.  A secret is stored by at most one of them, and whoever else
returns has read it.

## Main results

* `Run.exists_standsIn`: a returned credential stood in the store at a moment of the pass
* `Run.exists_making`: a credential that counts as made was stored by its pass
* `racing_passes_agree`: all passes return what the final store holds, and one at most made it
-/

namespace PipelinesOperator

open Dialogue

variable {ι : Type} [DecidableEq ι]

namespace Run

variable {entrant : ι → Entrant} {store : SecretStore} {c : Scene ι} {hs : List (Happening ι)}
  {i : ι} {x : Resolution} {g : Established}

/-- A returned credential stood in the store right behind one of the calls of the pass. -/
theorem exists_standsIn (run : Run (Scene.start entrant store) hs c)
    (hx : c.Returned i (.ok x)) (hg : g ∈ x.established) :
    ∃ h ∈ hs, h.act.actor? = some i ∧ g.StandsIn h.after := by
  obtain ⟨hsound, es, hes, hcourse⟩ :=
    Application.exists_course_of_established (run.gives_of_returned hx) hg
  obtain ⟨fields, hf, hmem⟩ := hcourse.exists_fields hsound
  have hholds := (CredentialReference.extract_eq_ok.mp hf).1
  rcases hmem with hmem | hmem
  · obtain ⟨h, hh, hact⟩ := mem_heard.mp (hes.subset hmem)
    obtain ⟨hafter, hget⟩ := (run.served hh hact).of_get
    exact ⟨h, hh, by rw [hact]; rfl, fields, by rw [hafter, hget], hholds⟩
  · obtain ⟨h, hh, hact⟩ := mem_heard.mp (hes.subset hmem)
    obtain ⟨-, hget⟩ := (run.served hh hact).of_created
    exact ⟨h, hh, by rw [hact]; rfl, fields, hget, hholds⟩

/-- A credential that counts as made was stored by its pass where nothing had been. -/
theorem exists_making (run : Run (Scene.start entrant store) hs c) (hx : c.Returned i (.ok x))
    (hg : g ∈ x.established) (ho : g.origin = .created) : ∃ h ∈ hs, h.act.actor? = some i ∧
      h.before.get? g.reference.space g.reference.name = none ∧
      ∃ fields, h.after.get? g.reference.space g.reference.name = some fields := by
  obtain ⟨-, es, hes, hcourse⟩ :=
    Application.exists_course_of_established (run.gives_of_returned hx) hg
  rw [ho] at hcourse
  obtain ⟨h, hh, hact⟩ := mem_heard.mp (hes.subset (hcourse.created_iff.mp rfl))
  obtain ⟨hbefore, hafter⟩ := (run.served hh hact).of_created
  exact ⟨h, hh, by rw [hact]; rfl, hbefore, _, hafter⟩

/-- Among passes alone, a returned credential stands in the final store. -/
theorem standsIn_of_returned (run : Run (Scene.start entrant store) hs c)
    (quiet : ∀ h ∈ hs, h.act ≠ .outside) (hx : c.Returned i (.ok x))
    (hg : g ∈ x.established) : g.StandsIn c.store := by
  obtain ⟨h, hh, -, hstands⟩ := run.exists_standsIn hx hg
  exact hstands.mono (run.after_grows quiet hh)

/-- Among passes alone, the same secret is not made by two of them. -/
theorem actor_unique_of_created (run : Run (Scene.start entrant store) hs c)
    (quiet : ∀ h ∈ hs, h.act ≠ .outside) {j : ι} {y : Resolution} {g' : Established}
    (hx : c.Returned i (.ok x)) (hy : c.Returned j (.ok y)) (hg : g ∈ x.established)
    (hg' : g' ∈ y.established) (hspace : g.reference.space = g'.reference.space)
    (hname : g.reference.name = g'.reference.name) (ho : g.origin = .created)
    (ho' : g'.origin = .created) : i = j := by
  obtain ⟨h, hh, hi, hnew, fields, hmade⟩ := run.exists_making hx hg ho
  obtain ⟨h', hh', hj, hnew', fields', hmade'⟩ := run.exists_making hy hg' ho'
  rw [← hspace, ← hname] at hnew' hmade'
  obtain rfl := run.made_once quiet hh hh' hnew hmade hnew' hmade'
  exact Option.some.inj (hi.symm.trans hj)

end Run

/-- Passes that nobody disturbs agree: every returned credential stands in the final store, those
that are kept in the same place are the same, and of the passes that return a credential of one
secret at most one has made it, while every other has read it or adopted it. -/
theorem racing_passes_agree (entrant : ι → Entrant) (store : SecretStore) {c : Scene ι}
    {hs : List (Happening ι)} (run : Run (Scene.start entrant store) hs c)
    (quiet : ∀ h ∈ hs, h.act ≠ .outside) :
    (∀ i x, c.Returned i (.ok x) → ∀ g ∈ x.established, g.StandsIn c.store) ∧
    (∀ i j x y, c.Returned i (.ok x) → c.Returned j (.ok y) →
      ∀ g ∈ x.established, ∀ g' ∈ y.established,
        g.reference.space = g'.reference.space → g.reference.name = g'.reference.name →
        g.reference.primaryKey = g'.reference.primaryKey →
        g.reference.secondaryKey = g'.reference.secondaryKey → g.credential = g'.credential) ∧
    (∀ i j x y, i ≠ j → c.Returned i (.ok x) → c.Returned j (.ok y) →
      ∀ g ∈ x.established, ∀ g' ∈ y.established,
        g.reference.space = g'.reference.space → g.reference.name = g'.reference.name →
        g.origin = .created → g'.origin = .existing ∨ g'.origin = .adopted) := by
  refine ⟨fun i x hx g hg => run.standsIn_of_returned quiet hx hg, ?_, ?_⟩
  · intro i j x y hx hy g hg g' hg' hspace hname hprimary hsecondary
    have hstands := run.standsIn_of_returned quiet hx hg
    have hstands' := run.standsIn_of_returned quiet hy hg'
    exact hstands.unique hstands' hspace hname hprimary hsecondary
  · intro i j x y hij hx hy g hg g' hg' hspace hname ho
    cases ho' : g'.origin with
    | existing => exact .inl rfl
    | adopted => exact .inr rfl
    | created =>
      exact absurd (run.actor_unique_of_created quiet hx hy hg hg' hspace hname ho ho') hij

/-- Two passes over one application, each with material of its own. -/
def duo (second : Bool) : Entrant :=
  if second then .plain 1 else .plain 0

/-- Both passes find nothing; the first stores its password, and the second, whose material is
another, adopts it. -/
def photoFinish : List (Happening Bool) × Scene Bool :=
  (Scene.start duo ⟨[]⟩).play
    [false, true, false, true, true, false, true, false, true, true]

theorem racing_passes_agree_photoFinish :
    Run (Scene.start duo ⟨[]⟩) photoFinish.1 photoFinish.2 ∧
    (∀ h ∈ photoFinish.1, h.act ≠ .outside) ∧
    ∃ x y, photoFinish.2.Returned false (.ok x) ∧ photoFinish.2.Returned true (.ok y) ∧
      x.databasePassword.origin = .created ∧ y.databasePassword.origin = .adopted ∧
      x.databasePassword.StandsIn photoFinish.2.store ∧ x.password = y.password := by
  have run : Run (Scene.start duo ⟨[]⟩) photoFinish.1 photoFinish.2 := run_play _ _
  have quiet : ∀ h ∈ photoFinish.1, h.act ≠ .outside := play_quiet _ _
  have hx : (photoFinish.2.resolved? false).map Resolution.databasePassword =
      some ⟨.database "pipelines" "sample" none, ⟨.replicate 12 97, none⟩, .created⟩ := by
    decide +kernel
  have hy : (photoFinish.2.resolved? true).map Resolution.databasePassword =
      some ⟨.database "pipelines" "sample" none, ⟨.replicate 12 97, none⟩, .adopted⟩ := by
    decide +kernel
  obtain ⟨x, hx, hgx⟩ := Option.map_eq_some_iff.mp hx
  obtain ⟨y, hy, hgy⟩ := Option.map_eq_some_iff.mp hy
  replace hx := Scene.returned_of_resolved? hx
  replace hy := Scene.returned_of_resolved? hy
  obtain ⟨hstands, hagree, -⟩ := racing_passes_agree duo ⟨[]⟩ run quiet
  refine ⟨run, quiet, x, y, hx, hy, by rw [hgx], by rw [hgy], ?_, ?_⟩
  · exact hstands false x hx _ (by simp [Resolution.established])
  · refine hagree false true x y hx hy x.databasePassword (by simp [Resolution.established])
      y.databasePassword (by simp [Resolution.established]) ?_ ?_ ?_ ?_
    all_goals rw [hgx, hgy]

end PipelinesOperator
