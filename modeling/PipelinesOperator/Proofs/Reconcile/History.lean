import PipelinesOperator.Proofs.Reconcile.Report

/-!
# The history of a status

An application is passed over again and again, and each pass ends in a verdict.  The status in
force is the last one that was written.  It tells the latest verdict, although most passes write
nothing: so it has to be written just when it would be wrong otherwise, and a status that is left
in force keeps its times.

Two times stand in a status.  `lastUpdated` is that of the last write.  The time of the condition is
older than that, if the writes since then changed a hash or a message only: it is the time of the
first of the latest verdicts that were all of one kind.

## Main definitions

* `Status.Shows`: what a status says of a verdict
* `Status.inForce`, `Status.Writes`: the status before each pass, and the passes that write one
* `Verdict.Run`: the longest run of verdicts of one kind that ends at a pass
* `Status.Updated`, `Status.Since`: the two times of a status, told from the verdicts

## Main results

* `Verdict.nextStatus_eq_none_iff_shows`: a verdict is not written if the status shows it
* `Status.updated_inForce`: which pass the status in force is from
* `Status.exists_since`: since when its condition has been what it is
* `Status.status_follows_verdicts`: the status after every pass
-/

namespace PipelinesOperator

namespace Verdict

/-- Whether a verdict finds the parameters resolved. -/
def isResolved : Verdict → Bool
  | .resolved _ => true
  | .invalid _ => false

/-- Verdicts of one kind, and no others, have one status of the condition. -/
theorem conditionStatus_eq_iff {v w : Verdict} :
    v.conditionStatus = w.conditionStatus ↔ v.isResolved = w.isResolved := by
  cases v <;> cases w <;> simp [conditionStatus, isResolved]

/-- From one pass to another all verdicts are of one kind, and the one before them, if there is
any, is not. -/
structure Run (v : Nat → Verdict) (first last : Nat) : Prop where
  le : first ≤ last
  alike : ∀ n, first ≤ n → n ≤ last → (v n).isResolved = (v last).isResolved
  maximal : ∀ n, n + 1 = first → (v n).isResolved ≠ (v last).isResolved

/-- A verdict of the same kind makes a run longer. -/
theorem Run.succ {v : Nat → Verdict} {first n : Nat} (h : Run v first n)
    (hn : (v n).isResolved = (v (n + 1)).isResolved) : Run v first (n + 1) := by
  refine ⟨Nat.le_succ_of_le h.le, ?_, ?_⟩
  · intro k hk hkn
    rcases Nat.lt_or_ge n k with hlt | hle
    · obtain rfl : k = n + 1 := by omega
      rfl
    · rw [← hn]
      exact h.alike k hk hle
  · intro k hk
    rw [← hn]
    exact h.maximal k hk

/-- A verdict that is the first, or of another kind than the one before it, starts a run. -/
theorem Run.start {v : Nat → Verdict} {n : Nat}
    (hn : ∀ k, k + 1 = n → (v k).isResolved ≠ (v n).isResolved) : Run v n n := by
  refine ⟨Nat.le_refl n, ?_, hn⟩
  intro k hk hkn
  obtain rfl : k = n := by omega
  rfl

end Verdict

namespace Status

variable {s : Status} {v : Verdict} {current : Option Status} {now : Timestamp}

/-- A status shows a verdict: its phase, its hash, and in the condition that tells verdicts the
status, the reason and the message. -/
structure Shows (s : Status) (v : Verdict) : Prop where
  phase : s.phase = v.phase
  parametersHash : s.parametersHash = v.hash?
  condition : ∃ c, s.resolution? = some c ∧ c.status = v.conditionStatus ∧ c.reason = v.reason ∧
    c.message = v.message

theorem tells_iff : s.tells v = true ↔ s.Shows v := by
  have hcondition : (s.resolution?.any fun c => c.tells v) = true ↔
      ∃ c, s.resolution? = some c ∧ c.status = v.conditionStatus ∧ c.reason = v.reason ∧
        c.message = v.message := by
    cases s.resolution? with
    | none => simp
    | some c => simp [Condition.tells]
  rw [tells, decide_eq_true_iff, hcondition]
  constructor
  · rintro ⟨hphase, hhash, hcondition⟩
    exact ⟨hphase, hhash, hcondition⟩
  · exact fun h => ⟨h.phase, h.parametersHash, h.condition⟩

/-- The condition of a verdict's status is the one that tells it. -/
theorem resolution?_status (v : Verdict) (since now : Timestamp) :
    (v.status since now).resolution? = some (v.condition since) := by
  simp [resolution?, Verdict.status, Verdict.condition]

/-- The status of a verdict shows it. -/
theorem shows_status (v : Verdict) (since now : Timestamp) : (v.status since now).Shows v where
  phase := rfl
  parametersHash := rfl
  condition := ⟨v.condition since, resolution?_status v since now, rfl, rfl, rfl⟩

end Status

namespace Verdict

variable {v : Verdict} {current : Option Status} {now : Timestamp}

/-- Nothing is written exactly when the status in force shows the verdict. -/
theorem nextStatus_eq_none_iff_shows (now : Timestamp) :
    v.nextStatus current now = none ↔ ∃ s, current = some s ∧ s.Shows v := by
  rw [nextStatus_eq_none_iff]
  cases current with
  | none => simp
  | some s => simp [Status.tells_iff]

/-- What is written is the status of the verdict, as of now. -/
theorem nextStatus_of_not_shows (h : ¬∃ s, current = some s ∧ s.Shows v) :
    v.nextStatus current now =
      some (v.status ((current.bind fun s => s.since? v).getD now) now) := by
  have hn : v.nextStatus current now ≠ none := mt (nextStatus_eq_none_iff_shows now).mp h
  rw [nextStatus] at hn ⊢
  split at hn
  · exact absurd rfl hn
  · rw [if_neg ‹_›]

end Verdict

namespace Status

/-! ## One pass -/

section Pass

variable {v : Verdict} {current : Option Status} {now : Timestamp}

/-- The status in force behind a pass: the one that is written, or else the old one. -/
def behind (v : Verdict) (now : Timestamp) (current : Option Status) : Option Status :=
  (v.nextStatus current now).or current

/-- The condition that tells verdicts, of the status in force. -/
def told? (current : Option Status) : Option Condition := current.bind resolution?

/-- Behind a pass the status shows the verdict. -/
theorem exists_shows_behind : ∃ s, behind v now current = some s ∧ s.Shows v := by
  by_cases h : ∃ s, current = some s ∧ s.Shows v
  · have hn := (Verdict.nextStatus_eq_none_iff_shows now).mpr h
    obtain ⟨s, hs, hshows⟩ := h
    exact ⟨s, by rw [behind, hn, Option.none_or, hs], hshows⟩
  · exact ⟨_, by rw [behind, Verdict.nextStatus_of_not_shows h, Option.some_or],
      shows_status v _ now⟩

/-- A pass whose verdict is of the kind that the condition tells already leaves the time of the
condition alone, whether it writes or not. -/
theorem told?_behind_of_eq (now : Timestamp) {c : Condition} {t : Timestamp}
    (hc : told? current = some c) (hstatus : c.status = v.conditionStatus)
    (ht : c.lastTransitionTime = some t) :
    ∃ c', told? (behind v now current) = some c' ∧ c'.status = v.conditionStatus ∧
      c'.lastTransitionTime = some t := by
  by_cases h : ∃ s, current = some s ∧ s.Shows v
  · have hn := (Verdict.nextStatus_eq_none_iff_shows now).mpr h
    exact ⟨c, by rw [behind, hn, Option.none_or, hc], hstatus, ht⟩
  · obtain ⟨s, rfl, hs⟩ := Option.bind_eq_some_iff.mp hc
    have hsince : s.since? v = some t := by
      rw [since?, hs, Option.filter_some]
      simp [hstatus, ht]
    refine ⟨v.condition t, ?_, rfl, rfl⟩
    rw [behind, Verdict.nextStatus_of_not_shows h, Option.some_or, Option.bind_some, hsince]
    exact resolution?_status v t now

/-- A pass whose verdict is of another kind turns the condition over. -/
theorem told?_behind_of_ne (now : Timestamp)
    (h : ∀ c, told? current = some c → c.status ≠ v.conditionStatus) :
    ∃ c', told? (behind v now current) = some c' ∧ c'.status = v.conditionStatus ∧
      c'.lastTransitionTime = some now := by
  have hnot : ¬∃ s, current = some s ∧ s.Shows v := by
    rintro ⟨s, rfl, hshows⟩
    obtain ⟨c, hc, hstatus, -⟩ := hshows.condition
    exact h c hc hstatus
  have hsince : (current.bind fun s => s.since? v) = none := by
    cases current with
    | none => rfl
    | some s =>
      cases hc : s.resolution? with
      | none => simp [since?, hc]
      | some c =>
        have hne : c.status ≠ v.conditionStatus := h c hc
        simp [since?, hc, hne]
  refine ⟨v.condition now, ?_, rfl, rfl⟩
  rw [behind, Verdict.nextStatus_of_not_shows hnot, Option.some_or, hsince]
  exact resolution?_status v now now

end Pass

/-! ## Pass after pass -/

section Passes

variable {initial : Option Status} {v : Nat → Verdict} {now : Nat → Timestamp}

/-- The status in force before each pass. -/
def inForce (initial : Option Status) (v : Nat → Verdict) (now : Nat → Timestamp) :
    Nat → Option Status
  | 0 => initial
  | n + 1 => behind (v n) (now n) (inForce initial v now n)

/-- A pass writes a status. -/
def Writes (initial : Option Status) (v : Nat → Verdict) (now : Nat → Timestamp) (n : Nat) : Prop :=
  ∃ s, (v n).nextStatus (inForce initial v now n) (now n) = some s

/-- A pass writes if the status in force does not show its verdict. -/
theorem writes_iff (n : Nat) : Writes initial v now n ↔
    ¬∃ s, inForce initial v now n = some s ∧ s.Shows (v n) := by
  rw [← Verdict.nextStatus_eq_none_iff_shows (now n), Writes]
  exact Option.ne_none_iff_exists'.symm

/-- A pass that finds what the one before it found writes nothing. -/
theorem not_writes_of_eq {n : Nat} (h : v (n + 1) = v n) : ¬Writes initial v now (n + 1) := by
  rw [writes_iff, h]
  exact not_not_intro exists_shows_behind

/-- When the status in force was written: never, and then it is the initial one, or by the last pass
that wrote. -/
inductive Updated (initial : Option Status) (v : Nat → Verdict) (now : Nat → Timestamp) (n : Nat) :
    Option Timestamp → Prop where
  | never (quiet : ∀ k, k < n → ¬Writes initial v now k) :
      Updated initial v now n (initial.bind lastUpdated)
  | last {k : Nat} (lt : k < n) (writes : Writes initial v now k)
      (quiet : ∀ j, k < j → j < n → ¬Writes initial v now j) :
      Updated initial v now n (some (now k))

/-- A pass that writes nothing leaves it at that. -/
theorem Updated.succ {n : Nat} {t : Option Timestamp} (h : Updated initial v now n t)
    (hn : ¬Writes initial v now n) : Updated initial v now (n + 1) t := by
  cases h with
  | never quiet =>
    apply Updated.never
    intro k hk
    rcases Nat.lt_or_eq_of_le (Nat.le_of_lt_succ hk) with hlt | rfl
    · exact quiet k hlt
    · exact hn
  | last lt writes quiet =>
    apply Updated.last (Nat.lt_succ_of_lt lt) writes
    intro j hj hjn
    rcases Nat.lt_or_eq_of_le (Nat.le_of_lt_succ hjn) with hlt | rfl
    · exact quiet j hj hlt
    · exact hn

/-- Since when the condition has been what it is: from the first of the latest verdicts of one kind,
unless that is the first of all and the condition was of that kind before. -/
inductive Since (initial : Option Status) (v : Nat → Verdict) (now : Nat → Timestamp) (n : Nat) :
    Timestamp → Prop where
  | initial {c : Condition} {t : Timestamp} (run : Verdict.Run v 0 n)
      (told : told? initial = some c) (alike : c.status = (v n).conditionStatus)
      (time : c.lastTransitionTime = some t) :
      Since initial v now n t
  | turned {first : Nat} (run : Verdict.Run v first n)
      (new : first = 0 → ∀ c, told? initial = some c → c.status ≠ (v n).conditionStatus) :
      Since initial v now n (now first)

/-- A verdict of the same kind leaves it at that. -/
theorem Since.succ {n : Nat} {t : Timestamp} (h : Since initial v now n t)
    (hn : (v n).isResolved = (v (n + 1)).isResolved) : Since initial v now (n + 1) t := by
  have hstatus := Verdict.conditionStatus_eq_iff.mpr hn
  cases h with
  | initial run told alike time => exact .initial (run.succ hn) told (alike.trans hstatus) time
  | turned run new => exact .turned (run.succ hn) fun h0 c hc => hstatus ▸ new h0 c hc

/-- The time of the last write stays until the next one. -/
theorem updated_inForce (initial : Option Status) (v : Nat → Verdict) (now : Nat → Timestamp)
    (n : Nat) :
    Updated initial v now n ((inForce initial v now n).bind lastUpdated) := by
  induction n with
  | zero =>
    apply Updated.never
    intro k hk
    omega
  | succ n ih =>
    by_cases hw : Writes initial v now n
    · have hnow : (inForce initial v now (n + 1)).bind lastUpdated = some (now n) := by
        rw [inForce, behind, Verdict.nextStatus_of_not_shows ((writes_iff n).mp hw)]
        rfl
      rw [hnow]
      apply Updated.last (Nat.lt_succ_self n) hw
      intro j hj hjn
      omega
    · have hsame : inForce initial v now (n + 1) = inForce initial v now n := by
        have hn : (v n).nextStatus (inForce initial v now n) (now n) = none :=
          Option.eq_none_iff_forall_ne_some.mpr fun s hs => hw ⟨s, hs⟩
        rw [inForce, behind, hn, Option.none_or]
      rw [hsame]
      exact ih.succ hw

/-- After every pass the condition has the status of its verdict, and a time. -/
theorem exists_since (v : Nat → Verdict) (now : Nat → Timestamp)
    (h : ∀ c, told? initial = some c → c.lastTransitionTime ≠ none) (n : Nat) :
    ∃ c t, told? (inForce initial v now (n + 1)) = some c ∧ c.status = (v n).conditionStatus ∧
      c.lastTransitionTime = some t ∧ Since initial v now n t := by
  induction n with
  | zero =>
    have hrun : Verdict.Run v 0 0 := .start fun k hk => by omega
    by_cases hold : ∃ c, told? initial = some c ∧ c.status = (v 0).conditionStatus
    · obtain ⟨c, hc, hstatus⟩ := hold
      obtain ⟨t, ht⟩ := Option.ne_none_iff_exists'.mp (h c hc)
      obtain ⟨c', hc', hstatus', ht'⟩ := told?_behind_of_eq (now 0) hc hstatus ht
      exact ⟨c', t, hc', hstatus', ht', .initial hrun hc hstatus ht⟩
    · have hnew : ∀ c, told? initial = some c → c.status ≠ (v 0).conditionStatus :=
        fun c hc hstatus => hold ⟨c, hc, hstatus⟩
      obtain ⟨c', hc', hstatus', ht'⟩ := told?_behind_of_ne (now 0) hnew
      exact ⟨c', now 0, hc', hstatus', ht', .turned hrun fun _ => hnew⟩
  | succ n ih =>
    obtain ⟨c, t, hc, hstatus, ht, hsince⟩ := ih
    by_cases hn : (v n).isResolved = (v (n + 1)).isResolved
    · -- the run goes on
      have hstatus' := hstatus.trans (Verdict.conditionStatus_eq_iff.mpr hn)
      obtain ⟨c', hc', hstatus', ht'⟩ := told?_behind_of_eq (now (n + 1)) hc hstatus' ht
      exact ⟨c', t, hc', hstatus', ht', hsince.succ hn⟩
    · -- a new run starts
      have hne : ∀ c', told? (inForce initial v now (n + 1)) = some c' →
          c'.status ≠ (v (n + 1)).conditionStatus := by
        intro c' hc' hstatus'
        obtain rfl : c = c' := Option.some.inj (hc.symm.trans hc')
        exact hn (Verdict.conditionStatus_eq_iff.mp (hstatus.symm.trans hstatus'))
      have hrun : Verdict.Run v (n + 1) (n + 1) := by
        apply Verdict.Run.start
        intro k hk
        obtain rfl : k = n := by omega
        exact hn
      obtain ⟨c', hc', hstatus', ht'⟩ := told?_behind_of_ne (now (n + 1)) hne
      exact ⟨c', now (n + 1), hc', hstatus', ht', .turned hrun fun h0 => by omega⟩

/-- Whatever the status was at first, provided that its condition had a time: a pass writes exactly
when the status in force does not show its verdict, and so never when it finds what the pass before
it found.  After every pass the status shows its verdict, was updated by the last pass that wrote,
and has had its condition since the first of the latest verdicts of one kind. -/
theorem status_follows_verdicts (h : ∀ c, told? initial = some c → c.lastTransitionTime ≠ none)
    (n : Nat) :
    (Writes initial v now n ↔ ¬∃ s, inForce initial v now n = some s ∧ s.Shows (v n)) ∧
    (∀ k, k + 1 = n → v k = v n → ¬Writes initial v now n) ∧
    ∃ s c t, inForce initial v now (n + 1) = some s ∧ s.Shows (v n) ∧
      Updated initial v now (n + 1) s.lastUpdated ∧
      s.resolution? = some c ∧ c.lastTransitionTime = some t ∧ Since initial v now n t := by
  refine ⟨writes_iff n, ?_, ?_⟩
  · rintro k rfl hk
    exact not_writes_of_eq hk.symm
  · obtain ⟨s, hs, hshows⟩ : ∃ s, inForce initial v now (n + 1) = some s ∧ s.Shows (v n) :=
      exists_shows_behind
    obtain ⟨c, t, hc, -, ht, hsince⟩ := exists_since v now h n
    have hupdated := updated_inForce initial v now (n + 1)
    rw [hs] at hc hupdated
    exact ⟨s, c, t, hs, hshows, hupdated, hc, ht, hsince⟩

/-! ## A status that changes its hash, and then turns over -/

/-- A full hour of the first day of 2025. -/
def fullHour (n : Nat) : Timestamp where
  date := ⟨2025, 1, 1⟩
  clock := ⟨n % 24, 0, 0, 0⟩
  date_valid := by decide
  clock_valid := by
    simp only [Timestamp.Clock.Valid]
    omega

/-- The parameters change once, and then the user makes a mistake. -/
def mishap : Nat → Verdict
  | 0 => .resolved "a"
  | 1 => .resolved "b"
  | _ => .invalid "object storage is missing"

/-- From a status that told the first hash already, in the second hour of the mishap. -/
theorem status_follows_verdicts_mishap :
    let initial := some ((Verdict.resolved "a").status (fullHour 3) (fullHour 4))
    let now := fun n => fullHour (n + 5)
    (∀ c, told? initial = some c → c.lastTransitionTime ≠ none) ∧
    (Writes initial mishap now 1 ↔
      ¬∃ s, inForce initial mishap now 1 = some s ∧ s.Shows (mishap 1)) ∧
    (∀ k, k + 1 = 1 → mishap k = mishap 1 → ¬Writes initial mishap now 1) ∧
    ∃ s c t, inForce initial mishap now 2 = some s ∧ s.Shows (mishap 1) ∧
      Updated initial mishap now 2 s.lastUpdated ∧
      s.resolution? = some c ∧ c.lastTransitionTime = some t ∧ Since initial mishap now 1 t := by
  have htime : ∀ c, told? (some ((Verdict.resolved "a").status (fullHour 3) (fullHour 4))) =
      some c → c.lastTransitionTime ≠ none := by
    intro c hc
    have hcondition := resolution?_status (.resolved "a") (fullHour 3) (fullHour 4)
    obtain rfl := Option.some.inj (hcondition.symm.trans hc)
    exact Option.some_ne_none _
  exact ⟨htime, status_follows_verdicts htime 1⟩

/-- The third pass turns the condition over; the second one did not. -/
example :
    let initial := some ((Verdict.resolved "a").status (fullHour 3) (fullHour 4))
    let after := inForce initial mishap fun n => fullHour (n + 5)
    ((after 2).bind lastUpdated, (told? (after 2)).bind Condition.lastTransitionTime) =
        (some (fullHour 6), some (fullHour 3)) ∧
      ((after 3).bind lastUpdated, (told? (after 3)).bind Condition.lastTransitionTime) =
        (some (fullHour 7), some (fullHour 7)) := by
  decide

end Passes

end Status

end PipelinesOperator
