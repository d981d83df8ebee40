import PipelinesOperator.Dialogue

/-!
# The paths of a dialogue

A dialogue does not choose the answers that it hears, so what it may do is told by its paths:
the questions that it asks, each with the answer that it got. A path is followed one exchange at
a time, the path of one dialogue behind another is a path of the first and then one of the
second, and every dialogue can be brought to its end. A run against one who answers from a state
follows the path along which that one answers.

## Main definitions

* `Dialogue.Path d es d'`: the exchanges `es` take the dialogue `d` to `d'`
* `Dialogue.Gives d es a`: the exchanges `es` take `d` to its result `a`
* `Dialogue.Asks d es`: `d` can have had the exchanges `es`, and may not be done yet
* `Dialogue.map g d`: the dialogue `d` with its result changed
* `Dialogue.Follows answer es s s'`: the exchanges `es` have the answers of a partner who goes from
  `s` to `s'`
* `Dialogue.questions answer d s`: what `d` asks a partner in the state `s`
* `Dialogue.through answer f`: a partner whom one asks through dialogues with another one
* `Dialogue.CarriedOut f es es'`: the exchanges `es` come about through the exchanges `es'`

## Main results

* `gives_bind`, `gives_thenTry`: the paths of one dialogue after another
* `asks_bind`, `asks_thenTry_concat`: what the one and the other ask
* `Asks.exists_gives`: what was asked so far is the beginning of a path to a result
* `run_bind`: the run of one dialogue after another
* `exists_gives_run`: a run gives its result along the answers of its partner
* `run_expand`, `mem_questions_expand`: a run whose questions are answered through dialogues
* `gives_expand`: the paths of a dialogue whose questions are answered through dialogues
-/

namespace PipelinesOperator

namespace Dialogue

variable {Q : Type} {A : Q → Type} {α β ε σ : Type}

/-- A question with the answer that it got. -/
abbrev Exchange (Q : Type) (A : Q → Type) := (q : Q) × A q

/-- The exchanges that take one dialogue to another. -/
inductive Path : Dialogue Q A α → List (Exchange Q A) → Dialogue Q A α → Prop where
  | refl (d : Dialogue Q A α) : Path d [] d
  | ask {q : Q} {next : A q → Dialogue Q A α} {a : A q} {es : List (Exchange Q A)}
      {d : Dialogue Q A α} (rest : Path (next a) es d) : Path (.ask q next) (⟨q, a⟩ :: es) d
  | tell {e : Event} {next : Dialogue Q A α} {es : List (Exchange Q A)} {d : Dialogue Q A α}
      (rest : Path next es d) : Path (.tell e next) es d

/-- The exchanges that take a dialogue to its result. -/
def Gives (d : Dialogue Q A α) (es : List (Exchange Q A)) (a : α) : Prop := Path d es (.done a)

/-- The exchanges that a dialogue can have had, whether it is done by then or not. -/
def Asks (d : Dialogue Q A α) (es : List (Exchange Q A)) : Prop := ∃ d', Path d es d'

theorem Path.trans {d d' d'' : Dialogue Q A α} {es es' : List (Exchange Q A)}
    (h : Path d es d') (h' : Path d' es' d'') : Path d (es ++ es') d'' := by
  induction h with
  | refl d => exact h'
  | ask rest ih => exact .ask (ih h')
  | tell rest ih => exact .tell (ih h')

/-- A dialogue is over, or it has a next question, which it asks whatever the answer. -/
theorem over_or_asks (d : Dialogue Q A α) :
    (∃ a, d.Gives [] a) ∨ ∃ q, ∀ a : A q, ∃ d', Path d [⟨q, a⟩] d' := by
  induction d with
  | done a => exact .inl ⟨a, .refl _⟩
  | ask q next ih => exact .inr ⟨q, fun a => ⟨next a, .ask (.refl _)⟩⟩
  | tell e rest ih =>
    rcases ih with ⟨a, h⟩ | ⟨q, h⟩
    · exact .inl ⟨a, .tell h⟩
    · refine .inr ⟨q, fun a => ?_⟩
      obtain ⟨d', hd'⟩ := h a
      exact ⟨d', .tell hd'⟩

theorem Gives.asks {d : Dialogue Q A α} {es : List (Exchange Q A)} {a : α} (h : d.Gives es a) :
    d.Asks es := ⟨_, h⟩

/-! ## The paths to a result, by the form of a dialogue -/

section Gives

@[simp] theorem gives_done {a b : α} {es : List (Exchange Q A)} :
    (Dialogue.done a : Dialogue Q A α).Gives es b ↔ es = [] ∧ b = a := by
  constructor
  · intro h
    cases h
    exact ⟨rfl, rfl⟩
  · rintro ⟨rfl, rfl⟩
    exact .refl _

@[simp] theorem gives_ask {q : Q} {next : A q → Dialogue Q A α} {es : List (Exchange Q A)} {b : α} :
    (Dialogue.ask q next).Gives es b ↔ ∃ a es', es = ⟨q, a⟩ :: es' ∧ (next a).Gives es' b := by
  constructor
  · intro h
    cases h with
    | ask rest => exact ⟨_, _, rfl, rest⟩
  · rintro ⟨a, es', rfl, h⟩
    exact .ask h

@[simp] theorem gives_tell {e : Event} {d : Dialogue Q A α} {es : List (Exchange Q A)} {b : α} :
    (Dialogue.tell e d).Gives es b ↔ d.Gives es b := by
  constructor
  · intro h
    cases h with
    | tell rest => exact rest
  · exact .tell

@[simp] theorem gives_tellAll {events : List Event} {d : Dialogue Q A α}
    {es : List (Exchange Q A)} {b : α} : (tellAll events d).Gives es b ↔ d.Gives es b := by
  induction events with
  | nil => rfl
  | cons e events ih => exact gives_tell.trans ih

theorem gives_bind {d : Dialogue Q A α} {f : α → Dialogue Q A β} {es : List (Exchange Q A)}
    {b : β} : (d.bind f).Gives es b ↔
      ∃ es₁ es₂ a, es = es₁ ++ es₂ ∧ d.Gives es₁ a ∧ (f a).Gives es₂ b := by
  induction d generalizing es with
  | done a =>
    constructor
    · exact fun h => ⟨[], es, a, rfl, .refl _, h⟩
    · rintro ⟨es₁, es₂, a', rfl, h₁, h₂⟩
      obtain ⟨rfl, rfl⟩ := gives_done.mp h₁
      exact h₂
  | ask q next ih =>
    simp only [bind, gives_ask, ih]
    constructor
    · rintro ⟨x, es', rfl, es₁, es₂, a, rfl, h₁, h₂⟩
      exact ⟨_, es₂, a, rfl, ⟨x, es₁, rfl, h₁⟩, h₂⟩
    · rintro ⟨es₁, es₂, a, rfl, ⟨x, es', rfl, h₁⟩, h₂⟩
      exact ⟨x, _, rfl, es', es₂, a, rfl, h₁, h₂⟩
  | tell e rest ih => simpa only [bind, gives_tell] using ih

theorem gives_thenTry {d : Dialogue Q A (Except ε α)} {f : α → Dialogue Q A (Except ε β)}
    {es : List (Exchange Q A)} {b : Except ε β} : (d.thenTry f).Gives es b ↔
      (∃ e, d.Gives es (.error e) ∧ b = .error e) ∨
      ∃ es₁ es₂ a, es = es₁ ++ es₂ ∧ d.Gives es₁ (.ok a) ∧ (f a).Gives es₂ b := by
  rw [thenTry, gives_bind]
  constructor
  · rintro ⟨es₁, es₂, x, rfl, h₁, h₂⟩
    cases x with
    | error e =>
      obtain ⟨rfl, rfl⟩ := gives_done.mp h₂
      exact .inl ⟨e, by simpa using h₁, rfl⟩
    | ok a => exact .inr ⟨es₁, es₂, a, rfl, h₁, h₂⟩
  · rintro (⟨e, h, rfl⟩ | ⟨es₁, es₂, a, rfl, h₁, h₂⟩)
    · exact ⟨es, [], .error e, by simp, h, .refl _⟩
    · exact ⟨es₁, es₂, .ok a, rfl, h₁, h₂⟩

/-- Along the same exchanges a dialogue gives the same. -/
theorem Gives.unique {d : Dialogue Q A α} {es : List (Exchange Q A)} {a b : α} (h : d.Gives es a)
    (h' : d.Gives es b) : a = b := by
  induction d generalizing es with
  | done c =>
    obtain ⟨rfl, rfl⟩ := gives_done.mp h
    exact (gives_done.mp h').2.symm
  | ask q next ih =>
    obtain ⟨x, es', rfl, hx⟩ := gives_ask.mp h
    obtain ⟨x', es'', ⟨⟩, hx'⟩ := gives_ask.mp h'
    exact ih x hx hx'
  | tell e rest ih => exact ih (gives_tell.mp h) (gives_tell.mp h')

/-- Every dialogue can be brought to its end, if every question has an answer. -/
theorem exists_gives [∀ q, Nonempty (A q)] (d : Dialogue Q A α) : ∃ es a, d.Gives es a := by
  induction d with
  | done a => exact ⟨[], a, .refl _⟩
  | ask q next ih =>
    obtain ⟨answer⟩ := (inferInstance : Nonempty (A q))
    obtain ⟨es, a, h⟩ := ih answer
    exact ⟨_, a, .ask h⟩
  | tell e rest ih =>
    obtain ⟨es, a, h⟩ := ih
    exact ⟨es, a, .tell h⟩

/-- What was asked so far is the beginning of a path to a result. -/
theorem Asks.exists_gives [∀ q, Nonempty (A q)] {d : Dialogue Q A α} {es : List (Exchange Q A)}
    (h : d.Asks es) : ∃ es' a, d.Gives (es ++ es') a := by
  obtain ⟨d', h⟩ := h
  obtain ⟨es', a, h'⟩ := Dialogue.exists_gives d'
  exact ⟨es', a, h.trans h'⟩

end Gives

/-! ## The questions so far, by the form of a dialogue -/

section Asks

theorem asks_nil (d : Dialogue Q A α) : d.Asks [] := ⟨d, .refl d⟩

@[simp] theorem asks_done {a : α} {es : List (Exchange Q A)} :
    (Dialogue.done a : Dialogue Q A α).Asks es ↔ es = [] := by
  constructor
  · rintro ⟨d', h⟩
    cases h
    rfl
  · rintro rfl
    exact asks_nil _

theorem not_asks_done_concat {a : α} {es : List (Exchange Q A)} {e : Exchange Q A} :
    ¬(Dialogue.done a : Dialogue Q A α).Asks (es ++ [e]) := by
  simp

@[simp] theorem asks_ask_cons {q : Q} {next : A q → Dialogue Q A α} {e : Exchange Q A}
    {es : List (Exchange Q A)} :
    (Dialogue.ask q next).Asks (e :: es) ↔ ∃ a, e = ⟨q, a⟩ ∧ (next a).Asks es := by
  constructor
  · rintro ⟨d', h⟩
    cases h with
    | ask rest => exact ⟨_, rfl, d', rest⟩
  · rintro ⟨a, rfl, d', h⟩
    exact ⟨d', .ask h⟩

@[simp] theorem asks_tell {e : Event} {d : Dialogue Q A α} {es : List (Exchange Q A)} :
    (Dialogue.tell e d).Asks es ↔ d.Asks es := by
  constructor
  · rintro ⟨d', h⟩
    cases h with
    | refl => exact asks_nil d
    | tell rest => exact ⟨d', rest⟩
  · rintro ⟨d', h⟩
    exact ⟨d', .tell h⟩

@[simp] theorem asks_tellAll {events : List Event} {d : Dialogue Q A α}
    {es : List (Exchange Q A)} : (tellAll events d).Asks es ↔ d.Asks es := by
  induction events with
  | nil => rfl
  | cons e events ih => exact asks_tell.trans ih

theorem asks_bind {d : Dialogue Q A α} {f : α → Dialogue Q A β} {es : List (Exchange Q A)} :
    (d.bind f).Asks es ↔ d.Asks es ∨
      ∃ es₁ es₂ a, es = es₁ ++ es₂ ∧ d.Gives es₁ a ∧ (f a).Asks es₂ := by
  induction d generalizing es with
  | done a =>
    constructor
    · exact fun h => .inr ⟨[], es, a, rfl, .refl _, h⟩
    · rintro (h | ⟨es₁, es₂, a', rfl, h₁, h₂⟩)
      · obtain rfl := asks_done.mp h
        exact asks_nil _
      · obtain ⟨rfl, rfl⟩ := gives_done.mp h₁
        exact h₂
  | ask q next ih =>
    cases es with
    | nil => exact ⟨fun _ => .inl (asks_nil _), fun _ => asks_nil _⟩
    | cons e es =>
      simp only [bind, asks_ask_cons, gives_ask, ih]
      constructor
      · rintro ⟨x, rfl, h | ⟨es₁, es₂, a, rfl, h₁, h₂⟩⟩
        · exact .inl ⟨x, rfl, h⟩
        · exact .inr ⟨_, es₂, a, rfl, ⟨x, es₁, rfl, h₁⟩, h₂⟩
      · rintro (⟨x, rfl, h⟩ | ⟨es₁, es₂, a, he, ⟨x, es', rfl, h₁⟩, h₂⟩)
        · exact ⟨x, rfl, .inl h⟩
        · obtain ⟨rfl, rfl⟩ := List.cons.inj he
          exact ⟨x, rfl, .inr ⟨es', es₂, a, rfl, h₁, h₂⟩⟩
  | tell e rest ih => simpa only [bind, gives_tell, asks_tell] using ih

/-- What two dialogues ask last is asked by the first of them, or by the second behind all that
the first asked. -/
theorem asks_thenTry_concat {d : Dialogue Q A (Except ε α)}
    {f : α → Dialogue Q A (Except ε β)} {es : List (Exchange Q A)} {e : Exchange Q A} :
    (d.thenTry f).Asks (es ++ [e]) ↔ d.Asks (es ++ [e]) ∨
      ∃ es₁ es₂ a, es = es₁ ++ es₂ ∧ d.Gives es₁ (.ok a) ∧ (f a).Asks (es₂ ++ [e]) := by
  rw [thenTry, asks_bind]
  constructor
  · rintro (h | ⟨es₁, es₂, x, he, h₁, h₂⟩)
    · exact .inl h
    · rcases List.eq_nil_or_concat es₂ with rfl | ⟨es₂, e', rfl⟩
      · rw [List.append_nil] at he
        exact .inl (he ▸ h₁.asks)
      · rw [List.concat_eq_append, ← List.append_assoc] at he
        obtain ⟨rfl, rfl⟩ := List.append_inj' he rfl |>.imp_right List.singleton_inj.mp
        cases x with
        | error e => simp at h₂
        | ok a => exact .inr ⟨es₁, es₂, a, rfl, h₁, by simpa using h₂⟩
  · rintro (h | ⟨es₁, es₂, a, rfl, h₁, h₂⟩)
    · exact .inl h
    · exact .inr ⟨es₁, es₂ ++ [e], .ok a, by simp, h₁, h₂⟩

end Asks

/-! ## Changed results -/

section Map

variable {γ : Type}

/-- A dialogue with its result changed. -/
def map (g : α → β) (d : Dialogue Q A α) : Dialogue Q A β := d.bind fun a => .done (g a)

theorem map_bind (g : β → γ) (d : Dialogue Q A α) (f : α → Dialogue Q A β) :
    (d.bind f).map g = d.bind fun a => (f a).map g := by
  induction d with
  | done a => rfl
  | ask q next ih => exact congrArg (Dialogue.ask q) (funext ih)
  | tell e rest ih => exact congrArg (Dialogue.tell e) ih

theorem map_tellAll (g : α → β) (events : List Event) (d : Dialogue Q A α) :
    (tellAll events d).map g = tellAll events (d.map g) := by
  induction events with
  | nil => rfl
  | cons e events ih => exact congrArg (Dialogue.tell e) ih

/-- What is changed of a result behind two dialogues is changed behind the second. -/
theorem map_thenTry (g : β → γ) (d : Dialogue Q A (Except ε α))
    (f : α → Dialogue Q A (Except ε β)) :
    (d.thenTry f).map (Except.map g) = d.thenTry fun a => (f a).map (Except.map g) := by
  rw [thenTry, map_bind, thenTry]
  refine congrArg d.bind (funext fun x => ?_)
  cases x with
  | error e => rfl
  | ok a => rfl

end Map

/-! ## Runs -/

section Runs

variable (answer : (q : Q) → σ → A q × σ)

/-- The state behind some exchanges of one who answers from a state, if the answers are that
one's. -/
def Follows : List (Exchange Q A) → σ → σ → Prop
  | [], s, s' => s' = s
  | ⟨q, a⟩ :: es, s, s' => a = (answer q s).1 ∧ Follows es (answer q s).2 s'

@[simp] theorem run_done (a : α) (s : σ) : run answer (.done a) s = ⟨a, [], s⟩ := rfl

@[simp] theorem run_ask (q : Q) (next : A q → Dialogue Q A α) (s : σ) :
    run answer (.ask q next) s = run answer (next (answer q s).1) (answer q s).2 := rfl

@[simp] theorem run_tell (e : Event) (d : Dialogue Q A α) (s : σ) :
    run answer (.tell e d) s =
      { run answer d s with events := e :: (run answer d s).events } := rfl

/-- The run of one dialogue after another starts where the first leaves off. -/
theorem run_bind (d : Dialogue Q A α) (f : α → Dialogue Q A β) (s : σ) :
    run answer (d.bind f) s =
      { run answer (f (run answer d s).result) (run answer d s).state with
        events := (run answer d s).events ++
          (run answer (f (run answer d s).result) (run answer d s).state).events } := by
  induction d generalizing s with
  | done a => rfl
  | ask q next ih => exact ih _ _
  | tell e rest ih =>
    rw [bind, run_tell, ih]
    rfl

theorem run_tellAll (events : List Event) (d : Dialogue Q A α) (s : σ) :
    run answer (tellAll events d) s =
      { run answer d s with events := events ++ (run answer d s).events } := by
  induction events with
  | nil => rfl
  | cons e events ih =>
    show run answer (.tell e (tellAll events d)) s = _
    rw [run_tell, ih]
    rfl

theorem run_map (g : α → β) (d : Dialogue Q A α) (s : σ) :
    run answer (d.map g) s =
      ⟨g (run answer d s).result, (run answer d s).events, (run answer d s).state⟩ := by
  rw [map, run_bind, run_done, List.append_nil]

/-- A run gives its result along the answers of its partner. -/
theorem exists_gives_run (d : Dialogue Q A α) (s : σ) :
    ∃ es, d.Gives es (run answer d s).result ∧ Follows answer es s (run answer d s).state := by
  induction d generalizing s with
  | done a => exact ⟨[], .refl _, rfl⟩
  | ask q next ih =>
    obtain ⟨es, h, hf⟩ := ih (answer q s).1 (answer q s).2
    exact ⟨⟨q, (answer q s).1⟩ :: es, .ask h, rfl, hf⟩
  | tell e rest ih =>
    obtain ⟨es, h, hf⟩ := ih s
    exact ⟨es, .tell h, hf⟩

/-- The questions of a dialogue with a partner who answers from a state. -/
def questions : Dialogue Q A α → σ → List Q
  | .done _, _ => []
  | .ask q next, s => q :: questions (next (answer q s).1) (answer q s).2
  | .tell _ rest, s => questions rest s

theorem questions_bind (d : Dialogue Q A α) (f : α → Dialogue Q A β) (s : σ) :
    questions answer (d.bind f) s = questions answer d s ++
      questions answer (f (run answer d s).result) (run answer d s).state := by
  induction d generalizing s with
  | done a => rfl
  | ask q next ih => exact congrArg (q :: ·) (ih _ _)
  | tell e rest ih => exact ih s

theorem questions_tellAll (events : List Event) (d : Dialogue Q A α) (s : σ) :
    questions answer (tellAll events d) s = questions answer d s := by
  induction events with
  | nil => rfl
  | cons e events ih => exact ih

theorem questions_map (g : α → β) (d : Dialogue Q A α) (s : σ) :
    questions answer (d.map g) s = questions answer d s := by
  rw [map, questions_bind, questions, List.append_nil]

variable {answer}

theorem follows_append {es es' : List (Exchange Q A)} {s s' : σ} :
    Follows answer (es ++ es') s s' ↔
      ∃ s₁, Follows answer es s s₁ ∧ Follows answer es' s₁ s' := by
  induction es generalizing s with
  | nil => exact ⟨fun h => ⟨s, rfl, h⟩, fun ⟨_, h, h'⟩ => h ▸ h'⟩
  | cons e es ih =>
    simp only [List.cons_append, Follows, ih]
    constructor
    · rintro ⟨ha, s₁, h, h'⟩
      exact ⟨s₁, ⟨ha, h⟩, h'⟩
    · rintro ⟨s₁, ⟨ha, h⟩, h'⟩
      exact ⟨ha, s₁, h, h'⟩

/-- Along the answers of its partner a dialogue gives nothing but the result of its run.  The
induction is on the dialogue, with the state that the partner has come to. -/
theorem Gives.run_eq {d : Dialogue Q A α} {es : List (Exchange Q A)} {a : α} {s s' : σ}
    (h : d.Gives es a) (hf : Follows answer es s s') :
    (run answer d s).result = a ∧ (run answer d s).state = s' ∧
      questions answer d s = es.map Sigma.fst := by
  induction d generalizing es s with
  | done b =>
    obtain ⟨rfl, rfl⟩ := gives_done.mp h
    exact ⟨rfl, hf.symm, rfl⟩
  | ask q next ih =>
    obtain ⟨b, es', rfl, hb⟩ := gives_ask.mp h
    obtain ⟨rfl, hf⟩ := hf
    obtain ⟨hresult, hstate, hquestions⟩ := ih _ hb hf
    exact ⟨hresult, hstate, congrArg (q :: ·) hquestions⟩
  | tell e rest ih => exact ih (gives_tell.mp h) hf

/-! ## Partners who are asked through dialogues -/

section Through

variable {Q' : Type} {A' : Q' → Type}

/-- One who answers each question by a dialogue with somebody else. -/
def through (answer : (q : Q) → σ → A q × σ) (f : (q : Q') → Dialogue Q A (A' q))
    (q : Q') (s : σ) : A' q × σ :=
  ((run answer (f q) s).result, (run answer (f q) s).state)

/-- A run in which every question is answered through a dialogue is a run against one who
answers so. -/
theorem run_expand (f : (q : Q') → Dialogue Q A (A' q)) (d : Dialogue Q' A' α) (s : σ) :
    (run answer (d.expand f) s).result = (run (through answer f) d s).result ∧
      (run answer (d.expand f) s).state = (run (through answer f) d s).state := by
  induction d generalizing s with
  | done a => exact ⟨rfl, rfl⟩
  | ask q next ih =>
    rw [expand, run_bind]
    exact ih _ _
  | tell e rest ih => exact ih s

/-- What is asked in such a run is asked for the sake of one of its questions. -/
theorem mem_questions_expand {f : (q : Q') → Dialogue Q A (A' q)} {d : Dialogue Q' A' α} {s : σ}
    {q : Q} (h : q ∈ questions answer (d.expand f) s) :
    ∃ q' ∈ questions (through answer f) d s, ∃ s', q ∈ questions answer (f q') s' := by
  induction d generalizing s with
  | done a => cases h
  | ask q' next ih =>
    rw [expand, questions_bind] at h
    rcases List.mem_append.mp h with h | h
    · exact ⟨q', List.mem_cons_self, s, h⟩
    · obtain ⟨q'', hq'', h⟩ := ih _ h
      exact ⟨q'', List.mem_cons_of_mem _ hq'', h⟩
  | tell e rest ih => exact ih h

end Through

end Runs

/-! ## Exchanges that come about through others -/

section CarriedOut

variable {Q' : Type} {A' : Q' → Type} {f : (q : Q') → Dialogue Q A (A' q)}

/-- The first exchanges come about through the others: each answer is the result of the dialogue for
its question. -/
inductive CarriedOut (f : (q : Q') → Dialogue Q A (A' q)) :
    List (Exchange Q' A') → List (Exchange Q A) → Prop where
  | nil : CarriedOut f [] []
  | cons {q : Q'} {a : A' q} {qs : List (Exchange Q' A')} {es es' : List (Exchange Q A)}
      (head : (f q).Gives es a) (rest : CarriedOut f qs es') :
      CarriedOut f (⟨q, a⟩ :: qs) (es ++ es')

theorem CarriedOut.exists_append {qs qs' : List (Exchange Q' A')} {es : List (Exchange Q A)}
    (h : CarriedOut f (qs ++ qs') es) :
    ∃ es₁ es₂, es = es₁ ++ es₂ ∧ CarriedOut f qs es₁ ∧ CarriedOut f qs' es₂ := by
  induction qs generalizing es with
  | nil => exact ⟨[], es, rfl, .nil, h⟩
  | cons e qs ih =>
    cases h with
    | @cons _ _ _ es₀ es' head rest =>
      obtain ⟨es₁, es₂, rfl, h₁, h₂⟩ := ih rest
      exact ⟨es₀ ++ es₁, es₂, (List.append_assoc ..).symm, .cons head h₁, h₂⟩

/-- Every exchange that comes about does so through some of the others. -/
theorem CarriedOut.exists_gives {qs : List (Exchange Q' A')} {es : List (Exchange Q A)}
    (h : CarriedOut f qs es) {e : Exchange Q' A'} (he : e ∈ qs) :
    ∃ es', es' ⊆ es ∧ (f e.1).Gives es' e.2 := by
  induction h with
  | nil => cases he
  | @cons q a qs es₁ es₂ head rest ih =>
    rcases List.mem_cons.mp he with rfl | he
    · exact ⟨es₁, List.subset_append_left es₁ es₂, head⟩
    · obtain ⟨es', hsub, hgives⟩ := ih he
      exact ⟨es', List.Subset.trans hsub (List.subset_append_right es₁ es₂), hgives⟩

/-- A dialogue whose questions are answered through dialogues gives what it gives along the
exchanges that come about in this way.  Each of its questions takes a stretch of the exchanges. -/
theorem gives_expand {d : Dialogue Q' A' α} {es : List (Exchange Q A)} {x : α} :
    (d.expand f).Gives es x ↔ ∃ qs, d.Gives qs x ∧ CarriedOut f qs es := by
  induction d generalizing es with
  | done a =>
    rw [expand, gives_done]
    constructor
    · rintro ⟨rfl, rfl⟩
      exact ⟨[], .refl _, .nil⟩
    · rintro ⟨qs, h, hc⟩
      obtain ⟨rfl, rfl⟩ := gives_done.mp h
      cases hc
      exact ⟨rfl, rfl⟩
  | ask q next ih =>
    rw [expand, gives_bind]
    constructor
    · rintro ⟨es₁, es₂, a, rfl, h₁, h₂⟩
      obtain ⟨qs, h, hc⟩ := (ih a).mp h₂
      exact ⟨_, .ask h, .cons h₁ hc⟩
    · rintro ⟨qs, h, hc⟩
      obtain ⟨a, qs', rfl, hnext⟩ := gives_ask.mp h
      cases hc with
      | cons head rest => exact ⟨_, _, a, rfl, head, (ih a).mpr ⟨qs', hnext, rest⟩⟩
  | tell e rest ih =>
    rw [expand, gives_tell, ih]
    simp only [gives_tell]

end CarriedOut

end Dialogue

end PipelinesOperator
