import Mathlib.Data.List.Forall2
import Preflight.Connector
import Preflight.Proofs.Acceptance

/-!
# Runs that cannot be told apart

A run is made of acts, and all that it can find out about its world comes through
the values of the probes. Two worlds in which the probes answer alike therefore
give the same results, the same events and the same report, however different
the worlds are.

`Act.Alike R S` is this relation for one act: worlds related by `R` are left
related by `R`, and the values are related by `S`. It is kept by everything that
acts are put together with, so it passes from the probes to the attempt, from
the attempt to the run over a list of steps, and from there to the test of a
connection. The induction over the steps is made once, in `Runner.alike_runFrom`.

## Main results

* `Runner.alike_run` — runs over steps whose probes are alike are alike.
* `Connector.alike_test`, `Connector.alike_connectAndTest` — so are the tests of two
  connectors with such steps, also from connecting to closing.
* `Runner.keeps_run`, `Connector.keeps_test` — what every probe keeps true of the
  world, a run and a test keep true.
-/

namespace Preflight

variable {σ σ' τ α α' β β' : Type}

namespace Act

/-- Acts on two worlds that cannot be told apart: from worlds related by `R` they
note the same events, come to values related by `S` and leave worlds related by
`R`. -/
def Alike (R : σ → σ' → Prop) (S : α → α' → Prop) (act : Act σ α) (act' : Act σ' α') : Prop :=
  ∀ world world', R world world' →
    S (act.run world).value (act'.run world').value ∧
      R (act.run world).world (act'.run world').world ∧
      (act.run world).events = (act'.run world').events

variable {R : σ → σ' → Prop} {S : α → α' → Prop} {T : β → β' → Prop}

theorem alike_pure {a : α} {a' : α'} (h : S a a') :
    Alike R S (pure a : Act σ α) (pure a' : Act σ' α') := by
  intro world world' hR
  exact ⟨h, hR, rfl⟩

theorem alike_note (event : Event) : Alike R Eq (note event) (note event) := by
  intro world world' hR
  exact ⟨rfl, hR, rfl⟩

/-- The rule of composition: what follows may use that the values are related. -/
theorem Alike.bind {act : Act σ α} {act' : Act σ' α'} {next : α → Act σ β}
    {next' : α' → Act σ' β'} (h : Alike R S act act')
    (hnext : ∀ a a', S a a' → Alike R T (next a) (next' a')) :
    Alike R T (act >>= next) (act' >>= next') := by
  intro world world' hR
  obtain ⟨hvalue, hworld, hevents⟩ := h world world' hR
  obtain ⟨hvalue', hworld', hevents'⟩ := hnext _ _ hvalue _ _ hworld
  refine ⟨hvalue', hworld', ?_⟩
  simp only [run_bind, hevents, hevents']

/-- Acts on one half of a world do not see the other half. -/
theorem Alike.onFirst {act : Act σ α} {act' : Act σ' α'} (h : Alike R S act act') :
    Alike (fun (world : σ × τ) (world' : σ' × τ) => R world.1 world'.1 ∧ world.2 = world'.2) S
      (Act.onFirst act) (Act.onFirst act') := by
  rintro ⟨world, other⟩ ⟨world', other'⟩ ⟨hR, hother⟩
  obtain ⟨hvalue, hworld, hevents⟩ := h world world' hR
  exact ⟨hvalue, ⟨hworld, hother⟩, hevents⟩

theorem alike_onSecond (act : Act τ α) :
    Alike (fun (world : σ × τ) (world' : σ' × τ) => R world.1 world'.1 ∧ world.2 = world'.2) Eq
      (Act.onSecond act) (Act.onSecond act) := by
  rintro ⟨world, other⟩ ⟨world', other'⟩ ⟨hR, hother⟩
  obtain rfl : other = other' := hother
  exact ⟨rfl, ⟨hR, rfl⟩, rfl⟩

/-- A value that joins both worlds for a while does not tell them apart. -/
theorem Alike.carrying {κ : Type} {act : Act ((κ × σ) × τ) α} {act' : Act ((κ × σ') × τ) α}
    (h : Alike (fun (world : (κ × σ) × τ) (world' : (κ × σ') × τ) =>
      (world.1.1 = world'.1.1 ∧ R world.1.2 world'.1.2) ∧ world.2 = world'.2) Eq act act')
    (value : κ) :
    Alike (fun (world : σ × τ) (world' : σ' × τ) => R world.1 world'.1 ∧ world.2 = world'.2) Eq
      (Act.carrying value act) (Act.carrying value act') := by
  rintro ⟨world, other⟩ ⟨world', other'⟩ ⟨hR, hother⟩
  obtain ⟨hvalue, ⟨⟨hcarried, hworld⟩, hrest⟩, hevents⟩ :=
    h ((value, world), other) ((value, world'), other') ⟨⟨rfl, hR⟩, hother⟩
  exact ⟨Prod.ext hvalue hcarried, ⟨hworld, hrest⟩, hevents⟩

end Act

/-- Steps that differ at most in their probes, which are alike. -/
structure Step.Alike (R : σ → σ' → Prop) (step : Step σ) (step' : Step σ') : Prop where
  name : step.name = step'.name
  dependsOn : step.dependsOn = step'.dependsOn
  limitMicros : step.limitMicros = step'.limitMicros
  probe : Act.Alike R Eq step.probe step'.probe

variable {R : σ → σ' → Prop}

/-- Whether steps fit together does not depend on their probes. -/
theorem stepsFault?_eq_of_alike {steps : List (Step σ)} {steps' : List (Step σ')}
    (h : List.Forall₂ (Step.Alike R) steps steps') (seen : List String) :
    stepsFault? seen steps = stepsFault? seen steps' := by
  induction h generalizing seen with
  | nil => rfl
  | cons hstep _ ih =>
      rw [stepsFault?, stepsFault?, hstep.name, hstep.dependsOn]
      simp only [ih]

namespace Runner

theorem alike_attempt (service : String) {step : Step σ} {step' : Step σ'}
    (h : Step.Alike R step step') :
    Act.Alike R Eq (attempt service step) (attempt service step') := by
  unfold attempt
  rw [h.name, h.limitMicros]
  refine (Act.alike_note _).bind fun _ _ _ => h.probe.bind ?_
  rintro answer _ rfl
  exact (Act.alike_note _).bind fun _ _ _ => Act.alike_pure rfl

theorem obstacle?_eq_of_alike (settled : List (String × StepStatus)) {step : Step σ}
    {step' : Step σ'} (h : Step.Alike R step step') :
    obstacle? settled step = obstacle? settled step' := by
  rw [obstacle?, obstacle?, h.dependsOn]

/-- **Runs over alike steps are alike.** The probes are the only part of a run
that touches the world, so the statuses settled so far stay the same on both
sides and every branch is taken on both or on none. -/
theorem alike_runFrom (service : String) (policy : RunPolicy) {steps : List (Step σ)}
    {steps' : List (Step σ')} (h : List.Forall₂ (Step.Alike R) steps steps')
    (settled : List (String × StepStatus)) :
    Act.Alike R Eq (runFrom service policy settled steps)
      (runFrom service policy settled steps') := by
  induction h generalizing settled with
  | nil => exact Act.alike_pure rfl
  | @cons step step' rest rest' hstep _ ih =>
      rw [runFrom, runFrom, ← obstacle?_eq_of_alike settled hstep, ← hstep.name]
      cases obstacle? settled step with
      | some dependency =>
          refine (Act.alike_note _).bind fun _ _ _ => (ih _).bind ?_
          rintro later _ rfl
          exact Act.alike_pure rfl
      | none =>
          refine (alike_attempt service hstep).bind ?_
          rintro answer _ rfl
          dsimp only
          split
          · exact (Act.alike_note _).bind fun _ _ _ => Act.alike_pure rfl
          · refine (ih _).bind ?_
            rintro later _ rfl
            exact Act.alike_pure rfl

theorem alike_run (runner : Runner σ) (runner' : Runner σ') (service : String)
    (policy : RunPolicy) (stamp : Timestamp)
    (h : List.Forall₂ (Step.Alike R) runner.steps runner'.steps) :
    Act.Alike R Eq (runner.run service policy stamp) (runner'.run service policy stamp) := by
  unfold run
  rw [h.length_eq]
  refine (Act.alike_note _).bind fun _ _ _ => (alike_runFrom service policy h []).bind ?_
  rintro record _ rfl
  exact (Act.alike_note _).bind fun _ _ _ => Act.alike_pure rfl

end Runner

/-- Delivery sees the report alone, so it adds nothing by which alike runs could
be told apart. -/
theorem alike_testSteps (runner : Runner σ) (runner' : Runner σ') (service : String)
    (purpose : Purpose τ) (stamp : Timestamp)
    (h : List.Forall₂ (Step.Alike R) runner.steps runner'.steps) :
    Act.Alike (fun (world : σ × τ) (world' : σ' × τ) => R world.1 world'.1 ∧ world.2 = world'.2)
      Eq (testSteps runner service purpose stamp) (testSteps runner' service purpose stamp) := by
  refine (Runner.alike_run runner runner' service purpose.policy stamp h).onFirst.bind ?_
  rintro ⟨report, _⟩ _ rfl
  exact Act.alike_onSecond _

/-- Tests of connections whose steps are alike are alike, also where the steps
are refused. -/
theorem Connector.alike_test {ς ς' κ κ' ω ω' : Type} {R : κ × ω → κ' × ω' → Prop}
    {connector : Connector ς κ ω} {connector' : Connector ς' κ' ω'} (purpose : Purpose τ)
    (stamp : Timestamp) (hservice : connector.service = connector'.service)
    (h : List.Forall₂ (Step.Alike R) connector.steps connector'.steps) :
    Act.Alike (fun (world : (κ × ω) × τ) (world' : (κ' × ω') × τ) =>
        R world.1 world'.1 ∧ world.2 = world'.2)
      Eq (connector.test purpose stamp) (connector'.test purpose stamp) := by
  have hfits := stepsFault?_eq_of_alike h []
  unfold Connector.test
  cases hfault : stepsFault? [] connector.steps with
  | some fault =>
      rw [Runner.of?_of_eq_some hfault, Runner.of?_of_eq_some (hfits ▸ hfault)]
      exact Act.alike_pure rfl
  | none =>
      rw [Runner.of?_of_eq_none hfault, Runner.of?_of_eq_none (hfits ▸ hfault), ← hservice]
      exact alike_testSteps _ _ _ purpose stamp h

/-- So are the whole ways from the settings to the answer. -/
theorem Connector.alike_connectAndTest {ς κ ω ω' : Type} {Q : ω → ω' → Prop}
    {connector : Connector ς κ ω} {connector' : Connector ς κ ω'} (settings : ς)
    (purpose : Purpose τ) (stamp : Timestamp) (hservice : connector.service = connector'.service)
    (hconnect : Act.Alike Q Eq (connector.connect settings) (connector'.connect settings))
    (hsteps : List.Forall₂ (Step.Alike fun (world : κ × ω) (world' : κ × ω') =>
      world.1 = world'.1 ∧ Q world.2 world'.2) connector.steps connector'.steps)
    (hclose : ∀ connection,
      Act.Alike Q Eq (connector.close connection) (connector'.close connection)) :
    Act.Alike (fun (world : ω × τ) (world' : ω' × τ) => Q world.1 world'.1 ∧ world.2 = world'.2)
      Eq (connector.connectAndTest settings purpose stamp)
      (connector'.connectAndTest settings purpose stamp) := by
  refine hconnect.onFirst.bind ?_
  rintro connected _ rfl
  cases connected with
  | error failure => exact Act.alike_pure rfl
  | ok connection =>
      refine ((Connector.alike_test purpose stamp hservice hsteps).carrying connection).bind ?_
      rintro ⟨outcome, connection⟩ _ rfl
      refine Act.Alike.onFirst ((hclose connection).bind ?_)
      rintro closed _ rfl
      cases closed with
      | ok _ => exact Act.alike_pure rfl
      | error error => exact (Act.alike_note _).bind fun _ _ _ => Act.alike_pure rfl

/-! ## What a run keeps -/

/-- The act keeps a property of its world. -/
def Act.Keeps (P : σ → Prop) (act : Act σ α) : Prop :=
  ∀ world, P world → P (act.run world).world

/-- The act keeps a property of its world, and `P` holds of its value. -/
def Act.Yields (keep : σ → Prop) (P : α → Prop) (act : Act σ α) : Prop :=
  ∀ world, keep world → P (act.run world).value ∧ keep (act.run world).world

namespace Act

variable {keep : σ → Prop} {P : α → Prop} {Q : β → Prop}

theorem yields_pure {a : α} (h : P a) : Yields keep P (pure a) :=
  fun _ hkeep => ⟨h, hkeep⟩

/-- What can be said of every act. -/
theorem yields_true (act : Act σ α) : Yields (fun _ => True) (fun _ => True) act :=
  fun _ _ => ⟨trivial, trivial⟩

theorem Yields.bind {act : Act σ α} {next : α → Act σ β} (h : Yields keep P act)
    (hnext : ∀ a, P a → Yields keep Q (next a)) : Yields keep Q (act >>= next) := by
  intro world hkeep
  obtain ⟨hvalue, hworld⟩ := h world hkeep
  exact hnext _ hvalue _ hworld

end Act

variable {P : σ → Prop}

/-- A property of a world is a relation of the world to itself, so what is kept
by all probes is kept wherever alike probes give alike acts. -/
theorem forall₂_alike_of_keeps {steps : List (Step σ)}
    (h : ∀ step ∈ steps, Act.Keeps P step.probe) :
    List.Forall₂ (Step.Alike fun world world' => world = world' ∧ P world) steps steps := by
  rw [List.forall₂_same]
  intro step hstep
  refine ⟨rfl, rfl, rfl, ?_⟩
  rintro world _ ⟨rfl, hP⟩
  exact ⟨rfl, ⟨rfl, h step hstep world hP⟩, rfl⟩

theorem Runner.keeps_run (runner : Runner σ) (service : String) (policy : RunPolicy)
    (stamp : Timestamp) (h : ∀ step ∈ runner.steps, Act.Keeps P step.probe) :
    Act.Keeps P (runner.run service policy stamp) := by
  intro world hP
  obtain ⟨_, ⟨_, hkept⟩, _⟩ :=
    alike_run runner runner service policy stamp (forall₂_alike_of_keeps h) world world ⟨rfl, hP⟩
  exact hkept

theorem Connector.keeps_test {ς κ ω : Type} {P : κ × ω → Prop} {connector : Connector ς κ ω}
    (purpose : Purpose τ) (stamp : Timestamp)
    (h : ∀ step ∈ connector.steps, Act.Keeps P step.probe) :
    Act.Keeps (fun world : (κ × ω) × τ => P world.1) (connector.test purpose stamp) := by
  intro world hP
  obtain ⟨_, ⟨⟨_, hkept⟩, _⟩, _⟩ := Connector.alike_test purpose stamp rfl
    (forall₂_alike_of_keeps h) world world ⟨⟨rfl, hP⟩, rfl⟩
  exact hkept

end Preflight
