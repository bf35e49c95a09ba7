import Preflight.Proofs.Alike
import Preflight.Proofs.Kinds
import Preflight.Proofs.Using

/-!
# Failures that blame the settings

A failure to connect blames the settings if its kind is `invalidConfig`. Settings are
read before anything is sent, so such a failure should not depend on a peer at all.
One half of this is the order of things in `openPool`. The other half is that nothing
that happens later may look like it: a fault of any talk has another kind, whatever a
peer sends, and whatever it has in its texts and codes.

`BoltFault.IsOfAddress` holds of the faults that are found in an address, and of these
alone the kind is `invalidConfig` (`BoltFault.kind_eq_invalidConfig_iff`). Each step of
a talk fails with other faults only, and the talks are put together from the steps by
the rules for `Talk.FailsWith`. So to connect fails in this way if and only if the
settings name no endpoint (`connect_eq_error_iff`), and then the peer is not even asked
for a link.

## Main results

* `BoltPool.failsWith_verify` — to verify a pool never blames the settings.
* `GraphConnection.invalidConfig_sends_nothing` — what it takes to blame the settings, and
  that nothing is sent then.
-/

namespace Preflight

/-! ## Faults -/

namespace BoltFault

/-- The fault is in the address, and it is found without a peer. -/
inductive IsOfAddress : BoltFault → Prop
  | badAddress (fault : UrlFault) : IsOfAddress (.badAddress fault)
  | badScheme (scheme : String) : IsOfAddress (.badScheme scheme)
  | badName (host : String) : IsOfAddress (.badName host)

variable {fault : BoltFault}

/-- **Only faults of the address blame the settings.** -/
theorem kind_eq_invalidConfig_iff : fault.kind = .invalidConfig ↔ fault.IsOfAddress := by
  constructor
  · intro hkind
    have htext : ∀ message, FailureKind.ofMessage message ≠ .invalidConfig :=
      FailureKind.ofMessage_ne_invalidConfig
    cases fault with
    | badAddress fault => exact .badAddress fault
    | badScheme scheme => exact .badScheme scheme
    | badName host => exact .badName host
    | badVersion number => exact absurd hkind (htext _)
    | link fault =>
        by_cases hstray : fault = .strayMessage
        · rw [hstray] at hkind
          exact absurd hkind (htext LinkFault.strayMessage.message)
        · rw [kind_link hstray] at hkind
          exact absurd hkind (LinkFault.transportKind_ne fault.message).2.2
    | loginRefused reason => cases hkind
    | server error => exact absurd hkind error.kind_ne_invalidConfig
    | unexpected request reply => exact absurd hkind (htext _)
    | brokenOff fault => exact absurd hkind (htext _)
    | silence => cases hkind
  · intro hfault
    cases hfault <;> rfl

/-- **No answer of a peer is a fault of the address.** -/
theorem not_isOfAddress_of_ofAnswer {request : BoltRequestKind}
    {answer : Except LinkFault BoltReply} (h : ofAnswer request answer = .error fault) :
    ¬ fault.IsOfAddress := by
  cases answer with
  | error link =>
      obtain rfl := Except.error.inj h
      split <;> nofun
  | ok reply =>
      cases reply with
      | success rows more => cases h
      | failure code text =>
          obtain rfl := Except.error.inj h
          cases request <;> nofun
      | record =>
          obtain rfl := Except.error.inj h
          split <;> nofun
      | stray =>
          obtain rfl := Except.error.inj h
          nofun
      | hangUp =>
          obtain rfl := Except.error.inj h
          nofun

end BoltFault

/-- **No greeting of a peer is a fault of the address.** -/
theorem BoltPool.not_isOfAddress_of_ofGreeting {fault : BoltFault} {secured : Bool}
    {greeting : BoltGreeting} (h : ofGreeting secured greeting = .error fault) :
    ¬ fault.IsOfAddress := by
  have hversion : ∀ {number closed}, ofVersion number closed = .error fault →
      ¬ fault.IsOfAddress := by
    intro number closed h
    unfold ofVersion at h
    split at h <;> cases h
    nofun
  have hplain : ∀ {greeting}, ofPlainGreeting greeting = .error fault → ¬ fault.IsOfAddress := by
    intro greeting h
    cases greeting with
    | version number => exact hversion h
    | bytes data =>
        rw [ofPlainGreeting] at h
        split at h
        · obtain rfl := Except.error.inj h
          nofun
        · exact hversion h
    | _ =>
        obtain rfl := Except.error.inj h
        nofun
  cases secured with
  | true =>
      cases greeting with
      | secured greeting => exact hplain h
      | version number =>
          obtain rfl := Except.error.inj h
          split <;> nofun
      | _ =>
          obtain rfl := Except.error.inj h
          nofun
  | false => exact hplain h

/-- Whatever is wrong with a URI is a fault of the address. -/
theorem BoltEndpoint.isOfAddress_of_ofUri {uri : String} {fault : BoltFault}
    (h : ofUri uri = .error fault) : fault.IsOfAddress := by
  unfold ofUri at h
  split at h
  · obtain rfl := Except.error.inj h
    exact .badAddress _
  · dsimp only at h
    split at h
    · obtain rfl := Except.error.inj h
      exact .badScheme _
    · split at h
      · obtain rfl := Except.error.inj h
        exact .badName _
      · cases h

/-! ## Talks -/

/-- However the talk fails, `P` holds of the fault. -/
def Talk.FailsWith {α : Type} (P : BoltFault → Prop) (talk : Talk α) : Prop :=
  Act.Yields (fun _ => True) (fun result => ∀ fault, result = .error fault → P fault) talk.run

namespace Talk

variable {α β : Type} {P : BoltFault → Prop}

theorem failsWith_pure (a : α) : FailsWith P (pure a) := Act.yields_pure nofun

theorem FailsWith.bind {talk : Talk α} {next : α → Talk β} (h : FailsWith P talk)
    (hnext : ∀ a, FailsWith P (next a)) : FailsWith P (talk >>= next) := by
  refine Act.Yields.bind h fun result hresult => ?_
  cases result with
  | ok a => exact hnext a
  | error fault =>
      apply Act.yields_pure
      intro _ heq
      exact hresult _ (congrArg Except.error (Except.error.inj heq))

theorem FailsWith.discard {talk : Talk α} (h : FailsWith P talk) :
    FailsWith P (Functor.discard talk) :=
  h.bind fun _ => failsWith_pure ()

end Talk

namespace BoltPool

open BoltFault Talk

/-- **A request does not fail for the address**, whatever the reply is. -/
theorem failsWith_request (request : BoltRequest) :
    FailsWith (¬ ·.IsOfAddress) (BoltPool.request request) := by
  refine (Act.yields_true (ask request)).bind fun answer _ => ?_
  exact Act.yields_pure fun fault => not_isOfAddress_of_ofAnswer

/-- A link is not refused for the address, whatever the greeting is. -/
theorem failsWith_openLink : FailsWith (¬ ·.IsOfAddress) openLink := by
  rintro ⟨pool, net⟩ -
  refine ⟨fun fault h => ?_, trivial⟩
  unfold openLink Act.change Act.run ExceptT.run ExceptT.mk at h
  dsimp only at h
  generalize net.open? pool.endpoint.host pool.endpoint.port = opened at h
  obtain ⟨link, after⟩ := opened
  cases link with
  | none =>
      obtain rfl := Except.error.inj h
      nofun
  | some link =>
      obtain ⟨number, greeting⟩ := link
      dsimp only at h
      cases hgreeting : ofGreeting pool.endpoint.secured greeting with
      | ok closed =>
          rw [hgreeting] at h
          cases h
      | error first =>
          rw [hgreeting] at h
          obtain rfl := Except.error.inj h
          exact not_isOfAddress_of_ofGreeting hgreeting

theorem failsWith_logIn : FailsWith (¬ ·.IsOfAddress) logIn := by
  have hcurrent : FailsWith (¬ ·.IsOfAddress) current := fun _ _ => ⟨nofun, trivial⟩
  exact hcurrent.bind fun _ => (failsWith_request _).discard

theorem failsWith_connect : FailsWith (¬ ·.IsOfAddress) connect := by
  have hopened : FailsWith (¬ ·.IsOfAddress) (do openLink; logIn) :=
    failsWith_openLink.bind fun _ => failsWith_logIn
  have hleave := Act.yields_true leave
  refine hleave.bind fun _ _ => Act.Yields.bind hopened fun result hresult => ?_
  cases result with
  | ok _ => exact Act.yields_pure nofun
  | error fault => exact hleave.bind fun _ _ => Act.yields_pure hresult

theorem failsWith_ready : FailsWith (¬ ·.IsOfAddress) ready := by
  refine (Act.yields_true Act.look).bind ?_
  rintro ⟨pool, net⟩ -
  dsimp only
  cases pool.link with
  | none => exact failsWith_connect
  | some link =>
      refine Act.Yields.bind (failsWith_request .reset) fun result _ => ?_
      cases result with
      | ok _ => exact Act.yields_pure nofun
      -- The fault of the reset is passed over for what comes of a new link.
      | error fault => exact failsWith_connect

theorem failsWith_start : FailsWith (¬ ·.IsOfAddress) start :=
  failsWith_ready.bind fun _ => (failsWith_request _).discard

/-- **To show that a statement can be run** does not fail for the address. -/
theorem failsWith_verify : FailsWith (¬ ·.IsOfAddress) verify := by
  refine failsWith_start.bind fun _ => (failsWith_request _).discard.bind fun _ => ?_
  exact (failsWith_request _).discard.bind fun _ => (failsWith_request _).discard

end BoltPool

/-! ## Connecting -/

namespace GraphSettings

variable {settings : GraphSettings} {files : Files} {net : BoltNet} {failure : ConnectionFailure}

theorem kind_of_endpoint_eq_error (h : settings.endpoint files = .error failure) :
    failure.kind = .invalidConfig := by
  unfold endpoint at h
  split at h
  · obtain rfl := Except.error.inj h
    rfl
  · split at h
    · rename_i uri _ _
      cases hplace : BoltEndpoint.ofUri uri with
      | ok endpoint =>
          rw [hplace] at h
          cases h
      | error fault =>
          rw [hplace] at h
          obtain rfl := Except.error.inj h
          exact BoltFault.kind_eq_invalidConfig_iff.mpr (BoltEndpoint.isOfAddress_of_ofUri hplace)
    · obtain rfl := Except.error.inj h
      rfl

/-- **To open a pool blames the settings if they name no endpoint**, and only then. -/
theorem openPool_eq_error_iff :
    (settings.openPool.run net).value = .error failure ∧ failure.kind = .invalidConfig ↔
      settings.endpoint net.files = .error failure := by
  constructor
  · rintro ⟨hvalue, hkind⟩
    cases hplace : settings.endpoint net.files with
    | error first =>
        rw [run_openPool_of_error hplace] at hvalue
        exact congrArg Except.error (Except.error.inj hvalue)
    | ok endpoint =>
        -- With an endpoint, all that is left to fail is the verification.
        rw [(run_openPool hplace).1] at hvalue
        obtain ⟨hfails, -⟩ := BoltPool.failsWith_verify
          (⟨endpoint, settings.username, settings.password, none⟩, net) trivial
        cases hverified : (BoltPool.verify.run.run
            (⟨endpoint, settings.username, settings.password, none⟩, net)).value with
        | ok _ =>
            rw [hverified] at hvalue
            cases hvalue
        | error fault =>
            rw [hverified] at hvalue
            obtain rfl : settings.failure fault = failure := Except.error.inj hvalue
            exact absurd (BoltFault.kind_eq_invalidConfig_iff.mp hkind) (hfails fault hverified)
  · intro hplace
    rw [run_openPool_of_error hplace]
    exact ⟨rfl, kind_of_endpoint_eq_error hplace⟩

/-- Settings that name no endpoint: they have no URI, or a certificate file that they call for is
not there. -/
theorem exists_endpoint_eq_error
    (h : (∀ uri, settings.uri ≠ .ok uri) ∨ settings.hasCertificate files = false) :
    ∃ failure, settings.endpoint files = .error failure := by
  unfold endpoint
  cases huri : settings.uri with
  | error fault => exact ⟨_, rfl⟩
  | ok uri =>
      rcases h with hnone | hmissing
      · exact absurd huri (hnone uri)
      · dsimp only
        rw [hmissing]
        exact ⟨_, rfl⟩

theorem hasCertificate_eq_false_iff :
    settings.hasCertificate files = false ↔
      settings.encrypted = true ∧
        ∃ path, settings.certificateFile = some path ∧ files.namesFile path = false := by
  unfold hasCertificate
  cases settings.encrypted <;> cases settings.certificateFile <;> simp

end GraphSettings

namespace GraphConnection

variable {settings : GraphSettings} {net : BoltNet} {failure : ConnectionFailure}

theorem connect_eq_error_iff_openPool :
    ((connect settings).run net).value = .error failure ↔
      (settings.openPool.run net).value = .error failure := by
  rw [(connect_spec settings net).1, (run_openSession settings net).1]
  cases (settings.openPool.run net).value <;> simp [Except.map]

/-- **To connect blames the settings if they name no endpoint**, and only then. -/
theorem connect_eq_error_iff :
    ((connect settings).run net).value = .error failure ∧ failure.kind = .invalidConfig ↔
      settings.endpoint net.files = .error failure := by
  rw [connect_eq_error_iff_openPool, GraphSettings.openPool_eq_error_iff]

theorem world_connect_of_error (h : settings.endpoint net.files = .error failure) :
    ((connect settings).run net).world = net := by
  rw [(connect_spec settings net).2, (run_openSession settings net).2,
    GraphSettings.run_openPool_of_error h]

/-- **Nothing is sent if the settings are to blame.** To connect fails in this way if the settings
have no URI, or call for a certificate file that is not there. Whenever it fails in this way, all is
left as it was, and with any other peer it fails just so; for nothing that a peer answers, to a
greeting or to a request, is a failure of this kind. -/
theorem invalidConfig_sends_nothing (settings : GraphSettings) (net : BoltNet) :
    let connecting := (connect settings).run net
    ((∀ uri, settings.uri ≠ .ok uri) ∨
        settings.encrypted = true ∧
          (∃ path, settings.certificateFile = some path ∧ net.files.namesFile path = false) →
      ∃ failure, connecting.value = .error failure ∧ failure.kind = .invalidConfig) ∧
    (∀ failure, connecting.value = .error failure → failure.kind = .invalidConfig →
      connecting.world = net ∧
        ∀ other : BoltNet, other.files = net.files →
          ((connect settings).run other).value = .error failure ∧
            ((connect settings).run other).world = other) ∧
    (∀ secured greeting fault, BoltPool.ofGreeting secured greeting = .error fault →
      fault.kind ≠ .invalidConfig) ∧
    ∀ request answer fault, BoltFault.ofAnswer request answer = .error fault →
      fault.kind ≠ .invalidConfig := by
  intro connecting
  refine ⟨?_, ?_, ?_, ?_⟩
  · intro hwrong
    rw [← GraphSettings.hasCertificate_eq_false_iff] at hwrong
    obtain ⟨failure, hplace⟩ := GraphSettings.exists_endpoint_eq_error hwrong
    exact ⟨failure, connect_eq_error_iff.mpr hplace⟩
  · intro failure hvalue hkind
    have hplace : settings.endpoint net.files = .error failure :=
      connect_eq_error_iff.mp ⟨hvalue, hkind⟩
    refine ⟨world_connect_of_error hplace, fun other hfiles => ?_⟩
    rw [← hfiles] at hplace
    exact ⟨(connect_eq_error_iff.mpr hplace).1, world_connect_of_error hplace⟩
  · intro secured greeting fault hgreeting hkind
    exact BoltPool.not_isOfAddress_of_ofGreeting hgreeting
      (BoltFault.kind_eq_invalidConfig_iff.mp hkind)
  · intro request answer fault hanswer hkind
    exact BoltFault.not_isOfAddress_of_ofAnswer hanswer
      (BoltFault.kind_eq_invalidConfig_iff.mp hkind)

end GraphConnection

end Preflight
