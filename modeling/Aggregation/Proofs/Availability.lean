/-
**What is observed of a backend.**

A local backend is available. An external one is available exactly if it is reached: its service has
an address that can be a base, and the probe of the path below it is answered in time with success.
Whatever else comes of a probe gives a reason (`probeUrl_cases`, `check_external`), and there is a
message for what is not available and for nothing else (`judges_check`).
-/

import Aggregation.Availability
import Aggregation.Proofs.Http.Decision

namespace Aggregation.Prober

variable (prober : Prober)

/-- The answer to a probe, if one comes in time. -/
def answer? (url : Url) : Option Http.Response :=
  if prober.timeoutSecs = 0 then none
  else (Http.send prober.network "GET" url headers none).result.toOption

/-- A service has an address that can be a base, and the probe of a path below it is answered in
time with success. -/
def Reaches (service path : String) : Prop :=
  ∃ base url response, prober.names.resolve service = .ok base ∧ base.canBeBase = true ∧
    base.below path = .ok url ∧ prober.answer? url = some response ∧
    Http.isSuccess response.status = true

/-- What a prober makes of a backend. -/
structure Judges (descriptor : Descriptor) (condition : Condition) : Prop where
  /-- A local backend is available. -/
  served : descriptor.service = none → condition.available = true
  /-- An external backend is available if it is reached. -/
  external : ∀ service, descriptor.service = some service →
    (condition.available = true ↔ prober.Reaches service descriptor.identity.path)
  /-- There is a message exactly for what is not available. -/
  explained : condition.message = none ↔ condition.available = true

/-- **What a probe can come to.** It is answered in time with success, or there is a reason why not.
-/
theorem probeUrl_cases (url : Url) :
    (∃ response, prober.answer? url = some response ∧ Http.isSuccess response.status = true ∧
        prober.probeUrl url = .ready) ∨
      ((∀ response, prober.answer? url = some response →
          Http.isSuccess response.status = false) ∧
        ∃ reason, prober.probeUrl url = .unready reason) := by
  unfold answer? probeUrl
  by_cases hurried : prober.timeoutSecs = 0
  · -- Whatever comes back is late.
    refine .inr ⟨fun response answered => by simp [hurried] at answered, ?_⟩
    split
    · exact ⟨_, rfl⟩
    · exact ⟨_, if_pos hurried⟩
    · exact ⟨_, rfl⟩
    · exact ⟨_, if_pos hurried⟩
  rw [if_neg hurried]
  cases (Http.send prober.network "GET" url headers none).result with
  | error error =>
    refine .inr ⟨nofun, ?_⟩
    cases error with
    | notSendable sent => exact ⟨_, rfl⟩
    | failed sent | tooManyRedirects sent | notFollowable sent => exact ⟨_, if_neg hurried⟩
    | timeout => exact ⟨_, rfl⟩
  | ok response =>
    have shown : (if prober.timeoutSecs = 0 then Condition.unready (prober.lateText url)
        else ofAnswer url response) = ofAnswer url response := if_neg hurried
    cases success : Http.isSuccess response.status with
    | true => exact .inl ⟨response, rfl, success, shown.trans (if_pos success)⟩
    | false =>
      refine .inr ⟨?_, _, shown.trans (if_neg (Bool.eq_false_iff.mp success))⟩
      rintro other answered
      cases answered
      exact success

/-- **What the check of an external backend can come to.** It is reached, or there is a reason why
not. -/
theorem check_external {descriptor : Descriptor} {service : String}
    (external : descriptor.service = some service) :
    (prober.Reaches service descriptor.identity.path ∧ prober.check descriptor = .ready) ∨
      (¬prober.Reaches service descriptor.identity.path ∧
        ∃ reason, prober.check descriptor = .unready reason) := by
  unfold Reaches check
  simp only [external]
  cases prober.names.resolve service with
  | error error => exact .inr ⟨by simp, _, rfl⟩
  | ok base =>
    cases rooted : base.canBeBase with
    | false =>
      refine .inr ⟨by simp [rooted], ?_⟩
      cases below : base.below descriptor.identity.path with
      | error error =>
        simp only [below]
        exact ⟨_, rfl⟩
      | ok url => exact absurd below (Url.not_below rooted _ url)
    | true =>
      obtain ⟨url, below⟩ := Url.exists_below rooted descriptor.identity.path
      simp only [below]
      rcases prober.probeUrl_cases url with ⟨response, answered, success, ready⟩ | ⟨failed, unready⟩
      · exact .inl ⟨⟨base, url, response, rfl, rooted, below, answered, success⟩, ready⟩
      · refine .inr ⟨?_, unready⟩
        rintro ⟨other, target, response, same, -, targeted, answered, success⟩
        cases same
        cases below.symm.trans targeted
        rw [failed response answered] at success
        cases success

theorem judges_check (descriptor : Descriptor) :
    prober.Judges descriptor (prober.check descriptor) := by
  have explained {condition : Condition}
      (decided : condition = .ready ∨ ∃ reason, condition = .unready reason) :
      condition.message = none ↔ condition.available = true := by
    rcases decided with rfl | ⟨reason, rfl⟩
    · exact iff_of_true rfl rfl
    · exact iff_of_false (Option.some_ne_none reason) Bool.false_ne_true
  cases kind : descriptor.service with
  | none =>
    have ready : prober.check descriptor = .ready := by rw [check, kind]
    refine ⟨fun _ => by rw [ready]; rfl, fun service external => ?_, explained (.inl ready)⟩
    rw [kind] at external
    cases external
  | some service =>
    refine ⟨fun served => ?_, fun other external => ?_, ?_⟩
    · rw [kind] at served
      cases served
    · obtain rfl : service = other := Option.some.inj (kind.symm.trans external)
      rcases prober.check_external kind with ⟨reached, ready⟩ | ⟨unreached, reason, unready⟩
      · rw [ready]
        exact iff_of_true rfl reached
      · rw [unready]
        exact iff_of_false Bool.false_ne_true unreached
    · rcases prober.check_external kind with ⟨-, ready⟩ | ⟨-, unready⟩
      · exact explained (.inl ready)
      · exact explained (.inr unready)

end Aggregation.Prober
