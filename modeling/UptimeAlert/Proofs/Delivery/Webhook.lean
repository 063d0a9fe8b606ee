import UptimeAlert.Proofs.Delivery.Agreement
import UptimeAlert.Proofs.Delivery.Notification
import UptimeAlert.Proofs.Json.Limit
import UptimeAlert.Webhook.Channel

namespace UptimeAlert.Webhook

def Response.Accepts (r : Response) : Prop :=
  200 ≤ r.status ∧ r.status ≤ 299

theorem Response.isSuccess_iff {r : Response} : r.isSuccess = true ↔ r.Accepts := by
  rw [isSuccess, Bool.and_eq_true, decide_eq_true_eq, decide_eq_true_eq, Accepts]
  omega

theorem exists_failureText {v : Value} (h : v.isWritable = true) (reason : String) :
    ∃ text, failureText? reason v = some text := by
  have hshown : ∃ shown, shownPayload? v = some shown := by
    unfold shownPayload?
    split
    · split
      · exact ⟨_, rfl⟩
      · exact ⟨_, if_pos h⟩
    · exact ⟨_, rfl⟩
  obtain ⟨shown, hshown⟩ := hshown
  exact ⟨_, by rw [failureText?, hshown, Option.map_some]⟩

variable [Platform] {w : Webhook} {n : Notification}

def IsConfigured (w : Webhook) : Prop :=
  w.url ≠ ""

def UsesTemplate (w : Webhook) : Prop :=
  (Template.given? w.bodyTemplate).isSome = true

/-- What stands in the way of a payload: the heartbeat has no verdict, or else a template is not
rendered for a fault. -/
inductive Obstacle (w : Webhook) (n : Notification) : RenderError → Prop where
  | status {h : Heartbeat} (hh : n.heartbeat = some h) (hs : ¬ h.status.IsVerdict) :
    Obstacle w n (Status.refusal h.status)
  | template {f : RenderFault} (hn : n.HasVerdict) (ht : w.UsesTemplate)
    (hf : n.fault? = some f) : Obstacle w n (.fault f)

theorem message_eq_error_iff (hn : n.HasVerdict) {e : RenderError} :
    w.message n = .error e ↔ w.UsesTemplate ∧ ∃ f, n.fault? = some f ∧ .fault f = e := by
  have hmessage : w.message n = (Template.given? w.bodyTemplate).elim (.ok n.msg) fun t =>
      w.renderer.render t n.monitor n.heartbeat := by
    unfold message
    cases Template.given? w.bodyTemplate <;> rfl
  rw [hmessage, Notification.rendered_eq_error_iff hn, UsesTemplate]
  simp

theorem payload_of_hasVerdict (hn : n.HasVerdict) :
    w.payload n = (w.message n).map fun msg =>
      .record [("heartbeat", partValue Heartbeat.toFields n.heartbeat),
        ("monitor", partValue Monitor.toFields n.monitor), ("msg", .text msg)] := by
  rw [payload, Notification.checkStatus_of_hasVerdict hn]
  cases w.message n <;> rfl

def IsPlain (w : Webhook) : Prop :=
  Template.given? w.bodyTemplate = none

theorem payload_of_isPlain (h : w.IsPlain) (hn : n.HasVerdict) :
    w.payload n = .ok (.record [("heartbeat", partValue Heartbeat.toFields n.heartbeat),
      ("monitor", partValue Monitor.toFields n.monitor), ("msg", .text n.msg)]) := by
  have hmessage : w.message n = .ok n.msg := by rw [message, h]
  rw [payload_of_hasVerdict hn, hmessage]
  rfl

theorem payload_of_obstacle {e : RenderError} (h : w.Obstacle n e) : w.payload n = .error e := by
  cases h with
  | status hh hs =>
    rw [payload, Notification.checkStatus_of_not_isVerdict hh hs]
    rfl
  | template hn ht hf =>
    rw [payload_of_hasVerdict hn, (message_eq_error_iff hn).mpr ⟨ht, _, hf, rfl⟩]
    rfl

/-- Nothing but the listed obstacles stops a payload. -/
theorem exists_obstacle {e : RenderError} (h : w.payload n = .error e) : w.Obstacle n e := by
  by_cases hn : n.HasVerdict
  · rw [payload_of_hasVerdict hn] at h
    cases hmessage : w.message n with
    | error e' =>
      obtain ⟨ht, f, hf, rfl⟩ := (message_eq_error_iff hn).mp hmessage
      rw [hmessage] at h
      exact Except.error.inj h ▸ .template hn ht hf
    | ok msg =>
      rw [hmessage] at h
      cases h
  · obtain ⟨hb, hh, hs⟩ := Notification.exists_of_not_hasVerdict hn
    have hstatus := Obstacle.status (w := w) hh hs
    rw [payload_of_obstacle hstatus] at h
    exact Except.error.inj h ▸ hstatus

/-- A payload is made exactly where no obstacle stands in its way. -/
theorem payload_eq_error_iff {e : RenderError} : w.payload n = .error e ↔ w.Obstacle n e :=
  ⟨exists_obstacle, payload_of_obstacle⟩

variable {transport : Call → Answer}

theorem send_of_not_isConfigured (h : ¬ w.IsConfigured) :
    w.send transport n =
      ⟨.ok (.failure channelName .configuration "Webhook URL is required"), [], []⟩ := by
  rw [send, if_pos (String.isEmpty_iff.mpr (not_not.mp h))]

variable (transport) in
theorem send_of_invalidStatus (h : w.IsConfigured) {v : Value}
    (he : w.payload n = .error (.invalidStatus v)) :
    (w.send transport n).calls = [] ∧
      (w.send transport n).outcome =
        .ok (.failure channelName .invalidInput (RenderError.invalidStatus v).message) := by
  rw [send, if_neg fun hempty => h (String.isEmpty_iff.mp hempty), he]
  exact ⟨rfl, rfl⟩

variable (transport) in
theorem send_of_fault (h : w.IsConfigured) {f : RenderFault}
    (he : w.payload n = .error (.fault f)) :
    (w.send transport n).calls = [] ∧ (w.send transport n).outcome = .error (.render f) := by
  rw [send, if_neg fun hempty => h (String.isEmpty_iff.mp hempty), he]
  exact ⟨rfl, rfl⟩

/-- The request that posts a payload. -/
def callOf (w : Webhook) (json : Value) : Call :=
  ⟨w.url, w.timeout, json⟩

variable (transport) in
/-- A payload is posted once, and the answer is the outcome. -/
theorem send_of_payload (h : w.IsConfigured) {json : Value} (hp : w.payload n = .ok json) :
    (w.send transport n).calls = [w.callOf json] ∧
      (w.send transport n).outcome = (conclude (transport (w.callOf json))).1 := by
  rw [send, if_neg fun hempty => h (String.isEmpty_iff.mp hempty), hp]
  exact ⟨rfl, rfl⟩

theorem exists_payload_of_mem_calls {c : Call} (hc : c ∈ (w.send transport n).calls) :
    w.IsConfigured ∧ ∃ json, w.payload n = .ok json ∧ c = w.callOf json := by
  by_cases h : w.IsConfigured
  · cases hp : w.payload n with
    | error e =>
      cases e with
      | invalidStatus v =>
        rw [(send_of_invalidStatus transport h hp).1] at hc
        cases hc
      | fault f =>
        rw [(send_of_fault transport h hp).1] at hc
        cases hc
    | ok json =>
      rw [(send_of_payload transport h hp).1] at hc
      exact ⟨h, json, rfl, List.mem_singleton.mp hc⟩
  · rw [send_of_not_isConfigured h] at hc
    cases hc

/-- Where there is a call, its answer is the outcome. -/
theorem outcome_of_mem_calls {c : Call} (hc : c ∈ (w.send transport n).calls) :
    (w.send transport n).outcome = (conclude (transport c)).1 := by
  obtain ⟨h, json, hp, rfl⟩ := exists_payload_of_mem_calls hc
  exact (send_of_payload transport h hp).2

/-- A value of a response was read within the room that bodies have. -/
theorem Response.exists_read {r : Response} {v : Value} (h : r.json? = .ok (some v)) :
    ∃ cs, Json.read Platform.nesting cs = .ok v := by
  rw [json?] at h
  dsimp only at h
  split at h
  · rename_i hread
    obtain rfl := Option.some.inj (Except.ok.inj h)
    obtain ⟨cs, -, hcs⟩ := Option.map_eq_some_iff.mp hread
    exact ⟨cs, hcs⟩
  · cases h
  · cases h

/-- The payload of a response can be written again. -/
theorem Response.isWritable_of_payload {r : Response} {v : Value} (h : r.payload = .ok v) :
    v.isWritable = true := by
  obtain ⟨found, hjson, rfl⟩ := map_eq_ok_iff.mp h
  cases found with
  | none => rfl
  | some v =>
    obtain ⟨cs, hread⟩ := exists_read hjson
    exact (Json.limited_of_read hread).isWritable

/-- A response that is refused with a payload is a failure that holds the payload. -/
theorem exists_refused {r : Response} {v : Value} (h : r.payload = .ok v) :
    ∃ text, failureText? (refusalReason r) v = some text ∧
      refused r v = .ok ⟨channelName, .error ⟨.transport, text, v⟩⟩ := by
  obtain ⟨text, htext⟩ := exists_failureText (Response.isWritable_of_payload h) (refusalReason r)
  exact ⟨text, htext, by rw [refused, htext]⟩

theorem conclude_of_accepts {r : Response} (h : r.Accepts) :
    (conclude (.response r)).1 = .ok (.success channelName) := by
  rw [conclude, ofResponse, if_pos (Response.isSuccess_iff.mpr h)]

theorem conclude_of_payload {r : Response} (h : ¬ r.Accepts) {v : Value} (hp : r.payload = .ok v) :
    (conclude (.response r)).1 = refused r v := by
  rw [conclude, ofResponse, if_neg fun hsuccess => h (Response.isSuccess_iff.mp hsuccess), hp]

theorem conclude_of_nesting {r : Response} (h : ¬ r.Accepts) {shape : Composite}
    (hp : r.payload = .error shape) : (conclude (.response r)).1 = .error (.nesting shape) := by
  rw [conclude, ofResponse, if_neg fun hsuccess => h (Response.isSuccess_iff.mp hsuccess), hp]

def reception : Reception Answer where
  Accepts a := ∃ r, a = .response r ∧ r.Accepts
  Fails a := (∃ f, a = .failure f ∧ (f.cause = .webTimeout ∨ f.cause = .webRequest)) ∨
    ∃ r, a = .response r ∧ ¬ r.Accepts
  Refuses _ := False
  Answers a v := ∃ r, a = .response r ∧ ¬ r.Accepts ∧ r.payload = .ok v
  not_fails := by
    rintro _ ⟨r, rfl, haccepts⟩ (⟨f, hf, -⟩ | ⟨r', hr', hrejects⟩)
    · cases hf
    · cases hr'
      exact hrejects haccepts
  not_refuses _ _ h := h
  not_fails_of_refuses _ h := h.elim

def Composes (w : Webhook) (n : Notification) : Prop :=
  ∃ json, w.payload n = .ok json

theorem not_composes {e : RenderError} (he : w.payload n = .error e) : ¬ w.Composes n := by
  rintro ⟨json, hjson⟩
  rw [he] at hjson
  cases hjson

/-- After the call, the response or the failure decides the result and nothing else does. -/
theorem conclude_course {json : Value} (h : w.IsConfigured) {result : DeliveryResult}
    (ho : (conclude (transport (w.callOf json))).1 = .ok result) :
    Delivery.Course channelName reception transport w.IsConfigured (w.Composes n) [w.callOf json]
      result := by
  cases ha : transport (w.callOf json) with
  | response r =>
    rw [ha] at ho
    by_cases haccepts : r.Accepts
    · rw [conclude_of_accepts haccepts] at ho
      cases ho
      exact .accepted _ h ⟨r, ha, haccepts⟩
    · cases hp : r.payload with
      | error shape =>
        rw [conclude_of_nesting haccepts hp] at ho
        cases ho
      | ok v =>
        obtain ⟨text, -, hrefused⟩ := exists_refused hp
        rw [conclude_of_payload haccepts hp, hrefused] at ho
        cases ho
        exact .failed _ _ _ h (.inr ⟨r, ha, haccepts⟩) fun _ => ⟨r, ha, haccepts, hp⟩
  | failure f =>
    rw [ha, conclude] at ho
    cases hcause : f.cause with
    | webTimeout =>
      rw [hcause] at ho
      cases ho
      exact .failed _ _ _ h (.inl ⟨f, ha, .inl hcause⟩) fun hne => absurd rfl hne
    | webRequest =>
      rw [hcause] at ho
      cases ho
      exact .failed _ _ _ h (.inl ⟨f, ha, .inr hcause⟩) fun hne => absurd rfl hne
    | _ =>
      rw [hcause] at ho
      cases ho

/-- A delivery to a webhook that has a result takes one of the five courses. -/
theorem send_course {result : DeliveryResult} (ho : (w.send transport n).outcome = .ok result) :
    Delivery.Course channelName reception transport w.IsConfigured (w.Composes n)
      (w.send transport n).calls result := by
  by_cases h : w.IsConfigured
  · cases hp : w.payload n with
    | error e =>
      cases e with
      | invalidStatus v =>
        obtain ⟨hcalls, houtcome⟩ := send_of_invalidStatus transport h hp
        rw [houtcome] at ho
        cases ho
        rw [hcalls]
        exact .unbuilt _ h (not_composes hp)
      | fault f =>
        rw [(send_of_fault transport h hp).2] at ho
        cases ho
    | ok json =>
      obtain ⟨hcalls, houtcome⟩ := send_of_payload transport h hp
      rw [hcalls]
      exact conclude_course h (houtcome ▸ ho)
  · rw [send_of_not_isConfigured h] at ho ⊢
    cases ho
    exact .unconfigured _ h

/-- A fault that leaves a delivery to a webhook without a result: a payload is not made for a fault,
the transport fails in a way that is none of its own, or the body of a refusal lies too deep. -/
inductive Escapes (w : Webhook) (transport : Call → Answer) (n : Notification) : Escape → Prop where
  | render {f : RenderFault} (h : w.IsConfigured) (hf : w.Obstacle n (.fault f)) :
    Escapes w transport n (.render f)
  | transport {json : Value} {f : TransportFailure} (h : w.IsConfigured)
    (hp : w.payload n = .ok json) (ha : transport (w.callOf json) = .failure f)
    (hcause : f.cause ∉ [.webTimeout, .webRequest]) : Escapes w transport n (.transport f)
  | nesting {json : Value} {r : Response} {shape : Composite} (h : w.IsConfigured)
    (hp : w.payload n = .ok json) (ha : transport (w.callOf json) = .response r)
    (hr : ¬ r.Accepts) (hdeep : r.payload = .error shape) : Escapes w transport n (.nesting shape)

theorem conclude_failure_eq_error_iff {f : TransportFailure} {escape : Escape} :
    (conclude (.failure f)).1 = .error escape ↔
      f.cause ∉ [.webTimeout, .webRequest] ∧ .transport f = escape := by
  cases hcause : f.cause <;> simp [conclude, hcause]

/-- A response escapes only by a refusal whose body lies too deep to be read. -/
theorem conclude_response_eq_error_iff {r : Response} {escape : Escape} :
    (conclude (.response r)).1 = .error escape ↔
      ¬ r.Accepts ∧ ∃ shape, r.payload = .error shape ∧ .nesting shape = escape := by
  by_cases haccepts : r.Accepts
  · simp [conclude_of_accepts haccepts, haccepts]
  · cases hp : r.payload with
    | error shape => simp [conclude_of_nesting haccepts hp, haccepts]
    | ok v =>
      obtain ⟨text, -, hrefused⟩ := exists_refused hp
      simp [conclude_of_payload haccepts hp, hrefused]

/-- Each listed way out of a delivery is taken. -/
theorem outcome_of_escapes {escape : Escape} (h : w.Escapes transport n escape) :
    (w.send transport n).outcome = .error escape := by
  cases h with
  | render h hf => exact (send_of_fault transport h (payload_of_obstacle hf)).2
  | transport h hp ha hcause =>
    rw [(send_of_payload transport h hp).2, ha]
    exact conclude_failure_eq_error_iff.mpr ⟨hcause, rfl⟩
  | nesting h hp ha hr hdeep =>
    rw [(send_of_payload transport h hp).2, ha]
    exact conclude_of_nesting hr hdeep

/-- There is no other way out of a delivery than those listed. -/
theorem escapes_of_outcome {escape : Escape} (ho : (w.send transport n).outcome = .error escape) :
    w.Escapes transport n escape := by
  by_cases h : w.IsConfigured
  · cases hp : w.payload n with
    | error e =>
      cases e with
      | invalidStatus v =>
        rw [(send_of_invalidStatus transport h hp).2] at ho
        cases ho
      | fault f =>
        rw [(send_of_fault transport h hp).2] at ho
        exact Except.error.inj ho ▸ .render h (payload_eq_error_iff.mp hp)
    | ok json =>
      rw [(send_of_payload transport h hp).2] at ho
      cases ha : transport (w.callOf json) with
      | response r =>
        rw [ha] at ho
        obtain ⟨hr, shape, hdeep, rfl⟩ := conclude_response_eq_error_iff.mp ho
        exact .nesting h hp ha hr hdeep
      | failure f =>
        rw [ha] at ho
        obtain ⟨hcause, rfl⟩ := conclude_failure_eq_error_iff.mp ho
        exact .transport h hp ha hcause
  · rw [send_of_not_isConfigured h] at ho
    cases ho

/-- The faults that leave a delivery to a webhook without a result are exactly these. -/
theorem outcome_eq_error_iff {escape : Escape} :
    (w.send transport n).outcome = .error escape ↔ w.Escapes transport n escape :=
  ⟨escapes_of_outcome, outcome_of_escapes⟩

/-- A request counts as delivered exactly when a response of success came back. -/
theorem accepted_iff :
    (∃ result, (w.send transport n).outcome = .ok result ∧ result.error? = none) ↔
      ∃ c, (w.send transport n).calls = [c] ∧ ∃ r, transport c = .response r ∧ r.Accepts := by
  constructor
  · rintro ⟨result, ho, he⟩
    exact (send_course ho).agrees.ok_iff.mp he
  · rintro ⟨c, hcalls, r, ha, haccepts⟩
    have ho := outcome_of_mem_calls (hcalls ▸ List.mem_singleton_self c)
    rw [ha, conclude_of_accepts haccepts] at ho
    exact ⟨_, ho, rfl⟩

/-- An interruption of the call is handed on as what it is. -/
theorem interrupted_iff :
    (∃ f, (w.send transport n).outcome = .error (.transport f) ∧ f.cause = .interruption) ↔
      ∃ c, (w.send transport n).calls = [c] ∧
        ∃ f, transport c = .failure f ∧ f.cause = .interruption := by
  constructor
  · rintro ⟨f, ho, hcause⟩
    cases escapes_of_outcome ho with
    | transport h hp ha hnot => exact ⟨_, (send_of_payload transport h hp).1, f, ha, hcause⟩
  · rintro ⟨c, hcalls, f, ha, hcause⟩
    refine ⟨f, ?_, hcause⟩
    rw [outcome_of_mem_calls (hcalls ▸ List.mem_singleton_self c), ha]
    exact conclude_failure_eq_error_iff.mpr ⟨by simp [hcause], rfl⟩

end UptimeAlert.Webhook
