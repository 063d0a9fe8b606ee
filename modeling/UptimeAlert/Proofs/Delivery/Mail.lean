import UptimeAlert.Mail.Channel
import UptimeAlert.Proofs.Delivery.Agreement
import UptimeAlert.Proofs.Delivery.Notification
import UptimeAlert.Proofs.Steps
import UptimeAlert.Proofs.Text.Lines

namespace UptimeAlert.Mailer

open UptimeAlert.Mail

variable {m : Mailer} {n : Notification}

def IsConfigured (m : Mailer) : Prop :=
  m.host ≠ "" ∧ m.recipients ≠ ""

theorem lacks_eq_true_iff : (m.host.isEmpty || m.recipients.isEmpty) = true ↔ ¬ m.IsConfigured := by
  rw [Bool.or_eq_true, String.isEmpty_iff, String.isEmpty_iff, IsConfigured, not_and_or, not_not,
    not_not]

theorem plainBody_of_heartbeat {h : Heartbeat} (hh : n.heartbeat = some h) :
    m.plainBody n = h.time.ifWritable (n.msg ++ "\nTime (UTC): " ++ String.ofList
      (Template.stringify m.renderer.missing.toList (Heartbeat.shownTime h.time))) := by
  simp only [plainBody, hh, Heartbeat.shownTime?]
  by_cases htime : h.time.isWritable = true
  · rw [Value.ifWritable_of_isWritable htime, Value.ifWritable_of_isWritable htime]
    simp only [bind, Except.bind, Template.stringify?,
      Value.ifWritable_of_isWritable (Heartbeat.isWritable_shownTime h.time)]
    rfl
  · rw [Value.ifWritable_of_not htime, Value.ifWritable_of_not htime]
    rfl

theorem exists_plainBody (htime : ∀ h ∈ n.heartbeat, h.time.isWritable = true) :
    ∃ body, m.plainBody n = .ok body ∧ (n.heartbeat = none → body = n.msg) ∧
      ∀ h, n.heartbeat = some h → body = n.msg ++ "\nTime (UTC): " ++ String.ofList
        (Template.stringify m.renderer.missing.toList (Heartbeat.shownTime h.time)) := by
  cases hh : n.heartbeat with
  | none => exact ⟨n.msg, by rw [plainBody, hh], fun _ => rfl, nofun⟩
  | some h =>
    have hbody := plainBody_of_heartbeat (m := m) hh
    rw [Value.ifWritable_of_isWritable (htime h hh)] at hbody
    refine ⟨_, hbody, nofun, ?_⟩
    rintro _ ⟨⟩
    rfl

/-- The plain body fails only at a time whose text is too long to write. -/
theorem plainBody_eq_error_iff {e : RenderError} :
    m.plainBody n = .error e ↔
      ∃ h, n.heartbeat = some h ∧ ∃ f, h.timeFault? = some f ∧ .fault f = e := by
  cases hh : n.heartbeat with
  | none => simp [plainBody, hh]
  | some h =>
    rw [plainBody_of_heartbeat hh, Value.ifWritable_eq_error_iff]
    constructor
    · rintro ⟨htime, rfl⟩
      exact ⟨h, rfl, _, Heartbeat.timeFault?_eq_some_iff.mpr ⟨htime, rfl⟩, rfl⟩
    · rintro ⟨h', ⟨⟩, f, hf, rfl⟩
      obtain ⟨htime, rfl⟩ := Heartbeat.timeFault?_eq_some_iff.mp hf
      exact ⟨htime, rfl⟩

theorem escape?_header_eq_some_iff {e : HeaderError} {escape : Escape} :
    (ComposeError.header e).escape? = some escape ↔
      ∃ fault, e = .address fault ∧ fault ≠ .lineBreak ∧ .address fault = escape := by
  cases e with
  | severalLines => simp [ComposeError.escape?]
  | address fault => cases fault <;> simp [ComposeError.escape?]

theorem escape?_render_eq_some_iff {e : RenderError} {escape : Escape} :
    (ComposeError.render e).escape? = some escape ↔
      ∃ shape, e = .fault (.compositeType shape) ∧ .render (.compositeType shape) = escape := by
  cases e with
  | invalidStatus v => simp [ComposeError.escape?]
  | fault f => cases f <;> simp [ComposeError.escape?]

theorem conclude_eq_error_iff {answer : Answer} {escape : Escape} :
    (m.conclude answer).1 = .error escape ↔
      ∃ f, answer = .failure f ∧ f.cause ∉ [.mailProtocol, .system, .invalidValue] ∧
        .transport f = escape := by
  cases answer with
  | accepted => simp [conclude]
  | failure f => cases hcause : f.cause <;> simp [conclude, hcause]

variable [Platform]

def UsesTemplate (m : Mailer) (n : Notification) : Prop :=
  (m.subjectTemplate? n).isSome = true ∨ (Template.given? m.customBody).isSome = true

/-- What stands in the way of a mail: the heartbeat has no verdict, or else an address is refused,
or else a template is not rendered for a fault, or the time that a body without a template tells
cannot be written. -/
inductive Obstacle (m : Mailer) (n : Notification) : ComposeError → Prop where
  | status {h : Heartbeat} (hh : n.heartbeat = some h) (hs : ¬ h.status.IsVerdict) :
    Obstacle m n (.render (Status.refusal h.status))
  | header {e : HeaderError} (hn : n.HasVerdict) (he : m.addressHeaders = .error e) :
    Obstacle m n (.header e)
  | template {f : RenderFault} {addresses : List (Header × String)} (hn : n.HasVerdict)
    (ha : m.addressHeaders = .ok addresses) (ht : m.UsesTemplate n) (hf : n.fault? = some f) :
    Obstacle m n (.render (.fault f))
  | time {f : RenderFault} {h : Heartbeat} {addresses : List (Header × String)}
    (hn : n.HasVerdict) (ha : m.addressHeaders = .ok addresses)
    (hbody : Template.given? m.customBody = none) (hh : n.heartbeat = some h)
    (hf : h.timeFault? = some f) : Obstacle m n (.render (.fault f))

/-- With a verdict, a subject fails only where a template is rendered with a value that cannot be
written. -/
theorem subject_eq_error_iff (hn : n.HasVerdict) {e : RenderError} :
    m.subject n = .error e ↔
      (m.subjectTemplate? n).isSome = true ∧ ∃ f, n.fault? = some f ∧ .fault f = e := by
  have hsource : m.subjectSource n =
      (m.subjectTemplate? n).elim (.ok n.msg) fun t =>
        m.renderer.render t n.monitor n.heartbeat := by
    unfold subjectSource
    cases m.subjectTemplate? n <;> rfl
  have hiff : m.subjectSource n = .error e ↔
      (m.subjectTemplate? n).isSome = true ∧ ∃ f, n.fault? = some f ∧ .fault f = e := by
    rw [hsource, n.rendered_eq_error_iff hn]
    simp
  rw [← hiff, subject]
  cases m.subjectSource n <;> simp [Except.map]

/-- A plain body fails at the time alone, a custom one at any value of the notification. -/
theorem body_eq_error_iff (hn : n.HasVerdict) {e : RenderError} :
    m.body n = .error e ↔
      Template.given? m.customBody = none ∧
          (∃ h, n.heartbeat = some h ∧ ∃ f, h.timeFault? = some f ∧ .fault f = e) ∨
        (Template.given? m.customBody).isSome = true ∧ ∃ f, n.fault? = some f ∧ .fault f = e := by
  have hbody : m.body n = (Template.given? m.customBody).elim (m.plainBody n) fun t =>
      m.renderer.render t n.monitor n.heartbeat := by
    unfold body
    cases Template.given? m.customBody <;> rfl
  rw [hbody, Notification.rendered_eq_error_iff hn, plainBody_eq_error_iff]

theorem prepared_of_hasVerdict (hn : n.HasVerdict) :
    m.prepared n = m.addressHeaders.mapError .header := by
  rw [prepared, Notification.checkStatus_of_hasVerdict hn]

/-- No subject has several lines. -/
theorem setSubject_of_subject {subject : String} (h : m.subject n = .ok subject) :
    setSubject subject = .ok (subjectHeader subject) := by
  rw [Mailer.subject] at h
  cases hsource : m.subjectSource n with
  | error e =>
    rw [hsource] at h
    cases h
  | ok source =>
    rw [hsource] at h
    obtain rfl : String.ofList (Text.flatten source.toList) = subject := Except.ok.inj h
    have hlines := Text.length_splitLines_le_one (Text.not_mem_flatten source.toList)
    rw [setSubject, String.toList_ofList, if_neg (Nat.not_lt_of_le hlines)]

/-- Once the addresses are read, subject and body decide what is sent. -/
theorem message_of_addresses (hn : n.HasVerdict) {addresses : List (Header × String)}
    (ha : m.addressHeaders = .ok addresses) :
    m.message n = (do
      let subject ← (m.subject n).mapError .render
      let body ← (m.body n).mapError .render
      return ⟨addresses ++ [subjectHeader subject], contentOf body⟩) := by
  rw [message, prepared_of_hasVerdict hn, ha]
  cases hsubject : m.subject n with
  | error e => rfl
  | ok subject =>
    have hset := setSubject_of_subject hsubject
    simp only [mapError_ok, bind, Except.bind, hset]

def IsPlain (m : Mailer) : Prop :=
  Template.given? m.customSubject = none ∧ Template.given? m.customBody = none

theorem subject_of_isPlain (h : m.IsPlain) :
    m.subject n = .ok (String.ofList (Text.flatten n.msg.toList)) := by
  have htemplate : m.subjectTemplate? n = none := by
    rw [subjectTemplate?, h.1, ite_self]
  rw [subject, subjectSource, htemplate]
  rfl

theorem body_of_isPlain (h : m.IsPlain) : m.body n = m.plainBody n := by
  rw [body, h.2]

theorem message_of_isPlain (h : m.IsPlain) (hn : n.HasVerdict)
    {addresses : List (Header × String)} (ha : m.addressHeaders = .ok addresses) {body : String}
    (hbody : m.plainBody n = .ok body) :
    m.message n = .ok
      ⟨addresses ++ [subjectHeader (String.ofList (Text.flatten n.msg.toList))],
        contentOf body⟩ := by
  rw [message_of_addresses hn ha, subject_of_isPlain h, body_of_isPlain h, hbody]
  rfl

theorem message_of_subject_error (hn : n.HasVerdict) {addresses : List (Header × String)}
    (ha : m.addressHeaders = .ok addresses) {e : RenderError} (h : m.subject n = .error e) :
    m.message n = .error (.render e) := by
  rw [message_of_addresses hn ha, h]
  rfl

theorem message_of_body_error (hn : n.HasVerdict) {addresses : List (Header × String)}
    (ha : m.addressHeaders = .ok addresses) {e : RenderError} (h : m.body n = .error e)
    (hsubject : ∀ e', m.subject n = .error e' → e' = e) : m.message n = .error (.render e) := by
  cases hs : m.subject n with
  | error e' => exact hsubject e' hs ▸ message_of_subject_error hn ha hs
  | ok subject =>
    rw [message_of_addresses hn ha, hs, h]
    rfl

/-- Every obstacle stops the message, with the error that it stands for. -/
theorem message_of_obstacle {e : ComposeError} (h : m.Obstacle n e) : m.message n = .error e := by
  cases h with
  | status hh hs =>
    rw [message, prepared, Notification.checkStatus_of_not_isVerdict hh hs]
    rfl
  | header hn he =>
    rw [message, prepared_of_hasVerdict hn, he]
    rfl
  | template hn ha ht hf =>
    rcases ht with ht | ht
    · exact message_of_subject_error hn ha ((subject_eq_error_iff hn).mpr ⟨ht, _, hf, rfl⟩)
    · have hbody := (body_eq_error_iff hn).mpr (.inr ⟨ht, _, hf, rfl⟩)
      refine message_of_body_error hn ha hbody fun e' he' => ?_
      obtain ⟨-, f', hf', rfl⟩ := (subject_eq_error_iff hn).mp he'
      rw [Option.some.inj (hf'.symm.trans hf)]
  | time hn ha hplain hh hf =>
    -- A template of the subject fails of the same time.
    have hbody := (body_eq_error_iff hn).mpr (.inl ⟨hplain, _, hh, _, hf, rfl⟩)
    refine message_of_body_error hn ha hbody fun e' he' => ?_
    obtain ⟨-, f', hf', rfl⟩ := (subject_eq_error_iff hn).mp he'
    rw [Option.some.inj (hf'.symm.trans (Notification.fault?_of_timeFault hh hf))]

/-- Nothing but the listed obstacles stops a message. -/
theorem exists_obstacle {e : ComposeError} (h : m.message n = .error e) : m.Obstacle n e := by
  by_cases hn : n.HasVerdict
  · cases ha : m.addressHeaders with
    | error fault =>
      have hheader := Obstacle.header hn ha
      rw [message_of_obstacle hheader] at h
      exact Except.error.inj h ▸ hheader
    | ok addresses =>
      rw [message_of_addresses hn ha] at h
      cases hsubject : m.subject n with
      | error e' =>
        obtain ⟨ht, f, hf, rfl⟩ := (subject_eq_error_iff hn).mp hsubject
        rw [hsubject] at h
        exact Except.error.inj h ▸ .template hn ha (.inl ht) hf
      | ok subject =>
        cases hbody : m.body n with
        | error e' =>
          rw [hsubject, hbody] at h
          obtain rfl : ComposeError.render e' = e := Except.error.inj h
          rcases (body_eq_error_iff hn).mp hbody with ⟨hnone, hb, hh, f, hf, rfl⟩ | ⟨ht, f, hf, rfl⟩
          · exact .time hn ha hnone hh hf
          · exact .template hn ha (.inr ht) hf
        | ok body =>
          rw [hsubject, hbody] at h
          cases h
  · obtain ⟨hb, hh, hs⟩ := Notification.exists_of_not_hasVerdict hn
    have hstatus := Obstacle.status (m := m) hh hs
    rw [message_of_obstacle hstatus] at h
    exact Except.error.inj h ▸ hstatus

/-- A mail is composed exactly where no obstacle stands in its way. -/
theorem message_eq_error_iff {e : ComposeError} : m.message n = .error e ↔ m.Obstacle n e :=
  ⟨exists_obstacle, message_of_obstacle⟩

variable {transport : Call → Answer}

theorem send_of_not_isConfigured (h : ¬ m.IsConfigured) :
    m.send transport n =
      ⟨.ok (.failure channelName .configuration "SMTP host and recipient are required"),
        [], []⟩ := by
  rw [send, if_pos (lacks_eq_true_iff.mpr h)]

variable (transport) in
/-- Without a mail nothing is called, and what stood in the way is the result or the fault. -/
theorem send_of_error (h : m.IsConfigured) {e : ComposeError} (he : m.message n = .error e) :
    (m.send transport n).calls = [] ∧
      (m.send transport n).outcome =
        e.escape?.elim (.ok (.failure channelName .invalidInput e.message)) .error := by
  rw [send, if_neg fun hlacks => lacks_eq_true_iff.mp hlacks h, he]
  cases hescape : e.escape? <;> simp only [hescape, Option.elim, and_self]

variable (transport) in
/-- A mail is handed over once, and the answer is the outcome. -/
theorem send_of_message (h : m.IsConfigured) {mail : Message} (hm : m.message n = .ok mail) :
    (m.send transport n).calls = [m.call mail] ∧
      (m.send transport n).outcome = (m.conclude (transport (m.call mail))).1 := by
  rw [send, if_neg fun hlacks => lacks_eq_true_iff.mp hlacks h, hm]
  exact ⟨rfl, rfl⟩

theorem exists_message_of_mem_calls {c : Call} (hc : c ∈ (m.send transport n).calls) :
    m.IsConfigured ∧ ∃ mail, m.message n = .ok mail ∧ c = m.call mail := by
  by_cases h : m.IsConfigured
  · cases hm : m.message n with
    | error e =>
      rw [(send_of_error transport h hm).1] at hc
      cases hc
    | ok mail =>
      rw [(send_of_message transport h hm).1] at hc
      exact ⟨h, mail, rfl, List.mem_singleton.mp hc⟩
  · rw [send_of_not_isConfigured h] at hc
    cases hc

/-- Where there is a call, its answer is the outcome. -/
theorem outcome_of_mem_calls {c : Call} (hc : c ∈ (m.send transport n).calls) :
    (m.send transport n).outcome = (m.conclude (transport c)).1 := by
  obtain ⟨h, mail, hm, rfl⟩ := exists_message_of_mem_calls hc
  exact (send_of_message transport h hm).2

def reception : Reception Answer where
  Accepts a := a = .accepted
  Fails a := ∃ f, a = .failure f ∧ (f.cause = .mailProtocol ∨ f.cause = .system)
  Refuses a := ∃ f, a = .failure f ∧ f.cause = .invalidValue
  Answers _ _ := False
  not_fails := by
    rintro _ rfl ⟨f, hf, -⟩
    cases hf
  not_refuses := by
    rintro _ rfl ⟨f, hf, -⟩
    cases hf
  not_fails_of_refuses := by
    rintro _ ⟨f, rfl, hcause⟩ ⟨f', hf', hcause'⟩
    cases hf'
    rw [hcause] at hcause'
    rcases hcause' with h | h <;> cases h

def Composes (m : Mailer) (n : Notification) : Prop :=
  ∃ mail, m.message n = .ok mail

theorem not_composes {e : ComposeError} (he : m.message n = .error e) : ¬ m.Composes n := by
  rintro ⟨mail, hmail⟩
  rw [he] at hmail
  cases hmail

/-- After the call, the answer of the transport decides the result and nothing else does. -/
theorem conclude_course {mail : Message} (h : m.IsConfigured) {result : DeliveryResult}
    (ho : (m.conclude (transport (m.call mail))).1 = .ok result) :
    Delivery.Course channelName reception transport m.IsConfigured (m.Composes n) [m.call mail]
      result := by
  cases ha : transport (m.call mail) with
  | accepted =>
    rw [ha] at ho
    cases ho
    exact .accepted _ h ha
  | failure f =>
    rw [ha, conclude] at ho
    cases hcause : f.cause with
    | mailProtocol =>
      rw [hcause] at ho
      cases ho
      exact .failed _ _ _ h ⟨f, ha, .inl hcause⟩ fun hne => absurd rfl hne
    | system =>
      rw [hcause] at ho
      cases ho
      exact .failed _ _ _ h ⟨f, ha, .inr hcause⟩ fun hne => absurd rfl hne
    | invalidValue =>
      rw [hcause] at ho
      cases ho
      exact .refused _ _ h ⟨f, ha, hcause⟩
    | _ =>
      rw [hcause] at ho
      cases ho

/-- A delivery of a mail that has a result takes one of the five courses. -/
theorem send_course {result : DeliveryResult} (ho : (m.send transport n).outcome = .ok result) :
    Delivery.Course channelName reception transport m.IsConfigured (m.Composes n)
      (m.send transport n).calls result := by
  by_cases h : m.IsConfigured
  · cases hm : m.message n with
    | error e =>
      obtain ⟨hcalls, houtcome⟩ := send_of_error transport h hm
      rw [houtcome] at ho
      rw [hcalls]
      cases hescape : e.escape? with
      | none =>
        rw [hescape] at ho
        cases ho
        exact .unbuilt _ h (not_composes hm)
      | some escape =>
        rw [hescape] at ho
        cases ho
    | ok mail =>
      obtain ⟨hcalls, houtcome⟩ := send_of_message transport h hm
      rw [hcalls]
      exact conclude_course h (houtcome ▸ ho)
  · rw [send_of_not_isConfigured h] at ho ⊢
    cases ho
    exact .unconfigured _ h

/-- A fault that leaves a delivery of a mail without a result: the type of the monitor cannot be
looked up for a template, a list of addresses breaks off other than at a line break, or the
transport fails in a way that is none of its own. -/
inductive Escapes (m : Mailer) (transport : Call → Answer) (n : Notification) : Escape → Prop where
  | type {shape : Composite} (h : m.IsConfigured)
    (he : m.Obstacle n (.render (.fault (.compositeType shape)))) :
    Escapes m transport n (.render (.compositeType shape))
  | address {fault : AddressFault} (h : m.IsConfigured) (hn : n.HasVerdict)
    (ha : m.addressHeaders = .error (.address fault)) (hfault : fault ≠ .lineBreak) :
    Escapes m transport n (.address fault)
  | transport {mail : Message} {f : TransportFailure} (h : m.IsConfigured)
    (hm : m.message n = .ok mail) (ha : transport (m.call mail) = .failure f)
    (hcause : f.cause ∉ [.mailProtocol, .system, .invalidValue]) :
    Escapes m transport n (.transport f)

theorem escapes_of_render {e : RenderError} {escape : Escape} (h : m.IsConfigured)
    (he : m.Obstacle n (.render e)) (hescape : (ComposeError.render e).escape? = some escape) :
    m.Escapes transport n escape := by
  obtain ⟨shape, rfl, rfl⟩ := escape?_render_eq_some_iff.mp hescape
  exact .type h he

theorem escapes_of_obstacle {e : ComposeError} {escape : Escape} (h : m.IsConfigured)
    (he : m.Obstacle n e) (hescape : e.escape? = some escape) : m.Escapes transport n escape := by
  cases he with
  | header hn ha =>
    obtain ⟨fault, rfl, hfault, rfl⟩ := escape?_header_eq_some_iff.mp hescape
    exact .address h hn ha hfault
  | status hh hs => exact escapes_of_render h (.status hh hs) hescape
  | template hn ha ht hf => exact escapes_of_render h (.template hn ha ht hf) hescape
  | time hn ha hbody hh hf => exact escapes_of_render h (.time hn ha hbody hh hf) hescape

/-- Each listed way out of a delivery is taken. -/
theorem outcome_of_escapes {escape : Escape} (h : m.Escapes transport n escape) :
    (m.send transport n).outcome = .error escape := by
  cases h with
  | type h he =>
    rw [(send_of_error transport h (message_of_obstacle he)).2]
    rfl
  | address h hn ha hfault =>
    rw [(send_of_error transport h (message_of_obstacle (.header hn ha))).2,
      escape?_header_eq_some_iff.mpr ⟨_, rfl, hfault, rfl⟩]
    rfl
  | transport h hm ha hcause =>
    rw [(send_of_message transport h hm).2]
    exact conclude_eq_error_iff.mpr ⟨_, ha, hcause, rfl⟩

/-- There is no other way out of a delivery than those listed. -/
theorem escapes_of_outcome {escape : Escape} (ho : (m.send transport n).outcome = .error escape) :
    m.Escapes transport n escape := by
  by_cases h : m.IsConfigured
  · cases hm : m.message n with
    | error e =>
      rw [(send_of_error transport h hm).2] at ho
      cases hescape : e.escape? with
      | none =>
        rw [hescape] at ho
        cases ho
      | some escape' =>
        rw [hescape] at ho
        cases ho
        exact escapes_of_obstacle h (message_eq_error_iff.mp hm) hescape
    | ok mail =>
      rw [(send_of_message transport h hm).2] at ho
      obtain ⟨f, ha, hcause, rfl⟩ := conclude_eq_error_iff.mp ho
      exact .transport h hm ha hcause
  · rw [send_of_not_isConfigured h] at ho
    cases ho

/-- The faults that leave a delivery of a mail without a result are exactly these. -/
theorem outcome_eq_error_iff {escape : Escape} :
    (m.send transport n).outcome = .error escape ↔ m.Escapes transport n escape :=
  ⟨escapes_of_outcome, outcome_of_escapes⟩

/-- A mail counts as sent exactly when the transport accepted it. -/
theorem accepted_iff :
    (∃ result, (m.send transport n).outcome = .ok result ∧ result.error? = none) ↔
      ∃ c, (m.send transport n).calls = [c] ∧ transport c = .accepted := by
  constructor
  · rintro ⟨result, ho, he⟩
    exact (send_course ho).agrees.ok_iff.mp he
  · rintro ⟨c, hcalls, ha⟩
    have ho := outcome_of_mem_calls (hcalls ▸ List.mem_singleton_self c)
    rw [ha] at ho
    exact ⟨_, ho, rfl⟩

/-- An interruption of the call is handed on as what it is. -/
theorem interrupted_iff :
    (∃ f, (m.send transport n).outcome = .error (.transport f) ∧ f.cause = .interruption) ↔
      ∃ c, (m.send transport n).calls = [c] ∧
        ∃ f, transport c = .failure f ∧ f.cause = .interruption := by
  constructor
  · rintro ⟨f, ho, hcause⟩
    cases escapes_of_outcome ho with
    | transport h hm ha hnot => exact ⟨_, (send_of_message transport h hm).1, f, ha, hcause⟩
  · rintro ⟨c, hcalls, f, ha, hcause⟩
    refine ⟨f, ?_, hcause⟩
    rw [outcome_of_mem_calls (hcalls ▸ List.mem_singleton_self c), ha]
    exact conclude_eq_error_iff.mpr ⟨f, rfl, by simp [hcause], rfl⟩

end UptimeAlert.Mailer
