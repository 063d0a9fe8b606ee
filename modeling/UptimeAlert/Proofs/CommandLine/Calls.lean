import UptimeAlert.Proofs.CommandLine.Run
import UptimeAlert.Proofs.Delivery.Mail
import UptimeAlert.Proofs.Delivery.Webhook
import UptimeAlert.Proofs.Settings.Loading

namespace UptimeAlert

theorem Binary64.isPositive_iff {x : Binary64} :
    x.isPositive = true ↔ x = .infinity false ∨ ∃ units, 0 < units ∧ x = .finite false units := by
  cases x with
  | nan => simp [isPositive]
  | infinity negative => simp [isPositive]
  | finite negative units =>
    simp only [isPositive, Bool.and_eq_true, Bool.not_eq_true', bne_iff_ne, reduceCtorEq, false_or]
    constructor
    · rintro ⟨rfl, hunits⟩
      exact ⟨units, Nat.pos_of_ne_zero hunits, rfl⟩
    · rintro ⟨_, hpos, heq⟩
      cases heq
      exact ⟨rfl, Nat.ne_of_gt hpos⟩

theorem Settings.isEndpoint_iff {url : String} :
    isEndpoint url = true ↔ "http://".toList <+: url.toList ∨ "https://".toList <+: url.toList := by
  rw [isEndpoint, Bool.or_eq_true, List.isPrefixOf_iff_prefix, List.isPrefixOf_iff_prefix]

theorem Mailer.credential_cases (m : Mailer) :
    (∀ part, m.credential part = none) ∨ ∀ part, m.credential part = some (part.getD "") := by
  unfold credential
  cases m.hasCredentials with
  | true => exact .inr fun _ => rfl
  | false => exact .inl fun _ => rfl

theorem Delivery.exists_mapCalls_iff {Call Other : Type} {d : Delivery Call} (f : Call → Other)
    (p : Other → Prop) :
    (∃ other, (d.mapCalls f).calls = [other] ∧ p other) ↔
      ∃ call, d.calls = [call] ∧ p (f call) := by
  constructor
  · rintro ⟨other, hcalls, hp⟩
    obtain ⟨call, hcall, rfl⟩ := List.map_eq_singleton_iff.mp hcalls
    exact ⟨call, hcall, hp⟩
  · rintro ⟨call, hcall, hp⟩
    exact ⟨f call, by rw [mapCalls, hcall, List.map_singleton], hp⟩

namespace CommandLine

/-- What a transport is called with: a server and a port that it may listen on, and the credentials
both or neither; or a web address and a time to wait for, longer than none. -/
def Call.IsSound : Call → Prop
  | .mail c => c.host ≠ "" ∧ 1 ≤ c.port ∧ c.port ≤ 65535 ∧
      (c.username = none ∧ c.password = none ∨
        ∃ username password, c.username = some username ∧ c.password = some password)
  | .webhook c => ("http://".toList <+: c.url.toList ∨ "https://".toList <+: c.url.toList) ∧
      ∃ x, c.timeout = .float x ∧
        (x = .infinity false ∨ ∃ units, 0 < units ∧ x = .finite false units)

def Call.IsAccepted (w : Surroundings) : Call → Prop
  | .mail c => w.mail c = .accepted
  | .webhook c => ∃ r, w.webhook c = .response r ∧ 200 ≤ r.status ∧ r.status ≤ 299

def Call.IsInterrupted (w : Surroundings) : Call → Prop
  | .mail c => ∃ f, w.mail c = .failure f ∧ f.cause = .interruption
  | .webhook c => ∃ f, w.webhook c = .failure f ∧ f.cause = .interruption

variable [Platform] {w : Surroundings} {s : Settings} {r : Request} {input : Input}
  {kind : ChannelKind} {msg : Option String} {n : Notification} {call : Call}
  {arguments : List String}

/-- A mail goes to a server that is set, on a port in range, with both credentials or neither. -/
theorem isSound_of_mail (hload : Settings.load w.env w.environmentFile = .ok s)
    (hcall : call ∈ (deliver w s .mail n).calls) : call.IsSound := by
  rw [calls_deliver_mail] at hcall
  obtain ⟨c, hc, rfl⟩ := List.mem_map.mp hcall
  obtain ⟨hconfigured, mail, -, rfl⟩ := Mailer.exists_message_of_mem_calls hc
  have hport : Settings.isPort s.mail.port = true := Settings.isPort_of_load hload
  have hrange : 1 ≤ s.mail.port ∧ s.mail.port ≤ 65535 := by simpa [Settings.isPort] using hport
  refine ⟨hconfigured.1, hrange.1, hrange.2, ?_⟩
  rcases (Mailer.ofSettings s.mail s.renderer).credential_cases with hnone | hsome
  · exact .inl ⟨hnone _, hnone _⟩
  · exact .inr ⟨_, _, hsome _, hsome _⟩

/-- A request goes to a web address, with a time to wait that is longer than none. -/
theorem isSound_of_webhook (hload : Settings.load w.env w.environmentFile = .ok s)
    (hcall : call ∈ (deliver w s .webhook n).calls) : call.IsSound := by
  rw [calls_deliver_webhook] at hcall
  obtain ⟨c, hc, rfl⟩ := List.mem_map.mp hcall
  obtain ⟨hconfigured, json, -, rfl⟩ := Webhook.exists_payload_of_mem_calls hc
  have htimeout := Binary64.isPositive_iff.mp (Settings.isPositive_of_load hload)
  refine ⟨?_, s.webhook.timeout, rfl, htimeout⟩
  have hset : s.webhook.url.getD "" ≠ "" := hconfigured
  cases hurl : s.webhook.url with
  | none => exact absurd (by rw [hurl]; rfl) hset
  | some url =>
    have hendpoint := Settings.isEndpoint_of_load hload hurl
    have hcalled : (Webhook.ofSettings s.webhook s.renderer).url = url := by
      rw [Webhook.ofSettings, hurl, Option.getD_some]
    rw [← hcalled] at hendpoint
    exact Settings.isEndpoint_iff.mp hendpoint

theorem isSound_of_deliver (hload : Settings.load w.env w.environmentFile = .ok s)
    (hcall : call ∈ (deliver w s kind n).calls) : call.IsSound := by
  cases kind with
  | mail => exact isSound_of_mail hload hcall
  | webhook => exact isSound_of_webhook hload hcall

theorem calls_preview : (preview s input).calls = [] := by
  unfold preview
  split
  · rfl
  · rw [Report.calls_logged]
    split <;> rfl

/-- Whatever is sent, all calls of a run are those of a delivery. -/
theorem mem_calls_send (hcall : call ∈ (send w s kind msg input).calls) :
    ∃ n, call ∈ (deliver w s kind n).calls := by
  have hdeliver (text : String) (h : call ∈ (conclude
      (deliver w s kind ⟨text, input.monitor, input.heartbeat⟩)).calls) :
      ∃ n, call ∈ (deliver w s kind n).calls := by
    rw [calls_conclude] at h
    exact ⟨_, h⟩
  unfold send at hcall
  split at hcall
  · exact hdeliver _ hcall
  · cases hcall
  · rw [Report.calls_logged] at hcall
    split at hcall
    · exact hdeliver _ hcall
    · cases hcall
    · cases hcall

theorem mem_calls_perform (hcall : call ∈ (perform w s r).calls) :
    ∃ kind n, call ∈ (deliver w s kind n).calls := by
  unfold perform at hcall
  split at hcall
  · cases hcall
  · split at hcall
    · cases hcall
    · cases hcall
    · split at hcall
      · rw [calls_preview] at hcall
        cases hcall
      · exact ⟨_, mem_calls_send hcall⟩

/-- A run makes no call that is not that of a delivery with settings that were loaded. -/
theorem mem_calls_run (hcall : call ∈ (run w arguments).calls) :
    ∃ s kind n, Settings.load w.env w.environmentFile = .ok s ∧
      call ∈ (deliver w s kind n).calls := by
  unfold run at hcall
  split at hcall
  · cases hcall
  · cases hcall
  · cases hcall
  · unfold answer at hcall
    split at hcall
    · cases hcall
    · cases hcall
    · rename_i s hload
      rw [Report.calls_above] at hcall
      obtain ⟨kind, n, hn⟩ := mem_calls_perform hcall
      exact ⟨s, kind, n, hload, hn⟩

/-- Every call of every run is made with what the settings were checked for. -/
theorem isSound_of_mem_calls (hcall : call ∈ (run w arguments).calls) : call.IsSound := by
  obtain ⟨s, kind, n, hload, hn⟩ := mem_calls_run hcall
  exact isSound_of_deliver hload hn

/-- A delivery succeeds exactly when its one call was made and accepted. -/
theorem deliver_accepted_iff :
    (∃ result, (deliver w s kind n).outcome = .ok result ∧ result.error? = none) ↔
      ∃ call, (deliver w s kind n).calls = [call] ∧ call.IsAccepted w := by
  cases kind with
  | mail =>
    refine Mailer.accepted_iff.trans ?_
    exact (Delivery.exists_mapCalls_iff Call.mail (Call.IsAccepted w)).symm
  | webhook =>
    refine Webhook.accepted_iff.trans ?_
    exact (Delivery.exists_mapCalls_iff Call.webhook (Call.IsAccepted w)).symm

/-- A delivery is interrupted exactly when its one call was. -/
theorem deliver_interrupted_iff :
    (∃ f, (deliver w s kind n).outcome = .error (.transport f) ∧ f.cause = .interruption) ↔
      ∃ call, (deliver w s kind n).calls = [call] ∧ call.IsInterrupted w := by
  cases kind with
  | mail =>
    refine Mailer.interrupted_iff.trans ?_
    exact (Delivery.exists_mapCalls_iff Call.mail (Call.IsInterrupted w)).symm
  | webhook =>
    refine Webhook.interrupted_iff.trans ?_
    exact (Delivery.exists_mapCalls_iff Call.webhook (Call.IsInterrupted w)).symm

end CommandLine

end UptimeAlert
