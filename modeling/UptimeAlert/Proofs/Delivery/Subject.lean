import UptimeAlert.Proofs.Delivery.Mail
import UptimeAlert.Proofs.Steps

namespace UptimeAlert.Mail

open UptimeAlert.Text

variable [Platform] {header : Header} {entry : Header × String} {entries : List (Header × String)}

theorem fst_addressHeader {value : String} (h : addressHeader header value = .ok entry) :
    entry.1 = header := by
  unfold addressHeader at h
  split at h
  · cases h
  · split at h
    · cases h
      rfl
    · cases h

/-- The name of a header, if that is given a value that is not empty. -/
def givenName (name : String) (value : Option String) : List String :=
  if value.getD "" = "" then [] else [name]

theorem names_optionalHeader {value : Option String}
    (h : optionalHeader header value = .ok entries) :
    entries.map (fun entry => entry.1.name) = givenName header.name value := by
  cases value with
  | none =>
    cases h
    rfl
  | some value =>
    rw [optionalHeader] at h
    by_cases hempty : value = ""
    · rw [if_pos (String.isEmpty_iff.mpr hempty)] at h
      cases h
      simp [givenName, hempty]
    · rw [if_neg fun hvalue => hempty (String.isEmpty_iff.mp hvalue)] at h
      obtain ⟨entry, hset, rfl⟩ := map_eq_ok_iff.mp h
      simp [givenName, hempty, fst_addressHeader hset]

end UptimeAlert.Mail

namespace UptimeAlert.Mailer

open UptimeAlert.Mail UptimeAlert.Text

/-- A text on a single line. -/
def oneLine (text : String) : String :=
  String.ofList (flatten text.toList)

/-- What joining the lines of a text makes of it. -/
structure IsOneLineOf (line text : String) : Prop where
  joins : ∀ cs, Joins text.toList cs ↔ cs = line.toList
  plain : ∀ c ∈ line.toList, c ∉ lineBoundaries
  again : oneLine line = line
  same : (∀ c ∈ text.toList, c ∉ lineBoundaries) → line = text

theorem isOneLineOf_oneLine (text : String) : IsOneLineOf (oneLine text) text where
  joins cs := by rw [oneLine, String.toList_ofList, joins_iff]
  plain := by
    rw [oneLine, String.toList_ofList]
    exact not_mem_flatten text.toList
  again := by rw [oneLine, oneLine, String.toList_ofList, flatten_flatten]
  same h := by rw [oneLine, flatten_eq_self_iff.mpr h, String.ofList_toList]

/-- A break in the message that would open another header is joined. -/
example : oneLine "up\r\nBcc: all@example.com\n" = "up Bcc: all@example.com" := by
  decide +kernel

variable {n : Notification}

/-- A notification tells of a change of a verdict, or it is a test. -/
def IsChangeOrTest (n : Notification) : Prop :=
  n.monitor.isSome = true ∧ n.heartbeat.isSome = true ∨ "Testing".toList <:+ n.msg.toList

theorem usesCustomSubject_iff : usesCustomSubject n = true ↔ IsChangeOrTest n := by
  rw [usesCustomSubject, Bool.or_eq_true, Bool.and_eq_true, List.isSuffixOf_iff_suffix]
  rfl

variable [Platform] {m : Mailer} {addresses : List (Header × String)}

/-- The headers of a mail in their order: those with addresses, as far as they are given, and the
subject. -/
def headerNames (m : Mailer) : List String :=
  givenName "From" m.sender ++ "To" :: givenName "Cc" m.copies ++ givenName "Bcc" m.blindCopies ++
    ["Subject"]

/-- The address headers stand in their order, each optional one only where it is set. -/
theorem names_addressHeaders (h : m.addressHeaders = .ok addresses) :
    addresses.map (fun entry => entry.1.name) ++ ["Subject"] = m.headerNames := by
  obtain ⟨sender, hsender, h⟩ := exists_of_bind_eq_ok h
  obtain ⟨recipients, hrecipients, h⟩ := exists_of_bind_eq_ok h
  obtain ⟨copies, hcopies, h⟩ := exists_of_bind_eq_ok h
  obtain ⟨blindCopies, hblind, h⟩ := exists_of_bind_eq_ok h
  cases h
  have hname : recipients.1.name = "To" := congrArg Header.name (fst_addressHeader hrecipients)
  simp only [List.map_append, List.map_cons, names_optionalHeader hsender, hname,
    names_optionalHeader hcopies, names_optionalHeader hblind]
  rfl

theorem addressHeaders_of_prepared (h : m.prepared n = .ok addresses) :
    m.addressHeaders = .ok addresses := by
  unfold prepared at h
  split at h
  · cases h
  · exact mapError_eq_ok_iff.mp h

/-- A mail is composed out of addresses, a subject and a body, and nothing else can fail. -/
theorem message_eq_ok_iff {mail : Message} :
    m.message n = .ok mail ↔ ∃ addresses subject body, m.prepared n = .ok addresses ∧
      m.subject n = .ok subject ∧ m.body n = .ok body ∧
      mail = ⟨addresses ++ [subjectHeader subject], contentOf body⟩ := by
  constructor
  · intro h
    obtain ⟨addresses, haddresses, h⟩ := exists_of_bind_eq_ok h
    obtain ⟨subject, hsubject, h⟩ := exists_of_bind_eq_ok h
    obtain ⟨header, hheader, h⟩ := exists_of_bind_eq_ok h
    obtain ⟨body, hbody, h⟩ := exists_of_bind_eq_ok h
    have hsubject := mapError_eq_ok_iff.mp hsubject
    have hheader := mapError_eq_ok_iff.mp hheader
    obtain rfl : subjectHeader subject = header :=
      Except.ok.inj ((setSubject_of_subject hsubject).symm.trans hheader)
    cases h
    exact ⟨addresses, subject, body, haddresses, hsubject, mapError_eq_ok_iff.mp hbody, rfl⟩
  · rintro ⟨addresses, subject, body, haddresses, hsubject, hbody, rfl⟩
    simp only [message, haddresses, hsubject, setSubject_of_subject hsubject, hbody,
      mapError_ok, bind, Except.bind, pure, Except.pure]

/-- Every failure to set a header is one of the addresses. -/
theorem addressHeaders_of_message_error {e : HeaderError} (h : m.message n = .error (.header e)) :
    m.addressHeaders = .error e := by
  cases message_eq_error_iff.mp h with
  | header _ he => exact he

theorem subject_of_source {source : String} (h : m.subjectSource n = .ok source) :
    m.subject n = .ok (oneLine source) := by
  rw [subject, h]
  rfl

/-- What the subject is made of: the template of the subject, rendered without the blanks around it,
where more than blanks is given and the notification is a change or a test; else the message. -/
inductive SubjectFrom (m : Mailer) (n : Notification) : Except RenderError String → Prop where
  | template {stripped : List Char} (hstrip : strip (m.customSubject.getD "").toList = stripped)
    (hgiven : stripped ≠ []) (hn : IsChangeOrTest n) :
    SubjectFrom m n (m.renderer.render (String.ofList stripped) n.monitor n.heartbeat)
  | message (h : strip (m.customSubject.getD "").toList = [] ∨ ¬ IsChangeOrTest n) :
    SubjectFrom m n (.ok n.msg)

/-- What the mailer takes as the source is what the settings call for. -/
theorem subjectFrom_subjectSource (m : Mailer) (n : Notification) :
    SubjectFrom m n (m.subjectSource n) := by
  by_cases hn : IsChangeOrTest n
  · have htemplate : m.subjectTemplate? n = Template.given? m.customSubject :=
      if_pos (usesCustomSubject_iff.mpr hn)
    rw [subjectSource, htemplate, Template.given?]
    by_cases hgiven : strip (m.customSubject.getD "").toList = []
    · rw [if_pos (List.isEmpty_iff.mpr hgiven)]
      exact .message (.inl hgiven)
    · rw [if_neg fun hempty => hgiven (List.isEmpty_iff.mp hempty)]
      exact .template rfl hgiven hn
  · have htemplate : m.subjectTemplate? n = none :=
      if_neg fun huses => hn (usesCustomSubject_iff.mp huses)
    rw [subjectSource, htemplate]
    exact .message (.inr hn)

/-- The subject is the message or the rendered template on a single line, whatever they hold. No
mail fails because of it, and a mail has the headers that are given, once each in their order. -/
theorem subject_keeps_headers (m : Mailer) (n : Notification) :
    SubjectFrom m n (m.subjectSource n) ∧
    (∀ source, m.subjectSource n = .ok source → m.subject n = .ok (oneLine source)) ∧
    (∀ text, IsOneLineOf (oneLine text) text) ∧
    (∀ e, m.message n = .error (.header e) → m.addressHeaders = .error e) ∧
    (∀ addresses source body, m.prepared n = .ok addresses → m.subjectSource n = .ok source →
      m.body n = .ok body → ∃ mail, m.message n = .ok mail) ∧
    ∀ mail, m.message n = .ok mail →
      mail.headers.map (fun entry => entry.1.name) = m.headerNames := by
  refine ⟨subjectFrom_subjectSource m n, fun source => subject_of_source, isOneLineOf_oneLine,
    fun e => addressHeaders_of_message_error, fun addresses source body ha hs hb => ?_,
    fun mail h => ?_⟩
  · exact ⟨_, message_eq_ok_iff.mpr ⟨addresses, _, body, ha, subject_of_source hs, hb, rfl⟩⟩
  · obtain ⟨addresses, subject, body, ha, -, -, rfl⟩ := message_eq_ok_iff.mp h
    rw [List.map_append, ← names_addressHeaders (addressHeaders_of_prepared ha)]
    rfl

end UptimeAlert.Mailer
