import UptimeAlert.Proofs.Status
import UptimeAlert.Proofs.Steps
import UptimeAlert.Proofs.Template.Substitution
import UptimeAlert.Proofs.Value.Writable
import UptimeAlert.Template.Dictionary

namespace UptimeAlert

/-- Whether a value is neither a list nor a record, so that it can be looked up. -/
def Value.isSimple : Value → Bool
  | .list _ => false
  | .record _ => false
  | _ => true

def Monitor.isWritable (m : Monitor) : Bool :=
  (Value.record m.toFields).isWritable

def Heartbeat.isWritable (h : Heartbeat) : Bool :=
  (Value.record h.toFields).isWritable

theorem Heartbeat.isWritable_shownTime (time : Value) : (shownTime time).isWritable = true := by
  unfold shownTime
  split <;> rfl

/-- A heartbeat is stored in a form that can be written exactly if it can be written itself. -/
theorem Heartbeat.isWritable_iff {h : Heartbeat} :
    h.isWritable = true ↔ h.time.isWritable = true ∧ h.status.isWritable = true ∧
      h.msg.isWritable = true ∧ h.downCount.isWritable = true ∧ h.ping.isWritable = true ∧
        h.duration.isWritable = true ∧ h.important.isWritable = true := by
  have hint (s : Status) : (Value.int s.code).isWritable = true := by cases s <;> rfl
  obtain ⟨time, status, _⟩ := h
  simp only [isWritable, Value.isWritable_record_iff, toFields, List.forall_mem_cons,
    List.not_mem_nil, false_implies, implies_true, and_true]
  refine and_congr ?_ (and_congr_left' ?_)
  · cases time <;> rfl
  · cases status with
    | status s => exact iff_of_true (hint s) rfl
    | _ => rfl

/-- A heartbeat of values that can be written can be written itself. -/
theorem Heartbeat.isWritable_of_ofFields {fields : Fields} {h : Heartbeat}
    (hfields : ∀ f ∈ fields, f.2.isWritable = true) (hh : ofFields fields = .ok h) :
    h.isWritable = true := by
  have hget (name : String) : (fields.get name).isWritable = true :=
    Value.isWritable_get hfields name
  have hsome {name : String} {v : Value} (hv : fields.get? name = some v) :
      v.isWritable = true := by
    have hname := hget name
    rwa [Fields.get, hv] at hname
  have hcount : ((fields.get? "downCount").getD (fields.get "down_count")).isWritable = true := by
    cases hv : fields.get? "downCount" with
    | none => exact hget "down_count"
    | some v => exact hsome hv
  unfold ofFields at hh
  split at hh
  · cases hh
  · cases hh
  · rename_i htime hstatus
    cases hh
    exact isWritable_iff.mpr ⟨hsome htime, hsome hstatus, hget "msg", hcount, hget "ping",
      hget "duration", hget "important"⟩

namespace Template

/-- The fields of what a template is rendered against can be written. -/
def PartsWritable (monitor : Option Monitor) (heartbeat : Option Heartbeat) : Prop :=
  (∀ m ∈ monitor, m.isWritable = true) ∧ ∀ h ∈ heartbeat, h.isWritable = true

instance (monitor : Option Monitor) (heartbeat : Option Heartbeat) :
    Decidable (PartsWritable monitor heartbeat) :=
  inferInstanceAs (Decidable (_ ∧ _))

end Template

end UptimeAlert

namespace UptimeAlert.Template.Dictionary

open UptimeAlert.Text

/-- Names with one more, which stays at its place if it is there. -/
def addKey (keys : List String) (key : String) : List String :=
  if key ∈ keys then keys else keys ++ [key]

theorem mem_foldl_addKey {keys more : List String} {key : String} :
    key ∈ more.foldl addKey keys ↔ key ∈ keys ∨ key ∈ more := by
  induction more generalizing keys with
  | nil => simp
  | cons k more ih =>
    have hstep : key ∈ addKey keys k ↔ key ∈ keys ∨ key = k := by
      by_cases h : k ∈ keys
      · rw [addKey, if_pos h]
        exact ⟨.inl, fun hor => hor.elim id fun heq => heq ▸ h⟩
      · simp [addKey, h]
    rw [List.foldl_cons, ih, hstep, List.mem_cons, or_assoc]

theorem keys_put (d : Dictionary) (key : String) (v : Value) :
    (Fields.put d key v).map Prod.fst = addKey (d.map Prod.fst) key := by
  induction d with
  | nil => rfl
  | cons entry d ih =>
    obtain ⟨k, old⟩ := entry
    by_cases h : k = key
    · simp [Fields.put, addKey, h]
    · by_cases hmem : key ∈ d.map Prod.fst
      · simp only [addKey, if_pos hmem] at ih
        simp [Fields.put, addKey, h, hmem, ih]
      · simp only [addKey, if_neg hmem] at ih
        simp [Fields.put, addKey, h, Ne.symm h, hmem, ih]

/-- The keys of an updated dictionary do not depend on any value. -/
theorem keys_update (d : Dictionary) (entries : List (String × Value)) :
    (d.update entries).map Prod.fst = (entries.map Prod.fst).foldl addKey (d.map Prod.fst) := by
  induction entries generalizing d with
  | nil => rfl
  | cons entry entries ih =>
    rw [update, List.foldl_cons]
    exact (ih _).trans (by rw [keys_put]; rfl)

theorem get_cons (key : String) (v : Value) (d : Dictionary) (name : String) :
    Fields.get ((key, v) :: d) name = if name = key then v else Fields.get d name := by
  by_cases h : name = key
  · simp [Fields.get, Fields.get?, h]
  · have hskip : (name == key) = false := by simp [h]
    simp [Fields.get, Fields.get?, List.lookup_cons, hskip, h]

/-- A name that was put has its new value; the others have the old one. -/
theorem get_put (d : Dictionary) (key : String) (v : Value) (name : String) :
    Fields.get (Fields.put d key v) name = if name = key then v else Fields.get d name := by
  induction d with
  | nil => rw [Fields.put, get_cons]
  | cons entry d ih =>
    obtain ⟨other, old⟩ := entry
    by_cases hother : other = key
    · rw [Fields.put, if_pos hother, get_cons, get_cons, hother]
      split <;> rfl
    · rw [Fields.put, if_neg hother, get_cons, ih, get_cons]
      by_cases hname : name = other
      · rw [if_pos hname, if_pos hname, if_neg (hname ▸ hother)]
      · rw [if_neg hname, if_neg hname]

theorem get_update_of_not_mem {entries : List (String × Value)} {key : String}
    (h : key ∉ entries.map Prod.fst) (d : Dictionary) :
    Fields.get (d.update entries) key = Fields.get d key := by
  induction entries generalizing d with
  | nil => rfl
  | cons entry entries ih =>
    rw [List.map_cons, List.mem_cons, not_or] at h
    rw [update, List.foldl_cons]
    exact (ih h.2 _).trans (by rw [get_put, if_neg h.1])

/-- The last entries that are set count. -/
theorem get_update_of_mem {entries : List (String × Value)} {key : String} {v : Value}
    (hkeys : (entries.map Prod.fst).Nodup) (h : (key, v) ∈ entries) (d : Dictionary) :
    Fields.get (d.update entries) key = v := by
  obtain ⟨front, back, rfl⟩ := List.append_of_mem h
  have hback : key ∉ back.map Prod.fst := by
    rw [List.map_append, List.map_cons, List.nodup_append] at hkeys
    exact (List.nodup_cons.mp hkeys.2.1).1
  rw [update, List.foldl_append, List.foldl_cons]
  exact (get_update_of_not_mem hback _).trans (by rw [get_put, if_pos rfl])

/-- The names of tokens without any part. -/
def defaultNames : List String :=
  ["NAME", "HOSTNAME_OR_URL", "STATUS"]

def monitorNames : List String :=
  ["ID", "NAME", "HOSTNAME_OR_URL", "HOSTNAME", "PORT", "URL", "TYPE", "INTERVAL"]

def heartbeatNames : List String :=
  ["STATUS", "TIME_UTC", "MSG", "DOWN_COUNT", "PING", "DURATION", "IMPORTANT"]

/-- The keys of a dictionary built with or without a monitor and a heartbeat. -/
def builtKeys (hasMonitor hasHeartbeat : Bool) : List String :=
  ((if hasHeartbeat then heartbeatNames else []).map token).foldl addKey
    (((if hasMonitor then monitorNames else []).map token).foldl addKey (defaultNames.map token))

theorem keys_ofMonitor {m : Monitor} {d : Dictionary} (h : ofMonitor m = .ok d) :
    d.map Prod.fst = monitorNames.map token := by
  obtain ⟨target, -, rfl⟩ := map_eq_ok_iff.mp h
  rfl

/-- The tokens of a heartbeat are made if it has a verdict and its time can be written. -/
theorem ofHeartbeat_eq_ok_iff {hb : Heartbeat} {d : Dictionary} :
    ofHeartbeat hb = .ok d ↔ ∃ s, Status.ofValue? hb.status = some s ∧ hb.time.isWritable = true ∧
      [(token "STATUS", .text (statusText s)), (token "TIME_UTC", Heartbeat.shownTime hb.time),
        (token "MSG", hb.msg), (token "DOWN_COUNT", hb.downCount), (token "PING", hb.ping),
        (token "DURATION", hb.duration.ifNull (.int 0)),
        (token "IMPORTANT", hb.important)] = d := by
  constructor
  · intro h
    obtain ⟨s, hs, h⟩ := exists_of_bind_eq_ok h
    obtain ⟨time, htime, h⟩ := exists_of_bind_eq_ok h
    obtain ⟨hwritable, rfl⟩ := Value.ifWritable_eq_ok_iff.mp htime
    exact ⟨s, Status.ofValue_eq_ok_iff.mp hs, hwritable, Except.ok.inj h⟩
  · rintro ⟨s, hs, hwritable, rfl⟩
    rw [ofHeartbeat, Status.ofValue_eq_ok_iff.mpr hs, Heartbeat.shownTime?,
      Value.ifWritable_of_isWritable hwritable]
    rfl

theorem keys_ofHeartbeat {hb : Heartbeat} {d : Dictionary} (h : ofHeartbeat hb = .ok d) :
    d.map Prod.fst = heartbeatNames.map token := by
  obtain ⟨s, -, -, rfl⟩ := ofHeartbeat_eq_ok_iff.mp h
  rfl

/-- A dictionary is built of the tokens of the parts that there are. -/
theorem build_eq_ok_iff {m : Option Monitor} {hb : Option Heartbeat} {d : Dictionary} :
    build m hb = .ok d ↔ ∃ dm dh, ofOption ofMonitor m = .ok dm ∧ ofOption ofHeartbeat hb = .ok dh ∧
      (defaults.update dm).update dh = d := by
  constructor
  · intro h
    obtain ⟨dm, hdm, h⟩ := exists_of_bind_eq_ok h
    obtain ⟨dh, hdh, h⟩ := exists_of_bind_eq_ok h
    exact ⟨dm, dh, hdm, hdh, Except.ok.inj h⟩
  · rintro ⟨dm, dh, hdm, hdh, rfl⟩
    rw [build, hdm, hdh]
    rfl

theorem keys_of_ofOption_ofMonitor {m : Option Monitor} {d : Dictionary}
    (h : ofOption ofMonitor m = .ok d) :
    d.map Prod.fst = (if m.isSome then monitorNames else []).map token := by
  cases m with
  | none => cases h; rfl
  | some m => exact keys_ofMonitor h

theorem keys_of_ofOption_ofHeartbeat {hb : Option Heartbeat} {d : Dictionary}
    (h : ofOption ofHeartbeat hb = .ok d) :
    d.map Prod.fst = (if hb.isSome then heartbeatNames else []).map token := by
  cases hb with
  | none => cases h; rfl
  | some hb => exact keys_ofHeartbeat h

theorem keys_build {m : Option Monitor} {hb : Option Heartbeat} {d : Dictionary}
    (h : build m hb = .ok d) : d.map Prod.fst = builtKeys m.isSome hb.isSome := by
  obtain ⟨dm, dh, hdm, hdh, rfl⟩ := build_eq_ok_iff.mp h
  rw [keys_update, keys_update, keys_of_ofOption_ofMonitor hdm, keys_of_ofOption_ofHeartbeat hdh]
  rfl

theorem tokens_eq_map_keys (d : Dictionary) : d.tokens = (d.map Prod.fst).map String.toList := by
  simp [tokens, List.map_map, Function.comp_def]

/-- All tokens of a dictionary that is built are placeholders with known names. -/
theorem name_of_mem_tokens {m : Option Monitor} {hb : Option Heartbeat} {d : Dictionary}
    (h : build m hb = .ok d) {t : List Char} (ht : t ∈ d.tokens) :
    ∃ name ∈ defaultNames ++ monitorNames ++ heartbeatNames, t = placeholder name.toList := by
  rw [tokens_eq_map_keys, keys_build h] at ht
  obtain ⟨key, hkey, rfl⟩ := List.mem_map.mp ht
  have hnames : ∃ name ∈ defaultNames ++ monitorNames ++ heartbeatNames, token name = key := by
    rw [builtKeys, mem_foldl_addKey, mem_foldl_addKey] at hkey
    simp only [List.mem_append]
    rcases hkey with (hkey | hkey) | hkey
    · obtain ⟨name, hname, heq⟩ := List.mem_map.mp hkey
      exact ⟨name, .inl (.inl hname), heq⟩
    · obtain ⟨name, hname, heq⟩ := List.mem_map.mp hkey
      cases hm : m.isSome
      · simp [hm] at hname
      · exact ⟨name, .inl (.inr (by simpa [hm] using hname)), heq⟩
    · obtain ⟨name, hname, heq⟩ := List.mem_map.mp hkey
      cases hh : hb.isSome
      · simp [hh] at hname
      · exact ⟨name, .inr (by simpa [hh] using hname), heq⟩
  obtain ⟨name, hname, rfl⟩ := hnames
  exact ⟨name, hname, by simp [token]⟩

theorem tokens_build {m : Option Monitor} {hb : Option Heartbeat} {d : Dictionary}
    (h : build m hb = .ok d) : Tokens d.tokens := by
  have hplain : ∀ name ∈ defaultNames ++ monitorNames ++ heartbeatNames,
      BraceFree name.toList := by decide
  intro t ht
  obtain ⟨name, hname, rfl⟩ := name_of_mem_tokens h ht
  exact ⟨name.toList, hplain name hname, rfl⟩

theorem exists_ofMonitor {m : Monitor} (h : m.type.isSimple = true) :
    ∃ d, ofMonitor m = .ok d := by
  have hurl : ∃ b, m.checksUrl = .ok b := by
    unfold Monitor.checksUrl
    cases ht : m.type with
    | list items => simp [ht, Value.isSimple] at h
    | record fields => simp [ht, Value.isSimple] at h
    | _ => exact ⟨_, rfl⟩
  obtain ⟨b, hb⟩ := hurl
  exact ⟨_, by rw [ofMonitor, Monitor.target, hb]; rfl⟩

theorem exists_ofHeartbeat {h : Heartbeat} (hs : (Status.ofValue? h.status).isSome)
    (ht : h.time.isWritable = true) : ∃ d, ofHeartbeat h = .ok d := by
  obtain ⟨s, hs⟩ := Option.isSome_iff_exists.mp hs
  exact ⟨_, ofHeartbeat_eq_ok_iff.mpr ⟨s, hs, ht, rfl⟩⟩

/-- A dictionary is built for every monitor of a simple type and every heartbeat with a verdict and
a time that can be written. -/
theorem exists_build {monitor : Option Monitor} {heartbeat : Option Heartbeat}
    (hm : ∀ m ∈ monitor, m.type.isSimple = true)
    (hh : ∀ h ∈ heartbeat, (Status.ofValue? h.status).isSome ∧ h.time.isWritable = true) :
    ∃ d, build monitor heartbeat = .ok d := by
  have hmonitor : ∃ d, ofOption ofMonitor monitor = .ok d := by
    cases monitor with
    | none => exact ⟨_, rfl⟩
    | some m => exact exists_ofMonitor (hm m rfl)
  have hheartbeat : ∃ d, ofOption ofHeartbeat heartbeat = .ok d := by
    cases heartbeat with
    | none => exact ⟨_, rfl⟩
    | some h => exact exists_ofHeartbeat (hh h rfl).1 (hh h rfl).2
  obtain ⟨dm, hdm⟩ := hmonitor
  obtain ⟨dh, hdh⟩ := hheartbeat
  exact ⟨_, build_eq_ok_iff.mpr ⟨dm, dh, hdm, hdh, rfl⟩⟩

theorem mem_update {d : Dictionary} {entries : List (String × Value)} {f : String × Value}
    (h : f ∈ d.update entries) : f ∈ d ∨ f ∈ entries := by
  induction entries generalizing d with
  | nil => exact .inl h
  | cons entry entries ih =>
    rw [update, List.foldl_cons] at h
    rcases ih h with hput | hmem
    · rcases Fields.mem_put hput with rfl | hmem
      · exact .inr List.mem_cons_self
      · exact .inl hmem
    · exact .inr (List.mem_cons_of_mem entry hmem)

/-- The values of a dictionary can be written exactly if those of its parts can: no part hides a
value of another one. -/
theorem forall_isWritable_iff {m : Option Monitor} {hb : Option Heartbeat} {dm dh : Dictionary}
    (hdm : ofOption ofMonitor m = .ok dm) (hdh : ofOption ofHeartbeat hb = .ok dh) :
    (∀ f ∈ (defaults.update dm).update dh, f.2.isWritable = true) ↔
      (∀ f ∈ dm, f.2.isWritable = true) ∧ ∀ f ∈ dh, f.2.isWritable = true := by
  have hmkeys : (dm.map Prod.fst).Nodup := by
    rw [keys_of_ofOption_ofMonitor hdm]
    cases m.isSome <;> decide
  have hhkeys : (dh.map Prod.fst).Nodup := by
    rw [keys_of_ofOption_ofHeartbeat hdh]
    cases hb.isSome <;> decide
  have hapart : ∀ key ∈ dm.map Prod.fst, key ∉ dh.map Prod.fst := by
    rw [keys_of_ofOption_ofMonitor hdm, keys_of_ofOption_ofHeartbeat hdh]
    cases m.isSome <;> cases hb.isSome <;> decide
  have hdefaults : ∀ f ∈ defaults, f.2.isWritable = true := by decide
  constructor
  · intro hall
    refine ⟨fun f hf => ?_, fun f hf => ?_⟩
    · have hget := get_update_of_mem hmkeys hf defaults
      rw [← get_update_of_not_mem (hapart f.1 (List.mem_map_of_mem hf))] at hget
      exact hget ▸ Value.isWritable_get hall f.1
    · exact get_update_of_mem hhkeys hf (defaults.update dm) ▸ Value.isWritable_get hall f.1
  · rintro ⟨hmonitor, hheartbeat⟩ f hf
    rcases mem_update hf with hf | hf
    · exact (mem_update hf).elim (hdefaults f) (hmonitor f)
    · exact hheartbeat f hf

/-- The tokens of a monitor can be written exactly if its fields can. -/
theorem forall_ofMonitor_iff {m : Monitor} {d : Dictionary} (h : ofMonitor m = .ok d) :
    (∀ f ∈ d, f.2.isWritable = true) ↔ m.isWritable = true := by
  obtain ⟨target, htarget, rfl⟩ := map_eq_ok_iff.mp h
  obtain ⟨url, -, rfl⟩ := map_eq_ok_iff.mp htarget
  have htext (s : String) : (Value.text s).isWritable = true := rfl
  have hsource : m.url.isWritable = true → m.hostname.isWritable = true →
      (if url then m.url else m.hostname).isWritable = true := by
    intro hurl hhostname
    cases url
    · exact hhostname
    · exact hurl
  simp only [Monitor.isWritable, Value.isWritable_record_iff, Monitor.toFields,
    List.forall_mem_cons, List.not_mem_nil, false_implies, implies_true, and_true,
    Value.isWritable_ifNull (htext _), Value.isWritable_orElse (htext _)]
  tauto

/-- The tokens of a heartbeat can be written exactly if its fields can. -/
theorem forall_ofHeartbeat_iff {h : Heartbeat} {d : Dictionary} (hd : ofHeartbeat h = .ok d) :
    (∀ f ∈ d, f.2.isWritable = true) ↔ h.isWritable = true := by
  obtain ⟨s, hs, htime, rfl⟩ := ofHeartbeat_eq_ok_iff.mp hd
  have hstatus : h.status.isWritable = true :=
    (Value.isVerdict_iff.mpr (Option.isSome_iff_exists.mpr ⟨s, hs⟩)).isWritable
  have htext (s : String) : (Value.text s).isWritable = true := rfl
  simp only [Heartbeat.isWritable_iff, List.forall_mem_cons, List.not_mem_nil, false_implies,
    implies_true, and_true, htext, Heartbeat.isWritable_shownTime, htime, hstatus, true_and,
    Value.isWritable_ifNull (show (Value.int 0).isWritable = true from rfl)]

/-- A dictionary can be written exactly if its parts can. -/
theorem isWritable_build_iff {m : Option Monitor} {hb : Option Heartbeat} {d : Dictionary}
    (h : build m hb = .ok d) : (Value.record d).isWritable = true ↔ PartsWritable m hb := by
  obtain ⟨dm, dh, hdm, hdh, rfl⟩ := build_eq_ok_iff.mp h
  rw [Value.isWritable_record_iff, forall_isWritable_iff hdm hdh]
  refine and_congr ?_ ?_
  · cases m with
    | none => cases hdm; simp
    | some m => simpa using forall_ofMonitor_iff hdm
  · cases hb with
    | none => cases hdh; simp
    | some hb => simpa using forall_ofHeartbeat_iff hdh

end UptimeAlert.Template.Dictionary
