import UptimeAlert.Platform.Standard
import UptimeAlert.Proofs.Template.Failure

namespace UptimeAlert.Template

/-- A context has a result by itself: its heartbeat has no verdict, and the status can be written;
or the type of its monitor can be looked up, and all fields can be written. -/
def Context.HasResult (c : Context) : Prop :=
  (∃ h ∈ c.heartbeat, ¬ h.status.IsVerdict ∧ h.status.isWritable = true) ∨
    (∀ m ∈ c.monitor, m.type.isSimple = true) ∧ PartsWritable c.monitor c.heartbeat

/-- A context has a result unless a fault that is no invalid status stops it. -/
theorem Context.hasResult_iff {c : Context} :
    c.HasResult ↔ ∀ f, failure? c.monitor c.heartbeat ≠ some (.fault f) := by
  constructor
  · rintro (⟨h, hh, hs, hwritable⟩ | ⟨hsimple, hparts⟩) f hf
    · rw [failure?_eq_invalidStatus_iff.mpr ⟨h, hh, hs, hwritable, rfl⟩] at hf
      cases hf
    · rcases failure?_eq_fault_iff.mp hf with ⟨h, hh, -, hlong, -⟩ | ⟨-, hfault⟩
      · exact hlong (hparts.status h hh)
      · rw [fault?_eq_none_iff.mpr ⟨hsimple, hparts⟩] at hfault
        cases hfault
  · intro hfree
    cases hf : failure? c.monitor c.heartbeat with
    | none => exact .inr (failure?_eq_none_iff.mp hf).2
    | some e =>
      cases e with
      | invalidStatus v =>
        obtain ⟨h, hh, hs, hwritable, -⟩ := failure?_eq_invalidStatus_iff.mp hf
        exact .inl ⟨h, hh, hs, hwritable⟩
      | fault f => exact absurd hf (hfree f)

namespace Renderer

section

variable [Platform] {r : Renderer} {c : Context} {contexts : List Context} {template : String}
  {monitor : Option Monitor} {h : Heartbeat}

theorem tryRender_of_invalidStatus {v : Value}
    (h : failure? c.monitor c.heartbeat = some (.invalidStatus v)) :
    r.tryRender c = .ok (.error v) := by
  rw [tryRender, render_of_failure h]

theorem tryRender_of_fault {f : RenderFault}
    (h : failure? c.monitor c.heartbeat = some (.fault f)) : r.tryRender c = .error f := by
  rw [tryRender, render_of_failure h]

theorem tryRender_of_not_isVerdict (hs : ¬ h.status.IsVerdict)
    (hwritable : h.status.isWritable = true) :
    r.tryRender ⟨template, monitor, some h⟩ = .ok (.error h.status) :=
  tryRender_of_invalidStatus (failure?_eq_invalidStatus_iff.mpr ⟨h, rfl, hs, hwritable, rfl⟩)

theorem tryRender_ne_of_isVerdict (hs : h.status.IsVerdict) (v : Value) :
    r.tryRender ⟨template, monitor, some h⟩ ≠ .ok (.error v) := by
  have hverdict : ∀ h' ∈ some h, h'.status.IsVerdict := by
    rintro _ ⟨⟩
    exact hs
  cases hr : r.render template monitor (some h) with
  | ok text => simp [tryRender, hr]
  | error e =>
    cases e with
    | invalidStatus v' => exact absurd hr (render_ne_of_isVerdict hverdict v')
    | fault f => simp [tryRender, hr]

/-- A try ends with a result, good or bad, exactly for the contexts that have one. -/
theorem exists_tryRender_iff : (∃ result, r.tryRender c = .ok result) ↔ c.HasResult := by
  rw [Context.hasResult_iff]
  cases hf : failure? c.monitor c.heartbeat with
  | none =>
    obtain ⟨text, htext⟩ := exists_render r c.template hf
    simp [tryRender, htext]
  | some e =>
    cases e with
    | invalidStatus v => simp [tryRender_of_invalidStatus hf]
    | fault f => simp [tryRender_of_fault hf]

/-- A batch is rendered context by context. -/
theorem renderMany_eq_ok_iff {results : List (Except Value String)} :
    r.renderMany contexts = .ok results ↔ contexts.map r.tryRender = results.map .ok := by
  unfold renderMany
  induction contexts generalizing results with
  | nil => cases results <;> simp [pure, Except.pure]
  | cons c contexts ih =>
    rw [List.mapM_cons, List.map_cons]
    cases hc : r.tryRender c with
    | error shape => cases results <;> simp [bind, Except.bind]
    | ok result =>
      cases hrest : contexts.mapM r.tryRender with
      | error shape => cases results <;> simp [bind, Except.bind, ← ih, hrest]
      | ok rest => cases results <;> simp [bind, Except.bind, pure, Except.pure, ← ih, hrest]

theorem exists_renderMany (h : ∀ c ∈ contexts, c.HasResult) :
    ∃ results, r.renderMany contexts = .ok results := by
  induction contexts with
  | nil => exact ⟨[], rfl⟩
  | cons c contexts ih =>
    obtain ⟨result, hresult⟩ := exists_tryRender_iff (r := r).mpr (h c List.mem_cons_self)
    obtain ⟨rest, hrest⟩ := ih fun c hc => h c (List.mem_cons_of_mem _ hc)
    refine ⟨result :: rest, renderMany_eq_ok_iff.mpr ?_⟩
    rw [List.map_cons, List.map_cons, hresult, renderMany_eq_ok_iff.mp hrest]

/-- What stands at a place of a batch with results is what its context gives alone. -/
theorem getElem?_renderMany {results : List (Except Value String)}
    (h : r.renderMany contexts = .ok results) (i : Nat) :
    contexts[i]?.map r.tryRender = results[i]?.map .ok := by
  rw [← List.getElem?_map, ← List.getElem?_map, renderMany_eq_ok_iff.mp h]

theorem tryRender_of_getElem? {results : List (Except Value String)}
    (h : r.renderMany contexts = .ok results) {i : Nat} (hi : contexts[i]? = some c) :
    ∃ result, results[i]? = some result ∧ r.tryRender c = .ok result := by
  have hplace := getElem?_renderMany h i
  rw [hi, Option.map_some, eq_comm, Option.map_eq_some_iff] at hplace
  obtain ⟨result, hresult, hok⟩ := hplace
  exact ⟨result, hresult, hok.symm⟩

/-- In a batch whose other contexts have results, a heartbeat without a verdict is the result at its
place. -/
theorem renderMany_of_not_isVerdict {before after : List Context} (hs : ¬ h.status.IsVerdict)
    (hwritable : h.status.isWritable = true) (hothers : ∀ c ∈ before ++ after, c.HasResult) :
    ∃ results, r.renderMany (before ++ ⟨template, monitor, some h⟩ :: after) = .ok results ∧
      results[before.length]? = some (.error h.status) := by
  have hall : ∀ c ∈ before ++ ⟨template, monitor, some h⟩ :: after, c.HasResult := by
    intro c hc
    rcases List.mem_append.mp hc with hc | hc
    · exact hothers c (List.mem_append_left _ hc)
    · rcases List.mem_cons.mp hc with rfl | hc
      · exact .inl ⟨h, rfl, hs, hwritable⟩
      · exact hothers c (List.mem_append_right _ hc)
  obtain ⟨results, hresults⟩ := exists_renderMany (r := r) hall
  obtain ⟨result, hplace, hresult⟩ := tryRender_of_getElem? (i := before.length)
    (c := ⟨template, monitor, some h⟩) hresults (by simp)
  rw [tryRender_of_not_isVerdict hs hwritable] at hresult
  exact ⟨results, hresults, hplace.trans (congrArg some (Except.ok.inj hresult).symm)⟩

theorem renderMany_ne_of_isVerdict {before after : List Context}
    {results : List (Except Value String)} (hs : h.status.IsVerdict)
    (hresults : r.renderMany (before ++ ⟨template, monitor, some h⟩ :: after) = .ok results)
    (v : Value) : results[before.length]? ≠ some (.error v) := by
  intro hplace
  obtain ⟨result, hplace', hresult⟩ := tryRender_of_getElem? (i := before.length)
    (c := ⟨template, monitor, some h⟩) hresults (by simp)
  obtain rfl := Option.some.inj (hplace'.symm.trans hplace)
  exact tryRender_ne_of_isVerdict hs v hresult

/-- A batch has results exactly when each of its contexts has one by itself. Then they are those of
the contexts alone, and a context has the same result wherever it stands in any other batch. -/
theorem renderMany_isolates (r : Renderer) (contexts : List Context) :
    (∀ c ∈ contexts, c.HasResult) ↔
      ∃ results, r.renderMany contexts = .ok results ∧ results.length = contexts.length ∧
        (∀ (i : Nat) (c : Context), contexts[i]? = some c →
          ∃ result, results[i]? = some result ∧ r.tryRender c = .ok result) ∧
        ∀ others otherResults, r.renderMany others = .ok otherResults →
          ∀ (i j : Nat) (c : Context), contexts[i]? = some c → others[j]? = some c →
            results[i]? = otherResults[j]? := by
  constructor
  · intro h
    obtain ⟨results, hresults⟩ := exists_renderMany (r := r) h
    have hlength := congrArg List.length (renderMany_eq_ok_iff.mp hresults)
    refine ⟨results, hresults, by simpa using hlength.symm,
      fun i c hi => tryRender_of_getElem? hresults hi, ?_⟩
    intro others otherResults hothers i j c hi hj
    obtain ⟨result, hresult, hok⟩ := tryRender_of_getElem? hresults hi
    obtain ⟨other, hother, hok'⟩ := tryRender_of_getElem? hothers hj
    rw [hok] at hok'
    rw [hresult, hother, Except.ok.inj hok']
  · rintro ⟨results, hresults, -, hplaces, -⟩ c hc
    obtain ⟨i, hi⟩ := List.mem_iff_getElem?.mp hc
    obtain ⟨result, -, hok⟩ := hplaces i c hi
    exact exists_tryRender_iff.mp ⟨result, hok⟩

end

/-- A monitor whose type is a list takes the results of the other contexts with it. -/
theorem renderMany_list_type :
    let plain : Context := ⟨"up again", none, none⟩
    let listed : Context :=
      ⟨token "NAME", some (Monitor.ofFields [("type", .list [])]), none⟩
    (Renderer.mk "").renderMany [plain] = .ok [.ok "up again"] ∧
      ∀ results, (Renderer.mk "").renderMany [plain, listed] ≠ .ok results := by
  refine ⟨rfl, fun results h => ?_⟩
  cases h

end Renderer

end UptimeAlert.Template
