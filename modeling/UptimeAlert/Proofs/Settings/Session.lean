import Mathlib.Data.List.Induction
import UptimeAlert.Settings.Session

namespace UptimeAlert.Settings

namespace Step

def change (env : Environment) : Step → Environment
  | .set name value => env.set name value
  | .unset name => env.unset name
  | _ => env

def clears : Step → Bool
  | .clear => true
  | .validate => true
  | _ => false

/-- A step loads settings, unless it finds some that are held. -/
def loads : Step → Bool
  | .get => true
  | .validate => true
  | _ => false

end Step

def environmentAfter (env : Environment) (steps : List Step) : Environment :=
  steps.foldl Step.change env

/-- The last ones of some steps are those since the settings were cleared, with the step that
cleared them, or all steps if none did. -/
structure IsRecent (before recent : List Step) : Prop where
  head : before = [] ∨ ∃ x ∈ recent.head?, x.clears = true
  tail : ∀ x ∈ recent.tail, x.clears = false

/-- The number of the settings and the settings themselves, of an answer that has some. -/
def Answer.loaded? : Answer → Option Loaded
  | .settings (.ok loaded) => some loaded
  | .verdict (.ok loaded) => loaded
  | _ => none

variable {file : Option (List UInt8)} {env : Environment} {s : Session} {x : Step}
  {before recent steps more : List Step} {loaded : Loaded}

theorem environmentAfter_append (env : Environment) (steps more : List Step) :
    environmentAfter env (steps ++ more) = environmentAfter (environmentAfter env steps) more :=
  List.foldl_append

/-- A step that does not clear the cache belongs to the steps since the last clearing. -/
theorem IsRecent.concat (h : IsRecent before recent) (hx : x.clears = false) :
    IsRecent before (recent ++ [x]) := by
  cases recent with
  | nil =>
    have hbefore : before = [] := by simpa using h.head
    exact ⟨.inl hbefore, by simp⟩
  | cons y recent =>
    refine ⟨h.head, fun z hz => ?_⟩
    rcases List.mem_append.mp hz with hz | hz
    · exact h.tail z hz
    · rw [List.mem_singleton.mp hz, hx]

theorem isRecent_singleton (before : List Step) (hx : x.clears = true) : IsRecent before [x] :=
  ⟨.inr ⟨x, rfl, hx⟩, by simp⟩

theorem verdictOf_eq_nothing_iff (result : Except LoadError Loaded) :
    verdictOf result = .ok none ↔ ∃ issues, result = .error (.invalid issues) := by
  cases result with
  | ok loaded => simp [verdictOf]
  | error e => cases e <;> simp [verdictOf]

variable [Platform]

/-- The settings of the first step that loads and for which loading goes well. -/
def firstLoaded? (file : Option (List UInt8)) (env : Environment) : List Step → Option Settings
  | [] => none
  | x :: steps =>
    (if x.loads then (load env file).toOption else none).or
      (firstLoaded? file (x.change env) steps)

theorem firstLoaded?_concat (env : Environment) (steps : List Step) (x : Step) :
    firstLoaded? file env (steps ++ [x]) =
      (firstLoaded? file env steps).or
        (if x.loads then (load (environmentAfter env steps) file).toOption else none) := by
  induction steps generalizing env with
  | nil => simp [firstLoaded?, environmentAfter]
  | cons y steps ih =>
    rw [List.cons_append, firstLoaded?, ih, firstLoaded?, Option.or_assoc]
    rfl

namespace Session

theorem after_append (s : Session) (steps more : List Step) :
    s.after file (steps ++ more) = (s.after file steps).after file more :=
  List.foldl_append

theorem after_append_singleton (s : Session) (steps : List Step) (x : Step) :
    s.after file (steps ++ [x]) = ((s.after file steps).step file x).2 :=
  after_append s steps [x]

/-- What every step of a kind preserves, all steps of that kind preserve. -/
theorem after_of_step {P : Session → Prop} {other : Step → Bool}
    (hstep : ∀ s x, P s → other x = false → P (s.step file x).2) (h : P s)
    (hmore : ∀ x ∈ more, other x = false) : P (s.after file more) := by
  induction more generalizing s with
  | nil => exact h
  | cons x more ih =>
    have hx : P (s.step file x).2 := hstep s x h (hmore x List.mem_cons_self)
    exact ih hx fun y hy => hmore y (List.mem_cons_of_mem x hy)

theorem env_step (s : Session) (x : Step) : (s.step file x).2.env = x.change s.env := by
  cases x <;> rfl

theorem env_after (s : Session) (steps : List Step) :
    (s.after file steps).env = environmentAfter s.env steps := by
  induction steps generalizing s with
  | nil => rfl
  | cons x steps ih => rw [after, List.foldl_cons, ← after, ih, env_step]; rfl

theorem env_after_start (env : Environment) (steps : List Step) :
    ((start env).after file steps).env = environmentAfter env steps :=
  env_after (start env) steps

/-- What is held after a step: what was held before it unless the step clears it, or else what the
step loads. -/
theorem held_step (file : Option (List UInt8)) (s : Session) (x : Step) :
    (s.step file x).2.cache.held.map Loaded.settings =
      (if x.clears then none else s.cache.held.map Loaded.settings).or
        (if x.loads then (load s.env file).toOption else none) := by
  cases x with
  | get =>
    cases hheld : s.cache.held <;> cases hload : load s.env file <;>
      simp [step, Cache.get, hheld, hload, Step.clears, Step.loads, Except.toOption]
  | validate =>
    cases hload : load s.env file <;>
      simp [step, Cache.reload, Cache.clear, Cache.get, hload, Step.clears, Step.loads,
        Except.toOption]
  | clear => rfl
  | _ => simp [step, Step.clears, Step.loads]

/-- What is held after steps is what was loaded first since the settings were cleared. -/
theorem held_after (file : Option (List UInt8)) (env : Environment) (history : List Step) :
    ∃ before recent, history = before ++ recent ∧ IsRecent before recent ∧
      ((start env).after file history).cache.held.map Loaded.settings =
        firstLoaded? file (environmentAfter env before) recent := by
  -- On the last step: one that clears cuts off all before it, any other one extends the rest.
  induction history using List.reverseRecOn with
  | nil => exact ⟨[], [], rfl, ⟨.inl rfl, by simp⟩, rfl⟩
  | append_singleton history x ih =>
    obtain ⟨before, recent, rfl, hrecent, hheld⟩ := ih
    have hafter : ((start env).after file (before ++ recent ++ [x])).cache.held.map
        Loaded.settings =
      (if x.clears then none else firstLoaded? file (environmentAfter env before) recent).or
        (if x.loads then (load (environmentAfter env (before ++ recent)) file).toOption
          else none) := by
      have hstep := held_step file ((start env).after file (before ++ recent)) x
      rwa [hheld, env_after_start, ← after_append_singleton] at hstep
    cases hx : x.clears with
    | true =>
      refine ⟨before ++ recent, [x], rfl, isRecent_singleton _ hx, ?_⟩
      rw [hafter, hx, firstLoaded?]
      simp [firstLoaded?]
    | false =>
      refine ⟨before, recent ++ [x], by simp, hrecent.concat hx, ?_⟩
      rw [hafter, hx, firstLoaded?_concat, environmentAfter_append]
      rfl

theorem held_step_of_held (h : s.cache.held = some loaded) (hx : x.clears = false) :
    (s.step file x).2.cache.held = some loaded := by
  cases x with
  | get => simp [step, Cache.get, h]
  | clear | validate => cases hx
  | _ => exact h

theorem held_after_of_held (h : s.cache.held = some loaded)
    (hmore : ∀ x ∈ more, x.clears = false) :
    (s.after file more).cache.held = some loaded :=
  after_of_step (P := fun s => s.cache.held = some loaded) (fun _ _ => held_step_of_held) h hmore

theorem held_step_of_none (h : s.cache.held = none) (hx : x.loads = false) :
    (s.step file x).2.cache.held = none := by
  cases x with
  | get | validate => cases hx
  | clear => rfl
  | _ => exact h

theorem held_after_of_none (file : Option (List UInt8)) (h : s.cache.held = none)
    (hmore : ∀ x ∈ more, x.loads = false) :
    (s.after file more).cache.held = none :=
  after_of_step (P := fun s => s.cache.held = none) (fun _ _ => held_step_of_none) h hmore

/-- After a step that loads, what its answer has is held. -/
theorem held_step_of_loads (s : Session) (hx : x.loads = true) :
    (s.step file x).2.cache.held = (s.step file x).1.loaded? := by
  cases x with
  | get =>
    cases hheld : s.cache.held <;> cases hload : load s.env file <;>
      simp [step, Cache.get, hheld, hload, Answer.loaded?]
  | validate =>
    cases hload : load s.env file with
    | ok settings =>
      simp [step, Cache.reload, Cache.clear, Cache.get, hload, Answer.loaded?, verdictOf]
    | error e =>
      cases e <;>
        simp [step, Cache.reload, Cache.clear, Cache.get, hload, Answer.loaded?, verdictOf]
  | _ => cases hx

theorem get_of_held (h : s.cache.held = some loaded) :
    (s.step file .get).1 = .settings (.ok loaded) := by
  simp [step, Cache.get, h]

theorem get_of_none (file : Option (List UInt8)) (h : s.cache.held = none) :
    (s.step file .get).1 =
      .settings ((load s.env file).map fun settings => ⟨s.cache.loads, settings⟩) := by
  cases hload : load s.env file <;> simp [step, Cache.get, h, hload, Except.map]

theorem validate_answer (file : Option (List UInt8)) (s : Session) :
    (s.step file .validate).1 =
      .verdict (verdictOf ((load s.env file).map fun settings => ⟨s.cache.loads, settings⟩)) := by
  cases hload : load s.env file <;>
    simp [step, Cache.reload, Cache.clear, Cache.get, hload, Except.map]

def answerAfter (file : Option (List UInt8)) (env : Environment) (history : List Step) (x : Step) :
    Answer :=
  (((start env).after file history).step file x).1

/-- What is answered after some steps, told by those steps and the environment alone. -/
structure IsFaithful (file : Option (List UInt8)) (env : Environment) (history : List Step) :
    Prop where
  /-- Settings are those of the first load that went well since they were cleared last, the load for
  this answer included. -/
  get : ∃ before recent, history = before ++ recent ∧ IsRecent before recent ∧
    match firstLoaded? file (environmentAfter env before) (recent ++ [.get]) with
    | some settings =>
      ∃ number, answerAfter file env history .get = .settings (.ok ⟨number, settings⟩)
    | none => ∃ e, load (environmentAfter env history) file = .error e ∧
      answerAfter file env history .get = .settings (.error e)
  /-- Settings that were answered stay the answer until they are cleared. -/
  kept : ∀ x : Step, x.loads = true →
    ∀ loaded, (answerAfter file env history x).loaded? = some loaded →
    ∀ more : List Step, (∀ y ∈ more, y.clears = false) →
      answerAfter file env (history ++ x :: more) .get = .settings (.ok loaded)
  /-- Where none were answered, they are loaded from what the environment is by then. -/
  fresh : ∀ x : Step, x.loads = true → (answerAfter file env history x).loaded? = none →
    ∀ more : List Step, (∀ y ∈ more, y.loads = false) →
      ∃ number, answerAfter file env (history ++ x :: more) .get =
        .settings ((load (environmentAfter env (history ++ x :: more)) file).map (⟨number, ·⟩))
  /-- A validation loads anew, and answers with nothing just where fields have issues. -/
  validate : ∃ number, answerAfter file env history .validate =
      .verdict (verdictOf ((load (environmentAfter env history) file).map (⟨number, ·⟩))) ∧
    (answerAfter file env history .validate = .verdict (.ok none) ↔
      ∃ issues, load (environmentAfter env history) file = .error (.invalid issues))

theorem answerAfter_append_cons (history : List Step) (x : Step) (more : List Step) :
    answerAfter file env (history ++ x :: more) .get =
      (((((start env).after file history).step file x).2.after file more).step file .get).1 := by
  rw [answerAfter, after_append]
  rfl

/-- Every answer is faithful, whatever was done before. -/
theorem isFaithful (file : Option (List UInt8)) (env : Environment) (history : List Step) :
    IsFaithful file env history where
  get := by
    obtain ⟨before, recent, hhistory, hrecent, hheld⟩ := held_after file env history
    refine ⟨before, recent, hhistory, hrecent, ?_⟩
    have henv : environmentAfter (environmentAfter env before) recent =
        environmentAfter env history := by
      rw [hhistory, environmentAfter_append]
    rw [firstLoaded?_concat, henv, ← hheld]
    cases hcache : ((start env).after file history).cache.held with
    | some loaded => exact ⟨loaded.number, get_of_held hcache⟩
    | none =>
      have hanswer := get_of_none file hcache
      rw [env_after_start] at hanswer
      cases hload : load (environmentAfter env history) file with
      | ok settings =>
        exact ⟨_, hanswer.trans (by rw [hload]; rfl)⟩
      | error e => exact ⟨e, rfl, hanswer.trans (by rw [hload]; rfl)⟩
  kept x hx loaded hloaded more hmore := by
    rw [answerAfter_append_cons]
    refine get_of_held (held_after_of_held ?_ hmore)
    rw [held_step_of_loads _ hx]
    exact hloaded
  fresh x hx hnone more hmore := by
    rw [answerAfter_append_cons]
    have hstep := (held_step_of_loads ((start env).after file history) hx).trans hnone
    have hanswer := get_of_none file (held_after_of_none file hstep hmore)
    rw [env_after, env_step, env_after_start] at hanswer
    rw [environmentAfter_append]
    exact ⟨_, hanswer⟩
  validate := by
    have hanswer := validate_answer file ((start env).after file history)
    rw [env_after_start] at hanswer
    refine ⟨_, hanswer, ?_⟩
    rw [answerAfter, hanswer, Answer.verdict.injEq, verdictOf_eq_nothing_iff]
    cases load (environmentAfter env history) file <;> simp [Except.map]

theorem getElem?_answers (s : Session) (steps : List Step) (i : Nat) :
    (s.answers file steps)[i]? =
      steps[i]?.map fun x => ((s.after file (steps.take i)).step file x).1 := by
  induction steps generalizing s i with
  | nil => rfl
  | cons x steps ih =>
    cases i with
    | zero => rfl
    | succ i => exact ih (s.step file x).2 i

/-- Each answer of a session is the faithful one to its step after the steps before it. -/
theorem answers_faithful (file : Option (List UInt8)) (env : Environment) (steps : List Step)
    (i : Nat) :
    ((start env).answers file steps)[i]? = steps[i]?.map (answerAfter file env (steps.take i)) ∧
      IsFaithful file env (steps.take i) :=
  ⟨getElem?_answers (start env) steps i, isFaithful file env (steps.take i)⟩

end Session

end UptimeAlert.Settings
