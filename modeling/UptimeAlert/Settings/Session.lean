import UptimeAlert.Settings.Cache

namespace UptimeAlert.Settings

inductive Step where
  | set (name value : String)
  | unset (name : String)
  | get
  | clear
  | validate
  deriving DecidableEq, Repr

/-- The answer to a step. A validation answers with nothing where it told issues. -/
inductive Answer where
  | done
  | settings (result : Except LoadError Loaded)
  | verdict (result : Except LoadError (Option Loaded))

/-- What a validation makes of a load. Only issues of fields are told, other errors are not its
own. -/
def verdictOf : Except LoadError Loaded → Except LoadError (Option Loaded)
  | .ok loaded => .ok (some loaded)
  | .error (.invalid _) => .ok none
  | .error e => .error e

/-- Where a session stands: the environment and the settings that are held. -/
structure Session where
  env : Environment
  cache : Cache

namespace Session

variable [Platform]

/-- The session in which nothing was loaded yet. -/
def start (env : Environment) : Session := ⟨env, .empty⟩

/-- The answer to a step and where the session stands then. -/
def step (file : Option (List UInt8)) (s : Session) : Step → Answer × Session
  | .set name value => (.done, { s with env := s.env.set name value })
  | .unset name => (.done, { s with env := s.env.unset name })
  | .clear => (.done, { s with cache := s.cache.clear })
  | .get =>
    let (result, cache) := s.cache.get (load s.env file)
    (.settings result, { s with cache })
  | .validate =>
    let (result, cache) := s.cache.reload (load s.env file)
    (.verdict (verdictOf result), { s with cache })

def after (file : Option (List UInt8)) (s : Session) (steps : List Step) : Session :=
  steps.foldl (fun s x => (s.step file x).2) s

def answers (file : Option (List UInt8)) (s : Session) : List Step → List Answer
  | [] => []
  | x :: steps => (s.step file x).1 :: answers file (s.step file x).2 steps

end Session

end UptimeAlert.Settings
