import Milp.Session.Basic
set_option autoImplicit false

/-! # What callers can reach

A model that nobody can reach any more is released. Objects are reached from the names that callers
gave, and from engines that they have met, whose log of calls keeps what it mentions; whatever is part
of a circle is kept as well. Main statement: what is known to be reached stays so
(`Session.mem_reach`). -/

namespace Milp.Session

/-! ## Mentions -/

mutual

/-- The objects that a value mentions. -/
def mentioned : Value → List Ref
  | .ref r | .part _ r => [r]
  | .list xs | .tuple xs | .array _ xs => mentionedIn xs
  | .table es => mentionedInEntries es
  | .cell _ x => mentioned x
  | _ => []

def mentionedIn : List Value → List Ref
  | [] => []
  | x :: xs => mentioned x ++ mentionedIn xs

def mentionedInEntries : List (Value × Value) → List Ref
  | [] => []
  | (k, v) :: rest => mentioned k ++ mentioned v ++ mentionedInEntries rest

end

/-- The objects that an engine mentions. -/
def mentionedByEngine (e : Engine) : List Ref :=
  mentioned e.modelName ++ mentionedInEntries e.parameters ++
    e.calls.flatMap (fun c => mentionedIn (c.payload.map Prod.snd)) ++
    mentionedIn (e.columns.map (·.name)) ++ mentionedIn (e.rows.map (·.name)) ++
    match e.backend with
    | .faulty fs => mentionedIn (fs.flatMap fun f => [f.operation, f.code, f.times])
    | _ => []

/-- The objects that an object mentions, apart from its notes. -/
def mentionedBy (s : Session) : Ref → List Ref
  | .settings i => ((s.settings.node? i).map fun n => mentionedInEntries n.entries).getD []
  | .environment i => (s.environments[i]?.map fun e => [Ref.settings e.settings]).getD []
  | .model i =>
    (s.models[i]?.map fun m =>
      mentioned m.name ++ [.environment m.environment, .engine (.ofModel i)]).getD []
  | .engine r => ((s.engineAt? r).map mentionedByEngine).getD []
  | .handler _ | .solver _ => []

/-- The objects that an object mentions. -/
def next (s : Session) (r : Ref) : List Ref :=
  s.mentionedBy r ++ s.settings.notes.flatMap fun n => if n.owner = r then mentioned n.value else []

/-! ## Reaching -/

/-- Adds what can be reached from some work to what has been reached, in a number of steps. -/
def reach (s : Session) : Nat → List Ref → List Ref → List Ref
  | 0, reached, _ => reached
  | _ + 1, reached, [] => reached
  | steps + 1, reached, r :: work =>
    let fresh := ((s.next r).filter fun t => !reached.contains t).eraseDups
    s.reach steps (fresh ++ reached) (fresh ++ work)

theorem mem_reach {s : Session} {steps : Nat} {reached work : List Ref} {r : Ref}
    (h : r ∈ reached) : r ∈ s.reach steps reached work := by
  induction steps generalizing reached work with
  | zero => exact h
  | succ n ih =>
    cases work with
    | nil => exact h
    | cons t rest => exact ih (List.mem_append_right _ h)

/-- The number of objects in a session. -/
def size (s : Session) : Nat :=
  s.settings.nodes.length + s.environments.length + 2 * s.models.length + s.engines.length +
    s.handlers.length + s.solver.instances.length

/-- Everything that can be reached from some objects. -/
def reachable (s : Session) (roots : List Ref) : List Ref :=
  s.reach (2 * s.size + roots.length + 1) roots.eraseDups roots.eraseDups

/-- Whether an object can be reached from itself. -/
def isCircular (s : Session) (r : Ref) : Bool := (s.reachable (s.next r)).contains r

/-- Where callers start from: names, met engines, and a value that has just been answered. -/
def roots (s : Session) (answered : Value) : List Ref :=
  mentioned answered ++ s.names.flatMap (fun n => mentioned n.2) ++
    s.met.map fun m => Ref.engine m.1

/-- Objects that are part of a circle. -/
def circles (s : Session) : List Ref :=
  let nodes := (List.range s.settings.nodes.length).map Ref.settings
  let models := (List.range s.models.length).map Ref.model
  (nodes ++ models).filter s.isCircular

/-- The models that have not ended. -/
def livingModels (s : Session) : List Nat :=
  (List.range s.models.length).filter fun i => s.models[i]?.any fun m => !m.ended

/-- The models that callers cannot reach any more. -/
def lostModels (s : Session) (answered : Value) : List Nat :=
  let named := s.names.flatMap fun n => mentioned n.2
  let doubtful := s.livingModels.filter fun i => !named.contains (.model i)
  if doubtful.isEmpty then []
  else
    let reached := s.reachable (s.roots answered)
    let lost := doubtful.filter fun i => !reached.contains (.model i)
    if lost.isEmpty then []
    else
      let kept := s.reachable s.circles
      lost.filter fun i => !kept.contains (.model i)

/-- Releases the models that callers cannot reach any more. -/
def releaseLost (s : Session) (answered : Value) : Session :=
  (s.lostModels answered).foldl (fun s i => ((onModel i Model.finalize).perform s).2) s

end Milp.Session
