import UserProvision.Rehearsal.Pool

/-!
# Rehearsed sessions

A session steps through invocations on rehearsed pools: blocking ones, and polled ones that are
started, polled, dropped and cancelled in any order.
-/

namespace UserProvision.Rehearsal

/-- Rehearsals tell messages in the plain wording. -/
instance : CoeOut Message String := ⟨Message.text⟩

/-- A polled invocation of a session, with the pool that it borrows from and its token. -/
structure Player where
  pool : Nat
  token : Option Nat
  invocation : Invocation Borrowed
  deriving Repr

/-- The pools and tokens of a session, and the polled invocations it has started. -/
structure Session where
  world : World
  players : List Player := []
  deriving Repr

/-- A step of a session. -/
inductive Step where
  | execute (u : NewUser) (pool : Nat)
  | start (u : NewUser) (pool : Nat) (token : Option Nat)
  | poll (player : Nat)
  | drop (player : Nat)
  | cancel (token : Nat)
  | setGate (pool : Nat) (gate : Gate) (isOpen : Bool)

/-- What a step did. -/
inductive Did where
  | progress (p : Progress)
  | started (player : Nat)
  | dropped
  | gone
  | cancelled
  | setGate (isOpen : Bool)
  deriving Repr

/-- What a step did and logged. -/
structure Report where
  did : Did
  events : List Event := []
  deriving Repr

namespace Session

/-- Sets the state of an invocation and of the pools after a turn. -/
def after (s : Session) (player : Nat) (p : Player)
    (turn : Turn World Borrowed × Invocation Borrowed) : Session :=
  { world := turn.1.pool, players := s.players.set player { p with invocation := turn.2 } }

/-- The invocation with a number, unless it has ended. -/
def player? (s : Session) (player : Nat) : Option Player :=
  (s.players[player]?).filter fun p => !p.invocation.isOver

def step (s : Session) : Step → Report × Session
  | .execute u b =>
    let turn := u.execute (Rehearsal.pool b none) .zero s.world
    (⟨.progress turn.progress, turn.events⟩, { s with world := turn.pool })
  | .start u b token =>
    (⟨.started s.players.length, []⟩,
      { s with players := s.players ++ [⟨b, token, Invocation.start u .zero⟩] })
  | .poll player =>
    match s.player? player with
    | none => (⟨.gone, []⟩, s)
    | some p =>
      let turn := p.invocation.poll (Rehearsal.pool p.pool p.token) s.world
      (⟨.progress turn.1.progress, turn.1.events⟩, s.after player p turn)
  | .drop player =>
    match s.player? player with
    | none => (⟨.gone, []⟩, s)
    | some p =>
      let turn := p.invocation.drop (Rehearsal.pool p.pool p.token) s.world
      (⟨.dropped, turn.1.events⟩, s.after player p turn)
  | .cancel token => (⟨.cancelled, []⟩, { s with world := s.world.cancel token })
  | .setGate b gate isOpen =>
    (⟨.setGate isOpen, []⟩,
      { s with world := s.world.setStand b ((s.world.stand b).setGate gate isOpen) })

/-- All steps in order. After each one comes its report and the session as it is then. -/
def run (s : Session) : List Step → List (Report × Session)
  | [] => []
  | first :: rest =>
    let done := s.step first
    done :: run done.2 rest

/-- Polls an invocation until it ends, but not more often than the given number of times. -/
def pollUpTo (count : Nat) (s : Session) (player : Nat) : Report × Session :=
  match count with
  | 0 => (⟨.progress .pending, []⟩, s)
  | count + 1 =>
    let (report, s) := s.step (.poll player)
    match report.did with
    | .progress .pending =>
      let (later, s) := s.pollUpTo count player
      (⟨later.did, report.events ++ later.events⟩, s)
    | _ => (report, s)

/-- One blocking invocation on the only pool of a session. -/
def runBlocking (stand : Stand) (u : NewUser) : Report × Session :=
  step { world := { stands := [stand] } } (.execute u 0)

/-- One polled invocation on the only pool of a session: it is polled at most three times, and
dropped if it has not ended by then. -/
def runPolled (stand : Stand) (u : NewUser) : Report × Session :=
  let (_, s) := step { world := { stands := [stand] } } (.start u 0 none)
  let (report, s) := s.pollUpTo 3 0
  let (left, s) := s.step (.drop 0)
  (⟨report.did, report.events ++ left.events⟩, s)

end Session

end UserProvision.Rehearsal
