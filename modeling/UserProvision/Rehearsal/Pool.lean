import UserProvision.Invocation.Polled

/-!
# Rehearsed pools

A rehearsed pool answers from a script: for each connection what becomes of the check-out, of the
question about its server, and of the request; and for each check-in whether it succeeds. Gates hold
back polled check-outs and replies, and a script may cancel a token in the middle of a call.
-/

namespace UserProvision.Rehearsal

/-- The calls about a connection. -/
inductive Moment where
  | checkOut
  | description
  | send
  deriving DecidableEq, Repr

/-- The script of a connection. -/
structure Line where
  checkOutError : Option Error := none
  description : Except Error Description
  reply : Except Error RawDocument
  crash : Option Moment := none
  cancel : Option (Moment × Nat) := none
  deriving Repr

/-- A connection that was borrowed: its number among those of its pool, and its script. -/
structure Borrowed where
  number : Nat
  line : Line
  deriving Repr

/-- The gates of a pool. -/
inductive Gate where
  | checkOut
  | reply
  deriving DecidableEq, Repr

/-- A rehearsed pool: what is left of its script, its gates, and what happened to it. -/
structure Stand where
  lines : List Line := []
  checkIns : List (Option Error) := []
  checkOutOpen : Bool := true
  replyOpen : Bool := true
  delivered : Nat := 0
  handedBack : List (Nat × CheckInState) := []
  requests : List Request := []
  deriving Repr

namespace Stand

def setGate (s : Stand) (gate : Gate) (isOpen : Bool) : Stand :=
  match gate with
  | .checkOut => { s with checkOutOpen := isOpen }
  | .reply => { s with replyOpen := isOpen }

end Stand

/-- Some rehearsed pools, and the tokens by which invocations on them are cancelled. -/
structure World where
  stands : List Stand
  tokens : List Bool := []
  deriving Repr

namespace World

def stand (w : World) (b : Nat) : Stand := w.stands.getD b {}

def setStand (w : World) (b : Nat) (s : Stand) : World := { w with stands := w.stands.set b s }

def cancel (w : World) (token : Nat) : World := { w with tokens := w.tokens.set token true }

/-- Cancels the token that a script cancels at a moment. -/
def cancelAt (w : World) (line : Line) (moment : Moment) : World :=
  match line.cancel with
  | some (m, token) => if m = moment then w.cancel token else w
  | none => w

/-- The message of every crash. -/
def crashMessage : String := "scripted panic"

/-- Takes the next line of a script and follows it up to the delivery of the connection. -/
def checkOut (b : Nat) (w : World) : Answer Borrowed × World :=
  let s := w.stand b
  match s.lines with
  | [] => (.fails (.connectionUnavailable "no connection scripted"), w)
  | line :: rest =>
    let s := { s with lines := rest }
    match line.checkOutError with
    | some e => (.fails e, (w.setStand b s).cancelAt line .checkOut)
    | none =>
      let number := s.delivered + 1
      (.gives ⟨number, line⟩,
        (w.setStand b { s with delivered := number }).cancelAt line .checkOut)

def describe (c : Borrowed) (w : World) : Answer Description × World :=
  if c.line.crash = some .description then (.crashes crashMessage, w)
  else
    let answer := match c.line.description with
      | .ok d => .gives d
      | .error e => .fails e
    (answer, w.cancelAt c.line .description)

/-- Notes a request. A script that crashes here does not cancel any more. -/
def send (b : Nat) (c : Borrowed) (request : Request) (w : World) : World :=
  let s := w.stand b
  let w := w.setStand b { s with requests := s.requests ++ [request] }
  if c.line.crash = some .send then w else w.cancelAt c.line .send

def reply (c : Borrowed) : Answer RawDocument :=
  if c.line.crash = some .send then .crashes crashMessage
  else match c.line.reply with
    | .ok reply => .gives reply
    | .error e => .fails e

/-- A crash does not wait for the gate. -/
def pollReply (b : Nat) (c : Borrowed) (w : World) : Option (Answer RawDocument) × World :=
  if c.line.crash = some .send ∨ (w.stand b).replyOpen then (some (reply c), w) else (none, w)

def checkIn (b : Nat) (c : Borrowed) (state : CheckInState) (w : World) : Answer Unit × World :=
  let s := w.stand b
  let answer := match s.checkIns with
    | some e :: _ => .fails e
    | _ => .gives ()
  (answer, w.setStand b
    { s with checkIns := s.checkIns.drop 1, handedBack := s.handedBack ++ [(c.number, state)] })

/-- Whether a token was cancelled; without a token nothing is. -/
def isCancelled (token : Option Nat) (w : World) : Bool :=
  match token with
  | some t => w.tokens.getD t false
  | none => false

end World

/-- A rehearsed pool as an invocation with a token sees it. -/
def pool (b : Nat) (token : Option Nat) : Pool World Borrowed where
  checkOut := World.checkOut b
  pollCheckOut w := if (w.stand b).checkOutOpen then
      let (answer, w) := World.checkOut b w
      (some answer, w)
    else (none, w)
  describe := World.describe
  exchange c request w := (World.reply c, World.send b c request w)
  send := World.send b
  pollReply := World.pollReply b
  checkIn := World.checkIn b
  isCancelled := World.isCancelled token

end UserProvision.Rehearsal
