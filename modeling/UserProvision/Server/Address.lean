import UserProvision.Failure.Wording

/-!
# Server addresses

A host and perhaps a port. An address without a port means the default port wherever it is compared,
printed or logged.
-/

namespace UserProvision

/-- Where a server can be found. -/
structure Address where
  host : String
  port : Option UInt16
  deriving DecidableEq, Repr

namespace Address

def defaultPort : UInt16 := 27017

/-- The server on this machine. -/
def localhost : Address := ⟨"localhost", none⟩

/-- The port that is connected to. -/
def effectivePort (a : Address) : UInt16 := a.port.getD defaultPort

/-- Whether two addresses mean the same server. -/
def sameAs (a b : Address) : Bool := a.host == b.host && a.effectivePort == b.effectivePort

/-- What a hash of an address is made of. -/
def hashInput (a : Address) : String × UInt16 := (a.host, a.effectivePort)

def text (a : Address) : String := a.host ++ ":" ++ toString a.effectivePort.toNat

/-- Reads a port, which is not zero. -/
def port? (chars : List Char) : Option UInt16 :=
  match Digits.unsigned? chars with
  | some n => if 0 < n ∧ n < 2 ^ 16 then some (UInt16.ofNat n) else none
  | none => none

/-- Reads a host, and a port after the first colon. -/
def ofText? (text : String) : Option Address :=
  let host := text.toList.takeWhile (· != ':')
  if host.isEmpty then none
  else match text.toList.dropWhile (· != ':') with
    | [] => some ⟨text, none⟩
    | _ :: digits => (port? digits).map fun port => ⟨String.ofList host, some port⟩

/-- Reads an address. -/
def parse (text : String) : Except Error Address :=
  match ofText? text with
  | some a => .ok a
  | none => .error (.invalidArgument ("invalid server address: " ++ text))

def inspect (a : Address) : String :=
  Inspect.record "ServerAddress"
    [("host", Quoted.quote a.host),
      ("port", Inspect.option (fun port => toString port.toNat) a.port)]

end Address

end UserProvision
