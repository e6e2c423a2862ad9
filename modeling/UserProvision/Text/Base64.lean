import UserProvision.Bytes

/-!
# Base 64

Three bytes as four characters of the standard alphabet, the last group filled up with `=`. Reading
accepts nothing that writing does not produce.
-/

namespace UserProvision.Base64

/-- The standard alphabet, by value. -/
def alphabet : List Char :=
  "ABCDEFGHIJKLMNOPQRSTUVWXYZabcdefghijklmnopqrstuvwxyz0123456789+/".toList

def digit (n : Nat) : Char := alphabet.getD n 'A'

def digit? (c : Char) : Option Nat := alphabet.idxOf? c

def encodeChars : Bytes → List Char
  | [] => []
  | [a] =>
    let n := a.toNat * 16
    [digit (n / 64), digit (n % 64), '=', '=']
  | [a, b] =>
    let n := (a.toNat * 256 + b.toNat) * 4
    [digit (n / 4096), digit (n / 64 % 64), digit (n % 64), '=']
  | a :: b :: c :: rest =>
    let n := (a.toNat * 256 + b.toNat) * 256 + c.toNat
    digit (n / 262144) :: digit (n / 4096 % 64) :: digit (n / 64 % 64) :: digit (n % 64) ::
      encodeChars rest

def encode (bytes : Bytes) : String := String.ofList (encodeChars bytes)

/-- Reads groups of four characters; the bits that a filler stands for must be zero. -/
def decodeChars : List Char → Option Bytes
  | [] => some []
  | [p, q, '=', '='] => do
    let n := (← digit? p) * 64 + (← digit? q)
    if n % 16 = 0 then return [UInt8.ofNat (n / 16)] else none
  | [p, q, r, '='] => do
    let n := ((← digit? p) * 64 + (← digit? q)) * 64 + (← digit? r)
    if n % 4 = 0 then return [UInt8.ofNat (n / 1024), UInt8.ofNat (n / 4)] else none
  | p :: q :: r :: s :: rest => do
    let n := (((← digit? p) * 64 + (← digit? q)) * 64 + (← digit? r)) * 64 + (← digit? s)
    let tail ← decodeChars rest
    return UInt8.ofNat (n / 65536) :: UInt8.ofNat (n / 256) :: UInt8.ofNat n :: tail
  | _ => none

def decode? (text : String) : Option Bytes := decodeChars text.toList

end UserProvision.Base64
