import TabletopBot.IpAddress

/-! # Socket addresses

An address and a port to listen on: `a.b.c.d:port`, or `[…]:port` with an IPv6 address, which may carry a
scope. Numbers have no sign; ports may have leading zeros. An address is printed in its one canonical
form.
-/

namespace TabletopBot.Config

inductive SocketAddress where
  | v4 (octets : List Nat) (port : Nat)
  | v6 (groups : List Nat) (scope : Nat) (port : Nat)
deriving DecidableEq, Repr

namespace SocketAddress

open IpAddress (decimal? mark? octets? v6Groups? v4Text joined)

/-- A colon and a port at the end of the text. -/
def port? (chars : List Char) : Option Nat := do
  let (port, rest) ← decimal? 65535 (← mark? ':' chars)
  if rest.isEmpty then some port else none

/-- A percent sign and a scope, or no scope. -/
def scope? (chars : List Char) : Option (Nat × List Char) :=
  match mark? '%' chars with
  | none => some (0, chars)
  | some rest => decimal? 4294967295 rest

def v4? (chars : List Char) : Option SocketAddress := do
  let (octets, rest) ← octets? chars
  some (.v4 octets (← port? rest))

def v6? (chars : List Char) : Option SocketAddress := do
  let (groups, rest) ← v6Groups? (← mark? '[' chars)
  let (scope, rest) ← scope? rest
  some (.v6 groups scope (← port? (← mark? ']' rest)))

def parse? (text : String) : Option SocketAddress := v4? text.toList <|> v6? text.toList

/-- The canonical text of an IPv6 address. An IPv4 address in it is written as one. -/
def v6Text : List Nat → String
  | [0, 0, 0, 0, 0, 0xFFFF, high, low] =>
    "::ffff:" ++ v4Text [high / 256, high % 256, low / 256, low % 256]
  | groups => IpAddress.v6Text groups

def render : SocketAddress → String
  | .v4 octets port => v4Text octets ++ ":" ++ joined 10 "" [port]
  | .v6 groups scope port =>
    let zone := if scope = 0 then "" else "%" ++ joined 10 "" [scope]
    "[" ++ v6Text groups ++ zone ++ "]:" ++ joined 10 "" [port]

end SocketAddress

end TabletopBot.Config
