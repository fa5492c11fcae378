/-
Where an endpoint listens: an IPv4 or IPv6 address and the endpoint's number there. The text of an
address is its canonical one (four decimal numbers; or eight hexadecimal groups, the longest run of
zero groups written as two colons), and reading accepts every usual spelling of an IPv6 address but
no zero in front of a decimal octet.
-/
import Parley.Text.Decimal

namespace Parley.Net

/-- An internet address; a version 6 address may name the interface it belongs to. -/
inductive Ip where
  | v4 (octets : Vector UInt8 4)
  | v6 (groups : Vector UInt16 8) (scope : UInt32)
  deriving DecidableEq, Repr

/-- An internet address and the number of an endpoint there. -/
structure Address where
  ip : Ip
  portNumber : UInt16
  deriving DecidableEq, Repr

namespace Address

/-- Every local address, with an endpoint number. -/
def anywhere (portNumber : UInt16) : Address := ⟨.v4 #v[0, 0, 0, 0], portNumber⟩

/-- The local machine, with an endpoint number that the system picks. -/
def loopback : Address := ⟨.v4 #v[127, 0, 0, 1], 0⟩

/-! ## Writing -/

/-- Octets in decimal with dots between them. -/
def dotted (octets : List Nat) : Text :=
  ['.'].intercalate (octets.map Text.decimal)

/-- Groups in hexadecimal with colons between them. -/
def coloned (groups : List Nat) : Text :=
  [':'].intercalate (groups.map (Nat.toDigits 16))

/-- How many zeros a list starts with. -/
def leadingZeros (groups : List Nat) : Nat := (groups.takeWhile (· == 0)).length

/-- The start and length of the longest run of zeros, the first of several; `at` counts the groups
before the list. -/
def zeroRun (before : Nat) : List Nat → Nat × Nat
  | [] => (before, 0)
  | g :: gs =>
    let here := leadingZeros (g :: gs)
    let later := zeroRun (before + 1) gs
    if later.2 > here then later else (before, here)

/-- Eight groups, shortened: an embedded version 4 address is written with dots, and a run of at
least two zero groups as two colons. -/
def groupsText (groups : List Nat) : Text :=
  match groups with
  | [0, 0, 0, 0, 0, 0xFFFF, a, b] =>
    "::ffff:".toList ++ dotted [a / 256, a % 256, b / 256, b % 256]
  | _ =>
    let (start, length) := zeroRun 0 groups
    if length > 1 then
      coloned (groups.take start) ++ "::".toList ++ coloned (groups.drop (start + length))
    else coloned groups

/-- The canonical text of an address. -/
def text (a : Address) : Text :=
  let portNumber := ':' :: Text.decimal a.portNumber.toNat
  match a.ip with
  | .v4 octets => dotted (octets.toList.map UInt8.toNat) ++ portNumber
  | .v6 groups scope =>
    let zone := if scope = 0 then [] else '%' :: Text.decimal scope.toNat
    '[' :: groupsText (groups.toList.map UInt16.toNat) ++ zone ++ [']'] ++ portNumber

/-! ## Reading -/

/-- The value of a digit to some base up to sixteen. -/
def digitOf? (base : Nat) (c : Char) : Option Nat :=
  let value :=
    if '0' ≤ c ∧ c ≤ '9' then some (c.toNat - '0'.toNat)
    else if 'a' ≤ c ∧ c ≤ 'f' then some (c.toNat - 'a'.toNat + 10)
    else if 'A' ≤ c ∧ c ≤ 'F' then some (c.toNat - 'A'.toNat + 10)
    else none
  value.filter (· < base)

/-- How a number may be written: its base, its most digits, whether it may start with a zero that
is not its only digit, and the bound it stays below. -/
structure NumberForm where
  base : Nat
  mostDigits : Option Nat
  zeroFirst : Bool
  bound : Nat

def NumberForm.octet : NumberForm := ⟨10, some 3, false, 256⟩
def NumberForm.group : NumberForm := ⟨16, some 4, true, 65536⟩
def NumberForm.endpoint : NumberForm := ⟨10, none, true, 65536⟩
def NumberForm.scopeNumber : NumberForm := ⟨10, none, true, 4294967296⟩

/-- Reads a number as far as its digits go. -/
def readNumber (form : NumberForm) (t : Text) : Option (Nat × Text) :=
  let digits := t.takeWhile fun c => (digitOf? form.base c).isSome
  let value := digits.foldl (fun n c => n * form.base + (digitOf? form.base c).getD 0) 0
  let tooLong := form.mostDigits.any (digits.length > ·)
  let zeroFirst := digits.length > 1 && digits.head? == some '0'
  if digits = [] || tooLong || (zeroFirst && !form.zeroFirst) || value ≥ form.bound then none
  else some (value, t.drop digits.length)

/-- Reads one given character. -/
def readChar (c : Char) : Text → Option Text
  | [] => none
  | d :: t => if c = d then some t else none

/-- Reads four octets with dots between them. -/
def readOctets (t : Text) : Option (List Nat × Text) := do
  let (a, t) ← readNumber .octet t
  let (b, t) ← readNumber .octet (← readChar '.' t)
  let (c, t) ← readNumber .octet (← readChar '.' t)
  let (d, t) ← readNumber .octet (← readChar '.' t)
  return ([a, b, c, d], t)

/-- Reads with a colon in front, unless it is the first to be read. -/
def afterColon {α : Type} (first : Bool) (read : Text → Option (α × Text)) (t : Text) :
    Option (α × Text) :=
  if first then read t else (readChar ':' t).bind read

/-- Reads at most `room` groups with colons between them, the last two possibly as four octets;
also says whether they were. -/
def readGroups : (room : Nat) → (first : Bool) → Text → List Nat × Bool × Text
  | 0, _, t => ([], false, t)
  | room + 1, first, t =>
    let octets := if room = 0 then none else afterColon first readOctets t
    match octets with
    | some ([a, b, c, d], rest) => ([a * 256 + b, c * 256 + d], true, rest)
    | _ =>
      match afterColon first (readNumber .group) t with
      | some (g, rest) =>
        let (gs, quad, rest) := readGroups room false rest
        (g :: gs, quad, rest)
      | none => ([], false, t)

/-- Reads eight groups, some zeros of which may be left out at a double colon. -/
def readIp6 (t : Text) : Option (List Nat × Text) := do
  let (head, quad, rest) := readGroups 8 true t
  if head.length = 8 then return (head, rest)
  if quad then none
  let rest ← readChar ':' rest
  let rest ← readChar ':' rest
  let (tail, _, rest) := readGroups (7 - head.length) true rest
  return (head ++ List.replicate (8 - head.length - tail.length) 0 ++ tail, rest)

/-- Reads the endpoint number that ends an address. -/
def readPort (t : Text) : Option UInt16 := do
  let (portNumber, rest) ← readNumber .endpoint (← readChar ':' t)
  if rest = [] then return UInt16.ofNat portNumber else none

/-- Reads the interface that a version 6 address may name. -/
def readScope (t : Text) : UInt32 × Text :=
  match (readChar '%' t).bind (readNumber .scopeNumber) with
  | some (scope, rest) => (UInt32.ofNat scope, rest)
  | none => (0, t)

def read4 (t : Text) : Option Address := do
  let (octets, rest) ← readOctets t
  return ⟨.v4 (Vector.ofFn fun i => UInt8.ofNat (octets.getD i 0)), ← readPort rest⟩

def read6 (t : Text) : Option Address := do
  let (groups, rest) ← readIp6 (← readChar '[' t)
  let (scope, rest) := readScope rest
  let portNumber ← readPort (← readChar ']' rest)
  return ⟨.v6 (Vector.ofFn fun i => UInt16.ofNat (groups.getD i 0)) scope, portNumber⟩

/-- The address that a text writes. -/
def read (t : Text) : Option Address := (read4 t).orElse fun _ => read6 t

end Address
end Parley.Net
