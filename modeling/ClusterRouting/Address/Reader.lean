import ClusterRouting.Address
import ClusterRouting.Text.Digits

namespace ClusterRouting.Address

abbrev Reader (α : Type) := List Char → Option (α × List Char)

def exactly (c : Char) : Reader Unit
  | [] => none
  | x :: rest => if x = c then some ((), rest) else none

-- A decimal number below a bound; leading zeros are free.
def numberBelow (bound : Nat) : Reader Nat := fun text =>
  match Text.spanDigits Text.decimalDigit? text with
  | ([], _) => none
  | (digits, rest) =>
    let value := Text.valueFrom 10 0 digits
    if value < bound then some (value, rest) else none

def octet : Reader UInt8 := fun text =>
  match Text.spanDigits Text.decimalDigit? text with
  | ([], _) => none
  | (first :: more, rest) =>
    let value := Text.valueFrom 10 0 (first :: more)
    if more.length < 3 ∧ ¬(first = 0 ∧ more ≠ []) ∧ value < 256 then some (.ofNat value, rest) else none

def group : Reader UInt16 := fun text =>
  match Text.spanDigits Text.hexDigit? text with
  | ([], _) => none
  | (digits, rest) =>
    if digits.length ≤ 4 then some (.ofNat (Text.valueFrom 16 0 digits), rest) else none

def octets : Reader Octets := fun text => do
  let (a, text) ← octet text
  let (_, text) ← exactly '.' text
  let (b, text) ← octet text
  let (_, text) ← exactly '.' text
  let (c, text) ← octet text
  let (_, text) ← exactly '.' text
  let (d, text) ← octet text
  return (⟨a, b, c, d⟩, text)

def afterColon (first : Bool) (item : Reader α) : Reader α := fun text =>
  if first then item text
  else do
    let (_, text) ← exactly ':' text
    item text

structure Side where
  groups : List UInt16
  octetsLast : Bool

def pair (high low : UInt8) : UInt16 := high.toUInt16 <<< 8 ||| low.toUInt16

-- The groups at the front of a text, no more than there is room for. Octets are tried before a group at
-- every place that leaves room for two groups.
def side : (room : Nat) → (first : Bool) → List Char → Side × List Char
  | 0, _, text => (⟨[], false⟩, text)
  | room + 1, first, text =>
    match if room = 0 then none else afterColon first octets text with
    | some (o, rest) => (⟨[pair o.a o.b, pair o.c o.d], true⟩, rest)
    | none =>
      match afterColon first group text with
      | none => (⟨[], false⟩, text)
      | some (g, rest) =>
        let (later, rest) := side room false rest
        (⟨g :: later.groups, later.octetsLast⟩, rest)

def eight? (groups : List UInt16) : Option Groups :=
  if h : groups.length = 8 then some ⟨groups.toArray, by simp [h]⟩ else none

-- Eight groups, or fewer around one contraction, which stands for at least one zero group.
def groups : Reader Groups := fun text => do
  let (head, text) := side 8 true text
  if head.groups.length = 8 then
    let host ← eight? head.groups
    return (host, text)
  else if head.octetsLast then none
  else
    let (_, text) ← exactly ':' text
    let (_, text) ← exactly ':' text
    let (tail, text) := side (8 - (head.groups.length + 1)) true text
    let zeros := List.replicate (8 - head.groups.length - tail.groups.length) 0
    let host ← eight? (head.groups ++ zeros ++ tail.groups)
    return (host, text)

def scope : Reader Nat := fun text => do
  let (_, text) ← exactly '%' text
  numberBelow UInt32.size text

def port : Reader UInt16 := fun text => do
  let (_, text) ← exactly ':' text
  let (value, text) ← numberBelow UInt16.size text
  return (.ofNat value, text)

def front : Reader Address := fun text =>
  match exactly '[' text with
  | none => do
    let (host, text) ← octets text
    let (port, text) ← port text
    return (.v4 host port, text)
  | some (_, text) => do
    let (host, text) ← groups text
    let (scope, text) := (scope text).getD (0, text)
    let (_, text) ← exactly ']' text
    let (port, text) ← port text
    return (.v6 host (.ofNat scope) port, text)

def ofText? (text : String) : Option Address :=
  match front text.toList with
  | some (address, []) => some address
  | _ => none

end ClusterRouting.Address
