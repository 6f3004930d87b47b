import ClusterRouting.Json.Value
import ClusterRouting.Text.Digits

namespace ClusterRouting.Json

def isSpace (c : Char) : Bool := c == ' ' || c == '\t' || c == '\n' || c == '\r'

def skipSpace (text : List Char) : List Char := text.dropWhile isSpace

inductive Piece where
  | char (c : Char)
  | half (unit : Nat)
deriving DecidableEq

def Piece.ofUnit (unit : Nat) : Piece :=
  if 0xd800 ≤ unit ∧ unit ≤ 0xdfff then .half unit else .char (.ofNat unit)

-- The text that pieces make up: a high half needs a low half behind it, and a low one a high before it.
def joinPieces : List Piece → Option (List Char)
  | [] => some []
  | .char c :: rest => (joinPieces rest).map (c :: ·)
  | .half high :: .half low :: rest =>
    if high < 0xdc00 ∧ 0xdc00 ≤ low then
      (joinPieces rest).map (.ofNat (0x10000 + (high - 0xd800) * 0x400 + (low - 0xdc00)) :: ·)
    else none
  | .half _ :: _ => none

def unescape? : Char → Option Char
  | '"' => some '"'
  | '\\' => some '\\'
  | '/' => some '/'
  | 'b' => some '\x08'
  | 'f' => some '\x0c'
  | 'n' => some '\n'
  | 'r' => some '\r'
  | 't' => some '\t'
  | _ => none

def unit? (a b c d : Char) : Option Nat := do
  let a ← Text.hexDigit? a
  let b ← Text.hexDigit? b
  let c ← Text.hexDigit? c
  let d ← Text.hexDigit? d
  return Text.valueFrom 16 0 [a, b, c, d]

def readPieces : List Char → Option (List Piece × List Char)
  | [] => none
  | '"' :: rest => some ([], rest)
  | '\\' :: 'u' :: a :: b :: c :: d :: rest => do
    let unit ← unit? a b c d
    let (pieces, rest) ← readPieces rest
    return (.ofUnit unit :: pieces, rest)
  | '\\' :: escape :: rest => do
    let c ← unescape? escape
    let (pieces, rest) ← readPieces rest
    return (.char c :: pieces, rest)
  | c :: rest => do
    if c < ' ' ∨ c = '\\' then none
    let (pieces, rest) ← readPieces rest
    return (.char c :: pieces, rest)

def readString (text : List Char) : Option (Option String × List Char) :=
  (readPieces text).map fun (pieces, rest) => ((joinPieces pieces).map String.ofList, rest)

-- A whole part: zero, or digits that do not begin with zero.
def readWhole (text : List Char) : Option (Nat × List Char) :=
  match Text.spanDigits Text.decimalDigit? text with
  | ([], _) => none
  | ([0], rest) => some (0, rest)
  | (0 :: _, _) => none
  | (digits, rest) => some (Text.valueFrom 10 0 digits, rest)

def readFraction : List Char → Option (List (Fin 10) × List Char)
  | '.' :: text =>
    match Text.spanDigits Text.decimalDigit? text with
    | ([], _) => none
    | (digits, rest) => some (digits.map (Fin.ofNat 10), rest)
  | text => some ([], text)

def readSign : List Char → Bool × List Char
  | '-' :: text => (true, text)
  | '+' :: text => (false, text)
  | text => (false, text)

def readExponent : List Char → Option (Option Int × List Char)
  | [] => some (none, [])
  | c :: text =>
    if c = 'e' ∨ c = 'E' then
      let (negative, text) := readSign text
      match Text.spanDigits Text.decimalDigit? text with
      | ([], _) => none
      | (digits, rest) =>
        let size : Int := Text.valueFrom 10 0 digits
        some (some (if negative then -size else size), rest)
    else some (none, c :: text)

def readNumber (text : List Char) : Option (Number × List Char) := do
  let (negative, text) := match text with
    | '-' :: text => (true, text)
    | text => (false, text)
  let (whole, text) ← readWhole text
  let (fraction, text) ← readFraction text
  let (exponent, text) ← readExponent text
  return (⟨negative, whole, fraction, exponent⟩, text)

mutual
def readValue : Nat → List Char → Option (Value × List Char)
  | 0, _ => none
  | depth + 1, text =>
    match text with
    | 'n' :: 'u' :: 'l' :: 'l' :: rest => some (.null, rest)
    | 't' :: 'r' :: 'u' :: 'e' :: rest => some (.bool true, rest)
    | 'f' :: 'a' :: 'l' :: 's' :: 'e' :: rest => some (.bool false, rest)
    | '"' :: rest => (readString rest).map fun (text, rest) => (.string text, rest)
    | '[' :: rest =>
      match skipSpace rest with
      | ']' :: rest => some (.array [], rest)
      | rest => (readElements depth rest).map fun (elements, rest) => (.array elements, rest)
    | '\x7b' :: rest =>
      match skipSpace rest with
      | '\x7d' :: rest => some (.object [], rest)
      | rest => (readMembers depth rest).map fun (members, rest) => (.object members, rest)
    | text => (readNumber text).map fun (n, rest) => (.number n, rest)

def readElements : Nat → List Char → Option (List Value × List Char)
  | 0, _ => none
  | depth + 1, text => do
    let (element, rest) ← readValue depth text
    match skipSpace rest with
    | ']' :: rest => return ([element], rest)
    | ',' :: rest =>
      let (elements, rest) ← readElements depth (skipSpace rest)
      return (element :: elements, rest)
    | _ => none

def readMembers : Nat → List Char → Option (List (Option String × Value) × List Char)
  | 0, _ => none
  | depth + 1, text => do
    let '"' :: text := text | none
    let (name, text) ← readString text
    let ':' :: text := skipSpace text | none
    let (value, rest) ← readValue depth (skipSpace text)
    match skipSpace rest with
    | '\x7d' :: rest => return ([(name, value)], rest)
    | ',' :: rest =>
      let (members, rest) ← readMembers depth (skipSpace rest)
      return ((name, value) :: members, rest)
    | _ => none
end

def read? (text : List Char) : Option Value :=
  match readValue (2 * text.length + 2) (skipSpace text) with
  | some (value, rest) => if skipSpace rest = [] then some value else none
  | none => none

end ClusterRouting.Json
