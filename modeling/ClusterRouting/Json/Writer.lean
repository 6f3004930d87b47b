import ClusterRouting.Json.Value
import ClusterRouting.Text.Digits

namespace ClusterRouting.Json

-- Quotes, backslashes and control characters are escaped, and nothing else.
def escaped (c : Char) : List Char :=
  match c with
  | '"' => ['\\', '"']
  | '\\' => ['\\', '\\']
  | '\x08' => ['\\', 'b']
  | '\x0c' => ['\\', 'f']
  | '\n' => ['\\', 'n']
  | '\r' => ['\\', 'r']
  | '\t' => ['\\', 't']
  | _ => if c < ' ' then '\\' :: 'u' :: Text.hexPadded 4 c.toNat else [c]

def writtenText (text : String) : List Char := '"' :: text.toList.flatMap escaped ++ ['"']

-- What is no text is written as one unpaired surrogate.
def writtenString : Option String → List Char
  | some text => writtenText text
  | none => "\"\\ud800\"".toList

namespace Number

def writtenExponent (exponent : Int) : List Char :=
  'e' :: (if exponent < 0 then ['-'] else []) ++ Text.decimal exponent.natAbs

def written (n : Number) : List Char :=
  (if n.negative then ['-'] else []) ++ Text.decimal n.whole
    ++ (if n.fraction = [] then [] else '.' :: n.fraction.map fun d : Fin 10 => Nat.digitChar d.val)
    ++ (match n.exponent with | none => [] | some e => writtenExponent e)

end Number

mutual
def Value.written : Value → List Char
  | .null => "null".toList
  | .bool true => "true".toList
  | .bool false => "false".toList
  | .number n => n.written
  | .string text => writtenString text
  | .array elements => '[' :: Value.writtenElements elements ++ [']']
  | .object members => '\x7b' :: Value.writtenMembers members ++ ['\x7d']

def Value.writtenElements : List Value → List Char
  | [] => []
  | [element] => element.written
  | element :: rest => element.written ++ ',' :: Value.writtenElements rest

def Value.writtenMembers : List (Option String × Value) → List Char
  | [] => []
  | [(name, value)] => writtenString name ++ ':' :: value.written
  | (name, value) :: rest => writtenString name ++ ':' :: value.written ++ ',' :: Value.writtenMembers rest
end

def Value.text (value : Value) : String := String.ofList value.written

end ClusterRouting.Json
