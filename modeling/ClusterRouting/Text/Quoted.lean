import ClusterRouting.Text.Digits
import ClusterRouting.Text.Hidden

namespace ClusterRouting.Text

def quotedChar (c : Char) : List Char :=
  match c with
  | '\x00' => ['\\', '0']
  | '\t' => ['\\', 't']
  | '\r' => ['\\', 'r']
  | '\n' => ['\\', 'n']
  | '"' => ['\\', '"']
  | '\\' => ['\\', '\\']
  | _ => if isHidden c then '\\' :: 'u' :: '\x7b' :: (hex c.toNat ++ ['\x7d']) else [c]

def quoted (text : String) : String :=
  String.ofList ('"' :: text.toList.flatMap quotedChar ++ ['"'])

-- An optional text tells its absence apart from the empty text.
def quotedOption : Option String → String
  | none => "None"
  | some text => "Some(" ++ quoted text ++ ")"

end ClusterRouting.Text
