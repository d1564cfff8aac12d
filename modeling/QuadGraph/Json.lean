/-!
# JSON values and their text

The compact text of a value: no blanks, members in the order in which they
are written, and in strings only the escapes that the format requires.
-/

namespace QuadGraph

inductive Json where
  | string (s : String)
  | array (items : List Json)
  | object (members : List (String × Json))
deriving Inhabited

namespace Json

def hexDigit (n : Nat) : Char :=
  if n < 10 then Char.ofNat (n + 48) else Char.ofNat (n + 87)

/-- A character of a string: quotes, backslashes and control characters are
escaped, by a letter where the format has one. -/
def charText (c : Char) : List Char :=
  match c with
  | '"' => ['\\', '"']
  | '\\' => ['\\', '\\']
  | '\x08' => ['\\', 'b']
  | '\x0c' => ['\\', 'f']
  | '\n' => ['\\', 'n']
  | '\r' => ['\\', 'r']
  | '\t' => ['\\', 't']
  | c =>
    if c.toNat < 0x20 then ['\\', 'u', '0', '0', hexDigit (c.toNat / 16), hexDigit (c.toNat % 16)]
    else [c]

def stringText (s : String) : List Char := '"' :: (s.toList.flatMap charText ++ ['"'])

mutual

def chars : Json → List Char
  | .string s => stringText s
  | .array [] => ['[', ']']
  | .array (j :: js) => '[' :: (j.chars ++ tailChars js)
  | .object [] => ['{', '}']
  | .object (m :: ms) => '{' :: (memberChars m ++ restChars ms)

def tailChars : List Json → List Char
  | [] => [']']
  | j :: js => ',' :: (j.chars ++ tailChars js)

def memberChars : String × Json → List Char
  | (name, value) => stringText name ++ ':' :: value.chars

def restChars : List (String × Json) → List Char
  | [] => ['}']
  | m :: ms => ',' :: (memberChars m ++ restChars ms)

end

def text (j : Json) : String := String.ofList j.chars

end Json

end QuadGraph
