import AssignLang.Unicode.DefaultIgnorable
import AssignLang.Unicode.GraphemeExtend
import AssignLang.Unicode.OtherOrSeparator

/-! Quoted text: a character or a string between two marks, on one line and in visible characters
only. The mark and the backslash are written behind a backslash, four controls have letters of their
own, and any other character that cannot stand alone on a page is written by its code point. -/
namespace AssignLang.Text.Quoted
set_option autoImplicit false

/-- A character that is no sign of its own: it joins the sign before it, takes room without ink,
stays out of sight, steers the text, or has no meaning assigned. -/
def isHidden (c : Char) : Bool :=
  if c.toNat < 0x7f then c.toNat < 0x20
  else Unicode.graphemeExtend.holds c || Unicode.otherOrSeparator.holds c
    || Unicode.defaultIgnorable.holds c

/-- The code point in lowercase hexadecimal digits without leading zeros, between braces. -/
def codePoint (c : Char) : List Char :=
  '\\' :: 'u' :: '\x7b' :: (Nat.toDigits 16 c.toNat ++ ['\x7d'])

/-- The spelling of one character inside a pair of the given mark. -/
def encodeChar (mark c : Char) : List Char :=
  if c = '\x00' then ['\\', '0']
  else if c = '\t' then ['\\', 't']
  else if c = '\n' then ['\\', 'n']
  else if c = '\r' then ['\\', 'r']
  else if c = mark ∨ c = '\\' then ['\\', c]
  else if isHidden c then codePoint c
  else [c]

def encode (mark : Char) (text : List Char) : List Char :=
  text.flatMap (encodeChar mark)

/-- The text between two marks. -/
def enclose (mark : Char) (text : List Char) : List Char :=
  mark :: (encode mark text ++ [mark])

/-- A string stands between double marks, so a single mark inside it is plain. -/
def string (s : String) : String :=
  String.ofList (enclose '"' s.toList)

/-- A character stands between single marks, so a double mark is plain. -/
def char (c : Char) : String :=
  String.ofList (enclose '\'' [c])

@[simp] theorem encode_nil (mark : Char) : encode mark [] = [] := rfl

@[simp] theorem encode_cons (mark c : Char) (text : List Char) :
    encode mark (c :: text) = encodeChar mark c ++ encode mark text := rfl

end AssignLang.Text.Quoted
