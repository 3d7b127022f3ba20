import RequestLog.Text.Printable

/-!
Quoted texts and quoted octets, in the form in which they stand in messages: between single quotes,
or between double quotes where the text holds a single quote and no double one.
-/
namespace RequestLog.Text

/-- The character for a digit of a base up to sixteen. -/
def hexDigit (n : Nat) : Char :=
  if n < 10 then Char.ofNat (48 + n) else Char.ofNat (87 + n)

/-- The last `width` hexadecimal digits of a number. -/
def hex : Nat → Nat → List Char
  | 0, _ => []
  | width + 1, n => hex width (n / 16) ++ [hexDigit (n % 16)]

def singleQuote : Char := '\x27'

def doubleQuote : Char := '\x22'

def backslash : Char := '\x5c'

def numericEscape (c : Char) : List Char :=
  if c.toNat < 256 then backslash :: 'x' :: hex 2 c.toNat
  else if c.toNat < 65536 then backslash :: 'u' :: hex 4 c.toNat
  else backslash :: 'U' :: hex 8 c.toNat

def quoteFor (cs : List Char) : Char :=
  if cs.contains singleQuote && ! cs.contains doubleQuote then doubleQuote else singleQuote

/-- The escape of a character with a short name, of the backslash and of the quote in use. -/
def namedEscape? (quote c : Char) : Option (List Char) :=
  if c = quote || c = backslash then some [backslash, c]
  else if c = '\t' then some [backslash, 't']
  else if c = '\n' then some [backslash, 'n']
  else if c = '\r' then some [backslash, 'r']
  else none

/-- A character inside quotes, shown as itself where `shown` holds. -/
def quotedChar (shown : Char → Bool) (quote c : Char) : List Char :=
  match namedEscape? quote c with
  | some escape => escape
  | none => if shown c then [c] else numericEscape c

/-- A text between quotes; a character for which `shown` does not hold is escaped. -/
def quoteShowing (shown : Char → Bool) (cs : List Char) : List Char :=
  quoteFor cs :: cs.flatMap (quotedChar shown (quoteFor cs)) ++ [quoteFor cs]

def quote (s : String) : String :=
  String.ofList (quoteShowing isPrintable s.toList)

/-- Whether a character is one of the 95 visible ASCII characters. -/
def isVisibleAscii (c : Char) : Bool :=
  Nat.ble 32 c.toNat && Nat.ble c.toNat 126

def quoteOctets (octets : List UInt8) : String :=
  String.ofList ('b' :: quoteShowing isVisibleAscii (octets.map fun o => Char.ofNat o.toNat))

/-- A text with its characters beyond ASCII as numeric escapes. -/
def escapeToAscii (s : String) : String :=
  String.ofList (s.toList.flatMap fun c => if c.toNat < 128 then [c] else numericEscape c)

end RequestLog.Text
