import RequestLog.Fault
import RequestLog.Text.Wide

/-!
Messages with places for arguments. A place is a percent sign with flags, a width, a precision and
a letter that says how the argument is shown; two percent signs stand for one. A message whose
places do not fit its arguments is followed by the arguments instead; only a number too large for
its place, a place too wide to be filled, and an argument that refuses its text are faults.
-/
namespace RequestLog

open Text (CodePoint Wide)

/-- An argument of a message. -/
inductive Argument where
  | value (v : Value)
  | fault (f : Fault)
  /-- Any other object, of which only its description shows. -/
  | object (shown : Except Refusal String)

namespace Argument

def display : Argument → Except Refusal String
  | value v => v.display
  | fault f => f.message
  | object shown => shown

def literal : Argument → Except Refusal String
  | value v => v.literal
  | fault f => f.literal
  | object shown => shown

end Argument

namespace Message

/-- Why a message cannot be filled in. -/
inductive Misfit where
  /-- The places and the arguments do not fit. -/
  | mismatch
  /-- A number is too large for its place. -/
  | overflow (text : String)
  /-- A place is too wide to be filled. -/
  | tooLong
  /-- An argument refuses its text. -/
  | refused (r : Refusal)
deriving DecidableEq, Repr

/-- The flags of a place. -/
structure Flags where
  left : Bool
  plus : Bool
  blank : Bool
  alternate : Bool
  zero : Bool
deriving DecidableEq, Repr

/-- A place for an argument. -/
structure Place where
  flags : Flags
  width : Option Nat
  precision : Option Nat
  letter : Char
deriving DecidableEq, Repr

/-- The flags at the front of a text, with what follows them. -/
def readFlags (f : Flags) : List Char → Flags × List Char
  | '-' :: cs => readFlags { f with left := true } cs
  | '+' :: cs => readFlags { f with plus := true } cs
  | ' ' :: cs => readFlags { f with blank := true } cs
  | '#' :: cs => readFlags { f with alternate := true } cs
  | '0' :: cs => readFlags { f with zero := true } cs
  | cs => (f, cs)

/-- The whole number of an argument that has to be one. -/
def starArgument : List Argument → Except Misfit (Int × List Argument)
  | .value v :: rest =>
    match v.whole? with
    | some n => .ok (n, rest)
    | none => .error .mismatch
  | _ => .error .mismatch

/-- The largest width; the least one is further from zero by one. -/
def maxWidth : Nat := Nat.pow 2 63 - 1

/-- The width of a place for which there is no room. -/
def roomLimit : Nat := Nat.pow 2 32

/-- The largest precision; the least one is further from zero by one. -/
def maxPrecision : Nat := Nat.pow 2 31 - 1

def maxWholePrecision : Nat := maxPrecision - 3

/-- Whether a number is beyond the largest one or the least one. -/
def beyond (largest : Nat) (n : Int) : Bool :=
  Int.ofNat largest < n || n < -Int.ofNat largest - 1

/-- The width that a number asks for; the least number has no opposite and asks for none. -/
def widthOf (n : Int) : Nat :=
  if n.natAbs ≤ maxWidth then n.natAbs else 0

/-- The decimal number at the front of a text, with what follows it. -/
def readNumber (n : Nat) : List Char → Nat × List Char
  | c :: cs => if c.isDigit then readNumber (10 * n + (c.toNat - 48)) cs else (n, c :: cs)
  | [] => (n, [])

/-- A width, with whether it asks for the left edge, the rest of the text and of the arguments. -/
def readWidth (cs : List Char) (args : List Argument) :
    Except Misfit (Option Nat × Bool × List Char × List Argument) :=
  match cs with
  | '*' :: rest => do
    let (n, args) ← starArgument args
    if beyond maxWidth n then
      .error (.overflow "Python int too large to convert to C ssize_t")
    else .ok (some (widthOf n), decide (n < 0), rest, args)
  | c :: rest =>
    if c.isDigit then
      let (n, rest) := readNumber 0 (c :: rest)
      if n > maxWidth then .error .mismatch else .ok (some n, false, rest, args)
    else .ok (none, false, c :: rest, args)
  | [] => .ok (none, false, [], args)

/-- A precision, with the rest of the text and of the arguments. -/
def readPrecision (cs : List Char) (args : List Argument) :
    Except Misfit (Option Nat × List Char × List Argument) :=
  match cs with
  | '.' :: '*' :: rest => do
    let (n, args) ← starArgument args
    if beyond maxPrecision n then
      .error (.overflow "Python int too large to convert to C int")
    else .ok (some n.toNat, rest, args)
  | '.' :: rest =>
    let (n, rest) := readNumber 0 rest
    if n > maxPrecision then .error .mismatch else .ok (some n, rest, args)
  | cs => .ok (none, cs, args)

/-- A text without the letter that once told the size of a number. -/
def skipSize : List Char → List Char
  | 'h' :: cs => cs
  | 'l' :: cs => cs
  | 'L' :: cs => cs
  | cs => cs

/-- The letters of a place, with the rest of the text and of the arguments. -/
def readPlace (cs : List Char) (args : List Argument) :
    Except Misfit (Place × List Char × List Argument) := do
  let (flags, cs) := readFlags ⟨false, false, false, false, false⟩ cs
  let (width, toLeft, cs, args) ← readWidth cs args
  let (precision, cs, args) ← readPrecision cs args
  match skipSize cs with
  | letter :: rest =>
    .ok (⟨{ flags with left := flags.left || toLeft }, width, precision, letter⟩, rest, args)
  | [] => .error .mismatch

/-- The characters of a text that may be refused. -/
def charactersOf (shown : Except Refusal String) : Except Misfit (List Char) :=
  (shown.map String.toList).mapError .refused

def cut (precision : Option Nat) (cs : List Char) : List Char :=
  match precision with
  | some n => cs.take n
  | none => cs

/-- A text brought to the width of its place with blanks. -/
def fitWith {α : Type} (blank : α) (p : Place) (cs : List α) : List α :=
  if p.flags.left then cs ++ List.replicate (p.width.getD 0 - cs.length) blank
  else Number.padLeft (p.width.getD 0) blank cs

def fit (p : Place) (cs : List Char) : List Char :=
  fitWith ' ' p cs

def signOf (p : Place) (negative : Bool) : List Char :=
  if negative then ['-'] else if p.flags.plus then ['+'] else if p.flags.blank then [' '] else []

/-- A number brought to the width of its place: zeros that are asked for go between its sign and
mark and its digits, unless it stands at the left edge. -/
def fitNumber (p : Place) (sign mark body : List Char) : List Char :=
  if p.flags.zero && ! p.flags.left then
    sign ++ mark ++ Number.padLeft (p.width.getD 0 - sign.length - mark.length) '0' body
  else fit p (sign ++ mark ++ body)

/-- The digits of a whole number with leading zeros up to the precision. -/
def wholeDigits (p : Place) (base : Nat) (n : Int) : List Char :=
  Number.padLeft (p.precision.getD 0) '0' (Number.digits base n.natAbs)

def showWhole (p : Place) (base : Nat) (mark : List Char) (n : Int) : List Char :=
  fitNumber p (signOf p (n < 0)) (if p.flags.alternate then mark else []) (wholeDigits p base n)

/-- The whole number of an argument, whose fraction is cut off. -/
def wholeOf : Argument → Except Misfit Int
  | .value (.float x) =>
    match Number.read x with
    | .finite b => .ok b.truncate
    | .infinite _ => .error (.overflow "cannot convert float infinity to integer")
    | .notANumber => .error .mismatch
  | .value v =>
    match v.whole? with
    | some n => .ok n
    | none => .error .mismatch
  | _ => .error .mismatch

/-- The whole number of an argument that has no fraction. -/
def integerOf : Argument → Except Misfit Int
  | .value v =>
    match v.whole? with
    | some n => .ok n
    | none => .error .mismatch
  | _ => .error .mismatch

/-- The least whole number that rounds to a value beyond every double-precision number. -/
def floatBound : Nat := Nat.pow 2 1024 - Nat.pow 2 970

def floatOf : Argument → Except Misfit Float
  | .value (.float x) => .ok x
  | .value v =>
    match v.whole? with
    | some n =>
      if floatBound ≤ n.natAbs then .error (.overflow "int too large to convert to float")
      else
        let x := Float.ofScientific n.natAbs false 0
        .ok (if n < 0 then -x else x)
    | none => .error .mismatch
  | _ => .error .mismatch

/-- The digits of a numeral without zeros at its end. -/
def trimZeros (cs : List Char) : List Char :=
  (cs.reverse.dropWhile (· == '0')).reverse

/-- The number of significant digits of any double-precision number is less than this. -/
def exactDigits : Nat := 768

/-- A magnitude with a number of places and an exponent; the largest number of places counts as
none. -/
def exponentBody (alternate : Bool) (places : Nat) (b : Number.Binary) : List Char :=
  let places := if places = maxPrecision then 0 else places
  if b.mantissa = 0 then
    Number.scientific alternate (List.replicate (places + 1) '0') 0
  else
    let d := Number.significant (places + 1) b.num b.den
    Number.scientific alternate (Number.digits 10 d.digits) (d.exponent + Int.ofNat places)

/-- A magnitude with a number of significant digits, without zeros at its end unless `alternate`
holds, positional where the exponent is small. -/
def generalBody (alternate : Bool) (count : Nat) (b : Number.Binary) : List Char :=
  let kept := if alternate then count else min count exactDigits
  let d := if b.mantissa = 0 then ⟨0, 0⟩ else Number.significant kept b.num b.den
  let cs := if b.mantissa = 0 then List.replicate kept '0' else Number.digits 10 d.digits
  let exponent := if b.mantissa = 0 then 0 else d.exponent + Int.ofNat kept - 1
  let shown := if alternate then cs else cs.take 1 ++ trimZeros (cs.drop 1)
  if -4 ≤ exponent && exponent < Int.ofNat count then
    Number.positional (if alternate then ['.'] else []) shown exponent
  else Number.scientific alternate shown exponent

/-- The capital of an ASCII letter where `capital` holds. -/
def capitals (capital : Bool) (cs : List Char) : List Char :=
  if capital then cs.map Char.toUpper else cs

def showFloat (p : Place) (x : Float) : List Char :=
  let capital := p.letter.isUpper
  match Number.read x with
  | .notANumber => fitNumber p (signOf p false) [] (capitals capital "nan".toList)
  | .infinite negative => fitNumber p (signOf p negative) [] (capitals capital "inf".toList)
  | .finite b =>
    let places := p.precision.getD 6
    let body :=
      if p.letter.toLower = 'f' then Number.fixedPlaces p.flags.alternate places b
      else if p.letter.toLower = 'e' then exponentBody p.flags.alternate places b
      else generalBody p.flags.alternate (max places 1) b
    fitNumber p (signOf p b.negative) [] (capitals capital body)

/-- The code point that an argument shows as a character. -/
def characterOf : Argument → Except Misfit CodePoint
  | .value (.text s) =>
    match s.toList with
    | [c] => .ok (.ofChar c)
    | _ => .error .mismatch
  | a => do
    let n ← integerOf a
    if h : 0 ≤ n ∧ n < 0x110000 then .ok ⟨n.toNat, by omega⟩
    else .error (.overflow "%c arg not in range(0x110000)")

/-- A whole number in its place, unless more digits are asked for than there can be. -/
def showInteger (p : Place) (base : Nat) (mark : List Char) (n : Int) :
    Except Misfit (List Char) :=
  if maxWholePrecision < p.precision.getD 0 then .error (.overflow "precision too large")
  else .ok (showWhole p base mark n)

/-- A whole number in its place in decimal digits, of which it must not have too many. -/
def showDecimal (p : Place) (n : Int) : Except Misfit (List Char) := do
  let shown ← showInteger p 10 [] n
  let _ ← charactersOf (Value.numeral n)
  return shown

def showWithin (p : Place) (a : Argument) : Except Misfit Wide :=
  let text (cs : Except Misfit (List Char)) : Except Misfit Wide := cs.map .ofChars
  match p.letter with
  | 's' => text do return fit p (cut p.precision (← charactersOf a.display))
  | 'r' => text do return fit p (cut p.precision (← charactersOf a.literal))
  | 'a' => text do
    return fit p (cut p.precision (← charactersOf (a.literal.map Text.escapeToAscii)))
  | 'c' => return fitWith (.ofChar ' ') p [← characterOf a]
  | 'd' | 'i' | 'u' => text do showDecimal p (← wholeOf a)
  | 'o' => text do showInteger p 8 ['0', 'o'] (← integerOf a)
  | 'x' => text do showInteger p 16 ['0', 'x'] (← integerOf a)
  | 'X' => text do return capitals true (← showInteger p 16 ['0', 'x'] (← integerOf a))
  | 'e' | 'E' | 'f' | 'F' | 'g' | 'G' => text do return showFloat p (← floatOf a)
  | _ => .error .mismatch

/-- An argument in its place. There is no room for a place that is too wide, which shows once the
argument is known to fit. -/
def showArgument (p : Place) (a : Argument) : Except Misfit Wide := do
  if roomLimit ≤ p.width.getD 0 then
    let _ ← showWithin { p with width := none } a
    .error .tooLong
  else showWithin p a

/-- The text of a message with its arguments, as long as the fuel, which counts percent signs,
lasts. -/
def fillFrom : Nat → List Char → List Argument → Except Misfit Wide
  | 0, _, _ => .error .mismatch
  | fuel + 1, cs, args =>
    let plain := cs.takeWhile (· != '%')
    match cs.drop plain.length with
    | [] => if args.isEmpty then .ok (.ofChars plain) else .error .mismatch
    | _ :: '%' :: rest => return .ofChars (plain ++ ['%']) ++ (← fillFrom fuel rest args)
    | _ :: rest => do
      let (place, rest, args) ← readPlace rest args
      match args with
      | [] => .error .mismatch
      | a :: args =>
        let shown ← showArgument place a
        return .ofChars plain ++ shown ++ (← fillFrom fuel rest args)

/-- The text of a message with its arguments in their places. -/
def fill (message : String) (args : List Argument) : Except Misfit Wide :=
  fillFrom (message.toList.count '%' + 1) message.toList args

/-- A message followed by the literals of its arguments. -/
def withArguments (message : String) (args : List Argument) : Except Fault Wide :=
  ((args.mapM Argument.literal).map fun texts =>
    .ofString (message ++ " " ++ Value.tupleOf texts)).mapError .refused

/-- The text of a message: itself without arguments, else with the arguments in their places, or
followed by them where they do not fit. -/
def text (message : String) (args : List Argument) : Except Fault Wide :=
  if args.isEmpty then .ok (.ofString message)
  else
    match fill message args with
    | .ok filled => .ok filled
    | .error .mismatch => withArguments message args
    | .error (.refused r) => if r.misfit then withArguments message args else .error (.refused r)
    | .error (.overflow reason) => .error (.messageOverflow reason)
    | .error .tooLong => .error .messageTooLong

end Message

end RequestLog
