import RequestLog.Text.Blank
import RequestLog.Text.Percent

/-!
Addresses that may stand in brackets in a URL: of the sixth version, with at most one gap, the last
two groups possibly written as an address of the fourth version, and with a zone; or of a future
version.
-/
namespace RequestLog.Url

open RequestLog.Text

def isHexDigit (c : Char) : Bool :=
  (Percent.hexValue? c).isSome

/-- Whether a text is a group of an address: one to four hexadecimal digits. -/
def isGroup (cs : List Char) : Bool :=
  cs != [] && Nat.ble cs.length 4 && cs.all isHexDigit

/-- Whether a text is a number from 0 to 255 without leading zeros. -/
def isOctetText (cs : List Char) : Bool :=
  cs != [] && Nat.ble cs.length 3 && cs.all Char.isDigit && (cs == ['0'] || cs.head? != some '0')
    && Nat.ble (cs.foldl (fun n c => 10 * n + (c.toNat - 48)) 0) 255

/-- Whether a text is an address of the fourth version. -/
def isAddress4 (cs : List Char) : Bool :=
  let parts := splitOn '.' cs
  parts.length == 4 && parts.all isOctetText

/-- The groups of an address with those of the fourth version at its end taken for two. -/
def groups? (cs : List Char) : Option (List (List Char)) :=
  let parts := splitOn ':' cs
  let last := parts.getLast?.getD []
  if parts.length < 3 then none
  else if last.contains '.' then
    if isAddress4 last then some (parts.dropLast ++ [['0'], ['0']]) else none
  else some parts

/-- Whether groups are the eight groups of an address, or fewer groups with one gap, which is an
empty group inside, beside which an empty group may stand at the edge. -/
def areGroups (parts : List (List Char)) : Bool :=
  let inner := (parts.drop 1).dropLast
  let gaps := inner.countP (· == [])
  if gaps = 0 then parts.length == 8 && parts.all isGroup
  else
    let before := parts.takeWhile (· != [])
    if gaps = 1 then
      let high := if parts.head? = some [] then [] else before
      let rest := parts.drop (if parts.head? = some [] then 2 else before.length + 1)
      let low := if rest = [[]] then [] else rest
      (parts.head? != some [] || parts[1]? == some []) && high.all isGroup && low.all isGroup
        && Nat.ble (high.length + low.length) 7
    else false

/-- Whether a text is an address of the sixth version, with or without a zone. -/
def isAddress6 (cs : List Char) : Bool :=
  let address := cs.takeWhile (· != '%')
  let zone := cs.drop address.length
  (zone == [] || (Nat.ble 2 zone.length && ! (zone.drop 1).contains '%'))
    && ! address.contains '/'
    && match groups? address with
      | some parts => Nat.ble parts.length 9 && areGroups parts
      | none => false

/-- Whether a text that starts with v is an address of a future version. -/
def isFutureAddress (cs : List Char) : Bool :=
  let version := (cs.drop 1).takeWhile isHexDigit
  match cs.drop (version.length + 1) with
  | '.' :: rest => version != [] && rest != []
  | _ => false

def isBracketed (cs : List Char) : Bool :=
  if cs.head? = some 'v' then isFutureAddress cs else isAddress6 cs

end RequestLog.Url
