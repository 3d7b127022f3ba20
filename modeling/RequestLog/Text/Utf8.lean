/-!
UTF-8. The decoder cuts octets into characters and longest invalid parts, from which both the
strict reading and the one with replacement characters follow.
-/
namespace RequestLog.Text.Utf8

/-- The octet of a number below 256. -/
def octet (n : Nat) : UInt8 :=
  UInt8.ofNat n

def encodeChar (c : Char) : List UInt8 :=
  let n := c.toNat
  if n < 0x80 then [octet n]
  else if n < 0x800 then [octet (0xC0 + n / 64), octet (0x80 + n % 64)]
  else if n < 0x10000 then
    [octet (0xE0 + n / 4096), octet (0x80 + n / 64 % 64), octet (0x80 + n % 64)]
  else
    [octet (0xF0 + n / 262144), octet (0x80 + n / 4096 % 64), octet (0x80 + n / 64 % 64),
      octet (0x80 + n % 64)]

def encode (cs : List Char) : List UInt8 :=
  cs.flatMap encodeChar

/-- What a first octet announces: the bits it gives, how many octets have to follow, and the range
of the first of them. -/
structure Lead where
  bits : Nat
  following : Nat
  low : Nat
  high : Nat

def lead? (n : Nat) : Option Lead :=
  if n < 0x80 then some ⟨n, 0, 0x80, 0xBF⟩
  else if n < 0xC2 then none
  else if n < 0xE0 then some ⟨n % 32, 1, 0x80, 0xBF⟩
  else if n = 0xE0 then some ⟨0, 2, 0xA0, 0xBF⟩
  else if n = 0xED then some ⟨13, 2, 0x80, 0x9F⟩
  else if n < 0xF0 then some ⟨n % 16, 2, 0x80, 0xBF⟩
  else if n = 0xF0 then some ⟨0, 3, 0x90, 0xBF⟩
  else if n < 0xF4 then some ⟨n % 8, 3, 0x80, 0xBF⟩
  else if n = 0xF4 then some ⟨4, 3, 0x80, 0x8F⟩
  else none

/-- Reads the octets that have to follow; the rest starts at the first one that does not fit. -/
def following : Nat → Nat → Nat → Nat → List UInt8 → Option Nat × List UInt8
  | 0, _, _, bits, rest => (some bits, rest)
  | _ + 1, _, _, _, [] => (none, [])
  | count + 1, low, high, bits, o :: rest =>
    if low ≤ o.toNat ∧ o.toNat ≤ high then
      following count 0x80 0xBF (bits * 64 + o.toNat % 64) rest
    else (none, o :: rest)

/-- Reading the following octets consumes nothing but octets. -/
theorem length_following_le (count low high bits : Nat) (os : List UInt8) :
    (following count low high bits os).2.length ≤ os.length := by
  induction count generalizing low high bits os with
  | zero => simp [following]
  | succ count ih =>
    cases os with
    | nil => simp [following]
    | cons o rest =>
      rw [following]
      split
      · exact Nat.le_succ_of_le (ih ..)
      · exact Nat.le_refl _

/-- The first character or longest invalid part after a first octet, and what follows it. -/
def part (first : UInt8) (rest : List UInt8) : Option Char × List UInt8 :=
  match lead? first.toNat with
  | none => (none, rest)
  | some l =>
    let r := following l.following l.low l.high l.bits rest
    (r.1.map Char.ofNat, r.2)

/-- What follows a part is no longer than what followed its first octet. -/
theorem length_part_le (first : UInt8) (rest : List UInt8) :
    (part first rest).2.length ≤ rest.length := by
  unfold part
  split
  · exact Nat.le_refl _
  · exact length_following_le ..

/-- The characters of octets, `none` standing for a longest invalid part. -/
def parts : List UInt8 → List (Option Char)
  | [] => []
  | first :: rest => (part first rest).1 :: parts (part first rest).2
termination_by os => os.length
decreasing_by exact Nat.lt_succ_of_le (length_part_le first rest)

def replacement : Char := '\ufffd'

/-- The text of octets, each longest invalid part read as a replacement character. -/
def decodeReplacing (os : List UInt8) : List Char :=
  (parts os).map (·.getD replacement)

def decode? (os : List UInt8) : Option (List Char) :=
  (parts os).mapM id

end RequestLog.Text.Utf8
