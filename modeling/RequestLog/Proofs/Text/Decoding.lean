import Mathlib.Tactic.SplitIfs
import RequestLog.Proofs.Breaks.Text

/-!
Reading octets back as text. In each of the character sets that have all characters, octets are
read as a text exactly if they are what is written for it; so what is written for several texts,
one after the other, is read as one text.
-/
namespace RequestLog.Text

namespace Utf8

variable {n m count low high bits : Nat} {c : Char} {first : UInt8} {os rest : List UInt8}
  {cs : List Char}

theorem toNat_octet (h : n < 256) : (octet n).toNat = n := by
  simp only [octet, UInt8.toNat_ofNat']
  omega

theorem octet_toNat (o : UInt8) : octet o.toNat = o := by
  simp [octet]

section Standard

end Standard

section Leads

theorem lead?_of_ascii (h : n < 0x80) : lead? n = some ⟨n, 0, 0x80, 0xBF⟩ := by
  rw [lead?, if_pos h]

theorem lead?_of_pair (hlow : 0xC2 ≤ n) (hhigh : n < 0xE0) :
    lead? n = some ⟨n % 32, 1, 0x80, 0xBF⟩ := by
  rw [lead?, if_neg (by omega), if_neg (by omega), if_pos hhigh]

theorem lead?_of_triple (hlow : 0xE0 ≤ n) (hhigh : n < 0xF0) :
    lead? n = some ⟨n % 16, 2, if n = 0xE0 then 0xA0 else 0x80,
    if n = 0xED then 0x9F else 0xBF⟩ := by
  by_cases h₁ : n = 0xE0
  · subst h₁
    rfl
  by_cases h₂ : n = 0xED
  · subst h₂
    rfl
  · rw [lead?, if_neg (by omega), if_neg (by omega), if_neg (by omega), if_neg h₁, if_neg h₂,
      if_pos hhigh, if_neg h₁, if_neg h₂]

theorem lead?_of_quadruple (hlow : 0xF0 ≤ n) (hhigh : n < 0xF5) :
    lead? n = some ⟨n % 8, 3, if n = 0xF0 then 0x90 else 0x80,
    if n = 0xF4 then 0x8F else 0xBF⟩ := by
  by_cases h₁ : n = 0xF0
  · subst h₁
    rfl
  by_cases h₂ : n = 0xF4
  · subst h₂
    rfl
  · rw [lead?, if_neg (by omega), if_neg (by omega), if_neg (by omega), if_neg (by omega),
      if_neg (by omega), if_neg (by omega), if_neg h₁, if_pos (by omega), if_neg h₁, if_neg h₂]

/-- Every other octet can only follow. -/
theorem lead?_eq_none (h : 0x80 ≤ n ∧ n < 0xC2 ∨ 0xF5 ≤ n) : lead? n = none := by
  rcases h with ⟨hlow, hhigh⟩ | h
  · rw [lead?, if_neg (by omega), if_pos hhigh]
  · rw [lead?]
    repeat rw [if_neg (by omega)]

end Leads

theorem following_succ_iff :
    following (count + 1) low high bits os = (some m, rest) ↔
      ∃ b < 256, ∃ more, os = octet b :: more ∧ low ≤ b ∧ b ≤ high ∧
        following count 0x80 0xBF (bits * 64 + b % 64) more = (some m, rest) := by
  constructor
  · intro h
    cases os with
    | nil => cases h
    | cons o more =>
      rw [following] at h
      split at h
      · next ho => exact ⟨o.toNat, o.toNat_lt, more, by rw [octet_toNat], ho.1, ho.2, h⟩
      · cases h
  · rintro ⟨b, hb, more, rfl, hlow, hhigh, h⟩
    rw [following, toNat_octet hb, if_pos ⟨hlow, hhigh⟩, h]

theorem part_eq_iff (hl : lead? n = some ⟨bits, count, low, high⟩) (hn : n < 256) :
    part (octet n) os = (some c, rest) ↔
      ∃ m, following count low high bits os = (some m, rest) ∧ Char.ofNat m = c := by
  rw [part, toNat_octet hn, hl]
  simp only [Option.map_eq_some_iff, Prod.ext_iff]
  grind

/-- A character is read back from its octets, whatever comes after them. -/
theorem part_encodeChar (c : Char) (rest : List UInt8) :
    ∃ first more, encodeChar c = first :: more ∧ part first (more ++ rest) = (some c, rest) := by
  have hvalid : c.toNat.isValidChar := c.valid
  have hc : Char.ofNat c.toNat = c := Char.ofNat_toNat c
  unfold encodeChar
  generalize c.toNat = n at hvalid hc
  dsimp only
  -- one, two, three or four octets
  split_ifs with h₁ h₂ h₃
  · refine ⟨_, _, rfl, ?_⟩
    rw [part_eq_iff (lead?_of_ascii h₁) (by omega)]
    exact ⟨n, rfl, hc⟩
  · refine ⟨_, _, rfl, ?_⟩
    rw [part_eq_iff (lead?_of_pair (by omega) (by omega)) (by omega)]
    refine ⟨n, following_succ_iff.mpr ⟨0x80 + n % 64, by omega, _, rfl, by omega, by omega, ?_⟩,
      hc⟩
    rw [following]
    congr 2
    omega
  · refine ⟨_, _, rfl, ?_⟩
    rw [part_eq_iff (lead?_of_triple (by omega) (by omega)) (by omega)]
    refine ⟨n, following_succ_iff.mpr ⟨0x80 + n / 64 % 64, by omega, _, rfl, ?_, ?_, ?_⟩, hc⟩
    · split_ifs <;> omega
    · split_ifs <;> omega
    refine following_succ_iff.mpr ⟨0x80 + n % 64, by omega, _, rfl, by omega, by omega, ?_⟩
    rw [following]
    congr 2
    omega
  · refine ⟨_, _, rfl, ?_⟩
    rw [part_eq_iff (lead?_of_quadruple (by omega) (by omega)) (by omega)]
    refine ⟨n, following_succ_iff.mpr ⟨0x80 + n / 4096 % 64, by omega, _, rfl, ?_, ?_, ?_⟩, hc⟩
    · split_ifs <;> omega
    · split_ifs <;> omega
    refine following_succ_iff.mpr ⟨0x80 + n / 64 % 64, by omega, _, rfl, by omega, by omega, ?_⟩
    refine following_succ_iff.mpr ⟨0x80 + n % 64, by omega, _, rfl, by omega, by omega, ?_⟩
    rw [following]
    congr 2
    omega

theorem toNat_ofNat_of_valid (h : m.isValidChar) : (Char.ofNat m).toNat = m := by
  rw [toNat_ofNat, if_pos h]

section Characters

variable {b d f : Nat}

theorem encodeChar_of_pair (hlow : 0xC2 ≤ n) (hhigh : n < 0xE0) (hb : 0x80 ≤ b ∧ b ≤ 0xBF) :
    encodeChar (Char.ofNat (n % 32 * 64 + b % 64)) = [octet n, octet b] := by
  rw [encodeChar, toNat_ofNat_of_valid (.inl (by omega)), if_neg (by omega), if_pos (by omega)]
  simp only [List.cons.injEq, and_true]
  constructor <;> congr 1 <;> omega

/-- The ranges of the second octet leave out long forms and halves of pairs. -/
theorem encodeChar_of_triple (hlow : 0xE0 ≤ n) (hhigh : n < 0xF0) (hb : 0x80 ≤ b ∧ b ≤ 0xBF)
    (hlong : n = 0xE0 → 0xA0 ≤ b) (hhalf : n = 0xED → b ≤ 0x9F) (hd : 0x80 ≤ d ∧ d ≤ 0xBF) :
    encodeChar (Char.ofNat ((n % 16 * 64 + b % 64) * 64 + d % 64)) = [octet n, octet b,
        octet d] := by
  rw [encodeChar, toNat_ofNat_of_valid (by omega), if_neg (by omega), if_neg (by omega),
    if_pos (by omega)]
  simp only [List.cons.injEq, and_true]
  refine ⟨?_, ?_, ?_⟩ <;> congr 1 <;> omega

theorem encodeChar_of_quadruple (hlow : 0xF0 ≤ n) (hhigh : n < 0xF5) (hb : 0x80 ≤ b ∧ b ≤ 0xBF)
    (hlong : n = 0xF0 → 0x90 ≤ b) (hlast : n = 0xF4 → b ≤ 0x8F) (hd : 0x80 ≤ d ∧ d ≤ 0xBF)
    (hf : 0x80 ≤ f ∧ f ≤ 0xBF) :
    encodeChar (Char.ofNat (((n % 8 * 64 + b % 64) * 64 + d % 64) * 64 + f % 64)) =
      [octet n, octet b, octet d, octet f] := by
  rw [encodeChar, toNat_ofNat_of_valid (by omega), if_neg (by omega), if_neg (by omega),
    if_neg (by omega)]
  simp only [List.cons.injEq, and_true]
  refine ⟨?_, ?_, ?_, ?_⟩ <;> congr 1 <;> omega

end Characters

/-- No other octets are read as a character. -/
theorem eq_encodeChar_of_part (h : part first os = (some c, rest)) :
    first :: os = encodeChar c ++ rest := by
  obtain ⟨n, hn, rfl⟩ : ∃ n, n < 256 ∧ first = octet n :=
    ⟨first.toNat, first.toNat_lt, by rw [octet_toNat]⟩
  by_cases h₁ : n < 0x80
  · obtain ⟨m, hm, rfl⟩ := (part_eq_iff (lead?_of_ascii h₁) hn).mp h
    cases hm
    rw [encodeChar, toNat_ofNat_of_valid (.inl (by omega)), if_pos h₁]
    rfl
  by_cases h₂ : n < 0xC2
  · rw [part, toNat_octet hn, lead?_eq_none (.inl ⟨by omega, h₂⟩)] at h
    cases h
  by_cases h₃ : n < 0xE0
  · obtain ⟨m, hm, rfl⟩ := (part_eq_iff (lead?_of_pair (by omega) h₃) hn).mp h
    obtain ⟨b, hb, more, rfl, hlow, hhigh, hm⟩ := following_succ_iff.mp hm
    cases hm
    rw [encodeChar_of_pair (by omega) h₃ ⟨hlow, hhigh⟩]
    rfl
  by_cases h₄ : n < 0xF0
  · obtain ⟨m, hm, rfl⟩ := (part_eq_iff (lead?_of_triple (by omega) h₄) hn).mp h
    obtain ⟨b, hb, more, rfl, hlow, hhigh, hm⟩ := following_succ_iff.mp hm
    obtain ⟨d, hd, more, rfl, hdlow, hdhigh, hm⟩ := following_succ_iff.mp hm
    cases hm
    have hlong : 0x80 ≤ b ∧ (n = 0xE0 → 0xA0 ≤ b) := by
      split_ifs at hlow <;> omega
    have hhalf : b ≤ 0xBF ∧ (n = 0xED → b ≤ 0x9F) := by
      split_ifs at hhigh <;> omega
    rw [encodeChar_of_triple (by omega) h₄ ⟨hlong.1, hhalf.1⟩ hlong.2 hhalf.2 ⟨hdlow, hdhigh⟩]
    rfl
  by_cases h₅ : n < 0xF5
  · obtain ⟨m, hm, rfl⟩ := (part_eq_iff (lead?_of_quadruple (by omega) h₅) hn).mp h
    obtain ⟨b, hb, more, rfl, hlow, hhigh, hm⟩ := following_succ_iff.mp hm
    obtain ⟨d, hd, more, rfl, hdlow, hdhigh, hm⟩ := following_succ_iff.mp hm
    obtain ⟨f, hf, more, rfl, hflow, hfhigh, hm⟩ := following_succ_iff.mp hm
    cases hm
    have hlong : 0x80 ≤ b ∧ (n = 0xF0 → 0x90 ≤ b) := by
      split_ifs at hlow <;> omega
    have hlast : b ≤ 0xBF ∧ (n = 0xF4 → b ≤ 0x8F) := by
      split_ifs at hhigh <;> omega
    rw [encodeChar_of_quadruple (by omega) h₅ ⟨hlong.1, hlast.1⟩ hlong.2 hlast.2 ⟨hdlow, hdhigh⟩
      ⟨hflow, hfhigh⟩]
    rfl
  · rw [part, toNat_octet hn, lead?_eq_none (.inr (by omega))] at h
    cases h

theorem parts_encode (cs : List Char) : parts (encode cs) = cs.map some := by
  induction cs with
  | nil => simp [encode, parts]
  | cons c rest ih =>
    obtain ⟨first, more, hc, hpart⟩ := part_encodeChar c (encode rest)
    have henc : encode (c :: rest) = first :: (more ++ encode rest) := by
      rw [encode, List.flatMap_cons, hc]
      rfl
    rw [henc, parts, hpart, ih, List.map_cons]

theorem eq_encode_of_parts (h : parts os = cs.map some) : os = encode cs := by
  induction os using parts.induct generalizing cs with
  | case1 =>
    rw [parts] at h
    rw [List.map_eq_nil_iff.mp h.symm]
    rfl
  | case2 first os ih =>
    rw [parts] at h
    obtain ⟨c, rest, rfl, hc, hrest⟩ := List.map_eq_cons_iff.mp h.symm
    have hpart : part first os = (some c, (part first os).2) := Prod.ext hc.symm rfl
    have hmore := ih hrest.symm
    rw [eq_encodeChar_of_part hpart, hmore]
    rfl

theorem mapM_id_eq_some_iff {found : List (Option Char)} : found.mapM id = some cs ↔
    found = cs.map some := by
  induction found generalizing cs with
  | nil => cases cs <;> simp
  | cons o rest ih =>
    cases o with
    | none => cases cs <;> simp
    | some c =>
      cases cs with
      | nil => simp [Option.bind_eq_some_iff]
      | cons d ds => simpa [Option.bind_eq_some_iff, ih] using and_comm

theorem decode?_eq_some_iff : decode? os = some cs ↔ os = encode cs := by
  rw [decode?, mapM_id_eq_some_iff]
  constructor
  · exact eq_encode_of_parts
  · rintro rfl
    exact parts_encode cs

end Utf8

namespace Charset

variable {n : Nat} {c : Char} {os : List UInt8} {ns : List Nat} {cs : List Char}

theorem char?_eq_some_iff : char? n = some c ↔ n = c.toNat := by
  unfold char?
  constructor
  · intro h
    split at h
    · next hvalid =>
      cases h
      exact (Utf8.toNat_ofNat_of_valid hvalid).symm
    · cases h
  · rintro rfl
    have hvalid : c.toNat.isValidChar := c.valid
    rw [if_pos hvalid, Char.ofNat_toNat]

section Pairs

/-- A reader of octets by twos, whose numbers are written as two octets each. -/
theorem read_eq_some_iff {read : List UInt8 → Option (List Nat)} {number : UInt8 → UInt8 → Nat}
    {octets : Nat → List UInt8} (hnil : read [] = some []) (hsingle : ∀ a, read [a] = none)
    (hcons : ∀ a b rest, read (a :: b :: rest) = (read rest).map (number a b :: ·))
    (hnumber : ∀ a b, number a b < 65536 ∧ octets (number a b) = [a, b])
    (hoctets : ∀ n < 65536, ∃ a b, octets n = [a, b] ∧ number a b = n) :
    read os = some ns ↔ (∀ n ∈ ns, n < 65536) ∧ os = ns.flatMap octets := by
  constructor
  · intro h
    induction os using pairs?.induct generalizing ns with
    | case1 =>
      cases hnil.symm.trans h
      simp
    | case2 a => cases (hsingle a).symm.trans h
    | case3 a b rest ih =>
      rw [hcons] at h
      obtain ⟨more, hmore, rfl⟩ := Option.map_eq_some_iff.mp h
      obtain ⟨hlt, rfl⟩ := ih hmore
      obtain ⟨hab, hpair⟩ := hnumber a b
      refine ⟨List.forall_mem_cons.mpr ⟨hab, hlt⟩, ?_⟩
      rw [List.flatMap_cons, hpair]
      rfl
  · rintro ⟨hlt, rfl⟩
    induction ns with
    | nil => exact hnil
    | cons n rest ih =>
      obtain ⟨hn, hrest⟩ := List.forall_mem_cons.mp hlt
      obtain ⟨a, b, hpair, hab⟩ := hoctets n hn
      rw [List.flatMap_cons, hpair, List.cons_append, List.singleton_append, hcons, ih hrest, hab]
      rfl

theorem highFirst_pair (a b : UInt8) :
    a.toNat * 256 + b.toNat < 65536 ∧ highFirst (a.toNat * 256 + b.toNat) = [a, b] := by
  have ha := a.toNat_lt
  have hb := b.toNat_lt
  have hhigh : (a.toNat * 256 + b.toNat) / 256 = a.toNat := by omega
  have hlow : (a.toNat * 256 + b.toNat) % 256 = b.toNat := by omega
  rw [highFirst, hhigh, hlow, Utf8.octet_toNat, Utf8.octet_toNat]
  exact ⟨by omega, rfl⟩

theorem pair_highFirst (h : n < 65536) :
    (Utf8.octet (n / 256)).toNat * 256 + (Utf8.octet (n % 256)).toNat = n := by
  rw [Utf8.toNat_octet (by omega), Utf8.toNat_octet (by omega)]
  omega

theorem pairs?_eq_some_iff :
    pairs? os = some ns ↔ (∀ n ∈ ns, n < 65536) ∧ os = ns.flatMap highFirst :=
  read_eq_some_iff rfl (fun _ => rfl) (fun _ _ _ => rfl) highFirst_pair
    fun _ hn => ⟨_, _, rfl, pair_highFirst hn⟩

theorem reversedPairs?_eq_some_iff :
    reversedPairs? os = some ns ↔
      (∀ n ∈ ns, n < 65536) ∧ os = ns.flatMap fun n => (highFirst n).reverse := by
  refine read_eq_some_iff rfl (fun _ => rfl) (fun _ _ _ => rfl) (fun a b => ?_)
    fun _ hn => ⟨_, _, rfl, pair_highFirst hn⟩
  obtain ⟨hlt, hpair⟩ := highFirst_pair b a
  exact ⟨hlt, by rw [hpair]; rfl⟩

end Pairs

/-- The two numbers below 65536 that make up a number of 32 bits. -/
def halves (c : Char) : List Nat :=
  [c.toNat / 65536, c.toNat % 65536]

theorem units16_lt (h : n ∈ units16 c) : n < 65536 := by
  have hvalid : c.toNat.isValidChar := c.valid
  unfold units16 at h
  dsimp only at h
  split_ifs at h <;> simp only [List.mem_cons, List.not_mem_nil, or_false] at h <;> omega

theorem halves_lt (h : n ∈ halves c) : n < 65536 := by
  have hvalid : c.toNat.isValidChar := c.valid
  simp only [halves, List.mem_cons, List.not_mem_nil, or_false] at h
  omega

theorem ofUnits16?_units16 (c : Char) (rest : List Nat) :
    ofUnits16? (units16 c ++ rest) = (ofUnits16? rest).map (c :: ·) := by
  have hvalid : c.toNat.isValidChar := c.valid
  have hc : char? c.toNat = some c := char?_eq_some_iff.mpr rfl
  unfold units16
  dsimp only
  split_ifs with h
  · cases rest with
    | nil => simp [ofUnits16?, hc]
    | cons v rest =>
      rw [List.singleton_append, ofUnits16?, if_neg (by omega), hc]
      cases ofUnits16? (v :: rest) <;> rfl
  · have hn : 0x10000 + (0xD800 + (c.toNat - 0x10000) / 1024 - 0xD800) * 1024 +
        (0xDC00 + (c.toNat - 0x10000) % 1024 - 0xDC00) = c.toNat := by omega
    rw [List.cons_append, List.singleton_append, ofUnits16?, if_pos (by omega), if_pos (by omega),
      hn, hc]
    cases ofUnits16? rest <;> rfl

/-- Halves of pairs are read as a character only together, and the character lies beyond those of
one unit. -/
theorem eq_of_ofUnits16? (h : ofUnits16? ns = some cs) (hlt : ∀ n ∈ ns, n < 65536) :
    ns = cs.flatMap units16 := by
  induction ns using ofUnits16?.induct generalizing cs with
  | case1 =>
    cases h
    rfl
  | case2 u =>
    obtain ⟨c, hc, rfl⟩ := Option.map_eq_some_iff.mp h
    have hu := hlt u List.mem_cons_self
    obtain rfl := char?_eq_some_iff.mp hc
    simp [units16, hu]
  | case3 u v rest hu hv ih =>
    rw [ofUnits16?, if_pos hu, if_pos hv] at h
    obtain ⟨c, hc, h⟩ := Option.bind_eq_some_iff.mp h
    obtain ⟨more, hmore, h⟩ := Option.bind_eq_some_iff.mp h
    cases h
    have hrest := ih hmore fun n hn => hlt n (List.mem_cons_of_mem _ (List.mem_cons_of_mem _ hn))
    have hn := char?_eq_some_iff.mp hc
    have hpair : ¬ c.toNat < 0x10000 := by omega
    have hhigh : 0xD800 + (c.toNat - 0x10000) / 1024 = u := by omega
    have hlow : 0xDC00 + (c.toNat - 0x10000) % 1024 = v := by omega
    have hunits : units16 c = [u, v] := by simp [units16, hpair, hhigh, hlow]
    rw [List.flatMap_cons, hunits, hrest]
    rfl
  | case4 u v rest hu hv =>
    rw [ofUnits16?, if_pos hu, if_neg hv] at h
    cases h
  | case5 u v rest hu ih =>
    rw [ofUnits16?, if_neg hu] at h
    obtain ⟨c, hc, h⟩ := Option.bind_eq_some_iff.mp h
    obtain ⟨more, hmore, h⟩ := Option.bind_eq_some_iff.mp h
    cases h
    have hrest := ih hmore fun n hn => hlt n (List.mem_cons_of_mem _ hn)
    have hlt := hlt u List.mem_cons_self
    obtain rfl := char?_eq_some_iff.mp hc
    have hunits : units16 c = [c.toNat] := by simp [units16, hlt]
    rw [List.flatMap_cons, hunits, ← hrest]
    rfl

theorem ofUnits16?_eq_some_iff (hlt : ∀ n ∈ ns, n < 65536) :
    ofUnits16? ns = some cs ↔ ns = cs.flatMap units16 := by
  constructor
  · exact fun h => eq_of_ofUnits16? h hlt
  · rintro rfl
    clear hlt
    induction cs with
    | nil => rfl
    | cons c rest ih => rw [List.flatMap_cons, ofUnits16?_units16, ih, Option.map_some]

theorem ofQuads?_eq_some_iff (hlt : ∀ n ∈ ns, n < 65536) :
    ofQuads? ns = some cs ↔ ns = cs.flatMap halves := by
  constructor
  · intro h
    induction ns using ofQuads?.induct generalizing cs with
    | case1 =>
      cases h
      rfl
    | case2 => cases h
    | case3 a b rest ih =>
      rw [ofQuads?] at h
      obtain ⟨c, hc, h⟩ := Option.bind_eq_some_iff.mp h
      obtain ⟨more, hmore, h⟩ := Option.bind_eq_some_iff.mp h
      cases h
      have hrest := ih (fun n hn => hlt n (List.mem_cons_of_mem _ (List.mem_cons_of_mem _ hn)))
        hmore
      have hb : b < 65536 := hlt b (List.mem_cons_of_mem _ List.mem_cons_self)
      have hn := char?_eq_some_iff.mp hc
      have hhalves : halves c = [a, b] := by
        rw [halves, ← hn]
        congr 2 <;> omega
      rw [List.flatMap_cons, hhalves, ← hrest]
      rfl
  · rintro rfl
    clear hlt
    induction cs with
    | nil => rfl
    | cons c rest ih =>
      have hn : c.toNat / 65536 * 65536 + c.toNat % 65536 = c.toNat := by omega
      have hc : char? c.toNat = some c := char?_eq_some_iff.mpr rfl
      simp [halves, ofQuads?, hn, hc] at ih ⊢
      simp [ih]

/-- What a reader of the units of characters and a reader of the octets of units read together. -/
theorem bind_eq_some_iff_of_units {read : List UInt8 → Option (List Nat)}
    {ofUnits : List Nat → Option (List Char)} {octets : Nat → List UInt8} {units : Char → List Nat}
    (hread : ∀ ns, read os = some ns ↔ (∀ n ∈ ns, n < 65536) ∧ os = ns.flatMap octets)
    (hof : ∀ ns, (∀ n ∈ ns, n < 65536) → (ofUnits ns = some cs ↔ ns = cs.flatMap units))
    (hunits : ∀ c n, n ∈ units c → n < 65536) :
    (read os).bind ofUnits = some cs ↔ os = cs.flatMap fun c => (units c).flatMap octets := by
  rw [Option.bind_eq_some_iff, ← List.flatMap_assoc]
  constructor
  · rintro ⟨ns, hns, h⟩
    obtain ⟨hlt, rfl⟩ := (hread ns).mp hns
    rw [(hof ns hlt).mp h]
  · intro h
    have hlt : ∀ n ∈ cs.flatMap units, n < 65536 := by
      intro n hn
      obtain ⟨c, -, hc⟩ := List.mem_flatMap.mp hn
      exact hunits c n hc
    exact ⟨cs.flatMap units, (hread _).mpr ⟨hlt, h⟩, (hof _ hlt).mpr rfl⟩

/-- In a character set that has all characters, octets are read as a text exactly if they are the
octets of the text. -/
theorem decode?_eq_some_iff {charset : Charset} (h : charset.limit? = none) :
    charset.decode? os = some cs ↔ os = charset.encode cs := by
  cases charset with
  | ascii => cases h
  | latin1 => cases h
  | utf8 => exact Utf8.decode?_eq_some_iff
  | utf16le =>
    exact bind_eq_some_iff_of_units (fun _ => reversedPairs?_eq_some_iff)
      (fun _ => ofUnits16?_eq_some_iff) fun _ _ => units16_lt
  | utf16be =>
    exact bind_eq_some_iff_of_units (fun _ => pairs?_eq_some_iff) (fun _ => ofUnits16?_eq_some_iff)
      fun _ _ => units16_lt
  | utf32be =>
    have hchar : encodeChar utf32be = fun c => (halves c).flatMap highFirst := by
      funext c
      simp [encodeChar, halves]
    rw [encode, hchar]
    exact bind_eq_some_iff_of_units (fun _ => pairs?_eq_some_iff) (fun _ => ofQuads?_eq_some_iff)
      fun _ _ => halves_lt

end Charset

end RequestLog.Text
