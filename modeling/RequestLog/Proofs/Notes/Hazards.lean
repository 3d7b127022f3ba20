import Mathlib.Algebra.Group.Nat.Defs
import Mathlib.Data.List.Infix
import RequestLog.Message
import RequestLog.Proofs.Number.Rounding
import RequestLog.Proofs.Refusals

/-!
Messages that are not filled in. Apart from places that do not fit the arguments there are two
reasons for it: a number beyond some limit, which is an argument or is written out in the message
with ten digits, and an argument that refuses its text.
-/
namespace RequestLog

/-- An argument that may have no place in a message. -/
inductive Argument.Risky : Argument → Prop
  | infinite {x : Float} {negative : Bool} (read : Number.read x = .infinite negative) :
      Risky (.value (.float x))
  /-- A whole number that is no code point. -/
  | whole {v : Value} {n : Int} (counts : v.whole? = some n) (out : n < 0 ∨ 0x110000 ≤ n) :
      Risky (.value v)
  | unshown {a : Argument} {r : Refusal} (refuses : a.display = .error r ∨ a.literal = .error r) :
      Risky a

namespace Message

variable {cs rest : List Char} {args args' : List Argument} {a : Argument} {misfit : Misfit}
    {fuel : Nat}

/-- Whether a text has ten digits in a row. -/
def LongNumber (cs : List Char) : Prop :=
  ∃ digits, digits <:+: cs ∧ digits.length = 10 ∧ ∀ c ∈ digits, c.isDigit = true

/-- Whether there is something in a text or among arguments that may keep it from being filled. -/
def Hazard (cs : List Char) (args : List Argument) : Prop :=
  LongNumber cs ∨ ∃ a ∈ args, a.Risky

/-- What has been read of a text and of arguments stands at their front. -/
structure Leaves (cs : List Char) (args : List Argument) (rest : List Char)
    (args' : List Argument) :
    Prop where
  text : rest <:+ cs
  arguments : args' <:+ args

theorem Hazard.of_leaves (h : Hazard rest args') (hl : Leaves cs args rest args') :
    Hazard cs args := by
  rcases h with ⟨digits, hdigits, hten⟩ | ⟨a, ha, hrisky⟩
  · exact .inl ⟨digits, hdigits.trans hl.text.isInfix, hten⟩
  · exact .inr ⟨a, hl.arguments.subset ha, hrisky⟩

theorem Leaves.trans {last : List Char} {args'' : List Argument} (h : Leaves cs args rest args')
    (hl : Leaves rest args' last args'') : Leaves cs args last args'' :=
  ⟨hl.text.trans h.text, hl.arguments.trans h.arguments⟩

section Numbers

/-- The digits of a number stand before the rest, and bound it. -/
theorem readNumber_eq (n : Nat) (cs : List Char) :
    ∃ digits, cs = digits ++ (readNumber n cs).2 ∧ (∀ c ∈ digits, c.isDigit = true) ∧
      (readNumber n cs).1 < (n + 1) * 10 ^ digits.length := by
  fun_induction readNumber n cs with
  | case1 n c cs hc ih =>
    obtain ⟨digits, hcs, hdigits, hlt⟩ := ih
    refine ⟨c :: digits, congrArg (c :: ·) hcs, List.forall_mem_cons.mpr ⟨hc, hdigits⟩, ?_⟩
    have hnine : c.toNat - 48 ≤ 9 := by
      have hlast : c.toNat ≤ 57 := (Char.isDigit_iff_toNat.mp hc).2
      omega
    have hbound : 10 * n + (c.toNat - 48) + 1 ≤ (n + 1) * 10 := by omega
    calc (readNumber (10 * n + (c.toNat - 48)) cs).1
        < (10 * n + (c.toNat - 48) + 1) * 10 ^ digits.length := hlt
      _ ≤ (n + 1) * 10 * 10 ^ digits.length := Nat.mul_le_mul_right _ hbound
      _ = (n + 1) * 10 ^ (c :: digits).length := by
        rw [List.length_cons, Nat.pow_succ, Nat.mul_assoc, Nat.mul_comm 10]
  | case2 n c cs hc => exact ⟨[], by simp⟩
  | case3 n => exact ⟨[], by simp⟩

theorem readNumber_suffix (n : Nat) (cs : List Char) : (readNumber n cs).2 <:+ cs := by
  obtain ⟨digits, hcs, -⟩ := readNumber_eq n cs
  exact ⟨digits, hcs.symm⟩

/-- A number that is large enough is written with ten digits. -/
theorem longNumber_of_le (h : 10 ^ 9 ≤ (readNumber 0 cs).1) : LongNumber cs := by
  obtain ⟨digits, hcs, hdigits, hlt⟩ := readNumber_eq 0 cs
  have hten : 10 ≤ digits.length := by
    by_contra hfew
    have hle : 10 ^ digits.length ≤ 10 ^ 9 := Nat.pow_le_pow_right (by decide) (by omega)
    omega
  refine ⟨digits.take 10, ?_, by simp [hten], fun c hc => hdigits c (List.mem_of_mem_take hc)⟩
  have hprefix : digits.take 10 <+: cs := by
    rw [hcs]
    exact (List.take_prefix 10 digits).trans (List.prefix_append _ _)
  exact hprefix.isInfix

theorem out_of_beyond {largest : Nat} {n : Int} (hlargest : 0x110000 ≤ largest)
    (h : beyond largest n = true) : n < 0 ∨ 0x110000 ≤ n := by
  simp only [beyond, Bool.or_eq_true, decide_eq_true_eq, Int.ofNat_eq_natCast] at h
  omega

theorem starArgument_ok {n : Int} (h : starArgument args = .ok (n, args')) :
    ∃ v, args = .value v :: args' ∧ v.whole? = some n := by
  unfold starArgument at h
  split at h
  · next v rest =>
    split at h
    · next m hm =>
      cases h
      exact ⟨v, rfl, hm⟩
    · cases h
  · cases h

theorem starArgument_error (h : starArgument args = .error misfit) : misfit = .mismatch := by
  unfold starArgument at h
  split at h
  · split at h <;> cases h
    rfl
  · cases h
    rfl

/-- A number beyond a limit that is taken from the arguments. -/
theorem hazard_of_star {n : Int} (h : starArgument args = .ok (n, args'))
    (hn : n < 0 ∨ 0x110000 ≤ n) : Hazard cs args := by
  obtain ⟨v, rfl, hv⟩ := starArgument_ok h
  exact .inr ⟨_, List.mem_cons_self, .whole hv hn⟩

/-- A number that is taken from the arguments and refused is beyond a limit. -/
theorem hazard_of_star_error {β : Type} {largest : Nat} {reason : String}
    {make : Int × List Argument → β} (hlargest : 0x110000 ≤ largest)
    (h : (starArgument args >>= fun taken =>
      if beyond largest taken.1 then .error (.overflow reason) else .ok (make taken)) =
        .error misfit) (hm : misfit ≠ .mismatch) : Hazard cs args := by
  rcases bind_eq_error.mp h with hstar | ⟨⟨n, more⟩, hstar, h⟩
  · exact absurd (starArgument_error hstar) hm
  · split at h
    · next hbeyond => exact hazard_of_star hstar (out_of_beyond hlargest hbeyond)
    · cases h

theorem leaves_of_star {n : Int} (c : Char) (rest : List Char)
    (h : starArgument args = .ok (n, args')) :
    Leaves (c :: rest) args rest args' := by
  obtain ⟨v, rfl, -⟩ := starArgument_ok h
  exact ⟨List.suffix_cons _ _, List.suffix_cons _ _⟩

end Numbers

section Places

theorem readFlags_suffix (f : Flags) (cs : List Char) : (readFlags f cs).2 <:+ cs := by
  fun_induction readFlags f cs with
  | case6 f cs => exact List.suffix_refl _
  | _ => exact List.IsSuffix.trans ‹_› (List.suffix_cons _ _)

theorem readWidth_ok {width : Option Nat} {toLeft : Bool}
    (h : readWidth cs args = .ok (width, toLeft, rest, args')) :
    Leaves cs args rest args' ∧ (roomLimit ≤ width.getD 0 → Hazard cs args) := by
  unfold readWidth at h
  split at h
  · next cs =>
    obtain ⟨⟨n, more⟩, hstar, h⟩ := bind_eq_ok.mp h
    dsimp only at h
    split at h
    · cases h
    · cases h
      refine ⟨leaves_of_star '*' rest hstar, fun hroom => hazard_of_star hstar ?_⟩
      simp only [Option.getD_some, widthOf, roomLimit] at hroom
      split at hroom
      · simp at hroom
        omega
      · simp at hroom
  · next c cs _ =>
    split at h
    · dsimp only at h
      split at h
      · cases h
      · cases h
        refine ⟨⟨readNumber_suffix 0 _, List.suffix_refl _⟩,
          fun hroom => .inl (longNumber_of_le ?_)⟩
        simp only [Option.getD_some, roomLimit] at hroom
        simp at hroom
        omega
    · cases h
      exact ⟨⟨List.suffix_refl _, List.suffix_refl _⟩, fun hroom => absurd hroom (by decide)⟩
  · cases h
    exact ⟨⟨List.suffix_refl _, List.suffix_refl _⟩, fun hroom => absurd hroom (by decide)⟩

theorem readWidth_error (h : readWidth cs args = .error misfit) (hm : misfit ≠ .mismatch) :
    Hazard cs args := by
  unfold readWidth at h
  split at h
  · exact hazard_of_star_error (by decide) h hm
  · split at h
    · dsimp only at h
      split at h
      · cases h
        exact absurd rfl hm
      · cases h
    · cases h
  · cases h

theorem readPrecision_ok {precision : Option Nat}
    (h : readPrecision cs args = .ok (precision, rest, args')) :
    Leaves cs args rest args' ∧ (maxWholePrecision < precision.getD 0 → Hazard cs args) := by
  unfold readPrecision at h
  split at h
  · next cs =>
    obtain ⟨⟨n, more⟩, hstar, h⟩ := bind_eq_ok.mp h
    dsimp only at h
    split at h
    · cases h
    · cases h
      have hleaves := leaves_of_star '*' rest hstar
      refine ⟨⟨hleaves.text.trans (List.suffix_cons _ _), hleaves.arguments⟩, fun hlong => ?_⟩
      apply hazard_of_star hstar
      simp [maxWholePrecision, maxPrecision] at hlong
      omega
  · next cs _ =>
    dsimp only at h
    split at h
    · cases h
    · cases h
      have hsuffix := (readNumber_suffix 0 cs).trans (List.suffix_cons '.' cs)
      refine ⟨⟨hsuffix, List.suffix_refl _⟩, fun hlong => ?_⟩
      have hnumber : LongNumber cs := by
        apply longNumber_of_le
        simp [maxWholePrecision, maxPrecision] at hlong
        omega
      exact Hazard.of_leaves (.inl hnumber) ⟨List.suffix_cons _ _, List.suffix_refl args⟩
  · cases h
    exact ⟨⟨List.suffix_refl _, List.suffix_refl _⟩, fun hlong => absurd hlong (by decide)⟩

theorem readPrecision_error (h : readPrecision cs args = .error misfit) (hm : misfit ≠ .mismatch) :
    Hazard cs args := by
  unfold readPrecision at h
  split at h
  · exact hazard_of_star_error (by decide) h hm
  · dsimp only at h
    split at h
    · cases h
      exact absurd rfl hm
    · cases h
  · cases h

theorem skipSize_suffix (cs : List Char) : skipSize cs <:+ cs := by
  unfold skipSize
  split
  · exact List.suffix_cons _ _
  · exact List.suffix_cons _ _
  · exact List.suffix_cons _ _
  · exact List.suffix_refl _

/-- A place that has been read, with a number beyond a limit where the place is too wide or asks
for too many digits. -/
theorem readPlace_ok {place : Place} (h : readPlace cs args = .ok (place, rest, args')) :
    Leaves cs args rest args' ∧
      (roomLimit ≤ place.width.getD 0 ∨ maxWholePrecision < place.precision.getD 0 →
        Hazard cs args) := by
  obtain ⟨⟨width, toLeft, cs₁, args₁⟩, hwidth, h⟩ := bind_eq_ok.mp h
  obtain ⟨⟨precision, cs₂, args₂⟩, hprecision, h⟩ := bind_eq_ok.mp h
  obtain ⟨hleaves₁, hroom⟩ := readWidth_ok hwidth
  obtain ⟨hleaves₂, hlong⟩ := readPrecision_ok hprecision
  have hflags : Leaves cs args (readFlags ⟨false, false, false, false, false⟩ cs).2 args :=
    ⟨readFlags_suffix _ cs, List.suffix_refl args⟩
  dsimp only at h
  split at h
  · next letter more hsize =>
    cases h
    have hletter : Leaves cs₂ args' rest args' := by
      refine ⟨?_, List.suffix_refl _⟩
      have hskip := skipSize_suffix cs₂
      rw [hsize] at hskip
      exact (List.suffix_cons letter rest).trans hskip
    refine ⟨((hflags.trans hleaves₁).trans hleaves₂).trans hletter, fun hbeyond => ?_⟩
    rcases hbeyond with hwide | hdigits
    · exact (hroom hwide).of_leaves hflags
    · exact (hlong hdigits).of_leaves (hflags.trans hleaves₁)
  · cases h

theorem readPlace_error (h : readPlace cs args = .error misfit) (hm : misfit ≠ .mismatch) :
    Hazard cs args := by
  have hflags : Leaves cs args (readFlags ⟨false, false, false, false, false⟩ cs).2 args :=
    ⟨readFlags_suffix _ cs, List.suffix_refl args⟩
  rcases bind_eq_error.mp h with hwidth | ⟨⟨width, toLeft, cs₁, args₁⟩, hwidth, h⟩
  · exact (readWidth_error hwidth hm).of_leaves hflags
  rcases bind_eq_error.mp h with hprecision | ⟨⟨precision, cs₂, args₂⟩, hprecision, h⟩
  · exact (readPrecision_error hprecision hm).of_leaves (hflags.trans (readWidth_ok hwidth).1)
  · dsimp only at h
    split at h <;> cases h
    exact absurd rfl hm

end Places

section Arguments

theorem wholeOf_error (h : wholeOf a = .error misfit) (hm : misfit ≠ .mismatch) : a.Risky := by
  unfold wholeOf at h
  split at h
  · split at h
    · cases h
    · next hread => exact .infinite hread
    · cases h
      exact absurd rfl hm
  · split at h
    · cases h
    · cases h
      exact absurd rfl hm
  · cases h
    exact absurd rfl hm

theorem whole?_of_wholeOf {n : Int} (h : wholeOf a = .ok n) :
    (∃ size ≤ 1024, n.natAbs < 2 ^ size) ∨ ∃ v, a = .value v ∧ v.whole? = some n := by
  unfold wholeOf at h
  split at h
  · split at h
    · next b hread =>
      cases h
      exact .inl (Number.natAbs_truncate_lt hread)
    · cases h
    · cases h
  · next v _ =>
    split at h
    · next hv =>
      cases h
      exact .inr ⟨v, rfl, hv⟩
    · cases h
  · cases h

theorem integerOf_ok {n : Int} (h : integerOf a = .ok n) : ∃ v, a = .value v ∧
    v.whole? = some n := by
  unfold integerOf at h
  split at h
  · next v =>
    split at h
    · next hv =>
      cases h
      exact ⟨v, rfl, hv⟩
    · cases h
  · cases h

theorem integerOf_error (h : integerOf a = .error misfit) : misfit = .mismatch := by
  unfold integerOf at h
  split at h
  · split at h <;> cases h
    rfl
  · cases h
    rfl

theorem floatOf_error (h : floatOf a = .error misfit) (hm : misfit ≠ .mismatch) : a.Risky := by
  unfold floatOf at h
  split at h
  · cases h
  · next v _ =>
    split at h
    · next n hv =>
      split at h
      · next hbound =>
        apply Argument.Risky.whole hv
        have hfloor : 0x110000 ≤ floatBound := by decide +kernel
        omega
      · cases h
    · cases h
      exact absurd rfl hm
  · cases h
    exact absurd rfl hm

theorem characterOf_error (h : characterOf a = .error misfit) (hm : misfit ≠ .mismatch) :
    a.Risky := by
  unfold characterOf at h
  split at h
  · split at h
    · cases h
    · cases h
      exact absurd rfl hm
  · rcases bind_eq_error.mp h with hinteger | ⟨n, hinteger, hrange⟩
    · exact absurd (integerOf_error hinteger) hm
    · obtain ⟨v, rfl, hv⟩ := integerOf_ok hinteger
      split at hrange
      · cases hrange
      · apply Argument.Risky.whole hv
        omega

theorem showInteger_error {p : Place} {base : Nat} {mark : List Char} {n : Int}
    (h : showInteger p base mark n = .error misfit) : maxWholePrecision < p.precision.getD 0 := by
  unfold showInteger at h
  split at h
  · assumption
  · cases h

theorem charactersOf_error {shown : Except Refusal String}
    (h : charactersOf shown = .error misfit) :
    ∃ r, shown = .error r := by
  obtain ⟨r, hr, -⟩ := mapError_eq_error.mp h
  exact ⟨r, map_eq_error.mp hr⟩

/-- A number with too many digits is no fraction, so the argument counts as that number. -/
theorem risky_of_numeral {n : Int} {r : Refusal} (h : wholeOf a = .ok n)
    (hn : Value.numeral n = .error r) : a.Risky := by
  have hmany : 10 ^ Number.maxDigits ≤ n.natAbs := by
    by_contra hfew
    cases hn.symm.trans (Value.numeral_of_lt (Nat.not_le.mp hfew))
  rcases whole?_of_wholeOf h with ⟨size, hsize, hlt⟩ | ⟨v, rfl, hv⟩
  · have hfew : n.natAbs < 10 ^ Number.maxDigits :=
      calc n.natAbs
          < 2 ^ size := hlt
        _ ≤ 10 ^ size := Nat.pow_le_pow_left (by decide) size
        _ ≤ 10 ^ Number.maxDigits := Nat.pow_le_pow_right (by decide) (hsize.trans (by decide))
    exact absurd hmany (Nat.not_le.mpr hfew)
  · have hseven : 10 ^ 7 ≤ n.natAbs := (Nat.pow_le_pow_right (by decide) (by decide)).trans hmany
    exact .whole hv (by omega)

theorem showDecimal_error {p : Place} {n : Int} (h : showDecimal p n = .error misfit) :
    maxWholePrecision < p.precision.getD 0 ∨ ∃ r, Value.numeral n = .error r := by
  rcases bind_eq_error.mp h with h | ⟨shown, -, h⟩
  · exact .inl (showInteger_error h)
  rcases bind_eq_error.mp h with h | ⟨digits, -, h⟩
  · exact .inr (charactersOf_error h)
  · cases h

theorem exists_of_characters {shown : Except Refusal String} {f : List Char → List Char}
    (h : (charactersOf shown >>= fun cs => pure (f cs)) = .error misfit) :
    ∃ r, shown = .error r := by
  rcases bind_eq_error.mp h with h | ⟨cs, -, h⟩
  · exact charactersOf_error h
  · cases h

section Kinds

variable {p : Place}

theorem decimal_error (h : (wholeOf a >>= fun n => showDecimal p n) = .error misfit)
    (hm : misfit ≠ .mismatch) : a.Risky ∨ maxWholePrecision < p.precision.getD 0 := by
  rcases bind_eq_error.mp h with h | ⟨n, hn, h⟩
  · exact .inl (wholeOf_error h hm)
  rcases showDecimal_error h with hlong | ⟨r, hr⟩
  · exact .inr hlong
  · exact .inl (risky_of_numeral hn hr)

theorem integer_error {base : Nat} {mark : List Char}
    (h : (integerOf a >>= fun n => showInteger p base mark n) = .error misfit)
    (hm : misfit ≠ .mismatch) : maxWholePrecision < p.precision.getD 0 := by
  rcases bind_eq_error.mp h with h | ⟨n, -, h⟩
  · exact absurd (integerOf_error h) hm
  · exact showInteger_error h

theorem float_error (h : (floatOf a >>= fun x => pure (showFloat p x)) = .error misfit)
    (hm : misfit ≠ .mismatch) : a.Risky := by
  rcases bind_eq_error.mp h with h | ⟨x, -, h⟩
  · exact floatOf_error h hm
  · cases h

/-- An argument that is not shown, although it is of the kind that its place asks for. -/
theorem showWithin_error (h : showWithin p a = .error misfit) (hm : misfit ≠ .mismatch) :
    a.Risky ∨ maxWholePrecision < p.precision.getD 0 := by
  unfold showWithin at h
  split at h
  · obtain ⟨r, hr⟩ := exists_of_characters (map_eq_error.mp h)
    exact .inl (.unshown (.inl hr))
  · obtain ⟨r, hr⟩ := exists_of_characters (map_eq_error.mp h)
    exact .inl (.unshown (.inr hr))
  · obtain ⟨r, hr⟩ := exists_of_characters (map_eq_error.mp h)
    exact .inl (.unshown (.inr (map_eq_error.mp hr)))
  · rcases bind_eq_error.mp h with h | ⟨c, -, h⟩
    · exact .inl (characterOf_error h hm)
    · cases h
  · exact decimal_error (map_eq_error.mp h) hm
  · exact decimal_error (map_eq_error.mp h) hm
  · exact decimal_error (map_eq_error.mp h) hm
  · exact .inr (integer_error (map_eq_error.mp h) hm)
  · exact .inr (integer_error (map_eq_error.mp h) hm)
  · -- capitals are made of what an integer shows, and fail with it alone
    rcases bind_eq_error.mp (map_eq_error.mp h) with h | ⟨n, hn, h⟩
    · exact absurd (integerOf_error h) hm
    · rcases bind_eq_error.mp h with h | ⟨shown, -, h⟩
      · exact .inr (showInteger_error h)
      · cases h
  · exact .inl (float_error (map_eq_error.mp h) hm)
  · exact .inl (float_error (map_eq_error.mp h) hm)
  · exact .inl (float_error (map_eq_error.mp h) hm)
  · exact .inl (float_error (map_eq_error.mp h) hm)
  · exact .inl (float_error (map_eq_error.mp h) hm)
  · exact .inl (float_error (map_eq_error.mp h) hm)
  · cases h
    exact absurd rfl hm

end Kinds

theorem showArgument_error {p : Place} (h : showArgument p a = .error misfit)
    (hm : misfit ≠ .mismatch) :
    a.Risky ∨ roomLimit ≤ p.width.getD 0 ∨ maxWholePrecision < p.precision.getD 0 := by
  unfold showArgument at h
  split at h
  · next hroom => exact .inr (.inl hroom)
  · exact (showWithin_error h hm).imp id .inr

end Arguments

section Fuel

/-- What stands behind a percent sign of a text has fewer of them than the text. -/
theorem count_lt_of_plain {c : Char} {more : List Char}
    (h : cs.drop (cs.takeWhile (· != '%')).length = c :: rest) (hmore : more <:+ rest) :
    more.count '%' < cs.count '%' := by
  have hdrop : cs.dropWhile (· != '%') = c :: rest := by
    have happend : cs.takeWhile (· != '%') ++ cs.dropWhile (· != '%') = cs :=
      List.takeWhile_append_dropWhile
    rw [← h]
    exact (List.drop_left).symm.trans (congrArg (List.drop _) happend)
  have hc : c = '%' := by
    have hhead := List.head?_dropWhile_not (· != '%') cs
    rw [hdrop] at hhead
    simpa using hhead
  have hsuffix : c :: rest <:+ cs := hdrop ▸ List.dropWhile_suffix _
  have hcount := hsuffix.sublist.count_le '%'
  have hle := hmore.sublist.count_le '%'
  rw [hc, List.count_cons_self] at hcount
  omega

/-- How much fuel there is for filling a text does not matter, if there is more of it than percent
signs. -/
theorem fillFrom_of_lt {fuel' : Nat} (h : cs.count '%' < fuel) (h' : cs.count '%' < fuel') :
    fillFrom fuel cs args = fillFrom fuel' cs args := by
  induction fuel generalizing fuel' cs args with
  | zero => omega
  | succ fuel ih =>
    obtain ⟨fuel', rfl⟩ : ∃ n, fuel' = n + 1 := ⟨fuel' - 1, by omega⟩
    have hless {more : List Char} (hmore : more.count '%' < cs.count '%') (args : List Argument) :
        fillFrom fuel more args = fillFrom fuel' more args :=
      ih (by omega) (by omega)
    rw [fillFrom, fillFrom]
    dsimp only
    split
    · rfl
    · next heq => rw [hless (count_lt_of_plain heq (List.suffix_cons _ _))]
    · next heq =>
      apply bind_congr_ok
      rintro ⟨place, more, args'⟩ hread
      dsimp only
      split
      · rfl
      · rw [hless (count_lt_of_plain heq (readPlace_ok hread).1.text)]

end Fuel

/-- A text is not filled in for another reason than places that do not fit only if something in it
or among the arguments may keep it from being filled. -/
theorem hazard_of_fillFrom (h : fillFrom fuel cs args = .error misfit) (hm : misfit ≠ .mismatch) :
    Hazard cs args := by
  induction fuel generalizing cs args with
  | zero =>
    cases h
    exact absurd rfl hm
  | succ fuel ih =>
    have hdrop : cs.drop (cs.takeWhile (· != '%')).length <:+ cs := List.drop_suffix _ _
    rw [fillFrom] at h
    dsimp only at h
    split at h
    · split at h <;> cases h
      exact absurd rfl hm
    · next heq =>
      rw [heq] at hdrop
      have hrest := ((List.suffix_cons _ _).trans (List.suffix_cons _ _)).trans hdrop
      rcases bind_eq_error.mp h with h | ⟨filled, -, h⟩
      · exact (ih h).of_leaves ⟨hrest, List.suffix_refl _⟩
      · cases h
    · next heq =>
      rw [heq] at hdrop
      have hplace : Leaves cs args _ args :=
        ⟨(List.suffix_cons _ _).trans hdrop, List.suffix_refl _⟩
      rcases bind_eq_error.mp h with h | ⟨⟨place, rest, args'⟩, hread, h⟩
      · exact (readPlace_error h hm).of_leaves hplace
      obtain ⟨hleaves, hbeyond⟩ := readPlace_ok hread
      dsimp only at h
      split at h
      · cases h
        exact absurd rfl hm
      · next a args =>
        have hnext : Leaves rest (a :: args) rest args :=
          ⟨List.suffix_refl _, List.suffix_cons _ _⟩
        rcases bind_eq_error.mp h with h | ⟨shown, -, h⟩
        · rcases showArgument_error h hm with hrisky | hplaced
          · exact .inr ⟨a, (hplace.trans hleaves).arguments.subset List.mem_cons_self, hrisky⟩
          · exact (hbeyond hplaced).of_leaves hplace
        · rcases bind_eq_error.mp h with h | ⟨filled, -, h⟩
          · exact (ih h).of_leaves ((hplace.trans hleaves).trans hnext)
          · cases h

end Message

end RequestLog
