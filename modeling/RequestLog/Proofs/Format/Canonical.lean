import RequestLog.Proofs.Format.Resolution
import RequestLog.Proofs.PlainHost
import RequestLog.Proofs.Token.Names

/-!
Keys as written forms. What a token of a format is written as by default is read again as a token
of the same name and arguments, so a key stands for one token only, and no value under it is that
of another one.
-/
namespace RequestLog

open Text

namespace Reference

variable {content piece : List Char} {c : Char}

theorem hasCore_of_mem_pieces (h : piece ∈ pieces content) : HasCore piece piece := by
  obtain ⟨p, -, rfl⟩ := List.mem_map.mp h
  exact (hasCore_strip p).core_self

/-- An argument has no characters but those between the brackets. -/
theorem mem_of_mem_pieces (h : piece ∈ pieces content) (hc : c ∈ piece) : c ∈ content := by
  obtain ⟨p, hp, rfl⟩ := List.mem_map.mp h
  exact mem_of_mem_strip (mem_of_mem_splitOn hp (mem_of_mem_strip hc)).1

end Reference

namespace Token

variable {t : Token} {args : List String} {content after : List Char}

/-- Arguments as tokens of formats have them: at least one, without white space at their ends, and
without the characters that end an argument. -/
structure Trimmed (args : List String) : Prop where
  some : args ≠ []
  cores : ∀ a ∈ args, HasCore a.toList a.toList
  commas : ∀ a ∈ args, ',' ∉ a.toList
  closed : ∀ a ∈ args, ']' ∉ a.toList

theorem trimmed_noArgs : Trimmed noArgs := by
  have hcore : HasCore [] [] := hasCore_self (by simp) (by simp)
  constructor <;> simp [noArgs, hcore]

theorem trimmed_of_argumentsIn (h : ArgumentsIn content args) (hclosed : ']' ∉ content) :
    Trimmed args := by
  obtain rfl := argumentsIn_iff.mp h
  refine ⟨by simpa using Reference.pieces_ne_nil content, ?_, ?_, ?_⟩
  all_goals
    rw [List.forall_mem_map]
    intro piece hpiece
    rw [String.toList_ofList]
  · exact Reference.hasCore_of_mem_pieces hpiece
  · exact Reference.comma_notMem_of_mem_pieces hpiece
  · exact fun hc => hclosed (Reference.mem_of_mem_pieces hpiece hc)

theorem Stands.trimmed (h : t.Stands after) : Trimmed t.args := by
  cases h with
  | bare _ _ _ args => exact args ▸ trimmed_noArgs
  | grouped content _ _ group args => exact trimmed_of_argumentsIn args group.closed

namespace Trimmed

/-- Arguments are read again from the text that they are written as. -/
theorem argumentsIn (h : Trimmed args) : ArgumentsIn (argumentText args) args := by
  refine ⟨argumentText args, hasCore_joinWith (by decide) (List.forall_mem_map.mpr h.cores), ?_⟩
  rw [← splitOn_eq, splitOn_argumentText h.some h.commas, List.forall₂_map_left_iff,
    List.forall₂_same]
  exact h.cores

theorem hasGroup (h : Trimmed args) (hargs : args ≠ noArgs) (rest : List Char) :
    HasGroup ('[' :: argumentText args ++ ']' :: rest) (argumentText args) rest where
  eq := rfl
  some hnil := by
    have hone := splitOn_argumentText h.some h.commas
    rw [hnil] at hone
    exact hargs ((List.map_inj_right fun _ _ => String.toList_inj.mp).mp hone.symm)
  closed hc := by
    rcases mem_joinWith hc with hc | ⟨p, hp, hc⟩
    · cases hc
    · obtain ⟨a, ha, rfl⟩ := List.mem_map.mp hp
      exact h.closed a ha hc

end Trimmed

/-- A token as it is written by default. -/
def byDefault (t : Token) : Token :=
  make t.name t.args none

theorem name_byDefault (t : Token) : t.byDefault.name = t.name := rfl

theorem args_byDefault (h : Trimmed t.args) : t.byDefault.args = t.args := if_neg h.some

theorem textsFrom_text (place : Nat) (texts : List String) :
    textsFrom place (texts.map .text) = .ok texts := by
  induction texts generalizing place with
  | nil => rfl
  | cons s rest ih => simp [textsFrom, ih, Except.map]

theorem ofValues_byDefault (t : Token) :
    ofValues (.text t.name) (t.args.map .text) none = .ok t.byDefault := by
  rw [ofValues, textsFrom_text]
  rfl

theorem raw_byDefault (h : Trimmed t.args) : t.byDefault.raw = ":" ++ t.key := by
  have hargs : someArgs t.args = t.args := if_neg h.some
  rw [byDefault, make, hargs, Option.getD_none, defaultRaw, key, ← String.toList_inj]
  simp

/-- A token written by default stands by itself. -/
theorem Stands.byDefault (h : t.Stands after) : t.byDefault.Stands [] := by
  have htrimmed := h.trimmed
  have hname := isTokenName_iff.mp h.isTokenName
  have hraw := congrArg String.toList (raw_byDefault htrimmed)
  by_cases hargs : t.args = noArgs
  · refine .bare ?_ hname (fun content rest hgroup => ?_) ((args_byDefault htrimmed).trans hargs)
    · rw [hraw, key, keyOf, if_pos hargs]
      simp [name_byDefault]
    · cases hgroup.eq
  · have hcontent := htrimmed.argumentsIn
    refine .grouped (argumentText t.args) ?_ ⟨hname.long, hname.named, ?_⟩
      (htrimmed.hasGroup hargs []) ?_
    · rw [hraw, key, keyOf, if_neg hargs]
      simp [name_byDefault, argumentText]
    · rintro c hc
      cases hc
      decide
    · rwa [args_byDefault htrimmed]

end Token

/-- A token that stands by itself makes up its text, with an empty literal on either side. -/
theorem parseFormat_of_stands {t : Token} (h : t.Stands []) :
    parseFormat t.raw = [.text "", .token t, .text ""] := by
  have hmake := MakeUp.nil.consToken h
  rw [List.append_nil] at hmake
  exact (Layout.eq_of_makeUp hmake).symm

/-- A token of a format is written by default as a colon and its key. This text by itself is read
as the same token with an empty literal on either side, so the keys of two tokens, of whatever
formats, are equal exactly if their names and their arguments are. A formatter resolves each token
on its own account, so no two different tokens share a value. -/
theorem Token.key_canonical {σ : Type} {format : String} {t : Token}
    (ht : t ∈ Segment.tokens (parseFormat format)) :
    (∃ u, ofValues (.text t.name) (t.args.map .text) none = .ok u ∧ u.same t = true ∧
      u.raw = ":" ++ t.key ∧ parseFormat (":" ++ t.key) = [.text "", .token u, .text ""]) ∧
    (∀ other, ∀ u ∈ Segment.tokens (parseFormat other),
      t.key = u.key ↔ t.name = u.name ∧ t.args = u.args) ∧
    ∀ (registry : Registry σ) settings f, (Formatter.build registry settings).1 = .ok f →
      t ∈ f.tokens → f.Resolves registry t := by
  obtain ⟨after, hstands⟩ := exists_stands_of_mem_parseFormat ht
  have hargs := args_byDefault hstands.trimmed
  have hraw := raw_byDefault hstands.trimmed
  refine ⟨⟨t.byDefault, ofValues_byDefault t, ?_, hraw, ?_⟩, fun other u hu => ?_, ?_⟩
  · simp [same, name_byDefault, hargs]
  · rw [← hraw]
    exact parseFormat_of_stands hstands.byDefault
  · rw [← (mentioned_of_mem_parseFormat ht).pair_eq_iff (mentioned_of_mem_parseFormat hu), pair,
      pair, Prod.mk.injEq]
  · exact fun registry settings f hf ht => Formatter.resolves_of_build hf ht

/-- A token whose arguments are written with spaces, one of them empty and one with a bracket in
it. -/
def spacedToken : Token := ⟨"res", ["[a", "", "b"], ":res[ [a , , b ]"⟩

/-- A format that mentions a token with and without arguments. -/
def spacedFormat : String := ":res[ [a , , b ]x:res]"

theorem Token.key_canonical_spaced :
    spacedToken ∈ Segment.tokens (parseFormat spacedFormat) ∧
      parseFormat ":res[[a,,b]" =
        [.text "", .token ⟨"res", ["[a", "", "b"], ":res[[a,,b]"⟩, .text ""] ∧
      (∀ u ∈ Segment.tokens (parseFormat spacedFormat), u.args = noArgs →
        spacedToken.key ≠ u.key) ∧
      ∃ f, (Formatter.build (Registry.builtin PlainHost.host) (.ofFormat (.text spacedFormat))).1 =
        .ok f ∧
        spacedToken ∈ f.tokens ∧ f.Resolves (Registry.builtin PlainHost.host) spacedToken := by
  have hmem : spacedToken ∈ Segment.tokens (parseFormat spacedFormat) := by decide +kernel
  have hregistered : ∀ u ∈ Segment.tokens (parseFormat (Preset.expand spacedFormat)),
      (Registry.builtin PlainHost.host).contains u.name = true := by decide +kernel
  have hkey : ":" ++ spacedToken.key = ":res[[a,,b]" := by decide +kernel
  have hdefault : spacedToken.byDefault = ⟨"res", ["[a", "", "b"], ":res[[a,,b]"⟩ := by
    decide +kernel
  obtain ⟨⟨u, hu, -, -, hparse⟩, hkeys, hresolves⟩ := key_canonical (σ := List String) hmem
  refine ⟨hmem, ?_, fun u hmention hbare heq => ?_, ?_⟩
  · rw [ofValues_byDefault, hdefault] at hu
    rwa [hkey, ← Except.ok.inj hu] at hparse
  · have hargs := ((hkeys _ u hmention).mp heq).2
    rw [hbare] at hargs
    exact absurd hargs (by decide)
  · have hbuild := Formatter.build_of_registered none (by decide : spacedFormat ≠ "") hregistered
    exact ⟨_, congrArg Prod.fst hbuild, hmem,
      hresolves _ _ _ (congrArg Prod.fst hbuild) hmem⟩

end RequestLog
