import Mathlib.Data.List.Forall2
import Mathlib.Data.List.TakeWhile
import RequestLog.Proofs.Format.Layouts
import RequestLog.Proofs.Text.Pieces

/-!
The grammar of formats. Which segments make up a format is said without reading it: literals in
which no token starts, and between them tokens whose names and bracket groups reach as far as the
format lets them. Every format is made up by the segments that are read from it, and by no others.
-/
namespace RequestLog.Text

/-- Whether a token starts a text: a colon with two name characters behind it. -/
def StartsToken (cs : List Char) : Prop :=
  ∃ c d rest, cs = ':' :: c :: d :: rest ∧ isNameChar c = true ∧ isNameChar d = true

/-- Whether a token starts somewhere in a text. -/
def Mentions (cs : List Char) : Prop :=
  ∃ before after, cs = before ++ after ∧ StartsToken after

/-- Whether a text behind a name shows that the name is a run of two or more name characters which
goes on no further. -/
structure IsName (name behind : List Char) : Prop where
  long : 2 ≤ name.length
  named : ∀ c ∈ name, isNameChar c = true
  ends : ∀ c ∈ behind.head?, isNameChar c = false

/-- Whether a text starts with a bracket group: an opening bracket, one or more characters none of
which is a closing bracket, and a closing bracket. -/
structure HasGroup (cs content rest : List Char) : Prop where
  eq : cs = '[' :: content ++ ']' :: rest
  some : content ≠ []
  closed : ']' ∉ content

theorem mentions_cons {c : Char} {cs : List Char} :
    Mentions (c :: cs) ↔ StartsToken (c :: cs) ∨ Mentions cs := by
  constructor
  · rintro ⟨before, after, h, hstart⟩
    cases before with
    | nil => exact .inl (h ▸ hstart)
    | cons b before =>
      obtain ⟨-, rfl⟩ := List.cons_eq_cons.mp h
      exact .inr ⟨before, after, rfl, hstart⟩
  · rintro (hstart | ⟨before, after, rfl, hstart⟩)
    · exact ⟨[], c :: cs, rfl, hstart⟩
    · exact ⟨c :: before, after, rfl, hstart⟩

theorem not_mentions_nil : ¬ Mentions [] := by
  rintro ⟨before, after, h, c, d, rest, rfl, -⟩
  simp at h

theorem startsToken_colon {cs : List Char} :
    StartsToken (':' :: cs) ↔ 2 ≤ (cs.takeWhile isNameChar).length := by
  constructor
  · rintro ⟨c, d, rest, h, hc, hd⟩
    obtain ⟨-, rfl⟩ := List.cons_eq_cons.mp h
    rw [List.takeWhile_cons_of_pos hc, List.takeWhile_cons_of_pos hd]
    simp
  · intro h
    obtain ⟨c, d, rest, htake⟩ : ∃ c d rest, cs.takeWhile isNameChar = c :: d :: rest := by
      match htake : cs.takeWhile isNameChar, h with
      | c :: d :: rest, _ => exact ⟨c, d, rest, rfl⟩
    have hcs := List.takeWhile_append_dropWhile (p := isNameChar) (l := cs)
    have hnamed : ∀ e ∈ cs.takeWhile isNameChar, isNameChar e = true :=
      fun _ he => List.mem_takeWhile_imp he
    rw [htake] at hcs hnamed
    exact ⟨c, d, rest ++ cs.dropWhile isNameChar, congrArg (':' :: ·) hcs.symm,
      hnamed c (by simp), hnamed d (by simp)⟩

theorem StartsToken.append {cs : List Char} (h : StartsToken cs) (more : List Char) :
    StartsToken (cs ++ more) := by
  obtain ⟨c, d, rest, rfl, hc, hd⟩ := h
  exact ⟨c, d, rest ++ more, rfl, hc, hd⟩

theorem not_isNameChar_colon : isNameChar ':' = false := by decide

/-- A token that starts a text is not cut by one that starts further behind. -/
theorem StartsToken.of_append {c : Char} {literal more : List Char}
    (h : StartsToken (c :: literal ++ ':' :: more)) : StartsToken (c :: literal) := by
  obtain ⟨a, b, rest, heq, ha, hb⟩ := h
  match literal, heq with
  | [], heq =>
    -- the colon behind would have to be a name character
    simp only [List.cons_append, List.nil_append, List.cons.injEq] at heq
    obtain ⟨-, rfl, -⟩ := heq
    rw [not_isNameChar_colon] at ha
    cases ha
  | [_], heq =>
    simp only [List.cons_append, List.nil_append, List.cons.injEq] at heq
    obtain ⟨-, -, rfl, -⟩ := heq
    rw [not_isNameChar_colon] at hb
    cases hb
  | _ :: _ :: literal, heq =>
    simp only [List.cons_append, List.cons.injEq] at heq
    obtain ⟨rfl, rfl, rfl, -⟩ := heq
    exact ⟨_, _, literal, rfl, ha, hb⟩

theorem IsName.takeWhile {name behind : List Char} (h : IsName name behind) :
    (name ++ behind).takeWhile isNameChar = name ∧
    (name ++ behind).dropWhile isNameChar = behind := by
  have hend : behind.takeWhile isNameChar = [] ∧ behind.dropWhile isNameChar = behind := by
    cases behind with
    | nil => exact ⟨rfl, rfl⟩
    | cons c rest =>
      have hc : ¬ isNameChar c = true := by simp [h.ends c rfl]
      exact ⟨List.takeWhile_cons_of_neg hc, List.dropWhile_cons_of_neg hc⟩
  rw [List.takeWhile_append_of_pos h.named, List.dropWhile_append_of_pos h.named, hend.1, hend.2]
  exact ⟨List.append_nil _, rfl⟩

theorem isName_takeWhile {cs : List Char} (h : 2 ≤ (cs.takeWhile isNameChar).length) :
    IsName (cs.takeWhile isNameChar) (cs.dropWhile isNameChar) where
  long := h
  named _ hc := List.mem_takeWhile_imp hc
  ends c hc := by
    have hhead := List.head?_dropWhile_not isNameChar cs
    simpa [Option.mem_def.mp hc] using hhead

end RequestLog.Text

namespace RequestLog

open Text

namespace Reference

theorem readGroup_eq_some_iff {cs content rest : List Char} :
    readGroup cs = (some content, rest) ↔ HasGroup cs content rest := by
  constructor
  · intro h
    unfold readGroup at h
    split at h
    · next cs =>
      split at h
      · next c content' rest' hcontent hrest =>
        cases h
        have hcs := List.takeWhile_append_dropWhile (p := (· != ']')) (l := cs)
        rw [hcontent, hrest] at hcs
        refine ⟨by rw [← hcs]; rfl, List.cons_ne_nil _ _, fun hmem => ?_⟩
        rw [← hcontent] at hmem
        have := List.mem_takeWhile_imp hmem
        simp at this
      · cases h
    · cases h
  · rintro ⟨rfl, hsome, hclosed⟩
    have hopen : ∀ c ∈ content, (c != ']') = true := by
      intro c hc
      rw [bne_iff_ne]
      rintro rfl
      exact hclosed hc
    have htake : (content ++ ']' :: rest).takeWhile (· != ']') = content := by
      rw [List.takeWhile_append_of_pos hopen]
      simp
    have hdrop : (content ++ ']' :: rest).dropWhile (· != ']') = ']' :: rest := by
      rw [List.dropWhile_append_of_pos hopen]
      simp
    obtain ⟨c, content, rfl⟩ := List.exists_cons_of_ne_nil hsome
    simp only [List.cons_append] at htake hdrop
    simp only [readGroup, List.cons_append, htake, hdrop]

theorem readGroup_eq_none_iff {cs rest : List Char} :
    readGroup cs = (none, rest) ↔ cs = rest ∧ ∀ content rest, ¬ HasGroup cs content rest := by
  constructor
  · intro h
    rcases readGroup_cases cs with hg | ⟨content, rest', hg, -⟩
    · rw [hg] at h
      cases h
      refine ⟨rfl, fun content rest hgroup => ?_⟩
      rw [readGroup_eq_some_iff.mpr hgroup] at hg
      cases hg
    · rw [hg] at h
      cases h
  · rintro ⟨rfl, hnone⟩
    rcases readGroup_cases cs with hg | ⟨content, rest, hg, -⟩
    · exact hg
    · exact absurd (readGroup_eq_some_iff.mp hg) (hnone content rest)

end Reference

/-- The arguments that are written between brackets: what is between commas in the core of the
content, each cut down to its own core. -/
def ArgumentsIn (content : List Char) (args : List String) : Prop :=
  ∃ core, HasCore content core ∧
    List.Forall₂ (fun piece arg => HasCore piece arg.toList) (core.splitOn ',') args

/-- A token as it stands in a format, in front of the rest of it. -/
inductive Token.Stands (t : Token) (after : List Char) : Prop where
  /-- No bracket group follows the name. -/
  | bare (raw : t.raw.toList = ':' :: t.name.toList) (name : IsName t.name.toList after)
      (group : ∀ content rest, ¬ HasGroup after content rest) (args : t.args = Token.noArgs)
  /-- A bracket group follows the name, and belongs to the token. -/
  | grouped (content : List Char)
      (raw : t.raw.toList = ':' :: t.name.toList ++ '[' :: content ++ [']'])
      (name : IsName t.name.toList ('[' :: content ++ ']' :: after))
      (group : HasGroup ('[' :: content ++ ']' :: after) content after)
      (args : ArgumentsIn content t.args)

theorem argumentsIn_iff {content : List Char} {args : List String} :
    ArgumentsIn content args ↔ args = (Reference.pieces content).map String.ofList := by
  have hpieces : ∀ pieces : List (List Char),
      List.Forall₂ (fun piece arg => HasCore piece arg.toList) pieces args ↔
        args = pieces.map (String.ofList ∘ strip) := by
    intro pieces
    induction pieces generalizing args with
    | nil => simp
    | cons piece rest ih =>
      cases args with
      | nil => simp
      | cons arg args =>
        rw [List.forall₂_cons, hasCore_iff, ih, List.map_cons, List.cons.injEq,
          ← String.toList_inj, Function.comp_apply, String.toList_ofList]
  rw [Reference.pieces, splitOn_eq, List.map_map, ← hpieces]
  constructor
  · rintro ⟨core, hcore, hargs⟩
    exact hasCore_iff.mp hcore ▸ hargs
  · exact fun hargs => ⟨_, hasCore_iff.mpr rfl, hargs⟩

namespace Reference

theorem stands_of_read? {cs rest : List Char} {r : Reference} (h : read? cs = some (r, rest)) :
    r.token.Stands rest := by
  unfold read? at h
  split at h
  · next cs =>
    split at h
    · next hlong =>
      cases h
      have hname := isName_takeWhile hlong
      cases hg : readGroup (cs.dropWhile isNameChar) with
      | mk group rest =>
        cases group with
        | none =>
          obtain ⟨rfl, hnone⟩ := readGroup_eq_none_iff.mp hg
          refine .bare ?_ ?_ hnone rfl
          · simp [token, raw]
          · simpa [token] using hname
        | some content =>
          have hgroup := readGroup_eq_some_iff.mp hg
          rw [hgroup.eq] at hname hgroup
          refine .grouped content ?_ ?_ hgroup ?_
          · simp [token, raw]
          · simpa [token] using hname
          · exact argumentsIn_iff.mpr rfl
    · cases h
  · cases h

theorem toList_raw_token (r : Reference) : r.token.raw.toList = r.raw := String.toList_ofList

/-- A reference stands for the token of its name, its arguments and its text. -/
theorem token_eq {r : Reference} {t : Token} (hname : String.ofList r.name = t.name)
    (hargs : (pieces (r.group.getD [])).map String.ofList = t.args)
    (hraw : r.raw = t.raw.toList) : r.token = t := by
  obtain ⟨name, args, raw⟩ := t
  rw [token, hname, hargs, hraw, String.ofList_toList]

theorem read?_of_stands {t : Token} {after : List Char} (h : t.Stands after) :
    ∃ r, read? (t.raw.toList ++ after) = some (r, after) ∧ r.token = t := by
  cases h with
  | bare raw name group args =>
    obtain ⟨htake, hdrop⟩ := name.takeWhile
    have hg := readGroup_eq_none_iff.mpr ⟨rfl, group⟩
    refine ⟨⟨t.name.toList, none⟩, ?_, token_eq ?_ args.symm ?_⟩
    · simp only [raw, List.cons_append, read?, htake, hdrop, hg, name.long, if_true]
    · exact String.ofList_toList
    · rw [raw]
      simp [Reference.raw]
  | grouped content raw name group args =>
    obtain ⟨htake, hdrop⟩ := name.takeWhile
    have hg := readGroup_eq_some_iff.mpr group
    have htext : t.raw.toList ++ after =
        ':' :: (t.name.toList ++ ('[' :: content ++ ']' :: after)) := by
      rw [raw]
      simp
    refine ⟨⟨t.name.toList, some content⟩, ?_, token_eq ?_ (argumentsIn_iff.mp args).symm ?_⟩
    · simp only [htext, read?, htake, hdrop, hg, name.long, if_true]
    · exact String.ofList_toList
    · rw [raw]
      simp [Reference.raw]

theorem read?_eq_none_iff {cs : List Char} : read? cs = none ↔ ¬ StartsToken cs := by
  unfold read?
  split
  · next cs =>
    rw [startsToken_colon]
    split
    · next hlong => exact iff_of_false (Option.some_ne_none _) (not_not_intro hlong)
    · next hshort => exact iff_of_true rfl hshort
  · next hcolon =>
    simp only [true_iff]
    rintro ⟨c, d, rest, rfl, -⟩
    exact hcolon _ rfl

end Reference

/-- Texts and tokens in turn, a text first and last. -/
inductive Alternating : List Segment → Prop where
  | last (literal : String) : Alternating [.text literal]
  | cons (literal : String) (t : Token) {rest : List Segment} (h : Alternating rest) :
      Alternating (.text literal :: .token t :: rest)

def Segment.rawOf (segments : List Segment) : List Char :=
  segments.flatMap fun s => s.raw.toList

/-- The segments that make up a text: literals in which no token starts, and between them tokens,
each as it stands in front of the segments behind it. -/
structure MakeUp (cs : List Char) (segments : List Segment) : Prop where
  alternating : Alternating segments
  raw : Segment.rawOf segments = cs
  literals : ∀ literal, .text literal ∈ segments → ¬ Mentions literal.toList
  tokens : ∀ before t after, segments = before ++ .token t :: after →
    t.Stands (Segment.rawOf after)

namespace MakeUp

variable {c : Char} {cs : List Char} {literal : String} {t : Token} {segments rest : List Segment}

theorem nil : MakeUp [] [.text ""] where
  alternating := .last ""
  raw := rfl
  literals literal h := by
    cases List.mem_singleton.mp h
    exact not_mentions_nil
  tokens before t after h := by
    cases before with
    | nil => cases h
    | cons s before => cases before <;> cases h

/-- A character that starts no token belongs to the literal behind it. -/
theorem consChar (h : MakeUp cs (.text literal :: rest)) (hc : ¬ StartsToken (c :: cs)) :
    MakeUp (c :: cs) (.text (String.ofList (c :: literal.toList)) :: rest) where
  alternating := by
    cases h.alternating with
    | last => exact .last _
    | cons _ t halt => exact .cons _ t halt
  raw := by
    rw [← h.raw]
    simp [Segment.rawOf, Segment.raw]
  literals literal' hmem := by
    rcases List.mem_cons.mp hmem with heq | hmem
    · cases heq
      rw [String.toList_ofList, mentions_cons]
      rintro (hstart | hmentions)
      · apply hc
        rw [← h.raw]
        exact hstart.append _
      · exact h.literals literal List.mem_cons_self hmentions
    · exact h.literals literal' (List.mem_cons_of_mem _ hmem)
  tokens before t after heq := by
    cases before with
    | nil => cases heq
    | cons s before =>
      obtain ⟨-, heq⟩ := List.cons_eq_cons.mp heq
      exact h.tokens (.text literal :: before) t after (congrArg (.text literal :: ·) heq)

/-- A token in front of a text is a segment of its own. -/
theorem consToken (h : MakeUp cs segments) (ht : t.Stands cs) :
    MakeUp (t.raw.toList ++ cs) (.text "" :: .token t :: segments) where
  alternating := .cons "" t h.alternating
  raw := by
    rw [← h.raw]
    simp [Segment.rawOf, Segment.raw]
  literals literal hmem := by
    rcases List.mem_cons.mp hmem with heq | hmem
    · cases heq
      exact not_mentions_nil
    · rcases List.mem_cons.mp hmem with heq | hmem
      · cases heq
      · exact h.literals literal hmem
  tokens before t' after heq := by
    match before, heq with
    | [], heq => cases heq
    | [_], heq =>
      cases heq
      rw [h.raw]
      exact ht
    | _ :: _ :: before, heq =>
      simp only [List.cons_append, List.cons.injEq] at heq
      exact h.tokens before t' after heq.2.2

/-- What makes up a text is one literal, or a literal and a token in front of what makes up the
rest. -/
theorem cases (h : MakeUp cs segments) :
    (∃ literal, segments = [.text literal] ∧ cs = literal.toList) ∨
      ∃ literal t behind rest, segments = .text literal :: .token t :: rest ∧
        cs = literal.toList ++ (t.raw.toList ++ behind) ∧ t.Stands behind ∧
        MakeUp behind rest := by
  have hraw := h.raw
  cases h.alternating with
  | last literal =>
    exact .inl ⟨literal, rfl, by simpa [Segment.rawOf, Segment.raw] using hraw.symm⟩
  | @cons literal t rest halt =>
    refine .inr ⟨literal, t, Segment.rawOf rest, rest, rfl, ?_, ?_, ?_⟩
    · simpa [Segment.rawOf, Segment.raw] using hraw.symm
    · exact h.tokens [.text literal] t rest rfl
    · exact {
        alternating := halt
        raw := rfl
        literals := fun l hl => h.literals l (List.mem_cons_of_mem _ (List.mem_cons_of_mem _ hl))
        tokens := fun before t' after heq =>
          h.tokens (.text literal :: .token t :: before) t' after (by rw [heq]; rfl) }

/-- A literal without its first character makes up, with what follows it, the text without it. -/
theorem uncons {more : List Char} (h : MakeUp (c :: cs) (.text literal :: rest))
    (hl : literal.toList = c :: more) : MakeUp cs (.text (String.ofList more) :: rest) where
  alternating := by
    cases h.alternating with
    | last => exact .last _
    | cons _ t halt => exact .cons _ t halt
  raw := by
    have hraw := h.raw
    simp only [Segment.rawOf, Segment.raw, List.flatMap_cons, hl, List.cons_append,
      List.cons.injEq, true_and] at hraw
    simpa [Segment.rawOf, Segment.raw] using hraw
  literals literal' hmem := by
    rcases List.mem_cons.mp hmem with heq | hmem
    · cases heq
      have hnot := h.literals literal List.mem_cons_self
      rw [hl, mentions_cons] at hnot
      rw [String.toList_ofList]
      exact fun hmentions => hnot (.inr hmentions)
    · exact h.literals literal' (List.mem_cons_of_mem _ hmem)
  tokens before t after heq := by
    cases before with
    | nil => cases heq
    | cons s before =>
      obtain ⟨-, heq⟩ := List.cons_eq_cons.mp heq
      exact h.tokens (.text literal :: before) t after (congrArg (.text literal :: ·) heq)

theorem startsToken_of_stands {after : List Char} (h : t.Stands after) :
    StartsToken (t.raw.toList ++ after) := by
  obtain ⟨r, hread, -⟩ := Reference.read?_of_stands h
  by_contra hnone
  rw [Reference.read?_eq_none_iff.mpr hnone] at hread
  cases hread

/-- A character that starts no token is the first one of the first literal. -/
theorem exists_uncons (h : MakeUp (c :: cs) segments) (hc : ¬ StartsToken (c :: cs)) :
    ∃ literal more rest, segments = .text literal :: rest ∧ literal.toList = c :: more := by
  rcases h.cases with ⟨literal, rfl, hraw⟩ | ⟨literal, t, behind, rest, rfl, hraw, ht, -⟩
  · exact ⟨literal, cs, [], rfl, hraw.symm⟩
  · cases hl : literal.toList with
    | nil =>
      rw [hl, List.nil_append] at hraw
      rw [hraw] at hc
      exact absurd (startsToken_of_stands ht) hc
    | cons d more =>
      rw [hl, List.cons_append] at hraw
      obtain ⟨rfl, -⟩ := List.cons_eq_cons.mp hraw
      exact ⟨literal, more, _, rfl, hl⟩

/-- Where a token starts, the first literal is empty and the token is the next segment. -/
theorem cases_of_startsToken (h : MakeUp cs segments) (hs : StartsToken cs) :
    ∃ t behind rest, segments = .text "" :: .token t :: rest ∧ cs = t.raw.toList ++ behind ∧
      t.Stands behind ∧ MakeUp behind rest := by
  rcases h.cases with ⟨literal, rfl, rfl⟩ | ⟨literal, t, behind, rest, rfl, hraw, ht, hrest⟩
  · exact absurd ⟨[], literal.toList, rfl, hs⟩ (h.literals literal List.mem_cons_self)
  · cases hl : literal.toList with
    | nil =>
      rw [hl, List.nil_append] at hraw
      exact ⟨t, behind, rest, by rw [String.toList_eq_nil_iff.mp hl], hraw, ht, hrest⟩
    | cons c more =>
      -- the token would start in the literal, for the next one starts with a colon
      obtain ⟨after, hcolon⟩ : ∃ after, t.raw.toList ++ behind = ':' :: after := by
        obtain ⟨_, _, _, hstart, -⟩ := startsToken_of_stands ht
        exact ⟨_, hstart⟩
      rw [hraw, hl, hcolon] at hs
      have hmentions : Mentions literal.toList := ⟨[], c :: more, hl, hs.of_append⟩
      exact absurd hmentions (h.literals literal List.mem_cons_self)

end MakeUp

namespace Layout

theorem segments_consReference (r : Reference) (l : Layout) :
    (consReference r l).segments = .text "" :: .token r.token :: l.segments := rfl

theorem segments_consChar (c : Char) (l : Layout) :
    (consChar c l).segments = .text (String.ofList (c :: l.first)) :: l.segments.tail := rfl

theorem makeUp_read (cs : List Char) : MakeUp cs (read cs).segments := by
  induction cs using read.induct with
  | case1 =>
    rw [read]
    exact .nil
  | case2 c cs r rest hread ih =>
    have hraw := Reference.raw_of_read? hread
    rw [read_of_reference hread, segments_consReference, ← hraw]
    have h := ih.consToken (Reference.stands_of_read? hread)
    rwa [Reference.toList_raw_token] at h
  | case3 c cs hread ih =>
    rw [read_of_char hread, segments_consChar]
    have h := ih.consChar (Reference.read?_eq_none_iff.mp hread)
    rwa [String.toList_ofList] at h

/-- Nothing else makes up a text but the segments that are read. -/
theorem eq_of_makeUp {cs : List Char} {segments : List Segment} (h : MakeUp cs segments) :
    segments = (read cs).segments := by
  induction cs using read.induct generalizing segments with
  | case1 =>
    rcases h.cases with ⟨literal, rfl, hraw⟩ | ⟨literal, t, behind, rest, -, hraw, ht, -⟩
    · rw [read, String.toList_eq_nil_iff.mp hraw.symm]
      rfl
    · obtain ⟨_, _, _, hstart, -⟩ := MakeUp.startsToken_of_stands ht
      rw [hstart] at hraw
      simp at hraw
  | case2 c cs r rest hread ih =>
    have hstart : StartsToken (c :: cs) := by
      by_contra hnone
      rw [Reference.read?_eq_none_iff.mpr hnone] at hread
      cases hread
    obtain ⟨t, behind, more, rfl, hraw, ht, hmore⟩ := h.cases_of_startsToken hstart
    obtain ⟨r', hread', rfl⟩ := Reference.read?_of_stands ht
    rw [← hraw, hread] at hread'
    cases hread'
    rw [read_of_reference hread, segments_consReference, ih hmore]
  | case3 c cs hread ih =>
    have hstart := Reference.read?_eq_none_iff.mp hread
    obtain ⟨literal, more, rest, rfl, hl⟩ := h.exists_uncons hstart
    have htail := ih (h.uncons hl)
    obtain ⟨hfirst, hrest⟩ := List.cons_eq_cons.mp htail
    have hmore : more = (read cs).first := String.ofList_inj.mp (Segment.text.inj hfirst)
    rw [read_of_char hread, segments_consChar, ← hmore, ← hl, String.ofList_toList, hrest]
    rfl

end Layout

/-- Every token of a format stands somewhere in it. -/
theorem exists_stands_of_mem_parseFormat {format : String} {t : Token}
    (h : t ∈ Segment.tokens (parseFormat format)) : ∃ after, t.Stands after := by
  obtain ⟨before, after, hsplit⟩ := List.append_of_mem (Segment.mem_tokens.mp h)
  exact ⟨_, (Layout.makeUp_read format.toList).tokens before t after hsplit⟩

/-- The segments of a format are the only ones that make it up. -/
theorem makeUp_iff (format : String) (segments : List Segment) :
    MakeUp format.toList segments ↔ segments = parseFormat format :=
  ⟨Layout.eq_of_makeUp, fun h => h ▸ Layout.makeUp_read format.toList⟩

/-- A colon with one name character behind it belongs to the literal; a name goes on over a hyphen,
an underscore and a digit. -/
theorem makeUp_iff_hyphened : MakeUp ":x :a-b_2[c, d]:e".toList
    [.text ":x ", .token ⟨"a-b_2", ["c", "d"], ":a-b_2[c, d]"⟩, .text ":e"] :=
  (makeUp_iff _ _).mpr (by decide +kernel)

end RequestLog
