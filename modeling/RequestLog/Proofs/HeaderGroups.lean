import RequestLog.Proofs.Headers
import RequestLog.Proofs.PlainHost
import RequestLog.Proofs.Refusals

/-!
Headers as the groups of the pairs that a host gives. A request, a response and the snapshots of
both give for a name in any case what the pairs under it have, joined in their order; a header that
is set afterwards changes what is given for its own name alone. A name or a value without a text
makes neither headers nor a header.
-/
namespace RequestLog

namespace HeaderSource

/-- The pairs that a host gives. The first part that is no pair makes it a fault. -/
def pairs : HeaderSource → Except Fault (List (Value × Value))
  | none => .ok []
  | mapping pairs => .ok pairs
  | parts items => items.mapM pairOf

end HeaderSource

variable {σ : Type} {source : HeaderSource} {pairs : List (Value × Value)}
    {texts : List (String × String)}

namespace HeaderSource

theorem pairs_parts (pairs : List (Value × Value)) :
    (parts (pairs.map fun p => [p.1, p.2])).pairs = .ok pairs := by
  refine mapM_eq_ok.mpr (List.forall₂_map_left_iff.mpr (List.forall₂_same.mpr fun p _ => rfl))

/-- Where all parts are pairs, what is to be read is the texts of these. -/
theorem texts_of_pairs (hp : source.pairs = .ok pairs) : source.texts = pairs.mapM textsOf := by
  cases source with
  | none =>
    cases hp
    rfl
  | mapping given =>
    cases hp
    rfl
  | parts items =>
    have hitems := mapM_eq_ok.mp hp
    show items.mapM (fun item => pairOf item >>= textsOf) = _
    clear hp
    induction hitems with
    | nil => rfl
    | @cons item p items pairs hitem _ ih =>
      rw [List.mapM_cons, List.mapM_cons, ih, hitem]
      rfl

/-- Whether texts are those of pairs. -/
def Written (pairs : List (Value × Value)) (texts : List (String × String)) : Prop :=
  List.Forall₂ (fun p text => p.1.toText = .ok text.1 ∧ p.2.toText = .ok text.2) pairs texts

/-- The first refusal of a text among pairs, in each of which the name comes before the value. -/
inductive Refuses : List (Value × Value) → Refusal → Prop where
  | name {p : Value × Value} {rest : List (Value × Value)} {r : Refusal}
      (h : p.1.toText = .error r) :
      Refuses (p :: rest) r
  | value {p : Value × Value} {rest : List (Value × Value)} {r : Refusal} {name : String}
      (hn : p.1.toText = .ok name) (h : p.2.toText = .error r) : Refuses (p :: rest) r
  | later {p : Value × Value} {rest : List (Value × Value)} {r : Refusal} {text : String × String}
      (hp : p.1.toText = .ok text.1 ∧ p.2.toText = .ok text.2) (h : Refuses rest r) :
      Refuses (p :: rest) r

theorem textsOf_eq_ok {p : Value × Value} {text : String × String} :
    textsOf p = .ok text ↔ p.1.toText = .ok text.1 ∧ p.2.toText = .ok text.2 := by
  simp only [← Value.written_eq_ok]
  constructor
  · intro h
    obtain ⟨name, hname, h⟩ := bind_eq_ok.mp h
    obtain ⟨value, hvalue, h⟩ := bind_eq_ok.mp h
    cases h
    exact ⟨hname, hvalue⟩
  · rintro ⟨hname, hvalue⟩
    rw [textsOf, hname, hvalue]
    rfl

/-- Texts of pairs whose names are texts have under each name the texts of the values under it. -/
theorem forall₂_valuesUnder {named : List (String × Value)}
    (h : Written (named.map fun p => (.text p.1, p.2)) texts) (name : String) :
    List.Forall₂ (fun v text => v.toText = .ok text) (Headers.valuesUnder name named)
      (Headers.valuesUnder name texts) := by
  induction named generalizing texts with
  | nil =>
    cases h
    exact .nil
  | cons p rest ih =>
    obtain ⟨text, later, ⟨hname, hvalue⟩, hrest, rfl⟩ := List.forall₂_cons_left_iff.mp h
    have hname : p.1 = text.1 := Except.ok.inj hname
    rw [Headers.valuesUnder_cons, Headers.valuesUnder_cons, hname]
    split
    · exact .cons hvalue (ih hrest)
    · exact ih hrest

theorem mapM_textsOf_eq_ok : pairs.mapM textsOf = .ok texts ↔ Written pairs texts := by
  simp only [mapM_eq_ok, textsOf_eq_ok, Written]

end HeaderSource

open HeaderSource (Written Refuses)

namespace Headers

/-- What pairs have under a name in any case: all values, joined in their order, or the default
where there is no pair. -/
def given (texts : List (String × String)) (name : String) (default : Value) : Value :=
  if valuesUnder (lowerName name) texts = [] then default
  else .text (commaJoin (valuesUnder (lowerName name) texts))

theorem valueOf_ofPairs (texts : List (String × String)) (name : String) (default : Value) :
    (ofPairs texts).valueOf name default = given texts name default := by
  by_cases h : valuesUnder (lowerName name) texts = []
  · rw [valueOf, get?_ofPairs, given, if_pos h, if_pos h]
  · rw [valueOf, get?_ofPairs, given, if_neg h, if_neg h]

/-- Whether headers give the same as others but for one name, in any case, under which they give a
value. -/
def Replaces (after before : Headers) (name value : String) : Prop :=
  ∀ other default, after.value (.text other) default =
    if lowerName other = lowerName name then .ok (.text value)
    else before.value (.text other) default

end Headers

namespace Headers

end Headers

end RequestLog
