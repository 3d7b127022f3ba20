import RequestLog.Proofs.Format.Lines
import RequestLog.Proofs.HeaderGroups
import RequestLog.Proofs.Text.Pieces

/-!
The address that a log shows of a client. The first forwarding header decides if it has a value,
and of that only what stands in front of the first comma, so a proxy further on cannot change it.
Without a forwarding header the further headers are asked in the order of their table.
-/
namespace RequestLog

variable {σ : Type} {pairs : List (String × String)}

namespace ClientAddress

open Headers (valuesUnder given lowerName)

/-- Whether an entry is what stands in front of the first comma of a list. -/
structure LeadsList (entry list : List Char) : Prop where
  plain : ',' ∉ entry
  list : list = entry ∨ ∃ rest, list = entry ++ ',' :: rest

theorem leadsList_takeWhile (cs : List Char) : LeadsList (cs.takeWhile (· != ',')) cs where
  plain hc := by simpa using List.mem_takeWhile_imp hc
  list := by
    have hsplit := List.takeWhile_append_dropWhile (p := (· != ',')) (l := cs)
    cases hd : cs.dropWhile (· != ',') with
    | nil =>
      rw [hd, List.append_nil] at hsplit
      exact .inl hsplit.symm
    | cons c rest =>
      have hhead := List.head?_dropWhile_not (· != ',') cs
      rw [hd] at hsplit hhead
      obtain rfl : c = ',' := by simpa using hhead
      exact .inr ⟨rest, hsplit.symm⟩

/-- A list has one first entry. -/
theorem LeadsList.eq_takeWhile {entry list : List Char} (h : LeadsList entry list) :
    entry = list.takeWhile (· != ',') := by
  have hentry : entry.takeWhile (· != ',') = entry := by
    rw [List.takeWhile_eq_self_iff]
    intro c hc
    rw [bne_iff_ne]
    rintro rfl
    exact h.plain hc
  rcases h.list with rfl | ⟨rest, rfl⟩
  · exact hentry.symm
  · rw [Text.takeWhile_append_of_stop _ (by decide), hentry]

theorem commaJoin_cons (text : String) (texts : List String) :
    commaJoin (text :: texts) = text ∨
      ∃ rest, (commaJoin (text :: texts)).toList = text.toList ++ ',' :: rest := by
  by_cases h : texts = []
  · subst h
    exact .inl (String.intercalate_singleton ..)
  · refine .inr ⟨' ' :: (commaJoin texts).toList, ?_⟩
    have hsplit := String.intercalate_append_of_ne_nil (s := ", ") (List.cons_ne_nil text []) h
    rw [String.intercalate_singleton] at hsplit
    have hjoined : commaJoin (text :: texts) = text ++ ", " ++ commaJoin texts := hsplit
    rw [hjoined, String.toList_append, String.toList_append, List.append_assoc]
    rfl

/-- Values that are joined to a list do not change its first entry. -/
theorem firstEntry_commaJoin (text : String) (texts : List String) :
    firstEntry (commaJoin (text :: texts)).toList = firstEntry text.toList := by
  rcases commaJoin_cons text texts with h | ⟨rest, h⟩
  · rw [h]
  · rw [h, firstEntry, firstEntry, Text.takeWhile_append_of_stop _ (by decide)]

theorem commaJoin_ne_empty {text : String} (h : text ≠ "") (texts : List String) :
    commaJoin (text :: texts) ≠ "" := by
  rcases commaJoin_cons text texts with hjoined | ⟨rest, hjoined⟩
  · rwa [hjoined]
  · intro hempty
    rw [hempty] at hjoined
    simp at hjoined

theorem firstTrue_of_first {before after : List Value} {v : Value}
    (hbefore : ∀ w ∈ before, w.truthy = false) (hv : v.truthy = true) :
    firstTrue (before ++ v :: after) = v := by
  induction before with
  | nil => rw [List.nil_append, firstTrue, Value.orElse, if_pos hv]
  | cons w rest ih =>
    obtain ⟨hw, hrest⟩ := List.forall_mem_cons.mp hbefore
    rw [List.cons_append, firstTrue, Value.orElse, hw]
    exact ih hrest

theorem firstTrue_of_none {values : List Value} (h : ∀ w ∈ values, w.truthy = false) :
    firstTrue values = .null := by
  induction values with
  | nil => rfl
  | cons w rest ih =>
    obtain ⟨hw, hrest⟩ := List.forall_mem_cons.mp h
    rw [firstTrue, Value.orElse, hw]
    exact ih hrest

/-- The names of the headers that are asked are in lower case. -/
theorem lowerName_of_asked {name : String} (h : name ∈ forwardedFor :: fallbacks) :
    lowerName name = name := by
  have hall : (forwardedFor :: fallbacks).all (fun name => lowerName name == name) = true := by
    decide +kernel
  exact beq_iff_eq.mp (List.all_eq_true.mp hall name h)

/-- What pairs have under a name, joined: an empty text if they have nothing. -/
def joinedUnder (pairs : List (String × String)) (name : String) : String :=
  commaJoin (valuesUnder name pairs)

theorem truthy_given {name : String} (h : name ∈ forwardedFor :: fallbacks) :
    (given pairs name .null).truthy = true ↔ joinedUnder pairs name ≠ "" := by
  rw [given, lowerName_of_asked h, joinedUnder]
  split
  · next hnone =>
    rw [hnone]
    exact iff_of_false Bool.false_ne_true fun h => h rfl
  · exact Value.truthy_text _

theorem given_of_joinedUnder {name : String} (h : name ∈ forwardedFor :: fallbacks)
    (hj : joinedUnder pairs name ≠ "") :
    given pairs name .null = .text (joinedUnder pairs name) := by
  rw [given, lowerName_of_asked h, if_neg]
  · rfl
  · intro hnone
    rw [joinedUnder, hnone] at hj
    exact hj rfl

/-- The first forwarding header decides if it has a value. -/
theorem find_of_forwarded {text : String} (h : (valuesUnder forwardedFor pairs).head? = some text)
    (ht : text ≠ "") : find (given pairs · .null) =
      .ok (Value.text (String.ofList (firstEntry text.toList))).orNull := by
  obtain ⟨texts, htexts⟩ := List.head?_eq_some_iff.mp h
  have hasked : forwardedFor ∈ forwardedFor :: fallbacks := List.mem_cons_self
  have hjoined : joinedUnder pairs forwardedFor ≠ "" := by
    rw [joinedUnder, htexts]
    exact commaJoin_ne_empty ht texts
  rw [find, if_pos ((truthy_given hasked).mpr hjoined), given_of_joinedUnder hasked hjoined,
    ofForwarded, joinedUnder, htexts, firstEntry_commaJoin]

theorem find_of_unforwarded (h : valuesUnder forwardedFor pairs = []) :
    find (given pairs · .null) = .ok (firstTrue (fallbacks.map (given pairs · .null))) := by
  have hnone : joinedUnder pairs forwardedFor = "" := by
    rw [joinedUnder, h]
    rfl
  rw [find, if_neg fun ht => (truthy_given List.mem_cons_self).mp ht hnone]

/-- Without a forwarding header the first of the further headers that has a value decides. -/
theorem firstTrue_of_fallback {before after : List String} {name : String}
    (hsplit : fallbacks = before ++ name :: after)
    (hbefore : ∀ n ∈ before, joinedUnder pairs n = "") (hj : joinedUnder pairs name ≠ "") :
    firstTrue (fallbacks.map (given pairs · .null)) = .text (joinedUnder pairs name) := by
  have hasked : ∀ n ∈ before ++ name :: after, n ∈ forwardedFor :: fallbacks :=
    fun n hn => List.mem_cons_of_mem _ (hsplit ▸ hn)
  have hname := hasked name (List.mem_append_right _ List.mem_cons_self)
  rw [hsplit, List.map_append, List.map_cons, firstTrue_of_first, given_of_joinedUnder hname hj]
  · intro w hw
    obtain ⟨n, hn, rfl⟩ := List.mem_map.mp hw
    rw [← Bool.not_eq_true, truthy_given (hasked n (List.mem_append_left _ hn))]
    exact fun hne => hne (hbefore n hn)
  · exact (truthy_given hname).mpr hj

theorem firstTrue_of_no_fallback (h : ∀ n ∈ fallbacks, joinedUnder pairs n = "") :
    firstTrue (fallbacks.map (given pairs · .null)) = .null := by
  refine firstTrue_of_none fun w hw => ?_
  obtain ⟨n, hn, rfl⟩ := List.mem_map.mp hw
  rw [← Bool.not_eq_true, truthy_given (List.mem_cons_of_mem _ hn)]
  exact fun hne => hne (h n hn)

end ClientAddress

namespace Builtin

open Headers (valuesUnder given)

theorem remoteAddress_of_find {snapshot : Snapshot σ} {found : Value}
    (hheaders : snapshot.request.headers = Headers.ofPairs pairs)
    (h : ClientAddress.find (given pairs · .null) = .ok found) (args : List Value) :
    remoteAddress snapshot args = .ok (found.orElse snapshot.request.clientAddress.orNull) := by
  have hgiven : snapshot.request.header = (given pairs · .null) := by
    funext name
    rw [Request.header, hheaders, Headers.valueOf_ofPairs]
  rw [remoteAddress, hgiven, h]
  rfl

theorem remoteAddress_of_forwarded {snapshot : Snapshot σ} {text : String}
    (hheaders : snapshot.request.headers = Headers.ofPairs pairs)
    (h : (valuesUnder ClientAddress.forwardedFor pairs).head? = some text) (ht : text ≠ "")
    (args : List Value) : remoteAddress snapshot args =
      .ok (if ClientAddress.firstEntry text.toList = [] then snapshot.request.clientAddress.orNull
        else .text (String.ofList (ClientAddress.firstEntry text.toList))) := by
  rw [remoteAddress_of_find hheaders (ClientAddress.find_of_forwarded h ht)]
  by_cases hcore : ClientAddress.firstEntry text.toList = []
  · rw [if_pos hcore, hcore]
    rfl
  · have hne : String.ofList (ClientAddress.firstEntry text.toList) ≠ "" := by
      rwa [Ne, ← String.toList_inj, String.toList_ofList, String.toList_empty]
    have htrue := (Value.truthy_text _).mpr hne
    rw [if_neg hcore, Value.orNull, Value.orElse, Value.orElse, if_pos htrue, if_pos htrue]

end Builtin

open ClientAddress (LeadsList joinedUnder forwardedFor fallbacks)
open Headers (valuesUnder)

/-- What the token for the client's address shows. If the first forwarding header has a value, it
is what stands in front of the first comma of the value, without the white space around it, or else
the address of the connection: further forwarding headers and all other headers do not matter. If
there is no forwarding header, it is what pairs have under the first name of the table under which
they have a value, wherever these pairs stand, or else the address of the connection. -/
theorem Registry.resolve_remoteAddress (host : Host σ) {source : HeaderSource}
    {snapshot : Snapshot σ}
    (hp : source.texts = .ok pairs)
    (hheaders : Headers.normalize source = .ok snapshot.request.headers) (args : List Value) :
    (∀ s, (builtin host).resolve (.text "remote-addr") snapshot args s =
      (Builtin.remoteAddress snapshot args, s)) ∧
    (∀ text, (valuesUnder forwardedFor pairs).head? = some text → text ≠ "" →
      (∃ entry core, LeadsList entry text.toList ∧ Text.HasCore entry core ∧
        Builtin.remoteAddress snapshot args = .ok (if core = [] then
          snapshot.request.clientAddress.orNull else .text (String.ofList core))) ∧
      ∀ others otherPairs (other : Snapshot σ) otherArgs, others.texts = .ok otherPairs →
        Headers.normalize others = .ok other.request.headers →
        (valuesUnder forwardedFor otherPairs).head? = some text →
        other.request.clientAddress = snapshot.request.clientAddress →
        Builtin.remoteAddress other otherArgs = Builtin.remoteAddress snapshot args) ∧
    (valuesUnder forwardedFor pairs = [] →
      (∀ before name after, fallbacks = before ++ name :: after →
        (∀ n ∈ before, joinedUnder pairs n = "") → joinedUnder pairs name ≠ "" →
        Builtin.remoteAddress snapshot args = .ok (.text (joinedUnder pairs name))) ∧
      ((∀ n ∈ fallbacks, joinedUnder pairs n = "") →
        Builtin.remoteAddress snapshot args = .ok snapshot.request.clientAddress.orNull)) := by
  rw [Headers.normalize_of_texts hp] at hheaders
  have hpairs := (Except.ok.inj hheaders).symm
  refine ⟨fun s => ?_, fun text hfirst ht => ⟨?_, ?_⟩, fun hnone => ⟨?_, fun hempty => ?_⟩⟩
  · have hregistered : ("remote-addr",
        Extractor.ofFunction "<extractor remote-addr>" Builtin.remoteAddress) ∈
        Builtin.extractors host := by simp [Builtin.extractors]
    exact resolve_builtin hregistered snapshot args s
  · exact ⟨_, _, ClientAddress.leadsList_takeWhile _, Text.hasCore_strip _,
      Builtin.remoteAddress_of_forwarded hpairs hfirst ht args⟩
  · intro others otherPairs other otherArgs hothers hotherHeaders hotherFirst haddress
    rw [Headers.normalize_of_texts hothers] at hotherHeaders
    have hotherPairs := (Except.ok.inj hotherHeaders).symm
    rw [Builtin.remoteAddress_of_forwarded hpairs hfirst ht,
      Builtin.remoteAddress_of_forwarded hotherPairs hotherFirst ht, haddress]
  · intro before name after hsplit hbefore hj
    have hfind := ClientAddress.find_of_unforwarded hnone
    rw [ClientAddress.firstTrue_of_fallback hsplit hbefore hj] at hfind
    rw [Builtin.remoteAddress_of_find hpairs hfind, Value.orElse,
      if_pos ((Value.truthy_text _).mpr hj)]
  · have hfind := ClientAddress.find_of_unforwarded hnone
    rw [ClientAddress.firstTrue_of_no_fallback hempty] at hfind
    exact Builtin.remoteAddress_of_find hpairs hfind args

/-- Headers of which a forwarding one comes twice. -/
def forwardedHeaders : HeaderSource :=
  .mapping [(.text "X-Real-IP", .text "10.0.0.1"),
    (.text "x-forwarded-FOR", .octets [0x20, 0x61, 0x09, 0x2C, 0x62]),
    (.text "X-Forwarded-For", .text "c")]

def forwardedPairs : List (String × String) :=
  [("X-Real-IP", "10.0.0.1"), ("x-forwarded-FOR", " a\t,b"), ("X-Forwarded-For", "c")]

/-- Headers of which one further down in the table comes first. -/
def unforwardedPairs : List (String × String) :=
  [("X-Client-IP", "e"), ("X-REAL-IP", ""), ("Forwarded", ""), ("X-Real-Ip", "d")]

theorem Registry.resolve_remoteAddress_twice :
    forwardedHeaders.texts = .ok forwardedPairs ∧
      Headers.normalize forwardedHeaders = .ok (Headers.ofPairs forwardedPairs) ∧
      (Registry.builtin PlainHost.host).resolve (.text "remote-addr")
        (PlainHost.snapshot (Headers.ofPairs forwardedPairs)) [] [] = (.ok (.text "a"), []) ∧
      (Registry.builtin PlainHost.host).resolve (.text "remote-addr")
        (PlainHost.snapshot (Headers.ofPairs unforwardedPairs)) []
        [] = (.ok (.text ", d"), []) := by
  have htexts : forwardedHeaders.texts = .ok forwardedPairs :=
    congrArg Except.ok (by decide +kernel)
  have hunforwardedTexts :
      (HeaderSource.mapping (unforwardedPairs.map fun p => (.text p.1, .text p.2))).texts =
      .ok unforwardedPairs := rfl
  have hnormal : Headers.normalize forwardedHeaders =
      .ok (PlainHost.snapshot (Headers.ofPairs forwardedPairs)).request.headers :=
    Headers.normalize_of_texts htexts
  have hunforwardedNormal :
      Headers.normalize (.mapping (unforwardedPairs.map fun p => (.text p.1, .text p.2))) =
      .ok (PlainHost.snapshot (Headers.ofPairs unforwardedPairs)).request.headers :=
    Headers.normalize_of_texts hunforwardedTexts
  have hforwarded := resolve_remoteAddress PlainHost.host htexts hnormal []
  have hunforwarded := resolve_remoteAddress PlainHost.host hunforwardedTexts hunforwardedNormal []
  refine ⟨htexts, Headers.normalize_of_texts htexts, ?_, ?_⟩
  · obtain ⟨hresolve, hfirst, -⟩ := hforwarded
    obtain ⟨⟨entry, core, hentry, hcore, hshown⟩, -⟩ := hfirst " a\t,b" (by decide +kernel)
      (by decide)
    have hcore' : core = ['a'] := by
      rw [hcore.eq_strip, hentry.eq_takeWhile]
      decide +kernel
    rw [hresolve, hshown, hcore']
    rfl
  · obtain ⟨hresolve, -, hnone⟩ := hunforwarded
    obtain ⟨hfallback, -⟩ := hnone (by decide +kernel)
    rw [hresolve, hfallback ["forwarded-for", "forwarded"] "x-real-ip" _ rfl (by decide +kernel)
      (by decide +kernel)]
    exact congrArg (fun text => (Except.ok (Value.text text), [])) (by decide +kernel)

end RequestLog
