import RequestLog.Proofs.Format.Keys
import RequestLog.Proofs.Format.Rendering
import RequestLog.Proofs.Tables

/-!
Lines of formatters. Rendering puts the texts of the segments of a format one after the other, and
the text of a token is that of an outcome of its own extractor with its own arguments, although
every key is computed only once.
-/
namespace RequestLog

variable {σ : Type} {host : Host σ}

theorem Registry.get?_builtin {name : String} {e : Extractor σ}
    (h : (name, e) ∈ Builtin.extractors host) : (builtin host).table.get? name = some e := by
  have hnames : ((Builtin.extractors host).map Prod.fst).Nodup := by
    simp [Builtin.extractors]
  exact Table.get?_ofList_of_mem hnames h

/-- What comes of an extractor that is a function is a value of the function. -/
theorem Extractor.outcome_ofFunction (shown : String)
    (f : Snapshot σ → List Value → Except Fault Value) (snapshot : Snapshot σ) (args : List Value)
    (s : σ) : ((ofFunction shown f).call snapshot args s).1 = f snapshot args := by
  rw [show (ofFunction shown f).call snapshot args = Action.ofExcept (f snapshot args) from rfl,
    Action.ofExcept_apply]

/-- A token that is a function of the snapshot resolves to a value of the function. -/
theorem Registry.resolve_builtin {name shown : String}
    {f : Snapshot σ → List Value → Except Fault Value}
    (h : (name, Extractor.ofFunction shown f) ∈ Builtin.extractors host) (snapshot : Snapshot σ)
    (args : List Value) (s : σ) :
    (builtin host).resolve (.text name) snapshot args s = (f snapshot (someArgs args), s) := by
  have hfind : (builtin host).find (.text name) = .ok (.ofFunction shown f) := by
    rw [find, get, get?_builtin h]
  rw [resolve, hfind]
  exact Action.ofExcept_apply _ s

namespace Formatter

/-- The text that an outcome of an extractor contributes, unless its value refuses it. -/
def pieceOf (placeholder : String) : Except Fault Value → Except Fault String
  | .error _ => .ok placeholder
  | .ok .null => .ok placeholder
  | .ok v => v.written

theorem fill_counted (placeholder : String) (outcome : Except Fault Value) :
    Template.fill placeholder (some (counted outcome)) = pieceOf placeholder outcome := by
  rcases outcome with f | v
  · rfl
  · cases v <;> rfl

/-- Only a value can refuse its piece of a line. -/
theorem exists_value_of_refused {placeholder : String} {outcome : Except Fault Value} {f : Fault}
    (h : pieceOf placeholder outcome = .error f) : ∃ v, outcome = .ok v ∧
    v.written = .error f := by
  rcases outcome with g | v
  · cases h
  · refine ⟨v, rfl, ?_⟩
    cases v with
    | null => cases h
    | _ => exact h

def segmentText (text : Token → String) : Segment → String
  | .text literal => literal
  | .token t => text t

/-- The text of a segment whose tokens may have none. -/
def segmentPiece (piece : Token → Except Fault String) : Segment → Except Fault String
  | .text literal => .ok literal
  | .token t => piece t

/-- The texts of segments joined, unless one of them is refused. -/
def joinPieces (piece : Token → Except Fault String) (segments : List Segment) :
    Except Fault String :=
  (segments.mapM (segmentPiece piece)).map String.join

variable {piece other : Token → Except Fault String} {segments : List Segment}

/-- Whatever its members become, a list is joined member by member. -/
theorem map_join_mapM_cons {α : Type} (f : α → Except Fault String) (a : α) (as : List α) :
    ((a :: as).mapM f).map String.join = (do
      let text ← f a
      let more ← (as.mapM f).map String.join
      return text ++ more) := by
  rw [List.mapM_cons]
  rcases f a with fault | text
  · rfl
  · rcases as.mapM f with fault | texts
    · rfl
    · exact congrArg Except.ok (String.join_cons ..)

theorem joinPieces_text (literal : String) (rest : List Segment) :
    joinPieces piece (.text literal :: rest) = (joinPieces piece rest).map (literal ++ ·) := by
  rw [joinPieces, map_join_mapM_cons, joinPieces]
  rcases rest.mapM (segmentPiece piece) with _ | _ <;> rfl

theorem joinPieces_token (t : Token) (rest : List Segment) :
    joinPieces piece (.token t :: rest) =
      (do return (← piece t) ++ (← joinPieces piece rest)) :=
  map_join_mapM_cons ..

theorem joinPieces_congr (h : ∀ t ∈ Segment.tokens segments, piece t = other t) :
    joinPieces piece segments = joinPieces other segments := by
  induction segments with
  | nil => rfl
  | cons segment rest ih =>
    cases segment with
    | text literal => rw [joinPieces_text, joinPieces_text, ih h]
    | token t =>
      obtain ⟨ht, hrest⟩ := List.forall_mem_cons.mp h
      rw [joinPieces_token, joinPieces_token, ht, ih hrest]

/-- Segments are joined to a line exactly if every token in them has a text. -/
theorem joinPieces_eq_ok {line : String} : joinPieces piece segments = .ok line ↔
    ∃ text : Token → String, line = String.join (segments.map (segmentText text)) ∧
      ∀ t ∈ Segment.tokens segments, piece t = .ok (text t) := by
  constructor
  · -- the text of a token without one may be anything
    intro h
    refine ⟨fun t => (piece t).toOption.getD "", ?_⟩
    induction segments generalizing line with
    | nil =>
      cases h
      exact ⟨rfl, fun _ ht => nomatch ht⟩
    | cons segment rest ih =>
      cases segment with
      | text literal =>
        rw [joinPieces_text] at h
        obtain ⟨more, hmore, rfl⟩ := map_eq_ok.mp h
        obtain ⟨rfl, htexts⟩ := ih hmore
        exact ⟨by simp [segmentText], htexts⟩
      | token t =>
        rw [joinPieces_token] at h
        obtain ⟨own, hown, h⟩ := bind_eq_ok.mp h
        obtain ⟨more, hmore, h⟩ := bind_eq_ok.mp h
        cases h
        obtain ⟨rfl, htexts⟩ := ih hmore
        refine ⟨by simp [segmentText, hown, Except.toOption], ?_⟩
        exact List.forall_mem_cons.mpr ⟨by simp [hown, Except.toOption], htexts⟩
  · rintro ⟨text, rfl, htexts⟩
    have hsame : joinPieces piece segments = joinPieces (fun t => .ok (text t)) segments :=
      joinPieces_congr htexts
    rw [hsame]
    clear htexts hsame
    induction segments with
    | nil => rfl
    | cons segment rest ih =>
      cases segment with
      | text literal =>
        rw [joinPieces_text, ih]
        simp [Except.map, segmentText]
      | token t =>
        rw [joinPieces_token, ih]
        simp [bind, Except.bind, pure, Except.pure, segmentText]

/-- What keeps segments from being joined is the refusal of a token. -/
theorem joinPieces_eq_error {f : Fault} (h : joinPieces piece segments = .error f) :
    ∃ t ∈ Segment.tokens segments, piece t = .error f := by
  induction segments with
  | nil => cases h
  | cons segment rest ih =>
    cases segment with
    | text literal =>
      rw [joinPieces_text] at h
      exact ih (map_eq_error.mp h)
    | token t =>
      rw [joinPieces_token] at h
      cases ht : piece t with
      | error g =>
        rw [ht] at h
        cases h
        exact ⟨t, List.mem_cons_self, ht⟩
      | ok own =>
        rw [ht] at h
        obtain ⟨u, hu, hrefused⟩ := ih (map_eq_error.mp h)
        exact ⟨u, List.mem_cons_of_mem t hu, hrefused⟩

end Formatter

namespace Template

open Formatter (joinPieces map_join_mapM_cons)

variable {values : Table Value} {placeholder : String}

/-- Parts rendered one after the other. -/
def renderParts (placeholder : String) (values : Table Value) (parts : List Part) :
    Except Fault String :=
  (parts.mapM (renderPart placeholder values)).map String.join

theorem renderParts_text (literal : String) (parts : List Part) :
    renderParts placeholder values (.text literal :: parts) =
      (renderParts placeholder values parts).map (literal ++ ·) := by
  rw [renderParts, map_join_mapM_cons, renderParts]
  rcases parts.mapM (renderPart placeholder values) with _ | _ <;> rfl

theorem renderParts_consText (literal : String) (parts : List Part) :
    renderParts placeholder values (consText literal parts) =
      (renderParts placeholder values parts).map (literal ++ ·) := by
  unfold consText
  split
  · next more parts =>
    rw [renderParts_text, renderParts_text]
    rcases renderParts placeholder values parts with _ | _
    · rfl
    · simp [Except.map, String.append_assoc]
  · exact renderParts_text literal parts

/-- Rendering from merged parts gives the texts of the segments in their order. -/
theorem render_compile (segments : List Segment) :
    (compile segments placeholder).render values =
      joinPieces (fun t => fill placeholder (values.get? t.key)) segments := by
  show renderParts placeholder values (compileParts segments) = _
  induction segments with
  | nil => rfl
  | cons s rest ih =>
    cases s with
    | text literal =>
      rw [compileParts, Formatter.joinPieces_text, ← ih]
      split
      · next he =>
        -- an empty text has no part, and adds nothing to the line
        rw [String.isEmpty_iff.mp he]
        rcases renderParts placeholder values (compileParts rest) with _ | _ <;> simp [Except.map]
      · exact renderParts_consText literal _
    | token t =>
      rw [compileParts, Formatter.joinPieces_token, ← ih]
      exact map_join_mapM_cons ..

end Template

namespace Formatter

variable {registry : Registry σ} {snapshot : Snapshot σ} {placeholder : String}

theorem mem_of_mem_distinctFrom {seen : List String} {tokens : List Token} {t : Token}
    (h : t ∈ distinctFrom seen tokens) : t ∈ tokens := by
  induction tokens generalizing seen with
  | nil => exact h
  | cons u rest ih =>
    rw [distinctFrom] at h
    split at h
    · exact List.mem_cons_of_mem _ (ih h)
    · rcases List.mem_cons.mp h with rfl | h
      · exact List.mem_cons_self
      · exact List.mem_cons_of_mem _ (ih h)

/-- Every token that has not been seen is represented by a distinct one. -/
theorem exists_mem_distinctFrom {seen : List String} {tokens : List Token} {t : Token}
    (h : t ∈ tokens) : t.key ∈ seen ∨ ∃ u ∈ distinctFrom seen tokens, u.key = t.key := by
  induction tokens generalizing seen with
  | nil => cases h
  | cons u rest ih =>
    rw [distinctFrom]
    split
    · next hseen =>
      rcases List.mem_cons.mp h with rfl | h
      · exact .inl (List.contains_iff_mem.mp hseen)
      · exact ih h
    · rcases List.mem_cons.mp h with rfl | h
      · exact .inr ⟨t, List.mem_cons_self, rfl⟩
      · have hrest : t.key ∈ u.key :: seen ∨ _ := ih h
        rcases hrest with hseen | ⟨v, hv, hk⟩
        · rcases List.mem_cons.mp hseen with hk | hseen
          · exact .inr ⟨u, List.mem_cons_self, hk.symm⟩
          · exact .inl hseen
        · exact .inr ⟨v, List.mem_cons_of_mem _ hv, hk⟩

theorem exists_mem_distinct {tokens : List Token} {t : Token} (h : t ∈ tokens) :
    ∃ u ∈ distinct tokens, u.key = t.key :=
  (exists_mem_distinctFrom h).resolve_left List.not_mem_nil

theorem mem_bindingsOf {tokens : List Token} {b : Binding σ} :
    b ∈ bindingsOf registry tokens ↔
      ∃ t ∈ distinct tokens, ∃ e, registry.table.get? t.name = some e ∧
      ⟨t.key, e, t.args⟩ = b := by
  simp [bindingsOf, List.mem_filterMap]

/-- The value under the key of a binding comes from a binding of that key. -/
theorem ComeFrom.lookup {bindings : List (Binding σ)} {values : List (String × Value)}
    {key : String} (h : ComeFrom snapshot bindings values) (hex : ∃ b ∈ bindings, b.key = key) :
    ∃ b ∈ bindings, b.key = key ∧ ∃ s, values.lookup key =
      some (counted (b.extractor.call snapshot (b.args.map .text) s).1) := by
  induction h with
  | nil =>
    obtain ⟨b, hb, -⟩ := hex
    cases hb
  | @cons b p rest values hp hrest ih =>
    obtain ⟨hkey, s, hvalue⟩ := hp
    rw [Table.lookup_cons]
    by_cases hk : key = b.key
    · exact ⟨b, List.mem_cons_self, hk.symm, s,
        (if_pos (hk.trans hkey.symm)).trans (congrArg some hvalue)⟩
    · obtain ⟨b', hb', hk'⟩ := hex
      have hmem : b' ∈ rest := by
        rcases List.mem_cons.mp hb' with rfl | hb'
        · exact absurd hk'.symm hk
        · exact hb'
      obtain ⟨b₁, hb₁, hk₁, s₁, hv₁⟩ := ih ⟨b', hmem, hk'⟩
      refine ⟨b₁, List.mem_cons_of_mem _ hb₁, hk₁, s₁, ?_⟩
      rw [if_neg fun h => hk (h.trans hkey), hv₁]

/-- The value under the key of a token comes from the token's own extractor and arguments. -/
theorem ComeFrom.lookup_token {tokens : List Token} {values : List (String × Value)}
    (h : ComeFrom snapshot (bindingsOf registry tokens) values) (hm : ∀ t ∈ tokens, t.Mentioned)
    (hn : ∀ t ∈ tokens, registry.contains t.name = true) {t : Token} (ht : t ∈ tokens) :
    ∃ e s, registry.table.get? t.name = some e ∧
      values.lookup t.key = some (counted (e.call snapshot (t.args.map .text) s).1) := by
  have hex : ∃ b ∈ bindingsOf registry tokens, b.key = t.key := by
    obtain ⟨u, hu, hk⟩ := exists_mem_distinct ht
    obtain ⟨e, he⟩ := Option.isSome_iff_exists.mp (hn u (mem_of_mem_distinctFrom hu))
    exact ⟨_, mem_bindingsOf.mpr ⟨u, hu, e, he, rfl⟩, hk⟩
  -- the binding may be that of an earlier token, which has the same name and arguments then
  obtain ⟨b, hb, hk, s, hv⟩ := h.lookup hex
  obtain ⟨u, hu, e, he, rfl⟩ := mem_bindingsOf.mp hb
  obtain ⟨hname, hargs⟩ := (hm u (mem_of_mem_distinctFrom hu)).of_key_eq (hm t ht) hk
  exact ⟨e, s, hname ▸ he, hargs ▸ hv⟩

/-- Once the tokens have values, what becomes of the line is what becomes of its segments, and the
piece of a token comes from an outcome of its extractor. -/
theorem line_of_resolved {given : String}
    (hn : ∀ t ∈ Segment.tokens (parseFormat (Preset.expand given)),
      registry.contains t.name = true) {s : σ} {values : List (String × Value)}
    (h : (resolveAll host snapshot (ofFormat registry given placeholder).bindings s).1 =
      .ok values) :
    ∃ piece : Token → Except Fault String,
      ((ofFormat registry given placeholder).line host snapshot s).1 =
        joinPieces piece (parseFormat (Preset.expand given)) ∧
      ∀ t ∈ Segment.tokens (parseFormat (Preset.expand given)), ∃ e s',
        registry.table.get? t.name = some e ∧
          piece t = pieceOf placeholder (e.call snapshot (t.args.map .text) s').1 := by
  have hcome := resolveAll_values (Prod.ext h rfl)
  refine ⟨fun t => Template.fill placeholder (values.lookup t.key), ?_, fun t ht => ?_⟩
  · rw [line_apply, h]
    exact Template.render_compile _
  · obtain ⟨e, s', he, hv⟩ := hcome.lookup_token (fun _ => mentioned_of_mem_parseFormat) hn ht
    exact ⟨e, s', he, (congrArg (Template.fill placeholder) hv).trans (fill_counted _ _)⟩

/-- The line of a formatter puts the texts of the segments one after the other, and that of a token
comes from an outcome of its extractor. -/
theorem line_of_registered {given : String}
    (hn : ∀ t ∈ Segment.tokens (parseFormat (Preset.expand given)),
      registry.contains t.name = true) {s : σ} {line : String}
    (h : ((ofFormat registry given placeholder).line host snapshot s).1 = .ok line) :
    ∃ text : Token → String,
      line = String.join ((parseFormat (Preset.expand given)).map (segmentText text)) ∧
      ∀ t ∈ Segment.tokens (parseFormat (Preset.expand given)), ∃ e s',
        registry.table.get? t.name = some e ∧
          pieceOf placeholder (e.call snapshot (t.args.map .text) s').1 = .ok (text t) := by
  have hline := h
  rw [line_apply] at h
  obtain ⟨values, hvalues, -⟩ := bind_eq_ok.mp h
  obtain ⟨piece, hpieces, htokens⟩ := line_of_resolved hn hvalues
  obtain ⟨text, rfl, htexts⟩ := joinPieces_eq_ok.mp (hpieces.symm.trans hline)
  refine ⟨text, rfl, fun t ht => ?_⟩
  obtain ⟨e, s', he, hpiece⟩ := htokens t ht
  exact ⟨e, s', he, hpiece.symm.trans (htexts t ht)⟩

end Formatter

end RequestLog
