import RequestLog.Proofs.Format.Setup
import RequestLog.Proofs.Watch.Logging

/-!
The calls that a formatter makes for one line, one by one. Each name with arguments that the format
mentions is read once, in the order in which they are first mentioned; a reading is a call of the
extractor, and if that fails a note.
-/
namespace RequestLog

variable {σ : Type} {host : Host σ}

open RequestLog.Action (Records)

namespace Call

/-- A note taken by one handler after the other. -/
def notes (name : String) (text : Text.Wide) (handlers : List HandlerOffer) : List (Call σ) :=
  (handlers.filterMap HandlerOffer.name?).map fun handler => .noted handler name text (.ok ())

/-- The name of a note that a handler is handed. -/
def noteTo? (handler : String) : Call σ → Option String
  | noted h name _ _ => if h = handler then some name else none
  | _ => none

/-- The name of the note about a call of the predicate or of an extractor that failed. -/
def failure? : Call σ → Option String
  | asked _ (.error _) => some "skip"
  | extracted _ _ _ (.error _) => some "token_resolve"
  | _ => none

/-- A handler is handed a note as often as it is on the board. -/
theorem filterMap_noteTo?_notes (handler name : String) (text : Text.Wide)
    (handlers : List HandlerOffer) :
    (notes name text handlers : List (Call σ)).filterMap (noteTo? handler) =
      List.replicate ((handlers.filterMap HandlerOffer.name?).count handler) name := by
  rw [notes]
  induction handlers.filterMap HandlerOffer.name? with
  | nil => rfl
  | cons h rest ih =>
    by_cases hh : h = handler
    · simp [noteTo?, hh, ih, List.replicate_succ]
    · simp [noteTo?, hh, ih]

end Call

theorem Action.Records.of_watched {α : Type} (call : Except Fault α → Call σ) (act : Action σ α)
    (s : σ) : Records (act.watched call) act s [call (act s).1] :=
  fun _ => rfl

namespace Host

variable {name message : String} {text : Text.Wide} {args : List Argument} {s t : σ}

/-- The calls of a note that the handlers of a state take. -/
def noteCalls (host : Host σ) (name message : String) (args : List Argument) (s : σ) :
    List (Call σ) :=
  match Message.text message args with
  | .ok text => Call.notes name text (host.handlers s)
  | .error _ => []

theorem isNote_of_mem_noteCalls {c : Call σ} (h : c ∈ host.noteCalls name message args s) :
    c.isNote = true := by
  unfold noteCalls at h
  split at h
  · obtain ⟨handler, -, rfl⟩ := List.mem_map.mp h
    rfl
  · cases h

theorem entries_noteCalls (host : Host σ) (name message : String) (args : List Argument) (s : σ) :
    Call.entries (host.noteCalls name message args s) = [] :=
  Call.entries_of_rendering fun _ hc => Call.isRendering_of_isNote (isNote_of_mem_noteCalls hc)

/-- No note is made about a note. -/
theorem filterMap_failure?_noteCalls (host : Host σ) (name message : String) (args : List Argument)
    (s : σ) : (host.noteCalls name message args s).filterMap Call.failure? = [] := by
  apply List.filterMap_eq_nil_iff.mpr
  intro c hc
  have hnote := isNote_of_mem_noteCalls hc
  cases c <;> first | rfl | cases hnote

/-- A note that was taken where a handler listens has been worded. -/
theorem Listens.exists_text {handler : String} (h : host.Listens handler)
    (hn : (host.note name message args s).1 = .ok ()) :
    ∃ text, Message.text message args = .ok text := by
  obtain ⟨board, u, hboard, hhandlers⟩ := host.exists_currentBoard s
  have hsome : board.handlers.isEmpty = false := by
    cases hh : board.handlers with
    | nil =>
      have hcount := h s
      rw [hhandlers, hh] at hcount
      cases hcount
    | cons offer rest => rfl
  rw [note, Action.andThen_of_ok hboard, hsome] at hn
  cases ht : Message.text message args with
  | ok text => exact ⟨text, rfl⟩
  | error fault =>
    rw [ht] at hn
    cases hn

/-- A handler that listens is handed a note that was taken once. -/
theorem Listens.noteTo?_noteCalls {handler : String} (h : host.Listens handler)
    (hn : (host.note name message args s).1 = .ok ()) :
    (host.noteCalls name message args s).filterMap (Call.noteTo? handler) = [name] := by
  obtain ⟨text, ht⟩ := h.exists_text hn
  simp only [noteCalls, ht, Call.filterMap_noteTo?_notes, h s, List.replicate_one]

/-- Handing out a note that no handler refuses is a call of each handler. -/
theorem deliver_records {handlers : List HandlerOffer}
    (h : host.deliver name text handlers s = (.ok (), t)) :
    Records (host.watched.deliver name text handlers) (host.deliver name text handlers) s
      (Call.notes name text handlers) := by
  induction handlers generalizing s with
  | nil => exact Records.done ()
  | cons offer rest ih =>
    cases offer with
    | handler handler =>
      obtain ⟨⟨⟩, u, hfirst, hrest⟩ := Action.andThen_ok_cases h
      have hcall : Records (host.watched.receive handler name text)
          (host.receive handler name text) s
          [.noted handler name text (host.receive handler name text s).1] :=
        Records.of_watched _ _ s
      rw [hfirst] at hcall
      exact hcall.andThen hfirst (ih hrest)
    | value v => cases h

theorem note_records (h : host.note name message args s = (.ok (), t)) :
    Records (host.watched.note name message args) (host.note name message args) s
      (host.noteCalls name message args s) := by
  obtain ⟨board, u, hboard, hhandlers⟩ := host.exists_currentBoard s
  -- looking for the board is no call, also if it has to be made
  have hsilent : Records host.watched.currentBoard host.currentBoard s [] := by
    apply Records.silent
    intro calls
    simp only [currentBoard, watched]
    cases host.board s <;> rfl
  rw [note, Action.andThen_of_ok hboard] at h
  rw [noteCalls, hhandlers]
  refine hsilent.andThen hboard ?_
  split
  · next hempty =>
    rw [List.isEmpty_iff.mp hempty]
    cases Message.text message args with
    | ok text => exact Records.done ()
    | error fault => exact Records.done ()
  · next hsome =>
    rw [if_neg hsome] at h
    cases htext : Message.text message args with
    | error fault =>
      rw [htext] at h
      cases h
    | ok text =>
      rw [htext] at h
      exact deliver_records h

end Host

/-- A token as it is read for a line: what came of its extractor, and the state after that. -/
structure Reading (σ : Type) where
  token : Token
  outcome : Except Fault Value
  after : σ

namespace Reading

variable {snapshot : Snapshot σ}

/-- The call of the extractor. -/
def call (snapshot : Snapshot σ) (x : Reading σ) : Call σ :=
  .extracted x.token.key snapshot (x.token.args.map .text) x.outcome

/-- The note about a reading that failed. -/
def note (host : Host σ) (snapshot : Snapshot σ) (x : Reading σ) (fault : Fault) : Action σ Unit :=
  host.note "token_resolve" "got %r resolving token %r for %r"
    [.fault fault, .value (.text x.token.key), .object (snapshot.literal x.after)]

/-- The calls of a reading: that of the extractor, and if it failed those of one note. -/
def calls (host : Host σ) (snapshot : Snapshot σ) (x : Reading σ) : List (Call σ) :=
  x.call snapshot ::
    match x.outcome with
    | .ok _ => []
    | .error fault => host.noteCalls "token_resolve" "got %r resolving token %r for %r"
        [.fault fault, .value (.text x.token.key), .object (snapshot.literal x.after)] x.after

/-- Whether a reading did not fail, or its failure was noted. -/
def Noted (host : Host σ) (snapshot : Snapshot σ) (x : Reading σ) : Prop :=
  ∀ fault, x.outcome = .error fault → (x.note host snapshot fault x.after).1 = .ok ()

/-- Whether a reading failed, and noting that failed as well. -/
def Unnoted (host : Host σ) (snapshot : Snapshot σ) (x : Reading σ) (g : Fault) : Prop :=
  ∃ fault, x.outcome = .error fault ∧ (x.note host snapshot fault x.after).1 = .error g

/-- Whether a reading is a call of the registered extractor. -/
def ComesOf (registry : Registry σ) (snapshot : Snapshot σ) (x : Reading σ) : Prop :=
  ∃ extractor before, registry.get x.token.name = .ok extractor ∧
    extractor.call snapshot (x.token.args.map .text) before = (x.outcome, x.after)

/-- A handler that listens is handed one note about a reading that failed, and none about
another. -/
theorem Noted.noteTo?_calls {handler : String} {x : Reading σ} (hx : x.Noted host snapshot)
    (h : host.Listens handler) : (x.calls host snapshot).filterMap (Call.noteTo? handler) =
      (x.calls host snapshot).filterMap Call.failure? := by
  obtain ⟨token, outcome, after⟩ := x
  cases outcome with
  | ok v => rfl
  | error fault =>
    have hnoted := hx fault rfl
    simp only [calls, call, List.filterMap_cons, Call.noteTo?, Call.failure?,
      h.noteTo?_noteCalls hnoted, Host.filterMap_failure?_noteCalls]

/-- Nothing is handed to the emitter in a reading. -/
theorem entries_calls (x : Reading σ) : Call.entries (x.calls host snapshot) = [] := by
  obtain ⟨token, outcome, after⟩ := x
  cases outcome with
  | ok v => rfl
  | error fault => exact Host.entries_noteCalls ..

theorem entries_flatMap_calls (readings : List (Reading σ)) :
    Call.entries (readings.flatMap (calls host snapshot)) = [] := by
  induction readings with
  | nil => rfl
  | cons x rest ih => rw [List.flatMap_cons, Call.entries_append, x.entries_calls, ih,
      List.append_nil]

end Reading

namespace Formatter

variable {registry : Registry σ} {snapshot : Snapshot σ} {s u : σ}

/-- Whether readings come to a line, or to the refusal of one: the text of a token is that of the
one reading of its name and arguments. -/
def Shows (f : Formatter σ) (readings : List (Reading σ)) (line : Except Fault String) : Prop :=
  ∃ piece : Token → Except Fault String, line = joinPieces piece f.segments ∧
    ∀ t ∈ f.tokens, ∃ x ∈ readings, x.token.pair = t.pair ∧
      (∀ y ∈ readings, y.token.pair = t.pair → y = x) ∧ piece t = pieceOf f.placeholder x.outcome

/-- What becomes of the line of a snapshot, and the calls that are made for it, if every failure
can be noted or not. -/
inductive Reads (f : Formatter σ) (registry : Registry σ) (host : Host σ) (snapshot : Snapshot σ) :
    Bool → Except Fault String → List (Call σ) → Prop where
  /-- Each name with arguments is read once, whatever becomes of the others. -/
  | whole {readings : List (Reading σ)} {line : Except Fault String}
      (pairs : readings.map (·.token.pair) = (f.tokens.map Token.pair).eraseDups)
      (come : ∀ x ∈ readings, x.ComesOf registry snapshot)
      (noted : ∀ x ∈ readings, x.Noted host snapshot) (showing : f.Shows readings line) :
      Reads f registry host snapshot true line (readings.flatMap (Reading.calls host snapshot))
  /-- A failure could not be noted, and nothing is read behind it. -/
  | broken {readings : List (Reading σ)} {x : Reading σ} {g : Fault} {handed : List (Call σ)}
      (pairs : (readings ++ [x]).map (·.token.pair) <+: (f.tokens.map Token.pair).eraseDups)
      (come : ∀ y ∈ readings ++ [x], y.ComesOf registry snapshot)
      (noted : ∀ y ∈ readings, y.Noted host snapshot) (unnoted : x.Unnoted host snapshot g)
      (notes : ∀ c ∈ handed, c.isNote = true) :
      Reads f registry host snapshot false (.error g)
        (readings.flatMap (Reading.calls host snapshot) ++ x.call snapshot :: handed)

section Reads

variable {f : Formatter σ} {told : Bool} {line : Except Fault String} {read : List (Call σ)}

/-- Nothing is handed to the emitter while a line is made. -/
theorem Reads.entries (h : f.Reads registry host snapshot told line read) :
    Call.entries read = [] := by
  cases h with
  | whole => exact Reading.entries_flatMap_calls _
  | @broken readings x g handed _ _ _ _ notes =>
    have hhanded : Call.entries handed = [] :=
      Call.entries_of_rendering fun c hc => Call.isRendering_of_isNote (notes c hc)
    rw [Call.entries_append, Reading.entries_flatMap_calls, List.nil_append]
    exact hhanded

/-- A handler that listens is handed one note about each reading that failed, if all can be
noted. -/
theorem Reads.noteTo? (h : f.Reads registry host snapshot true line read) {handler : String}
    (hl : host.Listens handler) :
    read.filterMap (Call.noteTo? handler) = read.filterMap Call.failure? := by
  cases h with
  | @whole readings line _ _ noted =>
    rw [List.filterMap_flatMap, List.filterMap_flatMap]
    exact List.flatMap_congr fun x hx => (noted x hx).noteTo?_calls hl

/-- If all failures can be noted, a line that is not made is refused by the value of a reading. -/
theorem Reads.refused {fault : Fault}
    (h : f.Reads registry host snapshot true (.error fault) read) :
    ∃ key args v, .extracted key snapshot args (.ok v) ∈ read ∧ v.written = .error fault := by
  cases h with
  | @whole readings line _ _ _ showing =>
    obtain ⟨piece, hpiece, hshown⟩ := showing
    obtain ⟨t, ht, hrefused⟩ := joinPieces_eq_error hpiece.symm
    obtain ⟨x, hx, -, -, hvalue⟩ := hshown t ht
    rw [hrefused] at hvalue
    obtain ⟨v, hv, hwritten⟩ := exists_value_of_refused hvalue.symm
    refine ⟨x.token.key, x.token.args.map .text, v, ?_, hwritten⟩
    have hcall : x.call snapshot ∈ readings.flatMap (Reading.calls host snapshot) :=
      List.mem_flatMap.mpr ⟨x, hx, List.mem_cons_self⟩
    rwa [Reading.call, hv] at hcall

end Reads

theorem call_records (b : Binding σ) (snapshot : Snapshot σ) (args : List Value) (s : σ) :
    Records (b.watched.extractor.call snapshot.watched args) (b.extractor.call snapshot args) s
      [.extracted b.key snapshot args (b.extractor.call snapshot args s).1] := by
  intro calls
  simp only [Binding.watched, Extractor.watched, Action.watched, Snapshot.unwatched_watched]

theorem noteFailure_records {key : String} {fault : Fault}
    (h : noteFailure host key snapshot fault s = (.ok (), u)) :
    Records (noteFailure host.watched key snapshot.watched fault)
      (noteFailure host key snapshot fault) s
      (host.noteCalls "token_resolve" "got %r resolving token %r for %r"
        [.fault fault, .value (.text key), .object (snapshot.literal s)] s) := by
  have hlook : Records (Action.look snapshot.watched.literal) (Action.look snapshot.literal) s
      ([] : List (Call σ)) :=
    Records.silent fun calls => by simp only [Action.look, literal_watched]
  have hshown := Action.look_apply snapshot.literal s
  rw [noteFailure, Action.andThen_of_ok hshown] at h
  exact hlook.andThen hshown (Host.note_records h)

/-- A note about a failure is a look at the snapshot and the note that shows it. -/
theorem noteFailure_apply (key : String) (fault : Fault) (s : σ) :
    noteFailure host key snapshot fault s = host.note "token_resolve"
      "got %r resolving token %r for %r"
      [.fault fault, .value (.text key), .object (snapshot.literal s)] s := by
  rw [noteFailure, Action.andThen_of_ok (Action.look_apply snapshot.literal s)]

/-- Computing a binding is a reading of its token. -/
theorem resolveOne_records {b : Binding σ} {t : Token} {v : Value} (hb : b.Computes registry t)
    (h : resolveOne host snapshot b s = (.ok v, u)) :
    ∃ x : Reading σ, x.token = t ∧ x.ComesOf registry snapshot ∧ x.Noted host snapshot ∧
      v = counted x.outcome ∧
      Records (resolveOne host.watched snapshot.watched b.watched) (resolveOne host snapshot b) s
        (x.calls host snapshot) := by
  have hvalue := value_of_resolveOne h
  have hget : registry.get t.name = .ok b.extractor := by rw [Registry.get, hb.extractor]
  have hcall := (call_records b snapshot (b.args.map .text) s).attempt
  rcases hc : b.extractor.call snapshot (b.args.map .text) s with ⟨outcome, after⟩
  rw [hc] at hvalue hcall
  have hattempt : (b.extractor.call snapshot (b.args.map .text)).attempt s =
      (.ok outcome, after) := by
    rw [Action.attempt_apply, hc]
  have hcomes : Reading.ComesOf registry snapshot ⟨t, outcome, after⟩ :=
    ⟨b.extractor, s, hget, hb.args ▸ hc⟩
  rw [resolveOne, Action.andThen_of_ok hattempt] at h
  cases outcome with
  | ok w =>
    refine ⟨⟨t, .ok w, after⟩, rfl, hcomes, ?_, hvalue, ?_⟩
    · rintro _ ⟨⟩
    · rw [Reading.calls, Reading.call, ← hb.key, ← hb.args]
      exact hcall.andThen hattempt (Records.done w)
  | error fault =>
    obtain ⟨⟨⟩, u', hnoted, -⟩ := Action.andThen_ok_cases h
    refine ⟨⟨t, .error fault, after⟩, rfl, hcomes, ?_, hvalue, ?_⟩
    · rintro _ ⟨⟩
      have hnote := congrArg Prod.fst hnoted
      rwa [noteFailure_apply, hb.key] at hnote
    · rw [Reading.calls, Reading.call, ← hb.key, ← hb.args]
      exact hcall.andThen hattempt ((noteFailure_records hnoted).andThen_done fun _ => Value.null)

/-- A binding that is not computed is a reading whose failure could not be noted. -/
theorem resolveOne_breaks {b : Binding σ} {t : Token} {g : Fault} (hb : b.Computes registry t)
    (h : resolveOne host snapshot b s = (.error g, u)) :
    ∃ (x : Reading σ) (handed : List (Call σ)), x.token = t ∧ x.ComesOf registry snapshot ∧
      x.Unnoted host snapshot g ∧ (∀ c ∈ handed, c.isNote = true) ∧
      Records (resolveOne host.watched snapshot.watched b.watched) (resolveOne host snapshot b) s
        (x.call snapshot :: handed) := by
  have hget : registry.get t.name = .ok b.extractor := by rw [Registry.get, hb.extractor]
  have hcall := (call_records b snapshot (b.args.map .text) s).attempt
  rcases hc : b.extractor.call snapshot (b.args.map .text) s with ⟨outcome, after⟩
  rw [hc] at hcall
  have hattempt : (b.extractor.call snapshot (b.args.map .text)).attempt s =
      (.ok outcome, after) := by
    rw [Action.attempt_apply, hc]
  rw [resolveOne, Action.andThen_of_ok hattempt] at h
  cases outcome with
  | ok w => cases h
  | error fault =>
    have hnote : noteFailure host b.key snapshot fault after = (.error g, u) := by
      rcases Action.andThen_error_cases h with hnote | ⟨_, _, -, hdone⟩
      · exact hnote
      · cases hdone
    obtain ⟨handed, hhanded, hnotes⟩ := noteFailure_watched host b.key snapshot fault after
    refine ⟨⟨t, .error fault, after⟩, handed, rfl, ⟨b.extractor, s, hget, hb.args ▸ hc⟩,
      ⟨fault, rfl, ?_⟩, hnotes, ?_⟩
    · have hrefused := congrArg Prod.fst hnote
      rwa [noteFailure_apply, hb.key] at hrefused
    · rw [Reading.call, ← hb.key, ← hb.args]
      exact hcall.andThen hattempt (Records.andThen_done (fun _ => Value.null) hhanded)

/-- Computing bindings is a reading of each of their tokens, in the same order. -/
theorem resolveAll_records {bindings : List (Binding σ)} {tokens : List Token}
    {values : List (String × Value)}
    (hb : List.Forall₂ (Binding.Computes registry) bindings tokens)
    (h : resolveAll host snapshot bindings s = (.ok values, u)) :
    ∃ readings : List (Reading σ), readings.map Reading.token = tokens ∧
      (∀ x ∈ readings, x.ComesOf registry snapshot ∧ x.Noted host snapshot) ∧
      values = readings.map (fun x => (x.token.key, counted x.outcome)) ∧
      Records (resolveAll host.watched snapshot.watched (bindings.map Binding.watched))
        (resolveAll host snapshot bindings) s
        (readings.flatMap (Reading.calls host snapshot)) := by
  induction hb generalizing s values with
  | nil =>
    cases h
    exact ⟨[], rfl, by simp, rfl, Records.done []⟩
  | @cons b t bindings tokens hfirst _ ih =>
    obtain ⟨v, u₁, hone, h⟩ := Action.andThen_ok_cases h
    obtain ⟨vs, u₂, hall, hdone⟩ := Action.andThen_ok_cases h
    cases hdone
    obtain ⟨x, hx, hxcome, hxnoted, hxvalue, hxrecords⟩ := resolveOne_records hfirst hone
    obtain ⟨readings, hreadings, hcome, hvalues, hrecords⟩ := ih hall
    refine ⟨x :: readings, by rw [List.map_cons, hx, hreadings], ?_, ?_, ?_⟩
    · exact List.forall_mem_cons.mpr ⟨⟨hxcome, hxnoted⟩, hcome⟩
    · rw [List.map_cons, ← hvalues, ← hxvalue, hx, hfirst.key]
    · exact hxrecords.andThen hone (hrecords.andThen_done fun vs => (b.key, v) :: vs)

/-- Bindings that are not all computed are readings of the tokens up to one whose failure could not
be noted. -/
theorem resolveAll_breaks {bindings : List (Binding σ)} {tokens : List Token} {g : Fault}
    (hb : List.Forall₂ (Binding.Computes registry) bindings tokens)
    (h : resolveAll host snapshot bindings s = (.error g, u)) :
    ∃ (readings : List (Reading σ)) (x : Reading σ) (handed : List (Call σ)),
      (readings ++ [x]).map Reading.token <+: tokens ∧
      (∀ y ∈ readings, y.ComesOf registry snapshot ∧ y.Noted host snapshot) ∧
      x.ComesOf registry snapshot ∧ x.Unnoted host snapshot g ∧ (∀ c ∈ handed, c.isNote = true) ∧
      Records (resolveAll host.watched snapshot.watched (bindings.map Binding.watched))
        (resolveAll host snapshot bindings) s
        (readings.flatMap (Reading.calls host snapshot) ++ x.call snapshot :: handed) := by
  induction hb generalizing s with
  | nil => cases h
  | @cons b t bindings tokens hfirst _ ih =>
    rcases Action.andThen_error_cases h with hone | ⟨v, u₁, hone, h⟩
    · obtain ⟨x, handed, rfl, hcome, hunnoted, hnotes, hrecords⟩ := resolveOne_breaks hfirst hone
      exact ⟨[], x, handed, by simp, by simp, hcome, hunnoted, hnotes,
        hrecords.andThen_of_error hone⟩
    · have hrest : resolveAll host snapshot bindings u₁ = (.error g, u) := by
        rcases Action.andThen_error_cases h with hrest | ⟨_, _, -, hdone⟩
        · exact hrest
        · cases hdone
      obtain ⟨y, rfl, hycome, hynoted, -, hyrecords⟩ := resolveOne_records hfirst hone
      obtain ⟨readings, x, handed, hprefix, hcome, hxcome, hunnoted, hnotes, hrecords⟩ := ih hrest
      refine ⟨y :: readings, x, handed, ?_, List.forall_mem_cons.mpr ⟨⟨hycome, hynoted⟩, hcome⟩,
        hxcome, hunnoted, hnotes, ?_⟩
      · rw [List.cons_append, List.map_cons]
        exact List.cons_prefix_cons.mpr ⟨rfl, hprefix⟩
      · rw [List.flatMap_cons, List.append_assoc]
        exact hyrecords.andThen hone (hrecords.andThen_done fun vs => (b.key, v) :: vs)

theorem pairs_readings {tokens : List Token} {readings : List (Reading σ)}
    (hm : ∀ t ∈ tokens, t.Mentioned) (hr : readings.map Reading.token = distinct tokens) :
    readings.map (·.token.pair) = (tokens.map Token.pair).eraseDups := by
  rw [← pairs_distinct hm, ← hr, List.map_map]
  rfl

/-- Under the key of a token stands what the one reading of its name and arguments counts as. -/
theorem lookup_readings {tokens : List Token} {readings : List (Reading σ)}
    (hm : ∀ t ∈ tokens, t.Mentioned) (hr : readings.map Reading.token = distinct tokens)
    {t : Token} (ht : t ∈ tokens) : ∃ x ∈ readings, x.token.pair = t.pair ∧
      (∀ y ∈ readings, y.token.pair = t.pair → y = x) ∧
      (readings.map fun x => (x.token.key, counted x.outcome)).lookup t.key =
        some (counted x.outcome) := by
  obtain ⟨u, hu, hk⟩ := exists_mem_distinct ht
  obtain ⟨x, hx, rfl⟩ := List.mem_map.mp (hr ▸ hu)
  have hpair : x.token.pair = t.pair :=
    ((hm _ (mem_of_mem_distinctFrom hu)).pair_eq_iff (hm t ht)).mpr hk
  have hpairs : (readings.map (·.token.pair)).Nodup := by
    rw [pairs_readings hm hr]
    exact nodup_eraseDups _
  have hkeys : ((readings.map fun x => (x.token.key, counted x.outcome)).map Prod.fst).Nodup := by
    have heq : (readings.map fun x => (x.token.key, counted x.outcome)).map Prod.fst =
        (tokens.map Token.key).eraseDups := by
      rw [← keys_distinct, ← hr, List.map_map, List.map_map]
      rfl
    rw [heq]
    exact nodup_eraseDups _
  refine ⟨x, hx, hpair, fun y hy hyt => ?_, ?_⟩
  · exact List.inj_on_of_nodup_map hpairs hy hx (hyt.trans hpair.symm)
  · have hget := Table.get?_ofList_of_mem hkeys (List.mem_map_of_mem hx)
    rw [Table.ofList_of_nodup hkeys, hk] at hget
    exact hget

/-- The pairs of tokens that stand at the front of the distinct ones. -/
theorem pairs_begin {tokens : List Token} {readings : List (Reading σ)}
    (hm : ∀ t ∈ tokens, t.Mentioned) (hr : readings.map Reading.token <+: distinct tokens) :
    readings.map (·.token.pair) <+: (tokens.map Token.pair).eraseDups := by
  rw [← pairs_distinct hm, show readings.map (·.token.pair) =
    (readings.map Reading.token).map Token.pair by rw [List.map_map]; rfl]
  exact hr.map Token.pair

/-- A formatter that was built reads each name with arguments once for a line, and the line shows
the readings, unless a failure cannot be noted. -/
theorem line_reads {settings : FormatterSettings} {f : Formatter σ}
    (hf : (build registry settings).1 = .ok f) (host : Host σ) (snapshot : Snapshot σ) (s : σ) :
    ∃ calls, Records (f.watched.line host.watched snapshot.watched) (f.line host snapshot) s
      calls ∧
      f.Reads registry host snapshot (resolveAll host snapshot f.bindings s).1.isOk
        (f.line host snapshot s).1 calls := by
  obtain ⟨given, placeholder, -, hn, rfl⟩ := build_ok_iff.mp hf
  have hm : ∀ t ∈ Segment.tokens (parseFormat (Preset.expand given)), t.Mentioned :=
    fun _ => mentioned_of_mem_parseFormat
  have hb : List.Forall₂ (Binding.Computes registry.freeze)
      (ofFormat registry.freeze given placeholder).bindings
      (distinct (Segment.tokens (parseFormat (Preset.expand given)))) := bindingsOf_computes hn
  rcases hall : resolveAll host snapshot (ofFormat registry.freeze given placeholder).bindings
      s with
    ⟨g | values, u⟩
  · obtain ⟨readings, x, handed, hprefix, hcome, hxcome, hunnoted, hnotes, hrecords⟩ :=
      resolveAll_breaks hb hall
    refine ⟨_, (hrecords.andThen_of_error hall).andThen_of_error (Action.andThen_of_error hall),
      ?_⟩
    rw [line_apply, hall]
    refine .broken (pairs_begin hm hprefix) (fun y hy => ?_) (fun y hy => (hcome y hy).2) hunnoted
      hnotes
    rcases List.mem_append.mp hy with hy | hy
    · exact (hcome y hy).1
    · exact List.mem_singleton.mp hy ▸ hxcome
  · obtain ⟨readings, hreadings, hcome, rfl, hrecords⟩ := resolveAll_records hb hall
    have hresolve : (ofFormat registry.freeze given placeholder).resolve host snapshot s =
        (.ok ⟨readings.map fun x => (x.token.key, counted x.outcome)⟩, u) :=
      Action.andThen_of_ok hall
    refine ⟨_, ((hrecords.andThen_done Table.mk).andThen hresolve (Records.ofExcept _)), ?_⟩
    rw [List.append_nil, line_apply, hall]
    refine .whole (pairs_readings hm hreadings) (fun x hx => (hcome x hx).1)
      (fun x hx => (hcome x hx).2) ⟨fun t => Template.fill placeholder
        ((readings.map fun x => (x.token.key, counted x.outcome)).lookup t.key), ?_,
        fun t ht => ?_⟩
    · exact Template.render_compile ..
    · obtain ⟨x, hx, hpair, honly, hlookup⟩ := lookup_readings hm hreadings ht
      exact ⟨x, hx, hpair, honly,
        (congrArg (Template.fill placeholder) hlookup).trans (fill_counted placeholder x.outcome)⟩

end Formatter

end RequestLog
