import RequestLog.Proofs.PlainHost
import RequestLog.Proofs.Telling
import RequestLog.Proofs.Watch.Readings

/-!
The effects of logging a request, call by call: the predicate is asked once and first; if it leaves
nothing out, each name with arguments of the format is read once, and the line of these readings is
handed to the emitter. There is no line if a value on it has no text, or a failure cannot be noted.
-/
namespace RequestLog.Logger

variable {σ : Type} {l : Logger σ} {host : Host σ} {snapshot : Snapshot σ} {s t : σ}

open RequestLog.Action (Records)

/-- The note about a predicate that failed. -/
def skipNote (host : Host σ) (p : Skip σ) (fault : Fault) : Action σ Unit :=
  host.note "skip" "got %r calling skip predicate %r" [.fault fault, .object p.shown]

/-- Whether the predicate leaves a snapshot out, and the calls by which it is asked: a predicate is
called once, and if it failed there is one note. -/
inductive Asks (l : Logger σ) (host : Host σ) (snapshot : Snapshot σ) (s : σ) :
    Bool → List (Call σ) → Prop where
  | unasked (skip : l.skip = none) : Asks l host snapshot s false []
  | answered {p : Skip σ} {v : Value} (skip : l.skip = some p)
      (verdict : (p.call snapshot s).1 = .ok v) :
      Asks l host snapshot s v.truthy [.asked snapshot (.ok v)]
  | failed {p : Skip σ} {fault : Fault} {t : σ} (skip : l.skip = some p)
      (verdict : p.call snapshot s = (.error fault, t))
      (noted : (skipNote host p fault t).1 = .ok ()) :
      Asks l host snapshot s false (.asked snapshot (.error fault) ::
        host.noteCalls "skip" "got %r calling skip predicate %r" [.fault fault, .object p.shown] t)

/-- What logging a snapshot comes to, if every failure can be noted or not: its answer, and the
calls that it makes one after the other. -/
inductive Effects (l : Logger σ) (host : Host σ) (registry : Registry σ) (snapshot : Snapshot σ)
    (s : σ) : Bool → Except Fault (Option String) → List (Call σ) → Prop where
  /-- The predicate leaves the line out, and nothing else is called. -/
  | leftOut {asked : List (Call σ)} (asks : l.Asks host snapshot s true asked) :
      Effects l host registry snapshot s true (.ok none) asked
  /-- The line of the readings is handed to the emitter. -/
  | written {asked read : List (Call σ)} {line : String} {emission : Except Fault Unit}
      (asks : l.Asks host snapshot s false asked)
      (reads : l.formatter.Reads registry host snapshot true (.ok line) read) :
      Effects l host registry snapshot s true (emission.map fun _ => some line)
        (asked ++ (read ++ [.emitted snapshot line emission]))
  /-- There is no line, since a value on it has no text, or a failure of a token could not be
  noted. -/
  | unwritten {told : Bool} {asked read : List (Call σ)} {fault : Fault}
      (asks : l.Asks host snapshot s false asked)
      (reads : l.formatter.Reads registry host snapshot told (.error fault) read) :
      Effects l host registry snapshot s told (.error fault) (asked ++ read)
  /-- The failure of the predicate could not be noted, and no token is read. -/
  | unasked {p : Skip σ} {verdict fault : Fault} {t : σ} {handed : List (Call σ)}
      (skip : l.skip = some p) (failing : p.call snapshot s = (.error verdict, t))
      (unnoted : (skipNote host p verdict t).1 = .error fault)
        (notes : ∀ c ∈ handed, c.isNote = true) :
      Effects l host registry snapshot s false (.error fault)
        (.asked snapshot (.error verdict) :: handed)

variable {registry : Registry σ}

section Asking

theorem ask_records (p : Skip σ) (snapshot : Snapshot σ) (s : σ) :
    Records (p.watched.call snapshot.watched) (p.call snapshot) s
      [.asked snapshot (p.call snapshot s).1] := by
  intro calls
  simp only [Skip.watched, Action.watched, Snapshot.unwatched_watched]

theorem attempt_of_asked {p : Skip σ} {verdict : Except Fault Value}
    (hc : p.call snapshot s = (verdict, t)) :
    (p.call snapshot).attempt s = (.ok verdict, t) ∧
      Records (p.watched.call snapshot.watched).attempt (p.call snapshot).attempt s
        [.asked snapshot verdict] := by
  have hasked := (ask_records p snapshot s).attempt
  rw [hc] at hasked
  exact ⟨by rw [Action.attempt_apply, hc], hasked⟩

theorem noteSkip_records {p : Skip σ} {fault : Fault} {skipped : Bool}
    (h : noteSkip host p fault s = (.ok skipped, t)) :
    Records (noteSkip host.watched p.watched fault) (noteSkip host p fault) s
      (host.noteCalls "skip" "got %r calling skip predicate %r" [.fault fault, .object p.shown]
        s) := by
  obtain ⟨⟨⟩, u, hnoted, -⟩ := Action.andThen_ok_cases h
  exact (Host.note_records hnoted).andThen_done fun _ => false

theorem skips_of_some {p : Skip σ} (hp : l.skip = some p) (host : Host σ) (snapshot : Snapshot σ) :
    l.skips host snapshot = (p.call snapshot).attempt.andThen fun
      | .ok v => Action.done v.truthy
      | .error fault => noteSkip host p fault := by
  rw [skips, hp]
  rfl

theorem skips_records {skipped : Bool} (h : l.skips host snapshot s = (.ok skipped, t)) :
    ∃ asked, l.Asks host snapshot s skipped asked ∧
      Records (l.watched.skips host.watched snapshot.watched) (l.skips host snapshot) s asked := by
  cases hp : l.skip with
  | none =>
    have hw : l.watched.skip = none := by simp [watched, hp]
    simp only [skips, hp, hw] at h ⊢
    cases h
    exact ⟨[], .unasked hp, Records.done false⟩
  | some p =>
    have hw : l.watched.skip = some p.watched := by simp [watched, hp]
    rcases hc : p.call snapshot s with ⟨verdict, u⟩
    obtain ⟨hattempt, hasked⟩ := attempt_of_asked hc
    rw [skips_of_some hp, Action.andThen_of_ok hattempt] at h
    rw [skips_of_some hp, skips_of_some hw]
    cases verdict with
    | ok v =>
      cases h
      exact ⟨_, .answered hp (congrArg Prod.fst hc),
        hasked.andThen hattempt (Records.done v.truthy)⟩
    | error fault =>
      obtain ⟨⟨⟩, u', hnoted, hfalse⟩ := Action.andThen_ok_cases h
      cases hfalse
      exact ⟨_, .failed hp hc (congrArg Prod.fst hnoted),
        hasked.andThen hattempt (noteSkip_records h)⟩

/-- Asking fails only if the failure of the predicate cannot be noted. -/
theorem skips_breaks {fault : Fault} (h : l.skips host snapshot s = (.error fault, t)) :
    ∃ calls, l.Effects host registry snapshot s false (.error fault) calls ∧
      Records (l.watched.skips host.watched snapshot.watched) (l.skips host snapshot) s calls := by
  cases hp : l.skip with
  | none =>
    simp only [skips, hp] at h
    cases h
  | some p =>
    have hw : l.watched.skip = some p.watched := by simp [watched, hp]
    rcases hc : p.call snapshot s with ⟨verdict, u⟩
    obtain ⟨hattempt, hasked⟩ := attempt_of_asked hc
    rw [skips_of_some hp, Action.andThen_of_ok hattempt] at h
    rw [skips_of_some hp, skips_of_some hw]
    cases verdict with
    | ok v => cases h
    | error verdict =>
      obtain ⟨handed, hhanded, hnotes⟩ := noteSkip_watched host p verdict u
      have hnote : skipNote host p verdict u = (.error fault, t) := by
        rcases Action.andThen_error_cases h with hnote | ⟨_, _, -, hdone⟩
        · exact hnote
        · cases hdone
      exact ⟨_, .unasked hp hc (congrArg Prod.fst hnote) hnotes, hasked.andThen hattempt hhanded⟩

theorem Asks.entries {skipped : Bool} {asked : List (Call σ)}
    (h : l.Asks host snapshot s skipped asked) : Call.entries asked = [] := by
  cases h with
  | unasked => rfl
  | answered => rfl
  | failed => exact Host.entries_noteCalls ..

theorem Asks.noteTo? {handler : String} (h : host.Listens handler) {skipped : Bool}
    {asked : List (Call σ)} (ha : l.Asks host snapshot s skipped asked) :
    asked.filterMap (Call.noteTo? handler) = asked.filterMap Call.failure? := by
  cases ha with
  | unasked => rfl
  | answered => rfl
  | failed _ _ noted =>
    simp only [List.filterMap_cons, Call.noteTo?, Call.failure?, h.noteTo?_noteCalls noted,
      Host.filterMap_failure?_noteCalls]

end Asking

section Effects

variable {told : Bool} {answer : Except Fault (Option String)} {calls : List (Call σ)}

/-- If all failures can be noted, a handler that listens is handed one note about each call that
failed, in the order of these calls. -/
theorem Effects.noteTo? (h : l.Effects host registry snapshot s true answer calls)
    {handler : String} (hl : host.Listens handler) :
    calls.filterMap (Call.noteTo? handler) = calls.filterMap Call.failure? := by
  cases h with
  | leftOut asks => exact asks.noteTo? hl
  | written asks reads =>
    simp only [List.filterMap_append, asks.noteTo? hl, reads.noteTo? hl]
    rfl
  | unwritten asks reads => rw [List.filterMap_append, List.filterMap_append, asks.noteTo? hl,
      reads.noteTo? hl]

/-- If all failures can be noted, logging fails only with the emitter or with a value that has no
text. -/
theorem Effects.refused {fault : Fault}
    (h : l.Effects host registry snapshot s true (.error fault) calls) :
    (∃ line, .emitted snapshot line (.error fault) ∈ calls) ∨
      ∃ key args v, .extracted key snapshot args (.ok v) ∈ calls ∧ v.written = .error fault := by
  generalize he : (Except.error fault : Except Fault (Option String)) = answer at h
  cases h with
  | leftOut => cases he
  | @written asked read line emission asks reads =>
    obtain rfl := map_eq_error.mp he.symm
    exact .inl ⟨line, by simp⟩
  | @unwritten _ asked read f asks reads =>
    cases he
    obtain ⟨key, args, v, hmem, hwritten⟩ := reads.refused
    exact .inr ⟨key, args, v, List.mem_append_right asked hmem, hwritten⟩

end Effects

variable {settings : FormatterSettings}

/-- Writing the line of a snapshot reads each name with arguments once, and hands the line over. -/
theorem write_effects (hf : (Formatter.build registry settings).1 = .ok l.formatter)
    {asked : List (Call σ)} (asks : l.Asks host snapshot s false asked) (t : σ) :
    ∃ calls, Records (l.watched.write host.watched snapshot.watched) (l.write host snapshot) t
      calls ∧
      l.Effects host registry snapshot s
        (Formatter.resolveAll host snapshot l.formatter.bindings t).1.isOk
        (l.write host snapshot t).1 (asked ++ calls) := by
  obtain ⟨read, hrecords, hreads⟩ := Formatter.line_reads hf host snapshot t
  rcases hl : l.formatter.line host snapshot t with ⟨fault | line, u⟩
  · rw [hl] at hreads
    refine ⟨read, Records.andThen_of_error hrecords hl, ?_⟩
    rw [write, Action.andThen_of_error hl]
    exact .unwritten asks hreads
  · rw [hl] at hreads
    have hemit : Records (l.watched.emitter.emit snapshot.watched line)
        (l.emitter.emit snapshot line) u
        [.emitted snapshot line (l.emitter.emit snapshot line u).1] :=
      fun calls => l.emit_watched snapshot line calls u
    refine ⟨_, hrecords.andThen hl (hemit.andThen_done fun _ => some line), ?_⟩
    rw [write, Action.andThen_of_ok hl, Action.andThen_done]
    -- a line that is made has been read as a whole
    generalize (Formatter.resolveAll host snapshot l.formatter.bindings t).1.isOk = told at hreads
    cases hreads with
    | whole pairs come noted showing => exact .written asks (.whole pairs come noted showing)

/-- Whether every failure met when a snapshot is logged can be noted. -/
structure Notes (l : Logger σ) (snapshot : Snapshot σ) : Prop where
  skip : ∀ p ∈ l.skip, p.Tells snapshot
  tokens : ∀ b ∈ l.formatter.bindings, ∀ s,
    snapshot.Notes (b.extractor.call snapshot (b.args.map .text) s).1

theorem logSnapshot_effects (hf : (Formatter.build registry settings).1 = .ok l.formatter)
    (host : Host σ) (snapshot : Snapshot σ) (s : σ) :
    ∃ told calls, Records (l.watched.logSnapshot host.watched snapshot.watched)
        (l.logSnapshot host snapshot) s calls ∧
      l.Effects host registry snapshot s told (l.logSnapshot host snapshot s).1 calls ∧
      (host.TakesNotes → l.Notes snapshot → told = true) := by
  rw [logSnapshot_eq, logSnapshot_eq]
  rcases hk : l.skips host snapshot s with ⟨fault | skipped, t⟩
  · obtain ⟨calls, heffects, hrecords⟩ := skips_breaks hk
    rw [Action.andThen_of_error hk]
    refine ⟨false, calls, Records.andThen_of_error hrecords hk, heffects, fun hnotes htells => ?_⟩
    obtain ⟨skipped, hskipped⟩ := skips_ok hnotes htells.skip s
    rw [hk] at hskipped
    cases hskipped
  · obtain ⟨asked, hasks, hrecords⟩ := skips_records hk
    rw [Action.andThen_of_ok hk]
    cases skipped with
    | true =>
      refine ⟨true, asked ++ [], hrecords.andThen hk (Records.done none), ?_, fun _ _ => rfl⟩
      rw [List.append_nil]
      exact .leftOut hasks
    | false =>
      obtain ⟨calls, hwrite, heffects⟩ := write_effects hf hasks t
      refine ⟨_, asked ++ calls, hrecords.andThen hk hwrite, heffects, fun hnotes htells => ?_⟩
      obtain ⟨values, hvalues⟩ := Formatter.resolveAll_ok hnotes htells.tokens t
      rw [hvalues]
      rfl

/-- Logging a request whose formatter was built marks the record as logged, and makes these calls,
with every failure noted if it can be. -/
theorem logRequest_effects (l : Logger σ) (host : Host σ)
    (hf : (Formatter.build registry settings).1 = .ok l.formatter) (r : Record σ) (s : σ) :
    (l.logRequest host (r, s)).2.1.isLogged = true ∧
      ∃ told calls, (∀ earlier, l.watched.logRequest host.watched (r.watched, (earlier, s)) =
          ((l.logRequest host (r, s)).1, ((l.logRequest host (r, s)).2.1.watched,
            (earlier ++ calls, (l.logRequest host (r, s)).2.2)))) ∧
        l.Effects host registry r.snapshot s told (l.logRequest host (r, s)).1 calls ∧
        (host.TakesNotes → l.Notes r.snapshot → told = true) ∧
        (told = true → (∀ handler, host.Listens handler →
            calls.filterMap (Call.noteTo? handler) = calls.filterMap Call.failure?) ∧
          ∀ fault, (l.logRequest host (r, s)).1 = .error fault →
            (∃ line, .emitted r.snapshot line (.error fault) ∈ calls) ∨
              ∃ key args v, .extracted key r.snapshot args (.ok v) ∈ calls ∧
                v.written = .error fault) := by
  obtain ⟨told, calls, hrecords, heffects, htold⟩ := logSnapshot_effects hf host r.snapshot s
  refine ⟨rfl, told, calls, fun earlier => ?_, heffects, htold, ?_⟩
  · rw [logRequest_apply, logRequest_apply, Record.snapshot_watched, hrecords,
      Record.markLogged_watched]
  · rintro rfl
    refine ⟨fun handler hl => heffects.noteTo? hl, fun fault hfault => ?_⟩
    have heffects' : l.Effects host registry r.snapshot s true (l.logRequest host (r, s)).1
      calls :=
      heffects
    rw [hfault] at heffects'
    exact heffects'.refused

/-- An extractor that counts its calls, and fails at every second one. -/
def ticking : Extractor (Nat × List UInt8) where
  shown := "<ticking extractor>"
  call _ _ w := (if w.1 % 2 = 0 then .ok (.int w.1) else .error .formatUndefined, (w.1 + 1, w.2))

def tickRegistry : Registry (Nat × List UInt8) :=
  ⟨⟨[("tick", ticking)]⟩, false⟩

/-- A logger that shows two ticks three times, with a predicate that always fails. -/
def tickLogger : Logger (Nat × List UInt8) where
  formatter := Formatter.ofFormat tickRegistry.freeze ":tick[a]:tick :tick[ a ]" defaultPlaceholder
  emitter := {
    kind := "plain"
    shown := fun _ => .ok "<plain emitter>"
    flush := none
    emit := fun _ _ => Action.done () }
  options := .ofFormat (.text ":tick[a]:tick :tick[ a ]")
  skip := some ⟨PlainHost.failingSkip.shown, fun _ => Action.fail .formatUndefined⟩

def tickRecord : Record (Nat × List UInt8) :=
  Record.start PlainHost.request Response.initial none ⟨0, 0⟩

theorem notes_tickLogger : tickLogger.Notes tickRecord.snapshot where
  skip p hp := by
    cases hp
    rintro s _ ⟨⟩
    exact ⟨Fault.hasLiteral_of_isOwn trivial, _, rfl⟩
  tokens b hb s := by
    obtain ⟨t, -, e, he, rfl⟩ := Formatter.mem_bindingsOf.mp hb
    obtain ⟨-, rfl⟩ := Prod.ext_iff.mp (List.mem_singleton.mp (Table.mem_entries_of_get? he))
    intro fault hfault
    have hown : fault = .formatUndefined := by
      simp only [ticking] at hfault
      split at hfault
      · cases hfault
      · exact (Except.error.inj hfault).symm
    exact ⟨Fault.hasLiteral_of_isOwn (hown ▸ trivial), fun _ => ⟨_, rfl⟩⟩

theorem logRequest_effects_ticking :
    (Formatter.build tickRegistry (.ofFormat (.text ":tick[a]:tick :tick[ a ]"))).1 =
        .ok tickLogger.formatter ∧
      PlainHost.pagedHost.TakesNotes ∧ tickLogger.Notes tickRecord.snapshot ∧
      PlainHost.pagedHost.Listens "pager" ∧
      ∃ calls answer, tickLogger.Effects PlainHost.pagedHost tickRegistry tickRecord.snapshot
          (0, []) true answer calls ∧
        (Call.entries calls).map Prod.snd = ["0- 0"] ∧
        calls.filterMap (Call.noteTo? "pager") = ["skip", "token_resolve"] := by
  have hbuilt : (Formatter.build tickRegistry (.ofFormat (.text ":tick[a]:tick :tick[ a ]"))).1 =
      .ok tickLogger.formatter :=
    Formatter.build_ok_iff.mpr ⟨":tick[a]:tick :tick[ a ]", _, .ofFormat (by decide),
      by decide +kernel, rfl⟩
  have hlistens : PlainHost.pagedHost.Listens "pager" := fun _ => rfl
  obtain ⟨-, told, calls, hrun, heffects, htold, hnotes⟩ :=
    logRequest_effects tickLogger PlainHost.pagedHost hbuilt tickRecord (0, [])
  obtain rfl := htold PlainHost.takesNotes_paged notes_tickLogger
  have hcalls : calls = (tickLogger.watched.logRequest PlainHost.pagedHost.watched
      (tickRecord.watched, ([], (0, [])))).2.2.1 := by
    rw [hrun []]
    rfl
  refine ⟨hbuilt, PlainHost.takesNotes_paged, notes_tickLogger, hlistens, calls, _, heffects, ?_,
    ?_⟩
  · rw [hcalls]
    decide +kernel
  · rw [(hnotes rfl).1 "pager" hlistens, hcalls]
    decide +kernel

def plainRecord : Record (List String) :=
  Record.start PlainHost.request Response.initial none ⟨0, 0⟩

/-- No line is handed to the emitter if a value on it has no text, or if a failure has to be noted
and the handler of notes fails or the failure cannot be described; and none is answered if the
emitter fails. -/
theorem logRequest_answers_nothing :
    (∀ c ∈ [(PlainHost.host, .ok PlainHost.mute), (PlainHost.deafHost, .error .formatUndefined),
        (PlainHost.listeningHost, .error PlainHost.secret)],
      let registry := PlainHost.tokenRegistry (Action.ofExcept c.2)
      let l := PlainHost.tokenLogger (Action.ofExcept c.2)
      (Formatter.build registry (.ofFormat (.text ":token"))).1 = .ok l.formatter ∧
        ∃ fault calls, l.watched.logRequest c.1.watched (plainRecord.watched, ([], [])) =
            (.error fault, (plainRecord.markLogged.watched, (calls, []))) ∧
          calls.any Call.leavesOut = false ∧ Call.entries calls = []) ∧
    let l := { PlainHost.tokenLogger (Action.done .null) with
      emitter := { PlainHost.emitter with emit := fun _ _ => Action.fail .textExpected } }
    (l.logRequest PlainHost.host (plainRecord, [])).1 = .error .textExpected := by
  refine ⟨fun c hc => ⟨congrArg Prod.fst (PlainHost.build_token _), ?_⟩, rfl⟩
  simp only [List.mem_cons, List.not_mem_nil, or_false] at hc
  rcases hc with rfl | rfl | rfl
  · exact ⟨_, _, rfl, rfl, rfl⟩
  · exact ⟨_, _, rfl, rfl, rfl⟩
  · exact ⟨_, _, rfl, rfl, rfl⟩

end RequestLog.Logger
