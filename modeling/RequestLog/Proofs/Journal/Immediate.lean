import RequestLog.Proofs.Format.Settings
import RequestLog.Proofs.Journal.Passage
import RequestLog.Proofs.Journal.Relogging
import RequestLog.Proofs.Token.Timings

/-!
Lines of a logger that logs immediately. They are made when requests come in, before these have
ended; afterwards all records have been logged, and only logging one of them again gives another
line. Without an end, both tokens for times are absent from a line.
-/
namespace RequestLog

variable {σ : Type}

namespace Stroke

variable {l : Logger σ} {host : Host σ} {m : Stroke σ} {entry : Snapshot σ × String}

/-- What a logger that logs immediately hands to the emitter in a stroke: a line that the formatter
has made, of a request that comes in and has not ended, or of a record that is logged again, as it
is. -/
structure Hands (l : Logger σ) (host : Host σ) (m : Stroke σ) (entry : Snapshot σ × String) :
    Prop where
  line : ∃ s, (l.formatter.line host entry.1 s).1 = .ok entry.2
  source : (m.event.isStart = true ∧ entry.1.endAt = none) ∨
    (m.relogs = true ∧ ∃ r, m.before = some r ∧ entry.1 = r.snapshot)

/-- Neither the end of a request nor anything else makes a logger that logs immediately emit a
line. -/
theorem Possible.entries_of_immediate (h : m.Possible l host) (hi : l.immediate = true)
    (hstart : m.event.isStart = false) (hlog : m.event.isLog = false) : m.entries = [] := by
  cases h with
  | start begins logged => cases hstart
  | idle start => rfl
  | log logging logged => cases hlog
  | ending terminal concludes logged =>
    obtain ⟨snapshot, hsettled⟩ := concludes
    rw [hi, Bool.true_or] at hsettled
    simp [entries, hsettled.2]
  | silent plain none logged => exact none

theorem Possible.before_of_mem (h : m.Possible l host) (hlog : m.event.isLog = true)
    (he : entry ∈ m.entries) : ∃ r, m.before = some r := by
  cases h with
  | start begins logged => cases hlog
  | idle start => cases he
  | log logging logged => exact ⟨_, rfl⟩
  | ending terminal concludes logged => exact ⟨_, rfl⟩
  | silent plain none logged => exact ⟨_, rfl⟩

/-- A logger that logs immediately leaves a record logged if it finds it so, or makes it. -/
theorem Possible.after_logged (h : m.Possible l host) (hi : l.immediate = true)
    (hb : ∀ r ∈ m.before, r.isLogged = true) : ∀ r ∈ m.after, r.isLogged = true := by
  cases h with
  | start begins logged => exact fun r hr => (logged r hr).trans hi
  | idle start => exact fun _ hr => nomatch hr
  | log logging logged =>
    rintro r ⟨⟩
    exact logged
  | ending terminal concludes logged =>
    rintro r ⟨⟩
    rw [logged, hb _ rfl, Bool.true_or]
  | silent plain none logged =>
    rintro r ⟨⟩
    exact logged (hb _ rfl)

end Stroke

namespace Journal

variable {l : Logger σ} {host : Host σ} {g g' : Ledger} {j : Journal σ} {id : String}
    {r : Record σ}
  {request : Request} {records records' : Table (Record σ)} {subject : Option Nat}
  {before after : Option (Record σ)}

/-- The calls made when a request comes in are those of logging the record that is opened. -/
theorem callsOf_start (hi : l.immediate = true) : callsOf l host (.start id request) j =
    (l.watched.logSnapshot host.watched (l.opened host request j.host).snapshot.watched
      ([], j.host)).2.1 := by
  have hstart := Logger.startRequest_of_immediate l.watched host.watched hi request ([], j.host)
  rw [Logger.opened_watched, Record.snapshot_watched] at hstart
  have hhost : (j.watched []).host = ([], j.host) := rfl
  simp only [callsOf, Event.watched, step, start, hhost, hstart]
  rcases (l.watched.logSnapshot host.watched (l.opened host request j.host).snapshot.watched
    ([], j.host)).1 with _ | _ <;> rfl

theorem callsOf_log (hr : (stroke l host g j (.log id)).before = some r) :
    callsOf l host (.log id) j =
      (l.watched.logSnapshot host.watched r.snapshot.watched ([], j.host)).2.1 := by
  have hfound := get?_watched [] hr
  simp only [callsOf, Event.watched, step]
  rw [onRecord_of_present hfound, speaking_apply, Logger.logRequest_apply, Record.snapshot_watched]
  rfl

/-- Whether all records have been logged. -/
def AllLogged (records : Table (Record σ)) : Prop :=
  ∀ id r, records.get? id = some r → r.isLogged = true

theorem AllLogged.empty : AllLogged (Table.empty : Table (Record σ)) := fun _ _ h => nomatch h

theorem AllLogged.put (h : AllLogged records) (hr : r.isLogged = true) (id : String) :
    AllLogged (records.put id r) := by
  intro id' r' hr'
  rw [Table.get?_put] at hr'
  split at hr'
  · cases hr'
    exact hr
  · exact h id' r' hr'

/-- Records stay logged if the one that an event is about does. -/
theorem Turnover.allLogged (h : Turnover g records subject before after g' records')
    (hall : AllLogged records) (ha : ∀ r ∈ after, r.isLogged = true) : AllLogged records' := by
  cases h with
  | nothing => exact hall
  | change name found => exact hall.put (ha _ rfl) _
  | lose => exact hall
  | enter => exact hall.put (ha _ rfl) _

theorem AllLogged.found (hall : AllLogged j.records) (e : Event σ) :
    ∀ r ∈ (stroke l host g j e).before, r.isLogged = true := by
  intro r hr
  obtain ⟨id, -, hfound⟩ := Option.bind_eq_some_iff.mp hr
  exact hall id r hfound

/-- Where all records have been logged, a stroke hands on lines of a request that comes in, or of a
record that it logs again. -/
theorem hands_stroke (hi : l.immediate = true) (hn : Named g j.records)
    (hall : AllLogged j.records)
    (e : Event σ) : ∀ entry ∈ (stroke l host g j e).entries,
    (stroke l host g j e).Hands l host entry := by
  have hpossible : (stroke l host g j e).Possible l host := possible_stroke hn e
  intro entry hentry
  cases e with
  | start id request =>
    have hcalls : entry ∈ Call.entries (callsOf l host (.start id request) j) := hentry
    rw [callsOf_start hi] at hcalls
    obtain ⟨hsnapshot, hline⟩ := l.logSnapshot_hands host _ _ entry hcalls
    exact ⟨hsnapshot ▸ hline, .inl ⟨rfl, by rw [hsnapshot]; rfl⟩⟩
  | log id =>
    obtain ⟨r, hr⟩ := hpossible.before_of_mem rfl hentry
    have hcalls : entry ∈ Call.entries (callsOf l host (.log id) j) := hentry
    rw [callsOf_log hr] at hcalls
    obtain ⟨hsnapshot, hline⟩ := l.logSnapshot_hands host _ _ entry hcalls
    have hrelogs : (stroke l host g j (.log id)).relogs = true := by
      have hlogged : r.isLogged = true := hall.found (.log id) r hr
      rw [Stroke.relogs, Stroke.settled, hr, Option.any_some, hlogged]
      rfl
    exact ⟨hsnapshot ▸ hline, .inr ⟨hrelogs, r, hr, hsnapshot⟩⟩
  | _ =>
    rw [hpossible.entries_of_immediate hi rfl rfl] at hentry
    cases hentry

/-- In a run of a logger that logs immediately every stroke finds all records logged, and so hands
on nothing else. -/
theorem hands_strokes (hi : l.immediate = true) (events : List (Event σ)) (hn : Named g j.records)
    (hall : AllLogged j.records) : ∀ m ∈ strokes l host events g j, ∀ entry ∈ m.entries,
      m.Hands l host entry := by
  -- the invariant is that the ledger knows the records and that all of them have been logged
  induction events generalizing g j with
  | nil => exact fun _ hm => nomatch hm
  | cons e rest ih =>
    have hturn := turnover_stroke l host hn e
    have hpossible : (stroke l host g j e).Possible l host := possible_stroke hn e
    have hafter := hpossible.after_logged hi (hall.found e)
    intro m hm
    rcases List.mem_cons.mp hm with rfl | hm
    · exact hands_stroke hi hn hall e
    · exact ih (hturn.named hn) (hturn.allLogged hall hafter) m hm

end Journal

namespace Formatter

variable {host : Host σ}

/-- Whether the placeholder is shown for all tokens that are the known ones for times. -/
def LacksTimings (f : Formatter σ) (host : Host σ) (text : Token → String) : Prop :=
  ∀ t ∈ f.tokens, t.name ∈ Builtin.timings → ∀ e, f.registry.table.get? t.name = some e →
    (t.name, e) ∈ Builtin.extractors host → text t = f.placeholder

theorem Renders.lacksTimings {f : Formatter σ} {entry : Snapshot σ × String}
    {text : Token → String}
    (h : f.Renders entry text) (hend : entry.1.endAt = none) : f.LacksTimings host text := by
  intro t ht htiming e he hknown
  obtain ⟨e', s, he', htext⟩ := h.token t ht
  cases he.symm.trans he'
  rw [Builtin.timing_of_no_end hknown htiming hend] at htext
  exact (Except.ok.inj htext).symm

end Formatter

namespace Journal

/-- The tokens for times agree: for any arguments neither fails, and both are absent or neither is,
which is up to the start, the end and the number of places asked for; else both show that many
places. Whatever its format is, a logger that logs immediately emits lines with the placeholder for
both tokens, unless it logs a record again after its end: every other line is that of a request
that comes in. -/
theorem timings_agree (host : Host σ) :
    (∀ (snapshot : Snapshot σ) (args : List String) (now : ClockReading),
      let response := Builtin.responseTime snapshot (args.map .text)
      let total := Builtin.totalTime now snapshot (args.map .text)
      (∃ v w, response = .ok v ∧ total = .ok w) ∧
      (response = .ok .null ↔ total = .ok .null) ∧
      (response = .ok .null ↔ snapshot.startAt = none ∨ snapshot.endAt = none ∨
        ∀ places, ¬ Builtin.Asks args places) ∧
      ∀ start stop places, snapshot.startAt = some start → snapshot.endAt = some stop →
        Builtin.Asks args places →
        Builtin.Shows places (Builtin.milliseconds start stop) response ∧
        Builtin.Shows places (Builtin.milliseconds start now.lapse) total) ∧
    ∀ (l : Logger σ) registry settings, l.immediate = true →
      (Formatter.build registry settings).1 = .ok l.formatter →
      ∀ events s, ∀ m ∈ strokes l host events Ledger.empty (fresh s), ∀ entry ∈ m.entries,
        ∃ text, l.formatter.Renders entry text ∧
          (entry.1.endAt = none → l.formatter.LacksTimings host text) ∧
          ((m.event.isStart = true ∧ entry.1.endAt = none) ∨
            (m.relogs = true ∧ ∃ r, m.before = some r ∧ entry.1 = r.snapshot)) := by
  constructor
  · intro snapshot args now
    simp only [Builtin.responseTime, Builtin.totalTime]
    have hresponse : Builtin.lapse id snapshot (args.map .text) = .ok .null ↔ _ :=
      Builtin.lapse_eq_null_iff id
    have htotal : Builtin.lapse (fun _ => now.lapse) snapshot (args.map .text) = .ok .null ↔ _ :=
      Builtin.lapse_eq_null_iff _
    refine ⟨⟨_, _, Builtin.lapse_texts .., Builtin.lapse_texts ..⟩, hresponse.trans htotal.symm,
      hresponse, ?_⟩
    intro start stop places hstart hstop hasks
    exact ⟨Builtin.shows_lapse id hstart hstop hasks,
      Builtin.shows_lapse (fun _ => now.lapse) hstart hstop hasks⟩
  · intro l registry settings hi hbuild events s m hm entry hentry
    have hhands := hands_strokes hi events Named.empty AllLogged.empty m hm entry hentry
    obtain ⟨s', hline⟩ := hhands.line
    obtain ⟨text, hrenders⟩ := Formatter.exists_renders hbuild hline
    exact ⟨text, hrenders, hrenders.lacksTimings, hhands.source⟩

/-- A logger that logs immediately, whose lines are the two times. -/
def timedLogger : Logger (List String) :=
  { PlainHost.logger true with
    formatter := .ofFormat (Registry.builtin PlainHost.host).freeze ":total-time :response-time"
      "-"
    skip := none }

/-- The line of a request that comes in has no times, which are shown to twelve places if that many
are asked for when it has ended. -/
theorem timings_agree_plain :
    (∃ text, Builtin.responseTime
      { PlainHost.snapshot Table.empty with startAt := some 0, endAt := some 1 } [.text " +1_2 "] =
        .ok (.text text)) ∧
    ∃ m entry, strokes timedLogger PlainHost.host [.start "a" PlainHost.request] Ledger.empty
      (fresh []) =
      [m] ∧ m.entries = [entry] ∧ entry.2 = "- -" := by
  obtain ⟨htimes, hlines⟩ := timings_agree PlainHost.host
  have hasks : Builtin.Asks [" +1_2 "] 12 := .given (by decide)
    (Number.parseInt_eq_ok_iff.mp (by decide +kernel)) (by decide)
  obtain ⟨-, -, -, hshown⟩ := htimes
    { PlainHost.snapshot Table.empty with startAt := some 0, endAt := some 1 } [" +1_2 "] ⟨0, 0⟩
  obtain ⟨⟨text, htext, -⟩, -⟩ := hshown 0 1 12 rfl rfl hasks
  have hn : ∀ t ∈ Segment.tokens (parseFormat (Preset.expand ":total-time :response-time")),
      (Registry.builtin PlainHost.host).contains t.name = true := by decide +kernel
  have hbuild : (Formatter.build (Registry.builtin PlainHost.host)
      (.ofFormat (.text ":total-time :response-time"))).1 = .ok timedLogger.formatter :=
    Formatter.build_ok_iff.mpr ⟨_, _, .ofFormat (by decide), hn, rfl⟩
  have hone : (stroke timedLogger PlainHost.host Ledger.empty (fresh [])
      (.start "a" PlainHost.request)).entries.length = 1 := by decide +kernel
  obtain ⟨entry, hentries⟩ := List.length_eq_one_iff.mp hone
  refine ⟨⟨text, htext⟩, _, entry, rfl, hentries, ?_⟩
  obtain ⟨shown, hrenders, hlacks, hsource⟩ := hlines timedLogger _ _ rfl hbuild
    [.start "a" PlainHost.request] [] _ (.head _) entry (by rw [hentries]; exact .head _)
  have hend : entry.1.endAt = none := by
    rcases hsource with ⟨-, hend⟩ | ⟨-, r, hr, -⟩
    · exact hend
    · cases hr
  have hshows : ∀ t ∈ timedLogger.formatter.tokens, t.name ∈ Builtin.timings → shown t = "-" := by
    intro t ht htiming
    obtain ⟨e, s, he, -⟩ := hrenders.token t ht
    exact hlacks hend t ht htiming e he (Table.mem_of_get?_ofList he)
  have hsegments : timedLogger.formatter.segments =
      [.text "", .token ⟨"total-time", [""], ":total-time"⟩, .text " ",
        .token ⟨"response-time", [""], ":response-time"⟩, .text ""] := by decide +kernel
  rw [hrenders.line, hsegments]
  simp only [List.map_cons, List.map_nil, Formatter.segmentText,
    hshows ⟨"total-time", [""], ":total-time"⟩ (by decide +kernel) (by decide),
    hshows ⟨"response-time", [""], ":response-time"⟩ (by decide +kernel) (by decide)]
  rfl

end Journal

end RequestLog
