import RequestLog.Proofs.Journal.Passage

/-!
The stages and the times of a record in a run of all that a host may call. Every stroke is put down
with what the clocks read at it. Whatever is called in whatever order, a record passes its stages
forward only, its end is captured once, at the first call that captures it, and a snapshot that is
handed on at the end of the request tells this end.
-/
namespace RequestLog

variable {σ : Type}

/-- A snapshot of the request, the headers and the status of a record, or the status of what was
not found, and of an end. -/
structure Snapshot.Tells (snapshot : Snapshot σ) (r : Record σ) (notFound : Bool)
    (reading : ClockReading) :
    Prop where
  request : snapshot.request = r.request
  headers : snapshot.response.response.headers = r.response.headers
  status : snapshot.status = if notFound then Logger.notFoundStatus else r.response.status
  endAt : snapshot.endAt = some reading.lapse
  endTime : snapshot.endTime = some reading.wall

/-- A stroke with the reading of the clocks at it. -/
structure Timed (σ : Type) where
  stroke : Stroke σ
  now : ClockReading

namespace Timed

variable (l : Logger σ)

/-- Whether a stroke captures the end of its record, unless this has been captured before. -/
def captures (m : Timed σ) : Bool :=
  m.stroke.before.any fun r => r.captures l m.stroke.event

/-- The reading of the clocks at the first of the strokes that captures the end. -/
def firstCapture (strokes : List (Timed σ)) : Option ClockReading :=
  (strokes.find? (captures l)).map Timed.now

theorem firstCapture_cons (m : Timed σ) (rest : List (Timed σ)) :
    firstCapture l (m :: rest) = (if m.captures l then some m.now else none).or
    (firstCapture l rest) := by
  rw [firstCapture, List.find?_cons]
  cases m.captures l <;> rfl

theorem firstCapture_concat (past : List (Timed σ)) (m : Timed σ) : firstCapture l (past ++ [m]) =
    (firstCapture l past).or (if m.captures l then some m.now else none) := by
  induction past with
  | nil =>
    rw [List.nil_append, firstCapture_cons, firstCapture, List.find?_nil, Option.map_none,
      Option.or_none, Option.none_or]
  | cons first past ih =>
    rw [List.cons_append, firstCapture_cons, firstCapture_cons, ih, Option.or_assoc]

/-- What is known of every stroke, whatever it is. -/
structure Sound (m : Timed σ) : Prop where
  makes : m.stroke.before = none → ∀ r, m.stroke.after = some r →
    (∃ id, m.stroke.event = .start id r.request) ∧ r.startAt = some m.now.lapse ∧
      r.startTime = some m.now.wall ∧ r.EndsAt none
  turns : ∀ r, m.stroke.before = some r → m.stroke.after = some (r.pass l m.now m.stroke.event)
  hands : ∀ r, m.stroke.before = some r → m.stroke.event.isTerminal = true →
    ∀ e ∈ m.stroke.entries, (l.immediate || r.isLogged) = false ∧
      e.1 = ((r.noteFailure m.stroke.event.isNotFound).finish m.now).snapshot

end Timed

namespace Journal

variable (l : Logger σ) (host : Host σ)

/-- The strokes of events one after the other, with the readings of the clocks. -/
def timed : List (Event σ) → Ledger → Journal σ → List (Timed σ)
  | [], _, _ => []
  | e :: rest, g, j =>
    let m := stroke l host g j e
    ⟨m, host.now j.host⟩ :: timed rest (g.follow e m.answer) (step l host e j).2

theorem map_stroke_timed (events : List (Event σ)) (g : Ledger) (j : Journal σ) :
    (timed l host events g j).map Timed.stroke = strokes l host events g j := by
  induction events generalizing g j with
  | nil => rfl
  | cons e rest ih => rw [timed, strokes, List.map_cons, ih]

variable {l host} {g : Ledger} {j : Journal σ} {e : Event σ}

/-- The record that a hook at the start of a request makes. -/
theorem record_of_startRequest {request : Request} {s t : σ} {r : Record σ}
    (h : l.startRequest host request s = (.ok r, t)) :
    r = (if l.immediate then (l.opened host request s).markLogged
      else l.opened host request s).markHandling := by
  cases hi : l.immediate with
  | true =>
    rw [Logger.startRequest_of_immediate l host hi] at h
    have hanswer := congrArg Prod.fst h
    generalize (l.logSnapshot host (l.opened host request s).snapshot s).1 = logged at hanswer
    cases logged with
    | error f => cases hanswer
    | ok line => exact (Except.ok.inj hanswer).symm
  | false =>
    rw [Logger.startRequest_of_deferred l host hi] at h
    exact (Except.ok.inj (congrArg Prod.fst h)).symm

theorem opened_of_start {id : String} {request : Request} {r : Record σ}
    (hr : (stroke l host g j (.start id request)).after = some r) :
    r.request = request ∧ r.startAt = some (host.now j.host).lapse ∧
      r.startTime = some (host.now j.host).wall ∧ r.EndsAt none := by
  rcases hs : l.startRequest host request j.host with ⟨f | r', s⟩
  · rw [stroke, step_start_of_error hs] at hr
    cases hr
  · rw [stroke, step_start_of_ok hs, remains, Table.get?_put, if_pos rfl] at hr
    obtain rfl := Option.some.inj hr
    have hopened : (l.opened host request j.host).EndsAt none := by
      refine ⟨rfl, rfl, fun hstage => ?_⟩
      cases hstage
    have hmade := record_of_startRequest hs
    split at hmade
    · have hfollows := (Record.follows_markLogged _).trans
        (Record.follows_markHandling (l.opened host request j.host).markLogged)
      rw [hmade]
      exact ⟨hfollows.request, hfollows.startAt, hfollows.startTime,
        hopened.markLogged.markHandling⟩
    · have hfollows := (l.opened host request j.host).follows_markHandling
      rw [hmade]
      exact ⟨hfollows.request, hfollows.startAt, hfollows.startTime, hopened.markHandling⟩

/-- Nothing is left of a record that is not found. -/
theorem after_of_unfound {id : String} (hid : e.name? = some id)
    (hb : (stroke l host g j e).before = none) : (stroke l host g j e).after = none := by
  obtain ⟨act, hact⟩ : ∃ act, step l host e = onRecord id act := step_eq_onRecord hid
  rw [stroke, hid, Option.bind_some] at hb
  rw [stroke, remains_of_name hid, hact, onRecord_of_missing hb]
  exact hb

theorem sound_stroke (g : Ledger) (j : Journal σ) (e : Event σ) :
    (Timed.mk (stroke l host g j e) (host.now j.host)).Sound l where
  makes hb r hr := by
    cases hid : e.name? with
    | some id => cases hr.symm.trans (after_of_unfound hid hb)
    | none =>
      cases e with
      | start id request =>
        obtain ⟨hrequest, hstart⟩ := opened_of_start hr
        exact ⟨⟨id, by rw [hrequest]; rfl⟩, hstart⟩
      | elapse change => cases hr
      | _ => cases hid
  turns r hr := after_stroke hr
  hands r hr ht entry hentry := by
    have hcalls : entry ∈ Call.entries (callsOf l host e j) := hentry
    rw [callsOf_of_isTerminal hr ht] at hcalls
    obtain ⟨hopen, hsnapshot, -⟩ := l.snapshot_of_mem_conclude host hcalls
    rw [Record.isLogged_noteFailure] at hopen
    exact ⟨hopen, hsnapshot⟩

/-- What holds of every stroke of the events holds of all timed strokes of a run. -/
theorem forall_mem_timed {P : Timed σ → Prop} (events : List (Event σ))
    (hP : ∀ e ∈ events, ∀ g (j : Journal σ), P ⟨stroke l host g j e, host.now j.host⟩) :
    ∀ m ∈ timed l host events g j, P m := by
  induction events generalizing g j with
  | nil => exact fun _ hm => nomatch hm
  | cons e rest ih =>
    obtain ⟨he, hrest⟩ := List.forall_mem_cons.mp hP
    exact List.forall_mem_cons.mpr ⟨he g j, ih hrest⟩

end Journal

namespace Timed

open Stroke (Linked Life)

variable {l : Logger σ} {ms past rest : List (Timed σ)} {m : Timed σ} {r r' : Record σ}
  {reading : Option ClockReading}

/-- Strokes of a run in which no times are set. -/
def Plain (l : Logger σ) (ms : List (Timed σ)) : Prop :=
  ∀ m ∈ ms, m.Sound l ∧ m.stroke.event.setsTimes = false

/-- A stroke among those that find a record as the one before left it finds one that follows the
first record, and that has ended at the first of the strokes before which captures the end. -/
theorem linked_split (hp : Plain l ms) (hr : r.EndsAt reading)
    (hl : Linked (some r) (ms.map stroke)) (hsplit : ms = past ++ m :: rest) :
    ∃ r', m.stroke.before = some r' ∧ r.Follows r' ∧ r'.EndsAt (reading.or (firstCapture l past)) ∧
      Linked m.stroke.after (rest.map stroke) := by
  -- the induction is on the strokes before the given one, each of which passes its record on
  induction past generalizing ms r reading with
  | nil =>
    subst hsplit
    obtain ⟨-, hbefore, hrest⟩ := hl
    refine ⟨r, hbefore, .refl r, ?_, hrest⟩
    rwa [firstCapture, List.find?_nil, Option.map_none, Option.or_none]
  | cons first past ih =>
    subst hsplit
    obtain ⟨-, hbefore, hrest⟩ := hl
    obtain ⟨⟨hsound, hplain⟩, hlater⟩ := List.forall_mem_cons.mp hp
    rw [hsound.turns r hbefore] at hrest
    obtain ⟨r', hr', hfollows, hends, hlinked⟩ := ih hlater (hr.pass hplain) hrest rfl
    refine ⟨r', hr', (r.follows_pass l first.now hplain).trans hfollows, ?_, hlinked⟩
    have hcaptures : first.captures l = r.captures l first.stroke.event := by
      rw [captures, hbefore, Option.any_some]
    rwa [firstCapture_cons, hcaptures, ← Option.or_assoc]

theorem captures_eq (hr : m.stroke.before = some r) :
    m.captures l = r.captures l m.stroke.event := by
  rw [captures, hr, Option.any_some]

/-- What such a stroke leaves follows the first record, and has ended at the first of the strokes
so far which captures the end. -/
theorem linked_after (hp : Plain l ms) (hr : r.EndsAt reading)
    (hl : Linked (some r) (ms.map stroke)) (hsplit : ms = past ++ m :: rest) :
    ∃ r', m.stroke.after = some r' ∧ r.Follows r' ∧
      r'.EndsAt (reading.or (firstCapture l (past ++ [m]))) ∧
      Linked (some r') (rest.map stroke) := by
  obtain ⟨before, hbefore, hfollows, hends, hlinked⟩ := linked_split hp hr hl hsplit
  obtain ⟨hsound, hplain⟩ := hp m (hsplit ▸ List.mem_append_right past List.mem_cons_self)
  have hafter := hsound.turns before hbefore
  refine ⟨_, hafter, hfollows.trans (before.follows_pass l m.now hplain), ?_, hafter ▸ hlinked⟩
  have hpass : (before.pass l m.now m.stroke.event).EndsAt _ := hends.pass hplain
  rwa [firstCapture_concat, ← Option.or_assoc, captures_eq hbefore]

/-- A record that is left of a stroke among those of its life has the start of the first one, which
made it, and has ended at the first one so far that captures the end. -/
theorem life_after (hp : Plain l ms) (hl : Life (ms.map stroke)) (hsplit : ms = past ++ m :: rest)
    (hr : m.stroke.after = some r) :
    (∃ first id, (past ++ [m]).head? = some first ∧ first.stroke.event = .start id r.request ∧
      r.startAt = some first.now.lapse ∧ r.startTime = some first.now.wall) ∧
    r.EndsAt (firstCapture l (past ++ [m])) ∧ Linked (some r) (rest.map stroke) := by
  subst hsplit
  cases past with
  | nil =>
    obtain ⟨hbefore, hrest⟩ := hl
    obtain ⟨hsound, -⟩ := hp m List.mem_cons_self
    obtain ⟨⟨id, hevent⟩, hat, htime, hends⟩ := hsound.makes hbefore r hr
    have hcaptures : m.captures l = false := by rw [captures, hbefore, Option.any_none]
    rw [List.nil_append, firstCapture_cons, hcaptures]
    exact ⟨⟨m, id, rfl, hevent, hat, htime⟩, hends, hr ▸ hrest⟩
  | cons first past =>
    obtain ⟨hbefore, hrest⟩ := hl
    obtain ⟨⟨hsound, -⟩, hlater⟩ := List.forall_mem_cons.mp hp
    have hsome : first.stroke.after.isSome = true := by cases past <;> exact hrest.1
    obtain ⟨made, hmade⟩ := Option.isSome_iff_exists.mp hsome
    obtain ⟨⟨id, hevent⟩, hat, htime, hends⟩ := hsound.makes hbefore made hmade
    rw [hmade] at hrest
    obtain ⟨r', hr', hfollows, hends', hlinked⟩ := linked_after hlater hends hrest rfl
    obtain rfl : r' = r := Option.some.inj (hr'.symm.trans hr)
    have hcaptures : first.captures l = false := by rw [captures, hbefore, Option.any_none]
    rw [List.cons_append, firstCapture_cons, hcaptures]
    exact ⟨⟨first, id, rfl, by rw [hevent, hfollows.request], hfollows.startAt.trans hat,
      hfollows.startTime.trans htime⟩, hends', hlinked⟩

/-- What a hook at the end of a request hands on is the record as the hook leaves it, with the
first end that has been captured. -/
theorem entry_of_isTerminal (hm : m.Sound l) (hr : m.stroke.after = some r)
    (hends : r.EndsAt (firstCapture l (past ++ [m]))) (ht : m.stroke.event.isTerminal = true) :
    ∃ before, m.stroke.before = some before ∧ ∀ e ∈ m.stroke.entries,
      ∃ reading, firstCapture l (past ++ [m]) = some reading ∧
        e.1.Tells before m.stroke.event.isNotFound reading := by
  cases hb : m.stroke.before with
  | none =>
    obtain ⟨⟨id, hevent⟩, -⟩ := hm.makes hb r hr
    rw [hevent] at ht
    cases ht
  | some before =>
    refine ⟨before, rfl, fun e he => ?_⟩
    obtain ⟨hopen, hsnapshot⟩ := hm.hands before hb ht e he
    have hleft : r = ((before.noteFailure m.stroke.event.isNotFound).finish m.now).markLogged := by
      have hpass := Option.some.inj (hr.symm.trans (hm.turns before hb))
      rw [Record.pass_of_isTerminal ht, Record.conclude, Record.isLogged_noteFailure,
        hopen] at hpass
      exact hpass
    have hcaptures : firstCapture l (past ++ [m]) = some ((firstCapture l past).getD m.now) := by
      rw [firstCapture_concat, captures_eq hb, Record.captures_of_isTerminal ht, hopen]
      cases firstCapture l past <;> rfl
    have hsame : e.1 = r.snapshot := by
      rw [hsnapshot, hleft]
      rfl
    have hfollows := (before.follows_noteFailure m.stroke.event.isNotFound).trans
      (Record.follows_finish m.now _)
    have hresponse :
        e.1.response.response = (before.noteFailure m.stroke.event.isNotFound).response := by
      rw [hsnapshot]
      exact Record.response_finish _ _
    rw [Record.response_noteFailure] at hresponse
    rw [hcaptures] at hends
    refine ⟨_, hcaptures, ?_, by rw [hresponse], by rw [Snapshot.status, hresponse], ?_, ?_⟩
    · rw [hsnapshot]
      exact hfollows.request
    · rw [hsame]
      exact hends.endAt
    · rw [hsame]
      exact hends.endTime

end Timed

namespace Journal

open Timed (firstCapture)

/-- In a run of all that a host may call but the setting of times, the clocks moving as they will,
the timed strokes are those of the run, and of each record that a stroke leaves the following is
known. It has the request, and the start at the clocks, of the stroke that made it. Its end is that
of the first stroke so far which captures the end: a record without such a stroke has no end, and
has not ended. No later stroke takes it back to an earlier stage, or changes its request, its
start, or its end once it has one. If the stroke is a hook at the end of the request, what it hands
to the emitter has the request, the headers and the status of the record as the hook finds it, or
the status of what was not found, and this first end. -/
theorem records_pass_stages (l : Logger σ) (host : Host σ) {events : List (Event σ)}
    (hevents : ∀ e ∈ events, e.setsTimes = false) (s : σ) :
    let timed := Journal.timed l host events Ledger.empty (fresh s)
    timed.map Timed.stroke = strokes l host events Ledger.empty (fresh s) ∧
    ∀ k past m rest, timed.filter (·.stroke.about k) = past ++ m :: rest →
      ∀ r, m.stroke.after = some r →
        (∃ first id, (past ++ [m]).head? = some first ∧ first.stroke.event = .start id r.request ∧
          r.startAt = some first.now.lapse ∧ r.startTime = some first.now.wall) ∧
        r.EndsAt (firstCapture l (past ++ [m])) ∧
        (∀ later ∈ rest, ∀ r', later.stroke.after = some r' → r.Follows r') ∧
        (m.stroke.event.isTerminal = true →
          ∃ before, m.stroke.before = some before ∧ ∀ e ∈ m.stroke.entries,
            ∃ reading, firstCapture l (past ++ [m]) = some reading ∧
              e.1.Tells before m.stroke.event.isNotFound reading) := by
  intro timed
  refine ⟨map_stroke_timed .., fun k past m rest hsplit r hr => ?_⟩
  have hall : Timed.Plain l timed :=
    forall_mem_timed events fun e he g j => ⟨sound_stroke g j e, hevents e he⟩
  have hplain : Timed.Plain l (timed.filter (·.stroke.about k)) :=
    fun m hm => hall m (List.mem_filter.mp hm).1
  have hlife : Stroke.Life ((timed.filter (·.stroke.about k)).map Timed.stroke) := by
    have hlife : Stroke.Life ((strokes l host events Ledger.empty (fresh s)).filter (·.about k)) :=
      life_strokes events s k
    rwa [← map_stroke_timed, List.filter_map] at hlife
  obtain ⟨hfirst, hends, hlinked⟩ := Timed.life_after hplain hlife hsplit hr
  refine ⟨hfirst, hends, fun later hlater r' hr' => ?_, fun ht => ?_⟩
  · obtain ⟨between, after, hrest⟩ := List.append_of_mem hlater
    have hlater : Timed.Plain l rest := fun m' hm' =>
      hplain m' (hsplit ▸ List.mem_append_right past (List.mem_cons_of_mem m hm'))
    obtain ⟨r'', hr'', hfollows, -⟩ := Timed.linked_after hlater hends hlinked hrest
    obtain rfl : r'' = r' := Option.some.inj (hr''.symm.trans hr')
    exact hfollows
  · have hm := hplain m (hsplit ▸ List.mem_append_right past List.mem_cons_self)
    exact Timed.entry_of_isTerminal hm.1 hr hends ht

/-- A host whose clocks read what its state says. -/
def tickingHost : Host (List String) :=
  { PlainHost.host with now := fun lines => ⟨Float.ofNat lines.length, Float.ofNat lines.length⟩ }

/-- A request that is handled and not found, while the clocks move, and is ended twice more. -/
def handledTwice : List (Event (List String)) :=
  [.elapse (· ++ ["first"]), .start "a" PlainHost.request, .elapse (· ++ ["second"]), .handled "a",
    .elapse (· ++ ["third"]), .failed "a" true, .elapse (· ++ ["fourth"]), .finish "a",
    .responded "a"]

theorem records_pass_stages_ticking :
    (∀ e ∈ handledTwice, e.setsTimes = false) ∧
      ∃ made handled failed finished responded r entry,
        (timed (PlainHost.logger false) tickingHost handledTwice Ledger.empty (fresh [])).filter
          (·.stroke.about 0) = [made, handled, failed, finished, responded] ∧
        failed.stroke.after = some r ∧ r.startAt = some (tickingHost.now ["first"]).lapse ∧
        failed.stroke.entries = [entry] ∧ entry.1.status = Logger.notFoundStatus ∧
        entry.1.endAt = some (tickingHost.now ["first", "second"]).lapse ∧
        ∀ r', finished.stroke.after = some r' → r.Follows r' := by
  have hevents : ∀ e ∈ handledTwice, e.setsTimes = false := by
    simp [handledTwice, Event.setsTimes]
  obtain ⟨-, hrecords⟩ := records_pass_stages (PlainHost.logger false) tickingHost hevents []
  obtain ⟨⟨first, id, hfirst, -, hstart, -⟩, -, hlater, hhook⟩ :=
    hrecords 0 [_, _] _ [_, _] rfl _ rfl
  obtain ⟨before, hbefore, hentries⟩ := hhook rfl
  obtain ⟨reading, hreading, htells⟩ := hentries _ (.head _)
  cases hfirst
  cases hreading
  exact ⟨hevents, _, _, _, _, _, _, _, rfl, rfl, hstart, rfl, htells.status, htells.endAt,
    hlater _ (.head _)⟩

end Journal

end RequestLog
