import RequestLog.Proofs.Journal.Alike
import RequestLog.Proofs.Journal.OneLine
import RequestLog.Proofs.Logger.Setup
import RequestLog.Proofs.Token.Colours

/-!
The format that shows the status in colour beside the same format written out. Loggers of both make
the same lines of the same requests, one for each request that ends, but for the characters around
the status.
-/
namespace RequestLog

open Moment

variable {σ : Type} {host : Host σ}

/-- Two entries of the same snapshot but for the options, of which the first shows the status in
colour. -/
def Recoloured (first second : Snapshot σ × String) : Prop :=
  ∃ o plain coloured, second.1 = first.1.under o ∧ Builtin.ShownAs first.1.status plain coloured ∧
    Builtin.lineAround first.1 coloured = .ok first.2 ∧
    Builtin.lineAround first.1 plain = .ok second.2

/-- Whether emitters take clocks that stand alike to the same time, whatever they emit. -/
def Emitter.Together (host : Host σ) (first second : Emitter σ) : Prop :=
  ∀ snapshot snapshot' line line' s t, host.now s = host.now t →
    host.now (first.emit snapshot line s).2 = host.now (second.emit snapshot' line' t).2

/-- Whether the URL of a request is shown, or its failure to be shown can be noted under given
options. -/
def Request.NotesUrl (request : Request) (o : Options σ) : Prop :=
  ∀ f, Builtin.urlOf request.url = .error f →
    (∃ shown, request.literal = .ok shown) ∧ ∀ s, ∃ shown, o.literal s = .ok shown

/-- Whether a hook sets a status as it can be set, takes clocks that stand alike to the same time,
or starts a request whose URL is shown, or noted, under the options of both of two loggers. -/
def Hook.Even (host : Host σ) (l₁ l₂ : Logger σ) : Hook σ → Prop
  | .start _ request => request.NotesUrl l₁.options ∧ request.NotesUrl l₂.options
  | .setStatus _ status => Builtin.IsStatus status
  | .elapse change => ∀ s t, host.now s = host.now t → host.now (change s) = host.now (change t)
  | _ => True

/-- Two moments of the same hook on the same record, of which the first shows the status in
colour. -/
structure Moment.Parallel (first second : Moment σ) : Prop where
  hook : second.hook = first.hook
  record : second.record = first.record
  entries : List.Forall₂ Recoloured first.entries second.entries

/-- Whether one of the moments starts a request as a record. -/
def Moment.Started (k : Nat) (request : Request) (moments : List (Moment σ)) : Prop :=
  ∃ m ∈ moments, m.record = some k ∧ ∃ id, m.hook = .start id request

/-- Loggers whose lines differ in nothing but the colour of the status, and are refused for the
method alone. -/
structure Logger.Twins (host : Host σ) (l₁ l₂ : Logger σ) : Prop where
  first : l₁.Steady host
  second : l₂.Steady host
  emits : Emitter.Together host l₁.emitter l₂.emitter
  lines : ∀ snapshot : Snapshot σ, Builtin.IsStatus snapshot.status →
    snapshot.request.NotesUrl l₁.options → snapshot.request.NotesUrl l₂.options → ∀ s t,
    (snapshot.request.method.HasText ∧ ∃ line line',
      (l₁.formatter.line host (snapshot.under l₁.options) s).1 = .ok line ∧
      (l₂.formatter.line host (snapshot.under l₂.options) t).1 = .ok line' ∧
      Recoloured (snapshot.under l₁.options, line) (snapshot.under l₂.options, line')) ∨
    ¬ snapshot.request.method.HasText ∧ ∃ fault,
      (l₁.formatter.line host (snapshot.under l₁.options) s).1 = .error fault ∧
      (l₂.formatter.line host (snapshot.under l₂.options) t).1 = .error fault

/-- What is known of a record of twins: its status is one that can be set, and its URL is shown or
noted. -/
structure Record.Even (l₁ l₂ : Logger σ) (r : Record σ) : Prop where
  status : Builtin.IsStatus r.response.status
  first : r.request.NotesUrl l₁.options
  second : r.request.NotesUrl l₂.options

namespace Record

variable {l l₁ l₂ : Logger σ} {now : ClockReading} {r : Record σ}

theorem response_conclude (l : Logger σ) (now : ClockReading) (r : Record σ) :
    (r.conclude l now).response = r.response := by
  unfold conclude
  split
  · rfl
  · exact r.response_finish now

theorem isStatus_noteFailure (h : Builtin.IsStatus r.response.status) (notFound : Bool) :
    Builtin.IsStatus (r.noteFailure notFound).response.status := by
  cases notFound with
  | true => exact .int (by decide)
  | false => exact h

theorem request_pass (l : Logger σ) (now : ClockReading) (r : Record σ) (hook : Hook σ) :
    (r.pass l now hook.event).request = r.request :=
  (follows_pass l now r (by cases hook <;> rfl)).request

/-- Hooks leave a status that can be set, and the request as it is. -/
theorem Even.pass (h : r.Even l₁ l₂) {hook : Hook σ} (heven : hook.Even host l₁ l₂) :
    (r.pass l now hook.event).Even l₁ l₂ := by
  have hstatus : Builtin.IsStatus (r.pass l now hook.event).response.status := by
    cases hook with
    | setStatus id status => exact heven
    | setHeader id name value =>
      obtain ⟨headers, hheaded⟩ := r.exists_headed name value
      have hpass : r.pass l now (Hook.setHeader id name value).event = r.headed name value := rfl
      rw [hpass, hheaded]
      exact h.status
    | handled id => simpa [Record.pass, Hook.event, response_finish] using h.status
    | responded id => simpa [Record.pass, Hook.event, response_conclude] using h.status
    | failed id notFound =>
      simpa [Record.pass, Hook.event, response_conclude] using isStatus_noteFailure h.status
        notFound
    | _ => exact h.status
  refine ⟨hstatus, ?_, ?_⟩
  · rw [request_pass]
    exact h.first
  · rw [request_pass]
    exact h.second

end Record

namespace Journal

/-- Two journals of the same records, each under the options of its logger, where the clocks stand
alike and all is known of every record. -/
structure Alike (host : Host σ) (l₁ l₂ : Logger σ) (records : Bare σ) (j₁ j₂ : Journal σ) :
    Prop where
  clocks : host.now j₁.host = host.now j₂.host
  first : j₁.Bears l₁.options records
  second : j₂.Bears l₂.options records
  even : ∀ id r, records id = some r → r.Even l₁ l₂

variable {l l₁ l₂ : Logger σ} {records : Bare σ} {j₁ j₂ : Journal σ} {hook : Hook σ}
    {now : ClockReading}
  {snapshot : Snapshot σ}

/-- A record that there is after a hook was there before, or is that of a request which the hook
starts. -/
theorem turn_cases {id : String} {r : Record σ} (hr : turn l now records hook id = some r) :
    ((∀ request, hook ≠ .start id request) ∧
      ∃ before, records id = some before ∧ (r = before ∨ r = before.pass l now hook.event)) ∨
      ∃ request, hook = .start id request ∧
        r = (Record.start request Response.initial none now).markHandling := by
  cases hid : hook.event.name? with
  | some name =>
    have hother : ∀ request, hook ≠ .start id request := by
      rintro request rfl
      cases hid
    rw [turn_of_name hid, Function.update_apply] at hr
    split at hr
    · next heq =>
      subst heq
      obtain ⟨before, hbefore, rfl⟩ := Option.map_eq_some_iff.mp hr
      exact .inl ⟨hother, before, hbefore, .inr rfl⟩
    · exact .inl ⟨hother, r, hr, .inl rfl⟩
  | none =>
    cases hook with
    | start name request =>
      rw [turn, Function.update_apply] at hr
      split at hr
      · next heq =>
        cases hr
        exact .inr ⟨request, by rw [heq], rfl⟩
      · next hne =>
        refine .inl ⟨fun request heq => hne ?_, r, hr, .inl rfl⟩
        cases heq
        rfl
    | elapse change =>
      refine .inl ⟨fun request heq => ?_, r, hr, .inl rfl⟩
      cases heq
    | _ => cases hid

theorem even_of_turn (h : ∀ id r, records id = some r → r.Even l₁ l₂)
    (heven : hook.Even host l₁ l₂)
    {id : String} {r : Record σ} (hr : turn l now records hook id = some r) : r.Even l₁ l₂ := by
  rcases turn_cases hr with ⟨-, before, hbefore, rfl | rfl⟩ | ⟨request, rfl, rfl⟩
  · exact h id r hbefore
  · exact (h id before hbefore).pass heven
  · exact ⟨.missing, heven.1, heven.2⟩

/-- All is known of the request and of the status of what is due at a hook. -/
theorem even_of_due (h : ∀ id r, records id = some r → r.Even l₁ l₂)
    (hdue : due now records hook = some snapshot) : Builtin.IsStatus snapshot.status ∧
      snapshot.request.NotesUrl l₁.options ∧ snapshot.request.NotesUrl l₂.options := by
  obtain ⟨-, id, r, -, hr, -, rfl⟩ := exists_of_due hdue
  have hrequest : ((r.noteFailure hook.event.isNotFound).finish now).snapshot.request =
    r.request :=
    ((r.follows_noteFailure _).trans (Record.follows_finish now _)).request
  rw [hrequest]
  refine ⟨?_, (h id r hr).first, (h id r hr).second⟩
  show Builtin.IsStatus ((r.noteFailure _).finish now).response.status
  rw [Record.response_finish]
  exact Record.isStatus_noteFailure (h id r hr).status _

namespace Alike

theorem turn_second (hw : Logger.Twins host l₁ l₂) (h : Alike host l₁ l₂ records j₁ j₂)
    (hook : Hook σ) :
    turn l₂ (host.now j₂.host) records hook = turn l₁ (host.now j₁.host) records hook := by
  rw [h.clocks]
  exact turn_congr (hw.second.deferred.trans hw.first.deferred.symm) _ records hook

/-- What is due at a hook is handed on by both, in lines that differ in the colour of the status
only, or by neither. The clocks stay alike. -/
theorem handsOn (hw : Logger.Twins host l₁ l₂) (h : Alike host l₁ l₂ records j₁ j₂)
    (hdue : due (host.now j₁.host) records hook = some snapshot) :
    host.now (step l₁ host hook.event j₁).2.host = host.now (step l₂ host hook.event j₂).2.host ∧
      ((snapshot.request.method.HasText ∧ ∃ e e', Recoloured e e' ∧
          Call.entries (callsOf l₁ host hook.event j₁) = [e] ∧
          Call.entries (callsOf l₂ host hook.event j₂) = [e']) ∨
        ¬ snapshot.request.method.HasText ∧ Call.entries (callsOf l₁ host hook.event j₁) = [] ∧
          Call.entries (callsOf l₂ host hook.event j₂) = []) := by
  have hdue' : due (host.now j₂.host) records hook = some snapshot := by rw [← h.clocks, hdue]
  obtain ⟨hstatus, hurl, hurl'⟩ := even_of_due h.even hdue
  have hlines := hw.lines snapshot hstatus hurl hurl' j₁.host j₂.host
  rcases h.first.handsOn hw.first hdue with
    ⟨line, u, hline, hu, hafter, hentries⟩ | ⟨fault, hfails, hafter, hentries⟩
  · rcases hlines with ⟨htext, made, made', hmade, hmade', hsame⟩ | ⟨-, fault, hfails, -⟩
    · obtain rfl : line = made := Except.ok.inj (hline.symm.trans hmade)
      rcases h.second.handsOn hw.second hdue' with
        ⟨line', u', hline', hu', hafter', hentries'⟩ | ⟨fault, hfails, -⟩
      · obtain rfl : line' = made' := Except.ok.inj (hline'.symm.trans hmade')
        refine ⟨?_, .inl ⟨htext, _, _, hsame, hentries, hentries'⟩⟩
        rw [hafter, hafter']
        exact hw.emits _ _ _ _ _ _ (hu.trans (h.clocks.trans hu'.symm))
      · cases hfails.symm.trans hmade'
    · cases hfails.symm.trans hline
  · rcases hlines with ⟨-, made, -, hmade, -⟩ | ⟨htext, fault', -, hfails'⟩
    · cases hfails.symm.trans hmade
    · rcases h.second.handsOn hw.second hdue' with
        ⟨line', u', hline', -⟩ | ⟨fault', -, hafter', hentries'⟩
      · cases hfails'.symm.trans hline'
      · exact ⟨hafter.trans (h.clocks.trans hafter'.symm), .inr ⟨htext, hentries, hentries'⟩⟩

/-- A hook leaves the clocks alike, and hands on lines that differ in the colour of the status
only. -/
theorem advance (hw : Logger.Twins host l₁ l₂) (h : Alike host l₁ l₂ records j₁ j₂)
    (heven : hook.Even host l₁ l₂) :
    host.now (step l₁ host hook.event j₁).2.host = host.now (step l₂ host hook.event j₂).2.host ∧
      List.Forall₂ Recoloured (Call.entries (callsOf l₁ host hook.event j₁))
        (Call.entries (callsOf l₂ host hook.event j₂)) := by
  cases hdue : due (host.now j₁.host) records hook with
  | some snapshot =>
    obtain ⟨hclocks, ⟨-, e, e', hsame, hentries, hentries'⟩ | ⟨-, hentries, hentries'⟩⟩ :=
      h.handsOn hw hdue
    · rw [hentries, hentries']
      exact ⟨hclocks, .cons hsame .nil⟩
    · rw [hentries, hentries']
      exact ⟨hclocks, .nil⟩
  | none =>
    by_cases helapse : ∃ change, hook = .elapse change
    · obtain ⟨change, rfl⟩ := helapse
      exact ⟨heven _ _ h.clocks, .nil⟩
    · have he : ∀ change, hook ≠ .elapse change := fun change hc => helapse ⟨change, hc⟩
      have hdue' : due (host.now j₂.host) records hook = none := by rw [← h.clocks, hdue]
      obtain ⟨hentries, hhost⟩ := h.first.idle hw.first.deferred hdue he
      obtain ⟨hentries', hhost'⟩ := h.second.idle hw.second.deferred hdue' he
      rw [hentries, hentries', hhost, hhost']
      exact ⟨h.clocks, .nil⟩

theorem step (hw : Logger.Twins host l₁ l₂) (h : Alike host l₁ l₂ records j₁ j₂)
    (heven : hook.Even host l₁ l₂) :
    Alike host l₁ l₂ (turn l₁ (host.now j₁.host) records hook)
      (Journal.step l₁ host hook.event j₁).2 (Journal.step l₂ host hook.event j₂).2 where
  clocks := (h.advance hw heven).1
  first := h.first.step hw.first.deferred hook
  second := by
    rw [← h.turn_second hw hook]
    exact h.second.step hw.second.deferred hook
  even _ _ hr := even_of_turn h.even heven hr

end Alike

/-- Requests start without a line, so that none of them can fail to start. -/
theorem after_of_deferred (hd : l.immediate = false) (g : Ledger) (hook : Hook σ) (j : Journal σ) :
    g.after hook (step l host hook.event j).1 = g.after hook (.ok .nothing) := by
  cases hook with
  | start id request =>
    have hstart := l.startRequest_of_deferred host hd request j.host
    simp only [Hook.event, step_start_of_ok hstart]
  | _ => rfl

section Endings

variable {g : Ledger} {past : List (Moment σ)} {k : Nat} {m : Moment σ} {request : Request}

theorem Started.mono (h : Moment.Started k request past) (more : List (Moment σ)) :
    Moment.Started k request (past ++ more) := by
  obtain ⟨m, hm, hstart⟩ := h
  exact ⟨m, List.mem_append_left _ hm, hstart⟩

/-- What the first end of a request comes to: one entry for its record if the method has a text,
and none otherwise. -/
def Ended (moments : List (Moment σ)) (k : Nat) (first : Moment σ) : Prop :=
  ∃ request, Moment.Started k request moments ∧
    ((request.method.HasText ∧ ∃ e, first.entries = [e]) ∨
      ¬ request.method.HasText ∧ first.entries = [])

theorem Ended.mono {first : Moment σ} (h : Ended past k first) (more : List (Moment σ)) :
    Ended (past ++ more) k first := by
  obtain ⟨request, hstarted, hentries⟩ := h
  exact ⟨request, Started.mono hstarted more, hentries⟩

/-- Two runs under way: what their moments are, and what has become of the records of both. -/
structure Going (host : Host σ) (l₁ l₂ : Logger σ) (g : Ledger) (past : List (Moment σ))
    (records : Bare σ) (j₁ j₂ : Journal σ) : Prop where
  alike : Alike host l₁ l₂ records j₁ j₂
  fits : Fits l₁ g past j₁
  started : ∀ id k r, g.names.get? id = some k → records id = some r →
    Moment.Started k r.request past
  ended : ∀ k first later, endings k past = first :: later → Ended past k first

/-- The name of a record is one that it had, or that of a request which the hook starts. -/
theorem names_after {id : String} {answer : Except Fault (Answer σ)}
    (hk : (g.after hook answer).names.get? id = some k) :
    (∃ request, hook = .start id request ∧ k = g.next) ∨ g.names.get? id = some k := by
  cases hook with
  | start name request =>
    cases answer with
    | error f => exact .inr hk
    | ok a =>
      rw [Ledger.after, Table.get?_put] at hk
      split at hk
      · next heq =>
        cases hk
        exact .inl ⟨request, by rw [heq], rfl⟩
      · exact .inr hk
  | _ => exact .inr hk

namespace Going

theorem fresh {s t : σ} (hnow : host.now s = host.now t) :
    Going host l₁ l₂ Ledger.empty [] (fun _ => none) (Journal.fresh s) (Journal.fresh t) where
  alike := ⟨hnow, bears_fresh _ s, bears_fresh _ t, by simp⟩
  fits := Fits.empty s
  started _ _ _ _ hr := nomatch hr
  ended _ _ _ h := nomatch h

/-- The first end of a request finds its record open, and hands it on if the method has a text. -/
theorem ended_of_first (hw : Logger.Twins host l₁ l₂) (h : Going host l₁ l₂ g past records j₁ j₂)
    (hk : (moment l₁ host g j₁ hook).closes k = true) (hpast : endings k past = []) :
    Ended past k (moment l₁ host g j₁ hook) := by
  obtain ⟨ht, hk⟩ : hook.isTerminal = true ∧ g.recordOf hook = some k := by
    simpa [closes, about, moment] using hk
  obtain ⟨id, hid, hname⟩ : ∃ id, hook.event.name? = some id ∧ g.names.get? id = some k := by
    cases hook with
    | responded id => exact ⟨id, rfl, hk⟩
    | failed id notFound => exact ⟨id, rfl, hk⟩
    | _ => cases ht
  cases hr : records id with
  | none =>
    have hmissing : j₁.records.get? id = none := by simp [h.alike.first id, hr]
    simp [(h.fits.known id).mpr hmissing] at hname
  | some r =>
    have hfound : j₁.records.get? id = some (r.under l₁.options) := by simp [h.alike.first id, hr]
    have hopen : r.isLogged = false := by
      simpa [hw.first.deferred, any_closes_iff.mpr hpast] using h.fits.settled id k _ hname hfound
    have hdue : due (host.now j₁.host) records hook =
        some ((r.noteFailure hook.event.isNotFound).finish (host.now j₁.host)).snapshot := by
      simp [due, ht, hid, hr, hopen]
    have hrequest :
        ((r.noteFailure hook.event.isNotFound).finish (host.now j₁.host)).snapshot.request =
        r.request := ((r.follows_noteFailure _).trans (Record.follows_finish _ _)).request
    obtain ⟨-, hhands⟩ := h.alike.handsOn hw hdue
    rw [hrequest] at hhands
    refine ⟨r.request, h.started id k r hname hr, ?_⟩
    rcases hhands with ⟨htext, e, -, -, hentries, -⟩ | ⟨htext, hentries, -⟩
    · exact .inl ⟨htext, e, hentries⟩
    · exact .inr ⟨htext, hentries⟩

theorem step (hw : Logger.Twins host l₁ l₂) (h : Going host l₁ l₂ g past records j₁ j₂)
    (heven : hook.Even host l₁ l₂) :
    Going host l₁ l₂ (g.after hook (.ok (.nothing : Answer σ)))
      (past ++ [moment l₁ host g j₁ hook])
      (turn l₁ (host.now j₁.host) records hook) (Journal.step l₁ host hook.event j₁).2
      (Journal.step l₂ host hook.event j₂).2 where
  alike := h.alike.step hw heven
  fits := by
    have hkept : Keeps l₁ host g past j₁ hook := h.fits.step hook
    have hfits := hkept.2
    simp only [moment, after_of_deferred hw.first.deferred] at hfits
    exact hfits
  started id k r hk hr := by
    rcases turn_cases hr with ⟨hother, before, hbefore, hsame⟩ | ⟨request, rfl, rfl⟩
    · have hrequest : r.request = before.request := by
        rcases hsame with rfl | rfl
        · rfl
        · exact Record.request_pass ..
      rw [hrequest]
      rcases names_after hk with ⟨request, rfl, -⟩ | hk
      · exact absurd rfl (hother request)
      · exact Started.mono (h.started id k before hk hbefore) _
    · rw [Ledger.after, Table.get?_put, if_pos rfl] at hk
      cases hk
      exact ⟨_, List.mem_append_right _ (List.mem_singleton_self _), rfl, id, rfl⟩
  ended k first later he := by
    rw [endings_snoc] at he
    cases hpast : endings k past with
    | cons first' earlier =>
      rw [hpast, List.cons_append] at he
      obtain ⟨rfl, -⟩ := List.cons_eq_cons.mp he
      exact (h.ended k _ _ hpast).mono _
    | nil =>
      rw [hpast, List.nil_append] at he
      split at he
      · next hc =>
        obtain ⟨rfl, -⟩ := List.cons_eq_cons.mp he
        exact (h.ended_of_first hw hc hpast).mono _
      · cases he

/-- Moment by moment, twins hand on lines that differ in the colour of the status only, and the
first end of every request comes to what the method decides. -/
theorem account (hw : Logger.Twins host l₁ l₂) {hooks : List (Hook σ)}
    (h : Going host l₁ l₂ g past records j₁ j₂) (heven : ∀ hook ∈ hooks, hook.Even host l₁ l₂) :
    List.Forall₂ Moment.Parallel (account l₁ host hooks g j₁) (account l₂ host hooks g j₂) ∧
      ∀ k first later, endings k (past ++ Journal.account l₁ host hooks g j₁) = first :: later →
        Ended (past ++ Journal.account l₁ host hooks g j₁) k first := by
  induction hooks generalizing records j₁ j₂ g past with
  | nil =>
    refine ⟨.nil, ?_⟩
    rw [Journal.account, List.append_nil]
    exact h.ended
  | cons hook rest ih =>
    obtain ⟨hfirst, hrest⟩ := List.forall_mem_cons.mp heven
    obtain ⟨hparallel, hended⟩ := ih (h.step hw hfirst) hrest
    rw [List.append_assoc, List.singleton_append] at hended
    simp only [Journal.account, moment, after_of_deferred hw.first.deferred,
      after_of_deferred hw.second.deferred] at hended ⊢
    exact ⟨.cons ⟨rfl, rfl, (h.alike.advance hw hfirst).2⟩ hparallel, hended⟩

end Going

end Endings

end Journal

/-- Moments that differ in the colour of the status do so in what they hand on for each record. -/
theorem forall₂_entriesOf {moments moments' : List (Moment σ)}
    (h : List.Forall₂ Moment.Parallel moments moments') (k : Nat) :
    List.Forall₂ Recoloured (entriesOf k moments) (entriesOf k moments') := by
  induction h with
  | nil => exact .nil
  | @cons m m' rest rest' hm _ ih =>
    have habout : m'.about k = m.about k := by simp [about, hm.record]
    simp only [Moment.entriesOf, List.filter_cons, habout] at ih ⊢
    split
    · simpa using List.rel_append hm.entries ih
    · exact ih

/-- Nothing but the status depends on the options. -/
theorem Builtin.lineAround_under (o : Options σ) (snapshot : Snapshot σ) (status : String) :
    lineAround (snapshot.under o) status = lineAround snapshot status := rfl

namespace Logger

/-- Whether a logger is built of a format, of the built-in tokens and whatever place for its
lines. -/
def BuiltOf (host : Host σ) (given : String) (l : Logger σ) : Prop :=
  ∃ offer registry s, registry.table = (Registry.builtin host).table ∧
    (build host (.plain (.text given) offer) .null (registry, s)).1 = .ok l

variable {given : String} {l : Logger σ}

theorem BuiltOf.exists_formatter (h : BuiltOf host given l) : l.options.format = .text given ∧
    l.immediate = false ∧ l.skip = none ∧ ∃ registry : Registry σ,
      registry.table = (Registry.builtin host).table ∧
      (∀ t ∈ Segment.tokens (parseFormat (Preset.expand given)), registry.contains t.name = true) ∧
      l.formatter = Formatter.ofFormat registry given defaultPlaceholder := by
  obtain ⟨offer, registry, s, hr, hbuild⟩ := h
  obtain ⟨given', placeholder, skip, emitter, hsound, hn, hcheck, rfl⟩ := exists_of_build hbuild
  have hgiven : given = given' := Value.text.inj hsound.format
  have hplaceholder : defaultPlaceholder = placeholder := Value.text.inj hsound.placeholder
  subst hgiven hplaceholder
  have hskip : none = skip := by
    simpa [LoggerSettings.check_plain hsound.nonempty] using hcheck
  exact ⟨rfl, rfl, hskip.symm, registry.freeze, hr, hn, rfl⟩

/-- The logger of a format and an emitter. -/
def ofBuiltin (host : Host σ) (given : String) (e : Emitter σ) : Logger σ where
  formatter := Formatter.ofFormat (Registry.builtin host).freeze given defaultPlaceholder
  emitter := e
  options := optionsOf (.plain (.text given) (.emitter e)) none
  skip := none

/-- It is built if the format is not empty and has no other tokens. -/
theorem builtOf_ofBuiltin (host : Host σ) (hg : given ≠ "")
    (hn : ∀ t ∈ Segment.tokens (parseFormat (Preset.expand given)),
      (Registry.builtin host).contains t.name = true) (e : Emitter σ) (s : σ) :
    BuiltOf host given (ofBuiltin host given e) := by
  refine ⟨.emitter e, Registry.builtin host, s, rfl, ?_⟩
  have hformatter : buildFormatter (.plain (.text given) (.emitter e)) .null
      (Registry.builtin host, s) =
      (.ok (Formatter.ofFormat (Registry.builtin host).freeze given defaultPlaceholder),
        ((Registry.builtin host).freeze, s)) := by
    have hbuild := Formatter.build_of_registered none hg hn
    rw [Option.map_none] at hbuild
    simp [buildFormatter, LoggerSettings.formatterSettings, LoggerSettings.plain, hbuild]
  rw [build, LoggerSettings.check_plain hg, Action.andThen_of_ok (Action.ofExcept_apply _ _),
    Action.andThen_of_ok hformatter]
  rfl

theorem BuiltOf.steady (h : BuiltOf host given l) (hkeeps : host.Keeps host.now) :
    l.Steady host := by
  obtain ⟨-, hdeferred, hskip, registry, hr, -, hf⟩ := h.exists_formatter
  refine ⟨hdeferred, hskip, ?_⟩
  apply Formatter.line_keeps hkeeps
  intro b hb
  rw [hf] at hb
  obtain ⟨t, -, e, he, rfl⟩ := Formatter.mem_bindingsOf.mp hb
  rw [hr] at he
  exact (Builtin.readsClocks (Table.mem_of_get?_ofList he)).keeps

/-- The line that such a logger makes of a status that can be set, if any. -/
theorem BuiltOf.line_eq (h : BuiltOf host given l) (hnotes : host.TakesNotes)
    (hg : Preset.expand given = Preset.expand Builtin.colourFormat) {snapshot : Snapshot σ}
    (hstatus : Builtin.IsStatus snapshot.status) (hurl : snapshot.request.NotesUrl l.options)
    {plain coloured : String} (hshown : Builtin.ShownAs snapshot.status plain coloured) (s : σ) :
    (l.formatter.line host (snapshot.under l.options) s).1 =
      Builtin.lineAround snapshot (if given = Builtin.colourFormat then coloured else plain) := by
  obtain ⟨hformat, -, -, registry, hr, hn, hf⟩ := h.exists_formatter
  have hstatus' : Builtin.IsStatus (snapshot.under l.options).status := hstatus
  have hfaults : l.formatter.NotesFailures (snapshot.under l.options) := by
    rw [hf]
    refine Formatter.notesFailures_of_colourFormat hr hg hstatus' fun f hfailed s => ?_
    obtain ⟨hrequest, hoptions⟩ := hurl f hfailed
    exact Snapshot.exists_literal_iff.mpr ⟨hrequest, hstatus.exists_literal, hoptions s⟩
  have hcoloured : Builtin.isColoured (snapshot.under l.options) =
      (given == Builtin.colourFormat) := by
    simp [Builtin.isColoured, Snapshot.under, hformat, Value.equals]
  have htext : Builtin.shown Builtin.status (snapshot.under l.options) Token.noArgs =
      .ok (if given = Builtin.colourFormat then coloured else plain) := by
    rw [Builtin.shown, Builtin.status_of_shownAs hstatus' hshown, hcoloured]
    simp [Formatter.pieceOf, Value.written, Value.toText, Value.display, Except.mapError]
  rw [hf] at hfaults ⊢
  rw [Formatter.line_of_colourFormat hr hg hnotes hn hfaults htext, Builtin.lineAround_under]

/-- The logger of the format by its name and that of the format written out are twins. -/
theorem twins_of_colourFormat (hnotes : host.TakesNotes) (hkeeps : host.Keeps host.now)
    {dev plain : Logger σ} (hdev : BuiltOf host Builtin.colourFormat dev)
    (hplain : BuiltOf host (Preset.expand Builtin.colourFormat) plain)
    (hemits : Emitter.Together host dev.emitter plain.emitter) : Twins host dev plain where
  first := hdev.steady hkeeps
  second := hplain.steady hkeeps
  emits := hemits
  lines snapshot hstatus hurl hurl' s t := by
    obtain ⟨text, coloured, hshown⟩ := Builtin.exists_shownAs hstatus
    have hexpand : Preset.expand (Preset.expand Builtin.colourFormat) =
        Preset.expand Builtin.colourFormat := by decide +kernel
    have hne : Preset.expand Builtin.colourFormat ≠ Builtin.colourFormat := by decide +kernel
    rw [hdev.line_eq hnotes rfl hstatus hurl hshown, if_pos rfl,
      hplain.line_eq hnotes hexpand hstatus hurl' hshown, if_neg hne]
    rcases Builtin.lineAround_cases snapshot coloured text with ⟨htext, line, line', hline,
      hline'⟩ | hnone
    · exact .inl ⟨htext, line, line', hline, hline', plain.options, text, coloured, rfl, hshown,
        hline, hline'⟩
    · exact .inr hnone

end Logger

namespace Journal

/-- The format that shows the status in colour adds nothing but the colour. Under any hooks, which
set statuses as they can be set, the logger of this format and that of the format written out hand
on the same snapshots at the same hooks, with lines that are the same but for the characters before
and behind the status. Both hand on one line of each record whose request ends, or none if the
method of the request has no text. The failure to show a URL that is no text has to be one that
both can note. -/
theorem colours_only_status (host : Host σ) (hnotes : host.TakesNotes)
    (hkeeps : host.Keeps host.now)
    (dev plain : Logger σ) (hdev : Logger.BuiltOf host Builtin.colourFormat dev)
    (hplain : Logger.BuiltOf host (Preset.expand Builtin.colourFormat) plain)
    (hemits : Emitter.Together host dev.emitter plain.emitter) (hooks : List (Hook σ))
    (heven : ∀ hook ∈ hooks, hook.Even host dev plain) (s t : σ) (hnow : host.now s = host.now t) :
    let coloured := account dev host hooks Ledger.empty (fresh s)
    let uncoloured := account plain host hooks Ledger.empty (fresh t)
    List.Forall₂ Moment.Parallel coloured uncoloured ∧
      ∀ k, endings k coloured ≠ [] → ∃ request, Moment.Started k request coloured ∧
        ((request.method.HasText ∧ ∃ e e', entriesOf k coloured = [e] ∧
            entriesOf k uncoloured = [e'] ∧ Recoloured e e') ∨
          ¬ request.method.HasText ∧ entriesOf k coloured = [] ∧ entriesOf k uncoloured = []) := by
  intro coloured uncoloured
  have hw : Logger.Twins host dev plain := Logger.twins_of_colourFormat hnotes hkeeps hdev hplain
    hemits
  have hgoing : Going host dev plain Ledger.empty [] (fun _ => none) (fresh s) (fresh t) :=
    Going.fresh hnow
  obtain ⟨hmoments, hended⟩ := hgoing.account hw heven
  refine ⟨hmoments, fun k hk => ?_⟩
  obtain ⟨first, later, he⟩ := List.exists_cons_of_ne_nil hk
  obtain ⟨request, hstarted, hfirst⟩ := hended k first later he
  have hentries : List.Forall₂ Recoloured (entriesOf k coloured) (entriesOf k uncoloured) :=
    forall₂_entriesOf hmoments k
  have hone : entriesOf k coloured = first.entries :=
    ((account_history hooks s).entriesOf_of_ended hw.first.deferred he).1
  rw [hone] at hentries ⊢
  refine ⟨request, hstarted, ?_⟩
  rcases hfirst with ⟨htext, e, hfirst⟩ | ⟨htext, hfirst⟩
  · rw [hfirst] at hentries
    obtain ⟨e', rest, hhead, hrest, hk'⟩ := List.forall₂_cons_left_iff.mp hentries
    rw [List.forall₂_nil_left_iff.mp hrest] at hk'
    exact .inl ⟨htext, e, e', hfirst, hk', hhead⟩
  · rw [hfirst] at hentries
    exact .inr ⟨htext, hfirst, List.forall₂_nil_left_iff.mp hentries⟩

/-- The hooks of a request that is answered while nothing is found for another one. -/
def answeredAndMissed : List (Hook (List String)) :=
  [.start "a" PlainHost.request, .start "b" PlainHost.request, .setStatus "a" (.int (-7)),
    .setHeader "a" (.text "Content-Length") (.text "2"), .failed "b" true, .responded "a"]

theorem colours_only_status_answered :
    let dev := Logger.ofBuiltin PlainHost.host "dev" PlainHost.emitter
    let plain := Logger.ofBuiltin PlainHost.host (Preset.expand "dev") PlainHost.emitter
    PlainHost.host.TakesNotes ∧ PlainHost.host.Keeps PlainHost.host.now ∧
    Logger.BuiltOf PlainHost.host "dev" dev ∧
    Logger.BuiltOf PlainHost.host (Preset.expand "dev") plain ∧
    (∀ hook ∈ answeredAndMissed, hook.Even PlainHost.host dev plain) ∧
    ∀ k ∈ [0, 1], ∃ e e',
      entriesOf k (account dev PlainHost.host answeredAndMissed Ledger.empty (fresh [])) = [e] ∧
      entriesOf k (account plain PlainHost.host answeredAndMissed Ledger.empty (fresh [])) = [e'] ∧
      Recoloured e e' := by
  intro dev plain
  have hkeeps : PlainHost.host.Keeps PlainHost.host.now := ⟨fun _ _ _ _ => rfl, fun _ _ => rfl⟩
  have hdev : Logger.BuiltOf PlainHost.host "dev" dev :=
    Logger.builtOf_ofBuiltin PlainHost.host (by decide) (by decide +kernel) PlainHost.emitter []
  have hplain : Logger.BuiltOf PlainHost.host (Preset.expand "dev") plain :=
    Logger.builtOf_ofBuiltin PlainHost.host (by decide +kernel) (by decide +kernel)
      PlainHost.emitter []
  have heven : ∀ hook ∈ answeredAndMissed, hook.Even PlainHost.host dev plain := by
    have hstatus : Builtin.IsStatus (.int (-7)) := .int (by decide)
    have hurl : ∀ o : Options (List String), PlainHost.request.NotesUrl o := fun _ _ h => nomatch h
    simpa [answeredAndMissed, Hook.Even, hurl] using hstatus
  obtain ⟨-, hended⟩ := colours_only_status PlainHost.host PlainHost.takesNotes hkeeps dev plain
    hdev hplain (fun _ _ _ _ _ _ _ => rfl) answeredAndMissed heven [] [] rfl
  have hone : ∀ k,
      endings k (account dev PlainHost.host answeredAndMissed Ledger.empty (fresh [])) ≠ [] →
      ∃ e e',
        entriesOf k (account dev PlainHost.host answeredAndMissed Ledger.empty (fresh [])) = [e] ∧
        entriesOf k (account plain PlainHost.host answeredAndMissed Ledger.empty (fresh [])) =
          [e'] ∧
        Recoloured e e' := by
    intro k hk
    obtain ⟨request, ⟨m, hm, -, id, hstart⟩, ⟨-, hentries⟩ | ⟨hmethod, -⟩⟩ := hended k hk
    · exact hentries
    · have hhook :
        m.hook ∈ (account dev PlainHost.host answeredAndMissed Ledger.empty (fresh [])).map
          Moment.hook := List.mem_map_of_mem hm
      rw [hooks_account] at hhook
      have hrequest : request = PlainHost.request := by
        simp [hstart, answeredAndMissed] at hhook
        grind
      exact absurd (hrequest ▸ ⟨"GET", rfl⟩) hmethod
  refine ⟨PlainHost.takesNotes, hkeeps, hdev, hplain, heven, ?_⟩
  simp only [List.forall_mem_cons]
  exact ⟨hone 0 (List.cons_ne_nil _ _), hone 1 (List.cons_ne_nil _ _), by simp⟩

end Journal

end RequestLog
