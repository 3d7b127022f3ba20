import RequestLog.Proofs.Watch.Calls
import RequestLog.Proofs.Notes
import RequestLog.Sink.Emitter

/-!
What an emitter does to a stream and to the handlers of notes, in the order in which it does it.
The deeds are written down beside the host's state, as the calls of a logger are; neither the
stream nor the handlers see them.
-/
namespace RequestLog

/-- A call of a stream or of a handler of notes, with what came of it. -/
inductive Deed where
  | write (out : Output) (outcome : Except Fault Unit)
  | flush (outcome : Except Fault Unit)
  | note (handler name : String) (text : Text.Wide) (outcome : Except Fault Unit)

/-- The deeds done so far, and the state of the host. -/
abbrev Recorded (σ : Type) := List Deed × σ

/-- A note taken by one handler after the other. -/
def Deed.notes (name : String) (text : Text.Wide) (handlers : List HandlerOffer) : List Deed :=
  handlers.flatMap fun
    | .handler handler => [.note handler name text (.ok ())]
    | .value _ => []

namespace Action

variable {σ α : Type}

/-- An action that is written down as a deed once it is over. -/
def recorded (deed : Except Fault α → Deed) (act : Action σ α) : Action (Recorded σ) α := fun w =>
  ((act w.2).1, (w.1 ++ [deed (act w.2).1], (act w.2).2))

theorem Records.of_recorded (deed : Except Fault α → Deed) (act : Action σ α) (s : σ) :
    Records (act.recorded deed) act s [deed (act s).1] :=
  fun _ => rfl

end Action

open RequestLog.Action (Records)

namespace Stream

variable {σ : Type}

def recorded (s : Stream σ) : Stream (Recorded σ) where
  kind := s.kind
  shown w := s.shown w.2
  nature := s.nature
  encoding := s.encoding
  write := s.write.map fun write out => (write out).recorded (.write out)
  flush := s.flush.map fun flush => flush.recorded .flush
  close := s.close.map Action.onHost

end Stream

namespace Host

variable {σ : Type} {host : Host σ}

def recorded (host : Host σ) : Host (Recorded σ) where
  now w := host.now w.2
  board w := host.board w.2
  setBoard board w := (w.1, host.setBoard board w.2)
  receive handler name text := (host.receive handler name text).recorded (.note handler name text)
  console c := (host.console c).recorded
  codecs := host.codecs

/-- What a note comes to, which has a text or cannot be worded. -/
inductive Noting (host : Host σ) (name : String) (text : Except Fault Text.Wide) (s : σ) :
    Except Fault Unit → List Deed → Prop where
  | delivered {words : Text.Wide} (worded : text = .ok words) :
      Noting host name text s (.ok ()) (Deed.notes name words (host.handlers s))
  /-- Nobody listens, and the note is not even worded. -/
  | unheard (nobody : host.handlers s = []) : Noting host name text s (.ok ()) []
  | unworded {fault : Fault} (refused : text = .error fault) (heard : host.handlers s ≠ []) :
      Noting host name text s (.error fault) []

/-- A note that has a text does not fail. -/
theorem Noting.ok {name : String} {words : Text.Wide} {s : σ} {answer : Except Fault Unit}
    {deeds : List Deed} (h : host.Noting name (.ok words) s answer deeds) : answer = .ok () := by
  cases h with
  | delivered => rfl
  | unheard => rfl
  | unworded refused => cases refused

/-- A note that has a text is handed to whoever is on the board. -/
theorem Noting.eq_notes {name : String} {words : Text.Wide} {s : σ} {answer : Except Fault Unit}
    {deeds : List Deed} (h : host.Noting name (.ok words) s answer deeds) :
    deeds = Deed.notes name words (host.handlers s) := by
  cases h with
  | delivered worded =>
    cases worded
    rfl
  | unheard nobody =>
    rw [nobody]
    rfl
  | unworded refused => cases refused

section Delivery

variable {message : String} {text : Text.Wide} {args : List Argument}
    {handlers : List HandlerOffer}
  {s : σ}

theorem deliver_recorded (hr : ∀ handler name text s,
    (host.receive handler name text s).1 = .ok ())
    (hc : ∀ offer ∈ handlers, ∃ handler, offer = .handler handler) (name : String)
    (text : Text.Wide) (s : σ) :
    Records (host.recorded.deliver name text handlers) (host.deliver name text handlers) s
      (Deed.notes name text handlers) := by
  induction handlers generalizing s with
  | nil => exact Records.done ()
  | cons offer rest ih =>
    obtain ⟨handler, rfl⟩ := hc offer List.mem_cons_self
    have hok := hr handler name text s
    have hfirst : Records (host.recorded.receive handler name text)
        (host.receive handler name text) s [.note handler name text (.ok ())] := by
      rw [← hok]
      exact Records.of_recorded (.note handler name text) (host.receive handler name text) s
    have hrest := ih (fun offer ho => hc offer (List.mem_cons_of_mem _ ho))
    exact hfirst.andThen (Prod.ext hok rfl) (hrest _)

/-- Looking for the board is no deed, also if it has to be made. -/
theorem currentBoard_recorded (host : Host σ) (s : σ) :
    Records host.recorded.currentBoard host.currentBoard s [] := by
  apply Records.silent
  intro deeds
  simp only [currentBoard, recorded]
  cases host.board s <;> rfl

theorem note_recorded_of_callable
    (hr : ∀ handler name text s, (host.receive handler name text s).1 = .ok ())
    (hc : ∀ offer ∈ host.handlers s, ∃ handler, offer = .handler handler) (name : String)
    (ht : Message.text message args = .ok text) :
    Records (host.recorded.note name message args) (host.note name message args) s
      (Deed.notes name text (host.handlers s)) := by
  obtain ⟨board, t, hboard, hhandlers⟩ := host.exists_currentBoard s
  rw [hhandlers] at hc ⊢
  refine (host.currentBoard_recorded s).andThen hboard ?_
  split
  · next hempty =>
    rw [List.isEmpty_iff.mp hempty]
    exact Records.done ()
  · rw [ht]
    exact deliver_recorded hr hc name text t

theorem note_of_nobody (hn : host.handlers s = []) (name message : String) (args : List Argument) :
    (host.note name message args s).1 = .ok () ∧
      Records (host.recorded.note name message args) (host.note name message args) s [] := by
  obtain ⟨board, t, hboard, hhandlers⟩ := host.exists_currentBoard s
  have hempty : board.handlers.isEmpty = true := by rw [← hhandlers, hn]; rfl
  constructor
  · rw [note, Action.andThen_of_ok hboard, if_pos hempty]
    rfl
  · refine (host.currentBoard_recorded s).andThen hboard ?_
    rw [if_pos hempty, if_pos hempty]
    exact Records.done ()

theorem note_of_unworded {fault : Fault} (hs : host.handlers s ≠ [])
    (ht : Message.text message args = .error fault) (name : String) :
    (host.note name message args s).1 = .error fault ∧
      Records (host.recorded.note name message args) (host.note name message args) s [] := by
  obtain ⟨board, t, hboard, hhandlers⟩ := host.exists_currentBoard s
  have hsome : ¬ board.handlers.isEmpty = true := by rwa [List.isEmpty_iff, ← hhandlers]
  constructor
  · rw [note, Action.andThen_of_ok hboard, if_neg hsome, ht]
    rfl
  · refine (host.currentBoard_recorded s).andThen hboard ?_
    rw [if_neg hsome, if_neg hsome, ht]
    exact Records.silent fun deeds => rfl

/-- A note comes to deliveries, or to a fault if it is heard and cannot be worded. -/
theorem TakesNotes.note_recorded (h : host.TakesNotes) (name message : String)
    (args : List Argument) (s : σ) :
    ∃ deeds, host.Noting name (Message.text message args) s (host.note name message args s).1
      deeds ∧
      Records (host.recorded.note name message args) (host.note name message args) s deeds := by
  by_cases hn : host.handlers s = []
  · obtain ⟨hok, hrecords⟩ := note_of_nobody hn name message args
    exact ⟨[], hok ▸ .unheard hn, hrecords⟩
  · rcases ht : Message.text message args with fault | words
    · obtain ⟨hfails, hrecords⟩ := note_of_unworded hn ht name
      exact ⟨[], hfails ▸ .unworded rfl hn, hrecords⟩
    · exact ⟨_, h.note_ok name ⟨words, ht⟩ s ▸ .delivered rfl,
        note_recorded_of_callable h.receives (fun _ ho => h.callable_of_mem ho) name ht⟩

end Delivery

end Host

namespace StreamEmitter

variable {σ : Type}

/-- An emitter whose writes and flushes are written down. -/
def recorded (e : StreamEmitter σ) : StreamEmitter (Recorded σ) :=
  ⟨e.label, e.stream.map Stream.recorded, e.binary, e.coding, e.separator⟩

theorem target_recorded (e : StreamEmitter σ) : e.recorded.target = e.target.recorded := by
  cases h : e.stream with
  | none =>
    rw [target, target, recorded, h]
    rfl
  | some s =>
    rw [target, target, recorded, h]
    rfl

end StreamEmitter

end RequestLog
