import Mathlib.Data.List.TakeWhile
import RequestLog.Formatter
import RequestLog.Proofs.Refusals

/-!
Notes that reach their handlers. A message all of whose places show literals is filled with as many
arguments as it has places, unless one of the arguments refuses its literal; so a note of the log
about things that have literals never fails by itself, and a host whose handlers do not fail takes
it.
-/
namespace RequestLog

namespace Message

open Text (Wide)

variable {a : Argument} {args : List Argument} {plain rest : List Char} {fuel : Nat}

theorem ne_percent (h : '%' ∉ plain) : ∀ c ∈ plain, (c != '%') = true := by
  intro c hc
  rw [bne_iff_ne]
  rintro rfl
  exact h hc

/-- A text without places is filled by itself. -/
theorem fillFrom_plain (h : '%' ∉ plain) :
    fillFrom (fuel + 1) plain [] = .ok (.ofChars plain) := by
  have ht : plain.takeWhile (· != '%') = plain := List.takeWhile_eq_self_iff.mpr (ne_percent h)
  simp [fillFrom, ht]

theorem readPlace_literal (rest : List Char) (args : List Argument) :
    readPlace ('r' :: rest) args =
      .ok (⟨⟨false, false, false, false, false⟩, none, none, 'r'⟩, rest, args) := rfl

theorem showArgument_literal (a : Argument) :
    showArgument ⟨⟨false, false, false, false, false⟩, none, none, 'r'⟩ a =
      (a.literal.map Wide.ofString).mapError .refused := by
  rcases h : a.literal with r | shown <;>
    simp [showArgument, roomLimit, showWithin, charactersOf, h, fit, fitWith, cut, Number.padLeft,
      Wide.ofString, Except.map, Except.mapError, Bind.bind, Except.bind, Pure.pure, Except.pure]

/-- A place that shows a literal is filled with the literal of the next argument. -/
theorem fillFrom_literal (h : '%' ∉ plain) :
    fillFrom (fuel + 1) (plain ++ '%' :: 'r' :: rest) (a :: args) = (do
      let shown ← (a.literal.map Wide.ofString).mapError .refused
      return Wide.ofChars plain ++ shown ++ (← fillFrom fuel rest args)) := by
  have ht : (plain ++ '%' :: 'r' :: rest).takeWhile (· != '%') = plain := by
    rw [List.takeWhile_append_of_pos (ne_percent h)]
    simp
  rw [fillFrom, ht, List.drop_left]
  simp [readPlace_literal, showArgument_literal, Bind.bind, Except.bind]

/-- The message of texts each of which but the last is followed by a place that shows a literal. -/
def withPlaces : List (List Char) → List Char → List Char
  | [], last => last
  | plain :: more, last => plain ++ '%' :: 'r' :: withPlaces more last

/-- What such a message becomes with literals in its places. -/
def withLiterals : List (List Char) → List Char → List String → Wide
  | plain :: more, last, shown :: rest =>
    .ofChars plain ++ .ofString shown ++ withLiterals more last rest
  | _, last, _ => .ofChars last

theorem count_withPlaces {texts : List (List Char)} {last : List Char}
    (ht : ∀ t ∈ texts, '%' ∉ t) (hl : '%' ∉ last) :
    (withPlaces texts last).count '%' = texts.length := by
  induction texts with
  | nil => exact List.count_eq_zero.mpr hl
  | cons plain more ih =>
    have hplain : plain.count '%' = 0 := List.count_eq_zero.mpr (ht plain List.mem_cons_self)
    have hmore := ih fun t h => ht t (List.mem_cons_of_mem _ h)
    simp [withPlaces, List.count_append, hplain, hmore]

/-- The places are filled with the literals of the arguments, or the first literal that is refused
is what goes wrong. -/
theorem fillFrom_withPlaces {texts : List (List Char)} {last : List Char}
    (ht : ∀ t ∈ texts, '%' ∉ t) (hl : '%' ∉ last) (hargs : args.length = texts.length) :
    fillFrom (texts.length + 1) (withPlaces texts last) args =
      ((args.mapM Argument.literal).map (withLiterals texts last)).mapError .refused := by
  induction texts generalizing args with
  | nil =>
    obtain rfl := List.length_eq_zero_iff.mp hargs
    exact fillFrom_plain hl
  | cons plain more ih =>
    obtain ⟨a, rest, rfl⟩ := List.exists_cons_of_length_eq_add_one hargs
    have hmore := ih (fun t h => ht t (List.mem_cons_of_mem _ h)) (Nat.succ_inj.mp hargs)
    rw [withPlaces, List.length_cons, fillFrom_literal (ht plain List.mem_cons_self), hmore,
      List.mapM_cons]
    rcases a.literal with r | shown
    · rfl
    · rcases rest.mapM Argument.literal with r | shownRest <;> rfl

/-- A message all of whose places show literals has a text exactly if every argument has a literal:
the message with these in its places. Otherwise the first refusal is the fault. -/
theorem text_of_places {message : String} (texts : List (List Char)) (last : List Char)
    (hm : message.toList = withPlaces texts last) (ht : ∀ t ∈ texts, '%' ∉ t) (hl : '%' ∉ last)
    (args : List Argument) (hargs : args.length = texts.length) :
    text message args =
      ((args.mapM Argument.literal).map (withLiterals texts last)).mapError .refused := by
  have hf : fill message args =
      ((args.mapM Argument.literal).map (withLiterals texts last)).mapError .refused := by
    rw [fill, hm, count_withPlaces ht hl]
    exact fillFrom_withPlaces ht hl hargs
  cases args with
  | nil =>
    obtain rfl := List.length_eq_zero_iff.mp hargs.symm
    exact congrArg (fun cs => Except.ok (Wide.ofChars cs)) hm
  | cons a rest =>
    -- the message followed by its arguments meets the same refusal as the places
    rw [text, List.isEmpty_cons, if_neg Bool.false_ne_true, hf, withArguments]
    rcases (a :: rest).mapM Argument.literal with r | shown
    · exact ite_self _
    · rfl

/-- Whether such a message has a text depends on its arguments alone. -/
theorem exists_text_of_places {message : String} (texts : List (List Char)) (last : List Char)
    (hm : message.toList = withPlaces texts last) (ht : ∀ t ∈ texts, '%' ∉ t) (hl : '%' ∉ last)
    (args : List Argument) (hargs : args.length = texts.length) :
    (∃ t, text message args = .ok t) ↔ ∀ a ∈ args, a.HasLiteral := by
  rw [text_of_places texts last hm ht hl args hargs]
  simp only [mapError_eq_ok, map_eq_ok]
  rw [exists_comm]
  simp only [exists_and_left, exists_eq', and_true, exists_mapM_iff, Argument.HasLiteral]

theorem exists_text_tokenFailure {fault key shown : Argument} (hf : fault.HasLiteral)
    (hk : key.HasLiteral) (hs : shown.HasLiteral) :
    ∃ t, text "got %r resolving token %r for %r" [fault, key, shown] = .ok t := by
  rw [exists_text_of_places ["got ".toList, " resolving token ".toList, " for ".toList] []
    (by decide +kernel) (by decide +kernel) (by decide) _ rfl]
  simp [hf, hk, hs]

theorem exists_text_skipFailure {fault shown : Argument} (hf : fault.HasLiteral)
    (hs : shown.HasLiteral) :
    ∃ t, text "got %r calling skip predicate %r" [fault, shown] = .ok t := by
  rw [exists_text_of_places ["got ".toList, " calling skip predicate ".toList] []
    (by decide +kernel) (by decide +kernel) (by decide) _ rfl]
  simp [hf, hs]

end Message

/-- The name by which a handler is known. -/
def HandlerOffer.name? : HandlerOffer → Option String
  | handler name => some name
  | value _ => none

namespace Host

variable {σ : Type} {host : Host σ}

/-- The handlers of the current board, if there is one. -/
def handlers (host : Host σ) (s : σ) : List HandlerOffer :=
  (host.board s).elim [] Board.handlers

theorem exists_currentBoard (host : Host σ) (s : σ) :
    ∃ board t, host.currentBoard s = (.ok board, t) ∧ host.handlers s = board.handlers := by
  unfold currentBoard handlers
  cases host.board s with
  | none => exact ⟨Board.empty, _, rfl, rfl⟩
  | some board => exact ⟨board, _, rfl, rfl⟩

/-- A handler that is on the board once, whatever else happens to the board. -/
def Listens (host : Host σ) (handler : String) : Prop :=
  ∀ s, ((host.handlers s).filterMap HandlerOffer.name?).count handler = 1

section Delivery

variable {name message : String} {text : Text.Wide} {args : List Argument}
  {handlers : List HandlerOffer} {s : σ}

/-- Handlers that can be called and do not fail are all handed a note. -/
theorem deliver_ok (hr : ∀ handler name text s, (host.receive handler name text s).1 = .ok ())
    (hc : ∀ offer ∈ handlers, ∃ handler, offer = .handler handler) (name : String)
    (text : Text.Wide) (s : σ) : (host.deliver name text handlers s).1 = .ok () := by
  induction handlers generalizing s with
  | nil => rfl
  | cons offer rest ih =>
    obtain ⟨handler, rfl⟩ := hc offer List.mem_cons_self
    rw [deliver, Action.andThen_of_fst (hr handler name text s)]
    exact ih (fun offer ho => hc offer (List.mem_cons_of_mem _ ho)) _

theorem note_ok_of_callable
    (hr : ∀ handler name text s, (host.receive handler name text s).1 = .ok ())
    (hc : ∀ offer ∈ host.handlers s, ∃ handler, offer = .handler handler) (name : String)
    (ht : Message.text message args = .ok text) : (host.note name message args s).1 = .ok () := by
  obtain ⟨board, t, hboard, hhandlers⟩ := host.exists_currentBoard s
  rw [note, Action.andThen_of_ok hboard, ht]
  split
  · rfl
  · exact deliver_ok hr (hhandlers ▸ hc) name text t

end Delivery

/-- The handlers of notes of a host can be called, and none of them fails. -/
structure TakesNotes (host : Host σ) : Prop where
  callable : ∀ s b, host.board s = some b → ∀ offer ∈ b.handlers, ∃ name, offer = .handler name
  receives : ∀ handler name text s, (host.receive handler name text s).1 = .ok ()

namespace TakesNotes

/-- A host takes notes if there is nothing but handlers on its board, and they do not fail. -/
theorem of_handlers (names : List String)
    (hboard : ∀ s, host.board s = some ⟨names.map .handler⟩)
    (hreceives : ∀ handler name text s, (host.receive handler name text s).1 = .ok ()) :
    host.TakesNotes where
  callable s b hb offer ho := by
    rw [hboard] at hb
    cases hb
    obtain ⟨name, -, rfl⟩ := List.mem_map.mp ho
    exact ⟨name, rfl⟩
  receives := hreceives

theorem callable_of_mem (h : host.TakesNotes) {s : σ} {offer : HandlerOffer}
    (ho : offer ∈ host.handlers s) : ∃ handler, offer = .handler handler := by
  cases hb : host.board s with
  | none =>
    rw [handlers, hb] at ho
    cases ho
  | some board =>
    rw [handlers, hb] at ho
    exact h.callable s board hb offer ho

theorem note_ok (h : host.TakesNotes) (name : String) {message : String} {args : List Argument}
    (ht : ∃ t, Message.text message args = .ok t) (s : σ) :
    (host.note name message args s).1 = .ok () := by
  obtain ⟨t, ht⟩ := ht
  exact note_ok_of_callable h.receives (fun _ ho => h.callable_of_mem ho) name ht

end TakesNotes

end Host

end RequestLog
