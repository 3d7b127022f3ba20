import RequestLog.Proofs.Notes.Boards
import RequestLog.Proofs.Notes.Hazards
import RequestLog.Proofs.PlainHost
import RequestLog.Proofs.Sink.Deeds

/-!
Notes after any history of the board. A note that can be worded reaches every handler on the board
once, in the order of the handlers. A number beyond some limit, in the message or among its
arguments, can keep a note from being worded, and so can an argument that refuses its text; then
the note fails and reaches nobody.
-/
namespace RequestLog

open RequestLog.Action (Records)
open RequestLog.Text (Wide)

namespace Message

variable {message : String} {text : Wide} {args : List Argument} {fault : Fault}

/-- Whether a message that cannot be filled in is followed by its arguments. -/
inductive Misfit.Plain : Misfit → Prop
  | mismatch : Plain .mismatch
  /-- An argument refuses its text as if it did not fit. -/
  | refused {r : Refusal} (alike : r.misfit = true) : Plain (.refused r)

/-- The text of a message with arguments. -/
inductive Worded (message : String) (args : List Argument) : Wide → Prop
  /-- Without arguments a message stands for itself. -/
  | plain (none : args = []) : Worded message args (.ofString message)
  | filled {text : Wide} (some : args ≠ []) (fits : fill message args = .ok text) :
      Worded message args text
  /-- A message whose places do not fit its arguments is followed by them. -/
  | beside {misfit : Misfit} {shown : List String} (some : args ≠ [])
      (misfits : fill message args = .error misfit) (plain : misfit.Plain)
      (literals : args.mapM Argument.literal = .ok shown) :
      Worded message args (.ofString (message ++ " " ++ Value.tupleOf shown))

/-- Why a message with arguments has no text. -/
inductive Unworded (message : String) (args : List Argument) : Fault → Prop
  | overflow {reason : String} (some : args ≠ [])
      (large : fill message args = .error (.overflow reason)) :
      Unworded message args (.messageOverflow reason)
  | tooLong (some : args ≠ []) (wide : fill message args = .error .tooLong) :
      Unworded message args .messageTooLong
  /-- An argument refuses its text in another way than one that does not fit. -/
  | refused {r : Refusal} (some : args ≠ []) (refuses : fill message args = .error (.refused r))
      (alien : r.misfit = false) : Unworded message args (.refused r)
  /-- The places do not fit, and an argument that is to follow the message refuses its literal. -/
  | beside {misfit : Misfit} {r : Refusal} (some : args ≠ [])
      (misfits : fill message args = .error misfit) (plain : misfit.Plain)
      (refuses : args.mapM Argument.literal = .error r) : Unworded message args (.refused r)

theorem text_of_plain {misfit : Misfit} (hsome : args ≠ [])
    (hmisfits : fill message args = .error misfit)
    (hplain : misfit.Plain) : Message.text message args = withArguments message args := by
  rw [Message.text, if_neg (mt List.isEmpty_iff.mp hsome), hmisfits]
  cases hplain with
  | mismatch => rfl
  | refused alike => exact if_pos alike

theorem Worded.text_eq (h : Worded message args text) : Message.text message args = .ok text := by
  rcases h with ⟨rfl⟩ | ⟨hsome, hfits⟩ | ⟨hsome, hmisfits, hplain, hliterals⟩
  · rfl
  · rw [Message.text, if_neg (mt List.isEmpty_iff.mp hsome), hfits]
  · rw [text_of_plain hsome hmisfits hplain, withArguments, hliterals]
    rfl

theorem Unworded.text_eq (h : Unworded message args fault) :
    Message.text message args = .error fault := by
  rcases h with ⟨hsome, hlarge⟩ | ⟨hsome, hwide⟩ | ⟨hsome, hrefuses, halien⟩ |
    ⟨hsome, hmisfits, hplain, hrefuses⟩
  · rw [Message.text, if_neg (mt List.isEmpty_iff.mp hsome), hlarge]
  · rw [Message.text, if_neg (mt List.isEmpty_iff.mp hsome), hwide]
  · rw [Message.text, if_neg (mt List.isEmpty_iff.mp hsome), hrefuses]
    exact if_neg (Bool.not_eq_true _ ▸ halien)
  · rw [text_of_plain hsome hmisfits hplain, withArguments, hrefuses]
    rfl

theorem worded_or_unworded_of_plain {misfit : Misfit} (hsome : args ≠ [])
    (hmisfits : fill message args = .error misfit) (hplain : misfit.Plain) :
    (∃ text, Worded message args text) ∨ ∃ fault, Unworded message args fault := by
  cases hliterals : args.mapM Argument.literal with
  | ok shown => exact .inl ⟨_, .beside hsome hmisfits hplain hliterals⟩
  | error r => exact .inr ⟨_, .beside hsome hmisfits hplain hliterals⟩

theorem worded_or_unworded (message : String) (args : List Argument) :
    (∃ text, Worded message args text) ∨ ∃ fault, Unworded message args fault := by
  by_cases hnone : args = []
  · exact .inl ⟨_, .plain hnone⟩
  rcases hfill : fill message args with ⟨_ | reason | _ | r⟩ | text
  · exact worded_or_unworded_of_plain hnone hfill .mismatch
  · exact .inr ⟨_, .overflow hnone hfill⟩
  · exact .inr ⟨_, .tooLong hnone hfill⟩
  · cases halike : r.misfit with
    | true => exact worded_or_unworded_of_plain hnone hfill (.refused halike)
    | false => exact .inr ⟨_, .refused hnone hfill halike⟩
  · exact .inl ⟨text, .filled hnone hfill⟩

theorem hazard_of_literals {r : Refusal} (h : args.mapM Argument.literal = .error r) :
    Hazard message.toList args := by
  by_contra hnone
  have hall : ∀ a ∈ args, ∃ shown, a.literal = .ok shown := by
    intro a ha
    cases hliteral : a.literal with
    | ok shown => exact ⟨shown, rfl⟩
    | error r => exact absurd (.inr ⟨a, ha, .unshown (.inr hliteral)⟩) hnone
  obtain ⟨shown, hshown⟩ := exists_mapM_iff.mpr hall
  cases h.symm.trans hshown

theorem Unworded.hazard (h : Unworded message args fault) : Hazard message.toList args := by
  rcases h with ⟨-, hlarge⟩ | ⟨-, hwide⟩ | ⟨-, hrefuses, -⟩ | ⟨-, -, -, hliterals⟩
  · exact hazard_of_fillFrom hlarge (by simp)
  · exact hazard_of_fillFrom hwide (by simp)
  · exact hazard_of_fillFrom hrefuses (by simp)
  · exact hazard_of_literals hliterals

end Message

namespace Host

variable {σ : Type} {host : Host σ} {board : Board} {message : String} {args : List Argument}
  {fault : Fault} {s : σ}

theorem currentBoard_of_board (h : host.board s = some board) :
    host.currentBoard s = (.ok board, s) := by
  simp only [currentBoard, h]

/-- Without handlers a note is not even worded. -/
theorem note_of_empty (h : host.board s = some board) (he : board.handlers = [])
    (name message : String)
    (args : List Argument) : host.note name message args s = (.ok (), s) := by
  rw [note, Action.andThen_of_ok (currentBoard_of_board h), if_pos (List.isEmpty_iff.mpr he)]
  rfl

/-- A note that has no text fails before any handler is called. -/
theorem note_eq_of_unworded (h : host.board s = some board) (he : board.handlers ≠ [])
    (ht : Message.text message args = .error fault) (name : String) :
    host.note name message args s = (.error fault, s) := by
  rw [note, Action.andThen_of_ok (currentBoard_of_board h), if_neg (mt List.isEmpty_iff.mp he), ht]
  rfl

end Host

theorem Deed.notes_handlers (name : String) (text : Wide) (handlers : List String) :
    Deed.notes name text (handlers.map .handler) =
      handlers.map fun handler => .note handler name text (.ok ()) := by
  rw [Deed.notes, List.flatMap_map]
  exact List.map_eq_flatMap.symm

namespace Host

variable {σ : Type}

/-- After any history of a board on which different handlers were in the beginning, the handlers on
it are those that were put there and not taken off since, in the order in which they came. If they
do not fail, a note that has a text does not fail, and is handed to each of them once. A note that
has none fails before any of them is called, if there are any; this happens only with a number that
may be beyond a limit or an argument that refuses its text. -/
theorem note_of_changes (host : Host σ)
    (hr : ∀ handler name text s, (host.receive handler name text s).1 = .ok ())
    (names : List String) (hn : names.Nodup) (changes : List Board.Change) (s : σ)
    (hs : host.board s = some (changes.foldl Board.change ⟨names.map .handler⟩))
    (name message : String) (args : List Argument) :
    let note := host.note name message args
    ∃ registered : List String,
      Board.Lists (changes.foldl Board.change ⟨names.map .handler⟩)
        ((names.map fun h => Board.Change.add (.handler h)) ++ changes).reverse registered ∧
      (registered = [] → note s = (.ok (), s)) ∧
      (∀ text, Message.Worded message args text → (note s).1 = .ok () ∧
        Records (host.recorded.note name message args) note s
          (registered.map fun handler => .note handler name text (.ok ()))) ∧
      (∀ fault, Message.Unworded message args fault → Message.Hazard message.toList args ∧
        (registered ≠ [] → note s = (.error fault, s) ∧
          Records (host.recorded.note name message args) note s [])) ∧
      ((∃ text, Message.Worded message args text) ∨
        ∃ fault, Message.Unworded message args fault) := by
  intro note
  obtain ⟨registered, hlists⟩ := Board.exists_lists hn changes
  have hhandlers : host.handlers s = registered.map .handler := by
    rw [handlers, hs]
    exact hlists.handlers
  have hcallable : ∀ offer ∈ host.handlers s, ∃ handler, offer = .handler handler := by
    rw [hhandlers]
    intro offer ho
    obtain ⟨handler, -, rfl⟩ := List.mem_map.mp ho
    exact ⟨handler, rfl⟩
  refine ⟨registered, hlists, fun hempty => ?_, fun text htext => ⟨?_, ?_⟩,
    fun fault hfault => ⟨hfault.hazard, fun hsome => ?_⟩, Message.worded_or_unworded message args⟩
  · exact note_of_empty hs (by rw [hlists.handlers, hempty, List.map_nil]) name message args
  · exact note_ok_of_callable hr hcallable name htext.text_eq
  · rw [← Deed.notes_handlers, ← hhandlers]
    exact note_recorded_of_callable hr hcallable name htext.text_eq
  · have hsomebody : (changes.foldl Board.change ⟨names.map .handler⟩).handlers ≠ [] := by
      rw [hlists.handlers]
      exact mt List.map_eq_nil_iff.mp hsome
    have hfails : note s = (.error fault, s) := note_eq_of_unworded hs hsomebody hfault.text_eq
      name
    refine ⟨hfails, (note_of_unworded ?_ hfault.text_eq name).2⟩
    rw [hhandlers]
    exact mt List.map_eq_nil_iff.mp hsome

/-- A handler that is put on a board twice, and another one that is taken off it. -/
def pagerForBell : List Board.Change :=
  [.add (.handler "pager"), .add (.handler "pager"), .remove (.handler "bell")]

/-- A place for a character is given a text of two, the number of half a character, and a number
that is no code point. -/
theorem note_of_changes_pager :
    (∀ handler name text s, (PlainHost.pagedHost.receive handler name text s).1 = .ok ()) ∧
    ["bell"].Nodup ∧
    PlainHost.pagedHost.board (0, []) =
      some (pagerForBell.foldl Board.change ⟨["bell"].map .handler⟩) ∧
    Message.Worded "%c" [.value (.text "ab")] (.ofString "%c ('ab',)") ∧
    Records (PlainHost.pagedHost.recorded.note "n" "%c" [.value (.text "ab")])
      (PlainHost.pagedHost.note "n" "%c" [.value (.text "ab")]) (0, [])
      [.note "pager" "n" (.ofString "%c ('ab',)") (.ok ())] ∧
    Message.Worded "%c" [.value (.int 0xd800)] [0xd800] ∧
    Records (PlainHost.pagedHost.recorded.note "n" "%c" [.value (.int 0xd800)])
      (PlainHost.pagedHost.note "n" "%c" [.value (.int 0xd800)]) (0, [])
      [.note "pager" "n" [0xd800] (.ok ())] ∧
    Message.Unworded "%c" [.value (.int 0x110000)]
      (.messageOverflow "%c arg not in range(0x110000)") ∧
    PlainHost.pagedHost.note "n" "%c" [.value (.int 0x110000)] (0, []) =
      (.error (.messageOverflow "%c arg not in range(0x110000)"), (0, [])) := by
  have hreceives : ∀ handler name text s, (PlainHost.pagedHost.receive handler name text s).1 =
    .ok () :=
    fun _ _ _ _ => rfl
  have hboard : PlainHost.pagedHost.board (0, []) =
      some (pagerForBell.foldl Board.change ⟨["bell"].map .handler⟩) := by
    rfl
  have hmisfits : Message.fill "%c" [.value (.text "ab")] = .error .mismatch := by rfl
  have hliterals : [Argument.value (.text "ab")].mapM Argument.literal = .ok ["'ab'"] := by rfl
  have hworded : Message.Worded "%c" [.value (.text "ab")] (.ofString "%c ('ab',)") :=
    .beside (by simp) hmisfits .mismatch hliterals
  have hhalf : Message.Worded "%c" [.value (.int 0xd800)] [0xd800] := .filled (by simp) (by rfl)
  have hunworded : Message.Unworded "%c" [.value (.int 0x110000)]
      (.messageOverflow "%c arg not in range(0x110000)") :=
    .overflow (by simp) (by rfl)
  have hnote := note_of_changes PlainHost.pagedHost hreceives ["bell"] (List.nodup_singleton _)
    pagerForBell (0, []) hboard "n" "%c"
  obtain ⟨registered, hlists, -, hdelivered, -⟩ := hnote [.value (.text "ab")]
  obtain ⟨registered₂, hlists₂, -, hdelivered₂, -⟩ := hnote [.value (.int 0xd800)]
  obtain ⟨registered₃, hlists₃, -, -, hfailed, -⟩ := hnote [.value (.int 0x110000)]
  have honly : ∀ names, Board.Lists (pagerForBell.foldl Board.change ⟨["bell"].map .handler⟩)
      ((["bell"].map fun h => Board.Change.add (.handler h)) ++ pagerForBell).reverse names →
      names = ["pager"] := by
    intro names hlists
    have hinjective : Function.Injective HandlerOffer.handler :=
      fun _ _ h => HandlerOffer.handler.inj h
    have hhandlers : ["pager"].map HandlerOffer.handler = names.map .handler := hlists.handlers
    exact (List.map_injective_iff.mpr hinjective hhandlers).symm
  refine ⟨hreceives, List.nodup_singleton _, hboard, hworded, ?_, hhalf, ?_, hunworded, ?_⟩
  · rw [honly _ hlists] at hdelivered
    exact (hdelivered _ hworded).2
  · rw [honly _ hlists₂] at hdelivered₂
    exact (hdelivered₂ _ hhalf).2
  · apply ((hfailed _ hunworded).2 ?_).1
    rw [honly _ hlists₃]
    exact List.cons_ne_nil _ _

end Host

end RequestLog
