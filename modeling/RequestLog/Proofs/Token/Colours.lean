import RequestLog.Number.Literal
import RequestLog.Proofs.Token.Telling

/-!
Statuses in colour. The format whose lines show the status in colour shows the same as that format
written out, but for the characters that switch the colour on and off around a status that is a
number.
-/
namespace RequestLog

variable {σ : Type}

namespace Builtin

/-- A status as a host can set it: none, a text, or what counts as a whole number that has a
numeral. -/
inductive IsStatus : Value → Prop where
  | missing : IsStatus .null
  | text (s : String) : IsStatus (.text s)
  | bool (b : Bool) : IsStatus (.bool b)
  | int {n : Int} (h : Number.digitCount n.natAbs ≤ Number.maxDigits) : IsStatus (.int n)

/-- The whole number that a status counts as. -/
inductive CountsAs : Value → Int → Prop where
  | missing : CountsAs .null 200
  | empty : CountsAs (.text "") 200
  | no : CountsAs (.bool false) 200
  | yes : CountsAs (.bool true) 1
  | zero : CountsAs (.int 0) 200
  | code {n : Int} (h : n ≠ 0) : CountsAs (.int n) n

/-- The characters that switch a terminal to the colour of a status. -/
inductive HasColour : Int → String → Prop where
  | red {n : Int} (h : 500 ≤ n) : HasColour n "\x1b[31m"
  | yellow {n : Int} (h : 400 ≤ n) (h' : n ≤ 499) : HasColour n "\x1b[33m"
  | cyan {n : Int} (h : 300 ≤ n) (h' : n ≤ 399) : HasColour n "\x1b[36m"
  | green {n : Int} (h : 200 ≤ n) (h' : n ≤ 299) : HasColour n "\x1b[32m"
  | none {n : Int} (h : n ≤ 199) : HasColour n "\x1b[0m"

/-- The texts of a status without colours and with them. -/
inductive ShownAs : Value → String → String → Prop where
  | text {s : String} (h : s ≠ "") : ShownAs (.text s) s s
  | number {v : Value} {n : Int} {colour : String} (h : CountsAs v n) (hc : HasColour n colour) :
      ShownAs v (Number.intText n) (colour ++ Number.intText n ++ "\x1b[0m")

variable {v : Value} {n : Int} {snapshot : Snapshot σ} {plain coloured : String}

theorem colourCode_resetCode : colourCode resetCode = "\x1b[0m" := rfl

theorem hasColour_statusColour (n : Int) : HasColour n (colourCode (statusColour n)) := by
  unfold statusColour
  split
  · next h => exact .red h
  · split
    · next h h' => exact .yellow h' (by omega)
    · split
      · next h h' => exact .cyan h' (by omega)
      · split
        · next h h' => exact .green h' (by omega)
        · exact .none (by omega)

/-- A number has one colour only. -/
theorem HasColour.unique {c d : String} (hc : HasColour n c) (hd : HasColour n d) : c = d := by
  cases hc <;> cases hd <;> first | rfl | omega

/-- A status as it can be set has a literal. -/
theorem IsStatus.exists_literal (h : IsStatus v) : ∃ shown, v.literal = .ok shown := by
  cases h with
  | int h => exact ⟨_, Value.numeral_eq_ok.mpr ⟨h, rfl⟩⟩
  | _ => exact ⟨_, rfl⟩

theorem exists_countsAs (h : IsStatus v) (hn : ∀ s, v = .text s → s = "") : ∃ n, CountsAs v n := by
  cases h with
  | missing => exact ⟨200, .missing⟩
  | text s =>
    obtain rfl := hn s rfl
    exact ⟨200, .empty⟩
  | bool b =>
    cases b with
    | true => exact ⟨1, .yes⟩
    | false => exact ⟨200, .no⟩
  | @int n h =>
    by_cases hzero : n = 0
    · subst hzero
      exact ⟨200, .zero⟩
    · exact ⟨n, .code hzero⟩

theorem exists_shownAs (h : IsStatus v) : ∃ plain coloured, ShownAs v plain coloured := by
  by_cases htext : ∃ s, v = .text s ∧ s ≠ ""
  · obtain ⟨s, rfl, hs⟩ := htext
    exact ⟨s, s, .text hs⟩
  · obtain ⟨n, hn⟩ := exists_countsAs h fun s hs => by
      by_contra hne
      exact htext ⟨s, hs, hne⟩
    exact ⟨_, _, .number hn (hasColour_statusColour n)⟩

/-- What a status counts as is the whole part of what the token takes for it. -/
theorem CountsAs.toWhole (h : CountsAs v n) : (v.orElse (.int 200)).toWhole = .ok n ∧
    ∀ s, v.orElse (.int 200) ≠ .text s := by
  cases h with
  | code h => simp [Value.orElse, Value.truthy, Value.toWhole, h]
  | _ => simp [Value.orElse, Value.truthy, Value.toWhole]

/-- What a status counts as has a numeral. -/
theorem CountsAs.written (hn : CountsAs v n) (h : IsStatus v) :
    (Value.int n).written = .ok (Number.intText n) := by
  have hdigits : Number.digitCount n.natAbs ≤ Number.maxDigits := by
    cases hn with
    | code =>
      cases h with
      | int h => exact h
    | yes => decide
    | _ => decide
  exact Value.written_eq_ok.mpr (Value.numeral_eq_ok.mpr ⟨hdigits, rfl⟩)

/-- The status token has the text of the status, with colours exactly if the format has them. -/
theorem status_of_shownAs (hstatus : IsStatus snapshot.status)
    (h : ShownAs snapshot.status plain coloured) (args : List Value) :
    status snapshot args = .ok (.text (if isColoured snapshot then coloured else plain)) := by
  rw [status]
  generalize snapshot.status = v at h hstatus
  cases h with
  | @text s h => simp [Value.orElse, Value.truthy, h]
  | @number v n colour hn hc =>
    have hcode : colour = colourCode (statusColour n) := hc.unique (hasColour_statusColour n)
    obtain ⟨hwhole, hnot⟩ := hn.toWhole
    split
    · next s hs => exact absurd hs (hnot s)
    · rw [hwhole, hcode]
      simp only [bind, Except.bind, hn.written hstatus, pure, Except.pure, Builtin.coloured,
        colourCode_resetCode]

/-- The text of a token on a line, by the function that computes it. -/
def shown (f : Snapshot σ → List Value → Except Fault Value) (snapshot : Snapshot σ)
    (args : List String) : Except Fault String :=
  Formatter.pieceOf defaultPlaceholder (f snapshot (args.map .text))

/-- A line of the format that shows the status in colour, with a text in the place of the
status. -/
def lineAround (snapshot : Snapshot σ) (status : String) : Except Fault String := do
  return (← shown method snapshot Token.noArgs) ++ " " ++ (← shown url snapshot Token.noArgs) ++
    " " ++ status ++ " " ++ (← shown responseTime snapshot Token.noArgs) ++ " ms - "
    ++ (← shown responseHeader snapshot ["content-length"])

theorem exists_shown (f : Snapshot σ → List Value → Except Fault Value) (snapshot : Snapshot σ)
    (args : List String) (h : RequestLog.Told (f snapshot (args.map .text))) :
    ∃ text, shown f snapshot args = .ok text := by
  cases hp : shown f snapshot args with
  | ok text => exact ⟨text, rfl⟩
  | error fault =>
    obtain ⟨v, hv, hrefused⟩ := Formatter.exists_value_of_refused hp
    obtain ⟨text, htext⟩ := Value.exists_written_iff.mpr (h.text v hv)
    cases hrefused.symm.trans htext

/-- All but the method and the status of such a line can be told, whatever the request is. -/
theorem lineAround_eq (snapshot : Snapshot σ) : ∃ middle last, ∀ status,
    lineAround snapshot status =
    (shown method snapshot Token.noArgs).map fun method => method ++ " " ++ middle ++ " " ++
    status ++ last := by
  obtain ⟨url, hurl⟩ := exists_shown url snapshot Token.noArgs (told_urlOf _)
  obtain ⟨time, htime⟩ := exists_shown responseTime snapshot Token.noArgs (told_lapse ..)
  obtain ⟨length, hlength⟩ := exists_shown responseHeader snapshot ["content-length"]
    (told_namedHeader ..)
  refine ⟨url, " " ++ time ++ " ms - " ++ length, fun status => ?_⟩
  rw [lineAround, hurl, htime, hlength]
  rcases shown method snapshot Token.noArgs with _ | text
  · rfl
  · simp [bind, Except.bind, pure, Except.pure, Except.map, String.append_assoc]

/-- Such a line is made exactly if the method has a text, whatever the status is. -/
theorem lineAround_cases (snapshot : Snapshot σ) (status status' : String) :
    (snapshot.request.method.HasText ∧ ∃ line line',
      lineAround snapshot status = .ok line ∧ lineAround snapshot status' = .ok line') ∨
    ¬ snapshot.request.method.HasText ∧ ∃ fault,
      lineAround snapshot status = .error fault ∧ lineAround snapshot status' = .error fault := by
  obtain ⟨middle, last, hline⟩ := lineAround_eq snapshot
  rw [hline, hline]
  cases hm : shown method snapshot Token.noArgs with
  | ok text =>
    refine .inl ⟨?_, _, _, rfl, rfl⟩
    cases hv : snapshot.request.method with
    | null => exact Value.hasText_null
    | _ =>
      rw [← hv]
      refine Value.exists_written_iff.mp ⟨text, ?_⟩
      simpa [shown, method, Formatter.pieceOf, hv] using hm
  | error fault =>
    refine .inr ⟨fun htext => ?_, fault, rfl, rfl⟩
    obtain ⟨text, hshown⟩ := exists_shown method snapshot Token.noArgs (.ok htext)
    cases hm.symm.trans hshown

end Builtin

namespace Formatter

variable {host : Host σ} {registry : Registry σ}

/-- The format that shows the status in colour. -/
theorem parseFormat_colourFormat : parseFormat (Preset.expand Builtin.colourFormat) =
    [.text "", .token ⟨"method", [""], ":method"⟩, .text " ", .token ⟨"url", [""], ":url"⟩,
      .text " ", .token ⟨"status", [""], ":status"⟩, .text " ",
      .token ⟨"response-time", [""], ":response-time"⟩, .text " ms - ",
      .token ⟨"res", ["content-length"], ":res[content-length]"⟩, .text ""] := by
  decide +kernel

/-- A token that is a function of the snapshot is shown as the function has it. -/
theorem piece_of_builtin (hr : registry.table = (Registry.builtin host).table) {name : String}
    (described : String) (f : Snapshot σ → List Value → Except Fault Value)
    (hf : (name, Extractor.ofFunction described f) ∈ Builtin.extractors host)
    {snapshot : Snapshot σ} {args : List String} {piece : Except Fault String}
    (h : ∃ e s, registry.table.get? name = some e ∧
      piece = pieceOf defaultPlaceholder (e.call snapshot (args.map .text) s).1) :
    piece = Builtin.shown f snapshot args := by
  obtain ⟨e, s, he, rfl⟩ := h
  rw [hr, Registry.get?_builtin hf] at he
  obtain rfl := Option.some.inj he
  rw [Extractor.outcome_ofFunction, Builtin.shown]

section ColourFormat

variable (hr : registry.table = (Registry.builtin host).table) {given : String}
  (hg : Preset.expand given = Preset.expand Builtin.colourFormat) {snapshot : Snapshot σ}

include hr hg

/-- Only the URL can fail to be shown, of a status that can be set. -/
theorem notesFailures_of_colourFormat (hstatus : Builtin.IsStatus snapshot.status)
    (hurl : ∀ f, Builtin.urlOf snapshot.request.url = .error f → snapshot.HasLiteral) :
    (ofFormat registry given defaultPlaceholder).NotesFailures snapshot := by
  intro b hb s fault hfault
  obtain ⟨t, ht, e, he, rfl⟩ := mem_bindingsOf.mp hb
  have ht := mem_of_mem_distinctFrom ht
  rw [hg, parseFormat_colourFormat] at ht
  have hfound (described : String) (f : Snapshot σ → List Value → Except Fault Value)
      (hf : (t.name, Extractor.ofFunction described f) ∈ Builtin.extractors host) :
      f snapshot (t.args.map .text) = .error fault := by
    rw [hr, Registry.get?_builtin hf] at he
    obtain rfl := Option.some.inj he
    rwa [Extractor.outcome_ofFunction] at hfault
  simp only [Segment.tokens, List.mem_cons, List.not_mem_nil, or_false] at ht
  rcases ht with rfl | rfl | rfl | rfl | rfl
  · cases hfound "<extractor method>" Builtin.method
      (by simp [Builtin.extractors])
  · have hfailed : Builtin.urlOf snapshot.request.url = .error fault :=
      hfound "<extractor url>" Builtin.url (by simp [Builtin.extractors])
    exact ⟨Fault.hasLiteral_of_isOwn ((Builtin.told_urlOf _).fault fault hfailed),
      hurl fault hfailed⟩
  · obtain ⟨plain, coloured, hshown⟩ := Builtin.exists_shownAs hstatus
    have hfailed := hfound "<extractor status>" Builtin.status
      (by simp [Builtin.extractors])
    cases hfailed.symm.trans (Builtin.status_of_shownAs hstatus hshown _)
  · have hfailed := hfound "<extractor response-time>" Builtin.responseTime
      (by simp [Builtin.extractors])
    unfold Builtin.responseTime Builtin.lapse at hfailed
    rcases bind_eq_error.mp hfailed with hplaces | ⟨places, -, hlapse⟩
    · cases hplaces
    · split at hlapse <;> cases hlapse
  · cases hfound "<extractor res>" Builtin.responseHeader
      (by simp [Builtin.extractors])

/-- By whatever name the format is given, its lines are the same around the status. -/
theorem line_of_colourFormat (hnotes : host.TakesNotes)
    (hn : ∀ t ∈ Segment.tokens (parseFormat (Preset.expand given)),
      registry.contains t.name = true)
    (hfaults : (ofFormat registry given defaultPlaceholder).NotesFailures snapshot)
    {status : String}
    (hshown : Builtin.shown Builtin.status snapshot Token.noArgs = .ok status) (s : σ) :
    ((ofFormat registry given defaultPlaceholder).line host snapshot s).1 =
      Builtin.lineAround snapshot status := by
  obtain ⟨values, hvalues⟩ := resolveAll_ok hnotes hfaults s
  obtain ⟨piece, hline, hpiece⟩ := line_of_resolved hn hvalues
  rw [hline]
  rw [hg, parseFormat_colourFormat] at hpiece ⊢
  simp only [Segment.tokens, List.forall_mem_cons] at hpiece
  obtain ⟨hmethod, hurl, hstatus, htime, hlength, -⟩ := hpiece
  have hmethod : piece ⟨"method", [""], ":method"⟩ = Builtin.shown Builtin.method snapshot
    Token.noArgs :=
    piece_of_builtin hr "<extractor method>" Builtin.method (by simp [Builtin.extractors]) hmethod
  have hurl := piece_of_builtin hr "<extractor url>" Builtin.url (by simp [Builtin.extractors])
    hurl
  have hstatus := piece_of_builtin hr "<extractor status>" Builtin.status
    (by simp [Builtin.extractors]) hstatus
  have htime := piece_of_builtin hr "<extractor response-time>" Builtin.responseTime
    (by simp [Builtin.extractors]) htime
  have hlength := piece_of_builtin hr "<extractor res>" Builtin.responseHeader
    (by simp [Builtin.extractors]) hlength
  -- all tokens but the method have texts
  obtain ⟨url, hurl'⟩ := Builtin.exists_shown Builtin.url snapshot Token.noArgs
    (Builtin.told_urlOf _)
  obtain ⟨time, htime'⟩ := Builtin.exists_shown Builtin.responseTime snapshot Token.noArgs
    (Builtin.told_lapse ..)
  obtain ⟨length, hlength'⟩ := Builtin.exists_shown Builtin.responseHeader snapshot
    ["content-length"] (Builtin.told_namedHeader ..)
  rw [Builtin.lineAround, hurl', htime', hlength']
  simp only [joinPieces_text, joinPieces_token, hmethod, hurl.trans hurl', hstatus.trans hshown,
    htime.trans htime', hlength.trans hlength']
  have hnone : joinPieces piece [] = .ok "" := rfl
  rcases Builtin.shown Builtin.method snapshot Token.noArgs with fault | method
  · rfl
  · rw [hnone]
    simp [bind, Except.bind, pure, Except.pure, Except.map, String.append_assoc]

end ColourFormat

end Formatter

end RequestLog
