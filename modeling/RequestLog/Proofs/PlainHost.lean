import RequestLog.Gateway.Middleware
import RequestLog.Proofs.Format.Settings
import RequestLog.Sink.Directory

/-!
A plain host, which no handler of notes belongs to and whose state is the lines that it was handed.
-/
namespace RequestLog.PlainHost

/-- A stream that takes everything. -/
def stream : Stream (List String) where
  kind := "plain"
  shown _ := .ok "<plain stream>"
  nature := .textual
  encoding := .null
  write := .able fun
    | .text s => Action.change (· ++ [s])
    | .octets _ => Action.done ()
  flush := .able (Action.done ())
  close := .able (Action.done ())

/-- Codecs of a host that knows no further ones. -/
def codecs : Codecs where
  charset _ := false
  treatment _ := false
  encode name _ _ := .error (.unknownCharset name)

/-- A host without handlers of notes. -/
def host : Host (List String) where
  now _ := ⟨0, 0⟩
  board _ := some Board.empty
  setBoard _ lines := lines
  receive _ _ _ := Action.done ()
  console _ := stream
  codecs := codecs

theorem takesNotes : host.TakesNotes :=
  .of_handlers [] (fun _ => rfl) fun _ _ _ _ => rfl

/-- The plain host with one handler of notes. -/
def listeningHost : Host (List String) :=
  { host with board := fun _ => some ⟨[.handler "pager"]⟩ }

/-- The plain host with one handler of notes, which fails. -/
def deafHost : Host (List String) :=
  { listeningHost with receive := fun _ _ _ => Action.fail .formatUndefined }

/-- How an object refuses its texts. -/
def refusal : Refusal where
  category := "ValueError"
  message := "no text"
  misfit := true

/-- An object that refuses its texts. -/
def mute : Value := .object ⟨"Mute", 0, .error refusal, .error refusal⟩

/-- A failure that cannot be described. -/
def secret : Fault := .host "RuntimeError" [mute] .none

/-- A failure that refuses its code. -/
def unreadable : Fault := .host "RuntimeError" [] (.refused refusal)

/-- An emitter that keeps every line. -/
def emitter : Emitter (List String) where
  kind := "plain"
  shown _ := .ok "<plain emitter>"
  flush := none
  emit _ line := Action.change (· ++ [line])

/-- A predicate that always fails. -/
def failingSkip : Skip (List String) where
  shown := .ok "<failing predicate>"
  call _ := Action.fail .formatUndefined

/-- A formatter whose only line is a given text. -/
def formatter {σ : Type} (line : String) : Formatter σ where
  name := none
  given := line
  format := line
  placeholder := defaultPlaceholder
  segments := [.text line]
  registry := Registry.empty.freeze
  bindings := []
  template := ⟨[.text line], [.text line], defaultPlaceholder⟩

section Token

variable {σ : Type} (act : Action σ Value)

/-- A registry of one token, whose value is computed in one way whatever its arguments are. -/
def tokenRegistry : Registry σ :=
  ⟨⟨[("token", ⟨"<extractor>", fun _ _ => act⟩)]⟩, false⟩

/-- The formatter whose lines are that token. -/
def tokenFormatter : Formatter σ where
  name := none
  given := ":token"
  format := ":token"
  placeholder := defaultPlaceholder
  segments := [.text "", .token ⟨"token", [""], ":token"⟩, .text ""]
  registry := (tokenRegistry act).freeze
  bindings := [⟨"token", ⟨"<extractor>", fun _ _ => act⟩, [""]⟩]
  template := Template.compile [.text "", .token ⟨"token", [""], ":token"⟩, .text ""]
    defaultPlaceholder

theorem segments_token : parseFormat (Preset.expand ":token") =
    [.text "", .token ⟨"token", [""], ":token"⟩, .text ""] := by decide +kernel

theorem token_registered : ∀ t ∈ Segment.tokens (parseFormat (Preset.expand ":token")),
    (tokenRegistry act).contains t.name = true := by
  intro t ht
  rw [segments_token] at ht
  obtain rfl := List.mem_singleton.mp ht
  rfl

theorem build_token : Formatter.build (tokenRegistry act) (.ofFormat (.text ":token")) =
    (.ok (tokenFormatter act), (tokenRegistry act).freeze) := by
  refine (Formatter.build_of_registered none (by decide) (token_registered act)).trans ?_
  simp only [Formatter.ofFormat, segments_token]
  rfl

end Token

/-- A logger of one line, with a predicate that always fails. -/
def logger (immediate : Bool) : Logger (List String) where
  formatter := formatter "served"
  emitter := emitter
  options := ⟨.text "served", immediate, fun _ => .ok "<plain stream>", failingSkip.shown⟩
  skip := some failingSkip

/-- A logger without a predicate whose lines are one token. -/
def tokenLogger (act : Action (List String) Value) : Logger (List String) :=
  { logger false with formatter := tokenFormatter act, skip := none }

def request : Request where
  method := .text "GET"
  url := .text "/"
  headers := Table.empty
  referrer := .null
  clientAddress := .null
  httpVersion := .text "1.1"

/-- A middleware with a logger of one line and no predicate, behind which an application stands
whose body gives one chunk and fails, and cannot be closed without a failure. -/
def middleware (immediate : Bool) : Middleware (List String) where
  app _ := .start (.text "200 OK") .none .null fun _ =>
    .done ⟨.done (.chunk (.octets [104]) (.fail .formatUndefined)), .able (.fail .formatUndefined)⟩
  shown := "<application>"
  logger := { logger immediate with skip := none }

/-- A middleware whose lines show the status and the length of the response, behind which an
application stands that fails after it has tried to start its response with half a header. -/
def statusMiddleware : Middleware (List String) where
  app _ := .start (.text "200 OK") (.parts [[.text "X-Powered-By"]]) .null fun _ =>
    .fail .formatUndefined
  shown := "<application>"
  logger := { logger false with
    formatter := Formatter.ofFormat (Registry.builtin host).freeze ":status :res[content-length]"
      "-"
    skip := none }

/-- A server that starts every response, and takes pieces of the body without doing anything. -/
def server : StartResponse (List String) :=
    fun _ _ _ => Action.done (.able fun _ => Action.done ())

def environ : Environ :=
  ⟨[("wsgi.url_scheme", .text "http"), ("HTTP_HOST", .text "plain"), ("PATH_INFO", .text "/")]⟩

def snapshot (headers : Headers) : Snapshot (List String) where
  request := { request with headers := headers }
  response := Response.initial.frozen
  options := none
  startAt := none
  startTime := none
  endAt := none
  endTime := none

/-- Headers of which one names a user in two lines. -/
def forgedHeaders : Headers := ⟨[("authorization", "Basic YQpi")]⟩

/-- A coding of a character set and a treatment that are the same everywhere. -/
def coding (charsetName treatmentName : String) (charset : Text.Charset)
    (treatment : Text.Unencodable) : Coding :=
  ⟨charsetName, treatmentName, some charset, some treatment,
    codecs.encode charsetName treatmentName⟩

def streamEmitter : StreamEmitter (List String) where
  label := "StreamEmitter"
  stream := some stream
  binary := false
  coding := coding Coding.defaultCharset Coding.defaultTreatment .utf8 .escape
  separator := StreamSettings.default.separator

def octetStream : Stream (List String) := { stream with nature := .binary }

/-- Settings of an emitter that refuses what is not ASCII. -/
def strictSettings : StreamSettings where
  encoding := .text "ascii"
  errors := .text "strict"
  separator := .text "\n"
  unknown := []

/-- The emitter of the stream of octets with these settings. -/
def strictEmitter : StreamEmitter (List String) where
  label := "StreamEmitter"
  stream := some octetStream
  binary := true
  coding := coding "ascii" "strict" .ascii .strict
  separator := .text "\n"

/-- Settings of an emitter that writes pairs of octets. -/
def wideSettings : StreamSettings := { strictSettings with encoding := .text "utf-16-le" }

def wideEmitter : StreamEmitter (List String) :=
  { strictEmitter with coding := coding "utf-16-le" "strict" .utf16le .strict }

section Beside

variable {τ : Type}

/-- A host beside a world, with one handler of notes. -/
def hostBeside : Host (List String × τ) where
  now _ := ⟨0, 0⟩
  board _ := some ⟨[.handler "pager"]⟩
  setBoard _ w := w
  receive _ _ _ := Action.done ()
  console _ := Stream.ofValue .null
  codecs := codecs

/-- A logger that keeps its lines beside a world. Its predicate and its only extractor always
fail. -/
def loggerBeside (immediate : Bool) : Logger (List String × τ) where
  formatter := tokenFormatter (Action.fail .formatUndefined)
  emitter := {
    kind := "plain"
    shown := fun _ => .ok "<plain emitter>"
    flush := none
    emit := fun _ line => Action.change fun w => (w.1 ++ [line], w.2) }
  options := ⟨.text ":token", immediate, fun _ => .ok "<plain emitter>", failingSkip.shown⟩
  skip := some ⟨failingSkip.shown, fun _ => Action.fail .formatUndefined⟩

theorem takesNotes_beside : (hostBeside : Host (List String × τ)).TakesNotes :=
  .of_handlers ["pager"] (fun _ => rfl) fun _ _ _ _ => rfl

end Beside

/-- An application whose body tries to start the response again after a chunk, and fails if that
fails. The body cannot be closed without a failure. -/
def restartingApp : App Nat := fun _ =>
  .start (.text "200 OK") (.parts [[.text "Content-Length", .text "1"]]) .null fun _ =>
    .done {
      opening := .done (.chunk (.octets [104]) (.start (.text "500 Oops") (.parts []) .null fun
        | .ok _ => .done ()
        | .error f => .fail f))
      close := .able (.fail .formatUndefined) }

/-- A server that counts the starts of a response and refuses all but the first. -/
def strictServer : StartResponse Nat := fun _ _ _ n =>
  (if n = 0 then .ok .missing else .error (.host "AssertionError" [] .none), n + 1)

section Flaky

/-- A stream of octets that refuses every second write and fails at every flush. It counts the
writes and keeps the octets. -/
def flakyStream : Stream (Nat × List UInt8) where
  kind := "flaky"
  shown _ := .ok "<flaky stream>"
  nature := .binary
  encoding := .null
  write := .able fun out w =>
    match out, w.1 % 2 with
    | .octets os, 0 => (.ok (), (w.1 + 1, w.2 ++ os))
    | _, _ => (.error (.host "OSError" [.text "write refused"] .none), (w.1 + 1, w.2))
  flush := .able (Action.fail (.host "OSError" [.text "flush refused"] .none))
  close := .missing

/-- A host with one handler of notes. -/
def pagedHost : Host (Nat × List UInt8) where
  now _ := ⟨0, 0⟩
  board _ := some ⟨[.handler "pager"]⟩
  setBoard _ w := w
  receive _ _ _ := Action.done ()
  console _ := flakyStream
  codecs := codecs

def flakyEmitter : StreamEmitter (Nat × List UInt8) where
  label := "StreamEmitter"
  stream := some flakyStream
  binary := true
  coding := coding "ascii" "strict" .ascii .strict
  separator := .text "\n"

theorem takesNotes_paged : pagedHost.TakesNotes :=
  .of_handlers ["pager"] (fun _ => rfl) fun _ _ _ _ => rfl

end Flaky

section Shelf

/-- A host that is nothing but its directory, with one handler of notes. -/
def shelfHost : Host Directory where
  now _ := ⟨0, 0⟩
  board _ := some ⟨[.handler "pager"]⟩
  setBoard _ d := d
  receive _ _ _ := Action.done ()
  console _ := Stream.ofValue .null
  codecs := codecs

def shelf : DirectoryOf Directory where
  get d := d
  set d _ := d
  shown name := "<file " ++ name ++ ">"

/-- A directory with one file of one octet. -/
def kept : Directory := ⟨⟨[("log", [107])]⟩, []⟩

end Shelf

end RequestLog.PlainHost
