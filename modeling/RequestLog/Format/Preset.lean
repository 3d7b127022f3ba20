import RequestLog.Value

/-!
Formats with a name.
-/
namespace RequestLog.Preset

/-- The line of a request, from the client's address to the length of the response. -/
def requestLine (date : String) : String :=
  ":remote-addr - :remote-user [" ++ date ++ "] \":method :url HTTP/:http-version\""
    ++ " :status :res[content-length]"

def clientPart : String :=
  " \":referrer\" \":user-agent\""

def ofName? : String → Option String
  | "combined" => some (requestLine ":date[clf]" ++ clientPart)
  | "common" => some (requestLine ":date[clf]")
  | "default" => some (requestLine ":date" ++ clientPart)
  | "short" =>
    some (":remote-addr :remote-user :method :url HTTP/:http-version"
      ++ " :status :res[content-length] - :response-time ms")
  | "tiny" => some ":method :url :status :res[content-length] - :response-time ms"
  | "dev" => some ":method :url :status :response-time ms - :res[content-length]"
  | _ => none

/-- The format of a value, which only a text can name. -/
def ofValue? : Value → Option String
  | .text name => ofName? name
  | _ => none

/-- The format in full: that of the name, or the text itself where it is no name. -/
def expand (format : String) : String :=
  (ofName? format).getD format

end RequestLog.Preset
