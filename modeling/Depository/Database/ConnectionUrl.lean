import Depository.Text.Percent
import Depository.Text.Split
import Depository.Web.Host

/-!
# Connection addresses

The address of a database: a scheme, the credentials up to the first at sign, hosts with ports,
the name of the database, and parameters. All parts may be missing, and hosts, ports and
parameters may be percent-encoded.
-/

namespace Depository.Database

/-- The addresses begin with one of these. -/
def schemes : List String := ["postgres://", "postgresql://"]

/-- The parts before and from the first character with a property; all of the text if there is
none. -/
private def spanUntil (stops : Char → Bool) (cs : List Char) : List Char × List Char :=
  (cs.takeWhile fun c => !stops c, cs.dropWhile fun c => !stops c)

private def isEncoded (cs : List Char) : Bool :=
  (Text.percentDecoded? (String.ofList cs)).isSome

/-- Ports with commas between them; an empty one means the usual port. -/
def isPorts (s : String) : Bool :=
  (Text.split ',' s).all fun p => p.isEmpty || (Text.unsigned? 16 p.toList).isSome

/-- A numeric address of either version of the internet protocol. -/
def isInternetAddress (cs : List Char) : Bool := Web.isDottedQuad cs || Web.isGroupedAddress cs

/-- A host is a path, which may be of any bytes, or a text. -/
def isHostName (cs : List Char) : Bool :=
  (Text.percentDecodedBytes (String.ofList cs).toUTF8.toList).head? = some 47 || isEncoded cs

/-- A host with its port after a colon; a host in brackets may hold colons. -/
def isHostWithPort (cs : List Char) : Bool :=
  let isPort (port : List Char) : Bool :=
    (Text.percentDecoded? (String.ofList port)).any isPorts
  match cs with
  | '[' :: rest =>
    match Text.cutAt ']' rest with
    | none => false
    | some (host, ':' :: port) => isHostName host && isPort port
    | some (host, after) => after.isEmpty && isHostName host
  | _ =>
    match Text.cutAt ':' cs with
    | none => isHostName cs
    | some (host, port) => isHostName host && isPort port

/-- Whether a parameter exists and has a value that it may have. -/
def isParameter (name value : String) : Bool :=
  let cs := value.toList
  match name with
  | "user" | "password" | "dbname" | "options" | "application_name" | "host" => true
  | "sslmode" => ["disable", "prefer", "require"].contains value
  | "sslnegotiation" => ["postgres", "direct"].contains value
  | "hostaddr" => (Text.splitAt ',' cs).all isInternetAddress
  | "port" => isPorts value
  | "connect_timeout" | "tcp_user_timeout" | "keepalives_idle" | "keepalives_interval" =>
    (Text.signed? 64 cs).isSome
  | "keepalives" => (Text.unsigned? 64 cs).isSome
  | "keepalives_retries" => (Text.unsigned? 32 cs).isSome
  | "target_session_attrs" => ["any", "read-write", "read-only"].contains value
  | "channel_binding" => ["disable", "prefer", "require"].contains value
  | "load_balance_hosts" => ["disable", "random"].contains value
  | _ => false

/-- One parameter: a name, an equals sign and a value. -/
def isAssignment (cs : List Char) : Bool :=
  match Text.cutAt '=' cs with
  | none => false
  | some (name, value) =>
    match Text.percentDecoded? (String.ofList name) with
    | none => false
    | some "host" => isHostName value
    | some name => (Text.percentDecoded? (String.ofList value)).any (isParameter name)

/-- Parameters with ampersands between them. One ampersand at the end does not count, but an
equals sign is looked for beyond an ampersand, so that each piece between two must have one. -/
def isQuery (cs : List Char) : Bool :=
  let pieces := Text.splitAt '&' cs
  let pieces := if pieces.getLast? = some [] then pieces.dropLast else pieces
  pieces.all isAssignment

/-- Whether the credentials before the at sign can be read. A password may be of any bytes. -/
def isCredentials (cs : List Char) : Bool :=
  isEncoded (spanUntil (· == ':') cs).1

/-- Whether a text is an address of a database. -/
def isConnectionUrl (s : String) : Bool :=
  match schemes.findSome? fun scheme => Text.after? scheme.toList s.toList with
  | none => false
  | some cs =>
    let (credentials, cs) := match Text.cutAt '@' cs with
      | some (credentials, rest) => (credentials, rest)
      | none => ([], cs)
    let (hosts, cs) := spanUntil (fun c => c == '/' || c == '?') cs
    let (name, cs) := match cs with
      | '/' :: rest => spanUntil (· == '?') rest
      | _ => ([], cs)
    isCredentials credentials && (hosts.isEmpty || (Text.splitAt ',' hosts).all isHostWithPort) &&
      isEncoded name && isQuery (cs.drop 1)

end Depository.Database
