import Storybind.Compile.Compiler
import Storybind.Script.Check
import Storybind.Service.Order
import Storybind.Service.Route

/-!
The service. It compiles and checks stories for its clients and hands out the pages in its
directory. A request that is wrong gets a reply that says so; what no reply covers is a trouble.
-/

namespace Storybind

/-- An issue as a value. -/
def Issue.toValue (i : Issue) : Value :=
  let number (n : Option Nat) : Value := match n with
    | some n => .int n
    | none => .null
  let location : Value := match i.location with
    | some l => .record [("scene", .ofOption l.scene), ("line", number l.line),
        ("column", number l.column)]
    | none => .null
  .record [("type", .text i.kind.word), ("message", .text i.message), ("location", location),
    ("suggestion", .text i.suggestion)]

/-- A report as a value. -/
def Report.toValue (r : Report) : Value :=
  .record [("valid", .bool r.isValid), ("errors", .ofList (r.issues.map Issue.toValue)),
    ("warnings", .ofList (r.warnings.map .text))]

/-- Counts of a page as a value. -/
def Stats.toValue (s : Stats) : Value :=
  .record [("sceneCount", .int s.scenes), ("assetCount", .int s.assets),
    ("componentCount", .int s.components), ("dependencyCount", .int s.libraries),
    ("outputSizeBytes", .int s.size)]

/-- The result of a compile as a value, the page being named as given. -/
def Result.toValue (r : Result) (output : String) : Value :=
  let (success, error, stats) := match r.outcome with
    | .ok s => (true, Value.null, s)
    | .error f => (false, .text f.message, Stats.none)
  .record [("success", .bool success), ("outputPath", if success then .text output else .null),
    ("error", error), ("warnings", .ofList (r.warnings.map .text)), ("stats", stats.toValue)]

/-- A flaw as a value. -/
def Flaw.toValue (f : Flaw) : Value :=
  let step (s : Step) : Value := match s with
    | .field n => .text n
    | .index n => .int n
  .record [("loc", .ofList (f.place.map step)), ("type", .text f.mismatch.code),
    ("msg", .text f.mismatch.message)]

namespace Service

/-- What a reply carries: a value, or a page. -/
inductive Body where
  | data (v : Value)
  | page (text : String)

structure Reply where
  status : Nat
  body : Body

def Reply.ok (v : Value) : Reply := ⟨200, .data v⟩

/-- The reply that refuses a request. -/
def Reply.refusal (r : Refusal) : Reply :=
  ⟨r.status, .data (.record [("detail", .text r.message)])⟩

/-- The reply to a body with flaws. -/
def Reply.flaws (fs : List Flaw) : Reply :=
  ⟨422, .data (.record [("detail", .ofList (fs.map fun f =>
    { f with place := .field "body" :: f.place }.toValue))])⟩

def Reply.redirect : Reply := ⟨307, .page ""⟩

/-- A reply as it goes out to a method; one to `HEAD` carries nothing. -/
def Reply.sent (method : String) (r : Reply) : Reply :=
  if Text.upper method = "HEAD" then { r with body := .page "" } else r

/-- What no reply covers. -/
inductive Trouble where
  | address (e : Web.UrlError)
  | form (e : FormError)
  | lookup (e : LookupError)
  | compile (e : Breakdown)
  | check (e : Check.CheckError)
  | file (e : FileError)
  | text (e : TextFileError)

def Trouble.message : Trouble → String
  | .address e => e.message
  | .form e => e.firstMessage
  | .lookup e => e.message
  | .compile e => e.message
  | .check e => e.message
  | .file e => e.message
  | .text e => e.message

/-- A request: its method, the address it is made for, and the body it carries, if any. -/
structure Call where
  method : String
  address : String
  body : Option Value

/-- The path that a call is made for. -/
def Call.path (c : Call) : Except Trouble String := (pathOf c.address).mapError .address

/-- Reads the body of a call; one with flaws, or a missing one, gets a reply of its own. -/
def readBody {α : Type} (read : Value → Form α) (body : Option Value) :
    Except Trouble (Except Reply α) :=
  match body with
  | none => .ok (.error (.flaws [⟨[], .missing⟩]))
  | some v =>
    match (read v).outcome with
    | .ok a => .ok (.ok a)
    | .error (.flaws fs) => .ok (.error (.flaws fs))
    | .error e => .error (.form e)

/-- The reply to a request that came to a halt. -/
def Halt.reply : Halt → Except Trouble Reply
  | .refused r => .ok (.refusal r)
  | .unresolved e => .error (.lookup e)

/-- What the service tells about itself. -/
def statusReply (w : Workspace) (s : Settings) (cache : Cache) : Except Trouble Reply :=
  match workdir w s with
  | .error e => .error (.lookup e)
  | .ok root => .ok (.ok (.record [("status", .text "ok"), ("version", .text Page.version),
      ("workdir", .text root.toText),
      ("cache", .record [("enabled", .bool cache.enabled), ("entries", .int cache.size)]),
      ("settings", .record [("fetch_timeout_seconds", .float s.fetchTimeout),
        ("fetch_max_retries", .int s.fetchRetries), ("fetch_concurrency", .int s.fetchConcurrency),
        ("cdn_url_template", .text s.packageAddress),
        ("default_theme", .text s.defaultTheme)])]))

/-- Compiles what an order asks for. Pages are named relative to the directory of the service. -/
def compileReply (c : Compiler) (o : Order) (world : World) : Except Trouble Reply × World :=
  match workdir world.workspace c.settings with
  | .error e => (.error (.lookup e), world)
  | .ok root =>
    match o.place world.workspace root with
    | .error halt => (halt.reply, world)
    | .ok (r, output) =>
      match c.compile r world with
      | (.error e, world) => (.error (.compile e), world)
      | (.ok result, world) =>
        let status := match result.outcome with
          | .ok _ => 200
          | .error _ => 422
        (.ok ⟨status, .data (result.toValue (root.relativeTo output).toText)⟩, world)

/-- Checks a script in a file of the service. -/
def checkFileReply (w : Workspace) (s : Settings) (input : String) : Except Trouble Reply :=
  match workdir w s with
  | .error e => .error (.lookup e)
  | .ok root =>
    match inside w root "input" input with
    | .error halt => halt.reply
    | .ok path =>
      match w.isFile path with
      | .error e => .error (.file e)
      | .ok false => .ok (.refusal (.scriptMissing input))
      | .ok true => ((Check.file w path).mapError Trouble.check).map fun r => .ok r.toValue

/-- Checks the script that a client means. -/
def checkReply (w : Workspace) (s : Settings) (q : Question) : Except Trouble Reply :=
  match q.content with
  | some content => ((Check.text w none content).mapError Trouble.check).map fun r => .ok r.toValue
  | none =>
    match q.input.filter fun i => !i.isEmpty with
    | some input => checkFileReply w s input
    | none => .ok (.refusal .noScript)

/-- Hands out a page. A name that no game may have is refused before any path is looked at. -/
def gameReply (w : Workspace) (s : Settings) (name : String) : Except Trouble Reply :=
  if !isGameName name then .ok (.refusal (.badGameName name))
  else
    match workdir w s with
    | .error e => .error (.lookup e)
    | .ok root =>
      match gamePath w root name with
      | .error halt => halt.reply
      | .ok path =>
        match w.isFile path with
        | .error e => .error (.file e)
        | .ok false => .ok (.refusal (.gameMissing name))
        | .ok true => ((w.readText path).mapError Trouble.text).map fun s => ⟨200, .page s⟩

/-- The reply of a route to a call. -/
def routeReply (c : Compiler) (r : Route) (call : Call) (world : World) :
    Except Trouble Reply × World :=
  let w := world.workspace
  match r with
  | .home => (.ok (.ok (.record [("message", .text "VN Compiler API"),
      ("version", .text Page.version), ("docs", .text "/docs")])), world)
  | .health => (.ok (.ok (.record [("status", .text "healthy")])), world)
  | .status => (statusReply w c.settings world.fetch.cache, world)
  | .compile =>
    match readBody Order.ofValue call.body with
    | .error e => (.error e, world)
    | .ok (.error reply) => (.ok reply, world)
    | .ok (.ok o) => compileReply c o world
  | .check =>
    match readBody Question.ofValue call.body with
    | .error e => (.error e, world)
    | .ok (.error reply) => (.ok reply, world)
    | .ok (.ok q) => (checkReply w c.settings q, world)
  | .game name => (gameReply w c.settings name, world)

/-- The reply to a call. -/
def replyTo (c : Compiler) (call : Call) (world : World) : Except Trouble Reply × World :=
  match call.path with
  | .error e => (.error e, world)
  | .ok path =>
    match Route.wayOf path with
    | .nowhere => (.ok (.refusal .unknownPath), world)
    | .redirected => (.ok .redirect, world)
    | .here r =>
      if Text.upper call.method = r.method then routeReply c r call world
      else (.ok (.refusal .wrongMethod), world)

/-- Answers a call. -/
def answer (c : Compiler) (call : Call) (world : World) : Except Trouble Reply × World :=
  let (reply, world) := replyTo c call world
  (reply.map (Reply.sent call.method), world)

end Service
end Storybind
