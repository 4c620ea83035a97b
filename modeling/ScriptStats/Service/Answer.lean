import ScriptStats.Json.Halves
import ScriptStats.Machine.Basic
import ScriptStats.Service.Address
import ScriptStats.Service.Query
import ScriptStats.Text.Encoding

/-!
# The service

The service answers requests about workspaces, scripts and texts. What is not there is answered
with 404, a path that leads nowhere for good with 400, and everything else that goes wrong with
500. Texts with halves of surrogate pairs and numbers that are too long cannot be sent.
-/

namespace ScriptStats.Service

structure Request where
  method : String
  address : String
  body : Bytes := []
  deriving DecidableEq, Repr

inductive Content where
  | json (value : Json)
  | text (text : String)
  deriving Repr

structure Response where
  status : Nat
  content : Content
  deriving Repr

namespace Response

def internalError : Response :=
  ⟨500, .text "Internal Server Error"⟩

/-- An answer in JSON, if it can be sent. -/
def json (status : Nat) (value : Json) : Response :=
  if value.isSendable then ⟨status, .json value⟩ else internalError

def ok (value : Json) : Response :=
  json 200 value

def detail (status : Nat) (message : String) : Response :=
  json status (.record [("detail", .string message)])

/-- The answer to a body in which something is wrong. The values at fault are sent back with it,
if they can be. -/
def refusal (faults : List PlacedFault) : Response :=
  if faults.all PlacedFault.sendable then
    json 422 (.array (faults.map fun f => (f.under (.field "body")).toJson))
  else internalError

/-- Whether nothing can be found at a path, as far as it can be followed. -/
def isDeadEnd : FileError → Bool
  | .homeUnknown => true
  | .linkLoop _ => true
  | _ => false

/-- How a failure is answered. -/
def ofFailure (failure : Failure) : Response :=
  match failure with
  | .workspaceMissing _ => detail 404 failure.message
  | .files (.fault .notFound _) => detail 404 failure.message
  | .files e => if isDeadEnd e then detail 400 failure.message else internalError
  | .settings (.file e) => if isDeadEnd e then detail 400 failure.message else internalError
  | .settings (.value .tooDeep) => detail 400 failure.message
  | .cache (.unreadable (.tooDeep _)) => detail 400 failure.message
  | _ => internalError

/-- The answer to a request for the head alone. -/
def withoutContent (response : Response) : Response :=
  { response with content := .text "" }

end Response

/-! ## Bodies -/

/-- Statistics as they are handed out: all counts are numbers, and the number of scripts is told
only of a workspace. -/
def payload (stats : Stats) (unique : Bool) : Json :=
  let fileCount := match stats with
    | .file _ => .null
    | .aggregate s => .int s.fileCount
  .record
    [("body_char_count", .int stats.bodyChars.value),
     ("word_count", .int stats.wordCount.value),
     ("speakers", .strings stats.speakers.toList),
     ("words", .strings (stats.listedWords unique)),
     ("script_line_count", .int stats.scriptLines.value),
     ("speaker_char_count", .int stats.speakerChars),
     ("file_count", fileCount)]

/-- The text of a body, if it has an encoding. -/
def bodyText? (body : Bytes) : Option RawText :=
  let encoding := Text.Encoding.ofStart body
  (encoding.decode? body).map fun text =>
    if encoding = .utf8 then RawText.ofChars (Script.dropMark text.chars) else text

/-- How many levels of JSON can be read from a body. -/
def bodyDepth : Nat := 968

def unreadableBody : Response :=
  .detail 400 "There was an error parsing the body"

/-- Reads the body of a request and goes on with what it asks for. -/
def withQuery {m : Type → Type} [Monad m] {α : Type} (read : Json → Checked α)
    (body : Bytes) (respond : α → m Response) : m Response :=
  if body = [] then return .refusal [{ fault := .missing }]
  else match (bodyText? body).map (Json.parseRaw bodyDepth) with
    | some (.ok json) =>
      match read json with
      | .ok query => respond query
      | .error faults => return .refusal faults
    | some (.error (.malformed _ position)) =>
      return .refusal [{ fault := .invalidJson, place := [.index position] }]
    | _ => return unreadableBody

/-! ## Answers -/

variable {m : Type → Type} [Monad m] [MonadStateOf Session m] [MonadExceptOf Failure m]

/-- Goes on with the path of a query. What is no text is the path of nothing. -/
def withPath (path : RawText) (respond : String → m Response) : m Response :=
  match path.toString? with
  | some path => respond path
  | none => return .internalError

/-- An answer about scripts. What the cache remembers of them has to be text. -/
def okAbout (scripts : List String) (value : Json) : m Response := do
  return if (← getThe Session).cache.all fun cache => scripts.all cache.hasTexts then .ok value
    else .internalError

def workspaceAnswer (machine : Machine m) (query : WorkspaceQuery) : m Response :=
  withPath query.path fun path => do
    let root ← machine.realPath path
    set (← Session.start machine.toHost root (query.exclude.filterMap RawText.toString?))
    match (← Session.refresh machine.toHost).or (← getThe Session).snapshot with
    | none => return .detail 400 "Analysis was superseded"
    | some snapshot =>
      okAbout snapshot.tree.scriptPaths <| .record
        [("root", .string snapshot.root.text), ("generation", .int snapshot.generation),
         ("stats", payload (.aggregate snapshot.stats) query.uniqueWords),
         ("tree", snapshot.tree.toJson query.uniqueWords)]

def scriptAnswer (machine : Machine m) (query : ScriptQuery) : m Response :=
  withPath query.path fun path => do
    let target ← Machine.ownPath path
    unless ← machine.hasFile target do
      return .detail 404 ("Script not found: " ++ path)
    let root ← machine.realPath target.parent.text
    set (← Session.start machine.toHost root)
    let stats ← Session.document machine.toHost (some target) none
    okAbout [target.text] <| .record
      [("path", .string target.text), ("stats", payload (.file stats) query.uniqueWords)]

/-- The statistics of a text. A half of a surrogate pair counts like any other character, but a
word or a speaker that holds one cannot be sent. -/
def textAnswer (query : TextQuery) : Response :=
  let standIn := query.text.standIn
  let stats := Script.stats (query.text.map (CodePoint.toChar standIn))
  if !query.text.isText && (stats.words ++ stats.speakers.toList).any (·.toList.contains standIn)
    then .internalError
  else .ok (payload (.file stats) query.uniqueWords)

/-- Answers a request for something that is there. -/
def Resource.answer (machine : Machine m) (resource : Resource) (body : Bytes) : m Response :=
  match resource with
  | .health => return .ok (.record [("status", .string "ok")])
  | .workspace => withQuery WorkspaceQuery.ofJson body (workspaceAnswer machine)
  | .script => withQuery ScriptQuery.ofJson body (scriptAnswer machine)
  | .text => withQuery TextQuery.ofJson body fun query => return textAnswer query

/-- Answers a request as a whole, whatever happens. -/
def wholeAnswer (machine : Machine m) (request : Request) : m Response := do
  match Resource.ofAddress? request.address with
  | none => return .detail 404 "Not Found"
  | some resource =>
    if request.method ≠ resource.method then return .detail 405 "Method Not Allowed"
    try resource.answer machine request.body
    catch failure => return .ofFailure failure

/-- Answers a request. -/
def answer (machine : Machine m) (request : Request) : m Response := do
  let response ← wholeAnswer machine request
  return if request.method = "HEAD" then response.withoutContent else response

end ScriptStats.Service
