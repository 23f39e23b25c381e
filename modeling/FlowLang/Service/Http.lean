import FlowLang.Json.Encoding
import FlowLang.Service.Basic
import FlowLang.Service.Target

/-!
# Requests and responses

The service over HTTP. Four paths are known: two that tell how the service is, one that lists recent compilations and
one that compiles. A known path with slashes behind it is redirected, a known path asked for by the wrong method is
refused. With a directory of static files, whatever the known paths do not answer is looked for there. The web framework
reads the bodies of requests and has pages of its own (`Framework`).
-/

namespace FlowLang.Service

open Text

/-- The methods that requests come with. -/
inductive Method where
  | get
  | post
  deriving DecidableEq, Repr

/-- The name of a method. -/
def Method.name : Method → Text
  | .get => "GET".toList
  | .post => "POST".toList

/-- A request: where it came to, what it asks for, and the body of a post with what it is said to be. -/
structure Request where
  method : Method
  origin : Text
  target : Target
  body : Bytes
  contentType : Option Text := none
  deriving DecidableEq, Repr

/-- An error that a request ends in. The client is not told what it was. -/
inductive ServerFault where
  | run (fault : RunFault)
  /-- the answer holds halves of surrogate pairs, so it cannot be sent -/
  | unsendable
  deriving DecidableEq, Repr

/-- What a response holds. -/
inductive Body where
  | health (h : Health)
  | ideas (recent : List CompilationRecord) (total : Nat)
  | compiled (reply : Reply)
  | detail (message : Text)
  | issues (found : List Issue)
  | page (text : Text)
  | failed (fault : ServerFault)
  deriving DecidableEq, Repr

/-- A response. -/
structure Response where
  status : Nat
  body : Body
  location : Option Text := none
  allow : Option Text := none
  deriving DecidableEq, Repr

namespace Response

/-- Nothing is there. -/
def notFound : Response :=
  { status := 404, body := .detail "Not Found".toList }

/-- The path is there, but not for this method. -/
def wrongMethod (allow : Text) : Response :=
  { status := 405, body := .detail "Method Not Allowed".toList, allow := some allow }

/-- What is asked for is elsewhere. -/
def redirect (location : Text) : Response :=
  { status := 307, body := .page [], location := some location }

/-- The body of the request cannot be read at all. -/
def unreadable : Response :=
  { status := 400, body := .detail "There was an error parsing the body".toList }

/-- The body of the request is not right. -/
def invalid (issue : Issue) : Response :=
  { status := 422, body := .issues [issue] }

/-- An error was raised. -/
def failed (fault : ServerFault) : Response :=
  { status := 500, body := .failed fault }

/-- The answer that holds so much, if it can be sent. -/
def sendable (loose : Bool) (body : Body) : Response :=
  if loose then .failed .unsendable else { status := 200, body }

end Response

/-! ## Known paths -/

/-- What a known path is for. -/
inductive Route where
  | health
  | ideas
  | compile
  deriving DecidableEq, Repr

/-- The method that a route takes. -/
def Route.method : Route → Method
  | .health | .ideas => .get
  | .compile => .post

/-- The known paths. -/
def routes : List (Text × Route) :=
  [("/health".toList, .health), ("/status".toList, .health), ("/api/compile".toList, .compile),
   ("/ideas".toList, .ideas)]

/-- What a path is for, if it is known. A line feed at its end does not count. -/
def route? (path : Text) : Option Route :=
  (routes.find? fun r => path == r.1 || path == r.1 ++ "\n".toList).map Prod.snd

/-- What is wrong with a body. -/
inductive BodyFault where
  /-- it cannot be read for another reason than its form -/
  | unreadable
  | invalid (issue : Issue)
  deriving DecidableEq, Repr

/-- The answer to a wrong body. -/
def BodyFault.response : BodyFault → Response
  | .unreadable => .unreadable
  | .invalid issue => .invalid issue

/-- The body is said to be JSON, or not said to be anything. -/
def Request.declaresJson (r : Request) : Bool :=
  match r.contentType with
  | none => true
  | some t =>
    let kind := (trim (t.takeWhile (· != ';'))).map Char.toLower
    match after? "application/".toList kind with
    | some subtype => subtype == "json".toList || "+json".toList.isSuffixOf subtype
    | none => false

/-- The program in the body of a request to compile. The body is JSON: an object whose member `source` is a text. -/
def requestSource (r : Request) : Except BodyFault Source :=
  let root := LocationStep.name "body".toList
  let field := LocationStep.name "source".toList
  let wrong (kind : IssueKind) (location : List LocationStep) : Except BodyFault Source :=
    .error (.invalid ⟨kind, location⟩)
  if r.body.isEmpty then wrong .missing [root]
  else if !r.declaresJson then wrong .notObject [root]
  else
    match Json.parseBytes r.body with
    | .error (.misplaced position) => wrong .notJson [root, .index position]
    | .error _ => .error .unreadable
    | .ok (.object members) =>
      match (Json.object members).member? "source".toList with
      | none => wrong .missing [root, field]
      | some (.text t) => .ok (.text t)
      | some (.loose t) => .ok (.loose t)
      | some _ => wrong .notText [root, field]
    | .ok _ => wrong .notObject [root]

/-! ## The web framework -/

/-- What the service relies on the web framework for. -/
structure Framework where
  /-- the program in a request to compile, or what is wrong with its body -/
  read : Request → Except BodyFault Source
  /-- the answer to a request for one of its own pages -/
  page? : Request → Option Response

namespace Framework

/-- The pages that the framework has about the service. -/
def manualPaths : List Text :=
  ["/openapi.json".toList, "/docs".toList, "/docs/oauth2-redirect".toList, "/redoc".toList]

/-- The framework that reads JSON and has pages with these texts about the service. -/
def usual (manual : Text → Text) : Framework where
  read := requestSource
  page? r :=
    if r.method = .get ∧ r.target.path ∈ manualPaths then some { status := 200, body := .page (manual r.target.path) }
    else none

end Framework

/-- Answers a request to a known path. -/
def serve (s : Service) (framework : Framework) (clock : Clock) (outside : Outside) (r : Request) :
    Route → Service × Response × Effects
  | .health => (s, { status := 200, body := .health (s.health clock) }, .none)
  | .ideas =>
    let recent := s.history.recent History.usualCount
    (s, .sendable (recent.any CompilationRecord.loose) (.ideas recent s.history.length), .none)
  | .compile =>
    match framework.read r with
    | .error fault => (s, fault.response, .none)
    | .ok source =>
      match s.compile clock outside source with
      | (after, .error fault, effects) => (after, .failed (.run fault), effects)
      | (after, .ok record, effects) => (after, .sendable source.hasLooseCode (.compiled record.reply), effects)

/-! ## Static files -/

/-- The parts of a path below the directory of static files, `.` and `..` resolved; none if they lead out of it. -/
def sitePlace? (path : Text) : Option (List Text) :=
  (splitOn '/' path).foldl (fun kept part =>
    if part.isEmpty || part == ".".toList then kept
    else if part == "..".toList then
      match kept with
      | some (p :: ps) => some (p :: ps).dropLast
      | _ => none
    else kept.map (· ++ [part])) (some [])

/-- A directory of static files. -/
structure Site where
  root : Text
  files : FileTree
  deriving DecidableEq, Repr

namespace Site

/-- The site of a service, if its directory is there. An empty name stands for the current directory. -/
def ofSettings? (settings : Settings) (files : FileTree) : Option Site :=
  let root := if settings.staticDir.isEmpty then ".".toList else settings.staticDir
  if files.stat? root = some .directory then some ⟨root, files⟩ else none

/-- The path of a place below the directory. -/
def path (s : Site) (place : List Text) : Text :=
  joinWith "/".toList (s.root :: place)

/-- What is at a place below the directory. -/
def stat? (s : Site) (place : List Text) : Option FileEntry :=
  s.files.stat? (s.path place)

/-- A name on the way to a place is longer than a file's can be. -/
def isTooLong (s : Site) (place : List Text) : Bool :=
  match s.files.resolve (s.path place) with
  | .error (.os e) => e == .nameTooLong (s.path place)
  | _ => false

/-- The site is asked for a path unless a line feed stands inside of it. -/
def covers (path : Text) : Bool :=
  !path.dropLast.contains '\n'

/-- The page that a file is. -/
def page (status : Nat) (content : Bytes) : Response :=
  { status, body := .page (Utf8.decodeLossy content) }

/-- Nothing is there: the site's own page for that, if it has one. -/
def missing (s : Site) : Response :=
  match s.stat? ["404.html".toList] with
  | some (.file content) => page 404 content
  | _ => .notFound

/-- Answers a request from the files. A directory is answered by its index, at an address that ends with a slash. -/
def respond (s : Site) (r : Request) : Response :=
  if r.method = .post then .wrongMethod "GET, HEAD".toList
  else
    match sitePlace? r.target.path with
    | none => s.missing
    | some place =>
      if s.isTooLong place then .notFound else
      match s.stat? place with
      | some (.file content) => page 200 content
      | some .directory =>
        match s.stat? (place ++ ["index.html".toList]) with
        | some (.file content) =>
          if r.target.path.getLast? = some '/' then page 200 content
          else .redirect (r.target.address r.origin (r.target.path ++ "/".toList))
        | _ => s.missing
      | none => s.missing

end Site

/-! ## Dispatch -/

/-- The path without the slashes at its end. -/
def withoutSlashes (path : Text) : Text :=
  (path.reverse.dropWhile (· == '/')).reverse

/-- Answers what no route takes, without static files. -/
def unrouted (r : Request) : Response :=
  match route? r.target.path with
  | some route => .wrongMethod route.method.name
  | none =>
    if r.target.path.getLast? = some '/' ∧ (route? (withoutSlashes r.target.path)).isSome then
      .redirect (r.target.address r.origin (withoutSlashes r.target.path))
    else .notFound

/-- Answers a request. -/
def handle (s : Service) (framework : Framework) (site : Option Site) (clock : Clock) (outside : Outside) (r : Request) :
    Service × Response × Effects :=
  match framework.page? r with
  | some response => (s, response, .none)
  | none =>
    match (route? r.target.path).filter (·.method == r.method) with
    | some route => s.serve framework clock outside r route
    | none =>
      match site.filter fun _ => Site.covers r.target.path with
      | some files => (s, files.respond r, .none)
      | none => (s, unrouted r, .none)

end FlowLang.Service
