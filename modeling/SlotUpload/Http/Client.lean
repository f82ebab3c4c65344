import SlotUpload.Job.Basic

/-!
# SlotUpload.Http.Client

What a client makes of single exchanges.  Redirections are followed, ten at
most: a request that was redirected is made again without its body, and not at
all where the body would have to be sent once more.
-/

namespace SlotUpload.Http

/-- The URL that a reference means when it stands in a reply for `base`: an absolute URL, or one
that is put together from the parts of `base` and read again.  This is not all there is to
joining references: a reference that begins with a backslash or has the scheme of `base` and
nothing else before its path, and a `base` whose path has no segments, are not treated apart. -/
def resolve (base : Url) (reference : String) : Except Url.Error Url :=
  match Url.parse reference with
  | .error .noScheme =>
    let origin := { base with path := .text "", query := none, fragment := none }.toString
    let directory :=
      match base.path with
      | .segments list => (Url.Path.segments (list.dropLast ++ [""])).toString
      | .text _ => "/"
    Url.parse <|
      if reference.startsWith "//" then base.scheme ++ ":" ++ reference
      else if reference.startsWith "/" then origin ++ reference
      else if reference.startsWith "?" then origin ++ base.path.toString ++ reference
      else if reference.isEmpty ∨ reference.startsWith "#" then
        { base with fragment := none }.toString ++ reference
      else origin ++ directory ++ reference
  | r => r

/-- Headers that say something about a body. -/
def bodyHeaders : List String :=
  ["content-type", "content-length", "content-encoding", "transfer-encoding"]

/-- Headers that are meant for one host alone. -/
def privateHeaders : List String :=
  ["authorization", "cookie", "cookie2", "proxy-authorization", "www-authenticate"]

/-- Are two URLs of one host, and of the same port there? -/
def sameHost (url other : Url) : Bool :=
  url.authority.map (·.host.toString) == other.authority.map (·.host.toString) &&
    url.port? == other.port?

/-- The headers that a request may take along to another URL. -/
def forwarded (request : Request) (url : Url) : Headers :=
  if sameHost request.url url then request.headers else request.headers.without privateHeaders

/-- The request that a reply asks for.  It names no referer, and may go to a URL of any scheme:
whether there is anyone to answer it is not decided here. -/
def redirected? (request : Request) (response : Response) : Option Request := do
  let reference ← response.headers.get? "location"
  let url ← (resolve request.url reference).toOption
  let headers := forwarded request url
  let code := response.status.code
  if code = 301 ∨ code = 302 ∨ code = 303 then
    match request.method with
    | .put => return { method := .get, url, headers := headers.without bodyHeaders }
    | _ => return { request with url, headers }
  else if (code = 307 ∨ code = 308) ∧ request.method ≠ .put then
    return { request with url, headers }
  else none

/-- Makes a request and follows at most `hops` redirections.  The blocks that
were taken are those of the first request. -/
def follow (hops : Nat) (request : Request) : Job Exchange := do
  let exchange ← Job.query (.exchange request)
  match exchange.result with
  | .error _ => return exchange
  | .ok response =>
    match redirected? request response with
    | none => return exchange
    | some next =>
      match hops with
      | 0 =>
        let text := "error following redirect for url (" ++ next.url.toString ++ ")"
        return { exchange with result := .error text }
      | hops + 1 =>
        let later ← follow hops next
        return { later with taken := exchange.taken }

/-- How many redirections are followed. -/
def maxHops : Nat := 10

/-- Makes a request.  A reply to a question about a file is taken as it is. -/
def perform (request : Request) : Job Exchange :=
  if request.method = .head then Job.query (.exchange request) else follow maxHops request

end SlotUpload.Http
