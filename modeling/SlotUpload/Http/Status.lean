import SlotUpload.Failure

/-!
# SlotUpload.Http.Status

Status codes of replies, their usual reason phrases, and what a reply means: an
upload is stored only by 200, 201 or 204, a download needs a 2xx.
-/

namespace SlotUpload.Http

/-- A status code. -/
structure Status where
  code : UInt16
  deriving DecidableEq, Repr

namespace Status

/-- The reason phrases, by code. -/
def reasons : List (Nat × String) :=
  [(100, "Continue"), (101, "Switching Protocols"), (102, "Processing"), (103, "Early Hints"),
   (200, "OK"), (201, "Created"), (202, "Accepted"), (203, "Non Authoritative Information"),
   (204, "No Content"), (205, "Reset Content"), (206, "Partial Content"), (207, "Multi-Status"),
   (208, "Already Reported"), (226, "IM Used"),
   (300, "Multiple Choices"), (301, "Moved Permanently"), (302, "Found"), (303, "See Other"),
   (304, "Not Modified"), (305, "Use Proxy"), (307, "Temporary Redirect"),
   (308, "Permanent Redirect"),
   (400, "Bad Request"), (401, "Unauthorized"), (402, "Payment Required"), (403, "Forbidden"),
   (404, "Not Found"), (405, "Method Not Allowed"), (406, "Not Acceptable"),
   (407, "Proxy Authentication Required"), (408, "Request Timeout"), (409, "Conflict"),
   (410, "Gone"), (411, "Length Required"), (412, "Precondition Failed"),
   (413, "Payload Too Large"), (414, "URI Too Long"), (415, "Unsupported Media Type"),
   (416, "Range Not Satisfiable"), (417, "Expectation Failed"), (418, "I'm a teapot"),
   (421, "Misdirected Request"), (422, "Unprocessable Entity"), (423, "Locked"),
   (424, "Failed Dependency"), (425, "Too Early"), (426, "Upgrade Required"),
   (428, "Precondition Required"), (429, "Too Many Requests"),
   (431, "Request Header Fields Too Large"), (451, "Unavailable For Legal Reasons"),
   (500, "Internal Server Error"), (501, "Not Implemented"), (502, "Bad Gateway"),
   (503, "Service Unavailable"), (504, "Gateway Timeout"), (505, "HTTP Version Not Supported"),
   (506, "Variant Also Negotiates"), (507, "Insufficient Storage"), (508, "Loop Detected"),
   (510, "Not Extended"), (511, "Network Authentication Required")]

def reason? (s : Status) : Option String := reasons.lookup s.code.toNat

/-- Code and reason phrase. -/
protected def toString (s : Status) : String :=
  s!"{s.code.toNat} " ++ s.reason?.getD "<unknown status code>"

/-- Is it one of 200 to 299? -/
def isSuccess (s : Status) : Bool := 200 ≤ s.code && s.code < 300

/-- Does it say that an uploaded file is stored? -/
def isStored (s : Status) : Bool := s.code == 200 || s.code == 201 || s.code == 204

end Status

/-- What a reply to an upload means; its text is only read if it is a rejection. -/
def judgeUpload (status : Status) (text : String) : Except UploadError Unit :=
  if status.isStored then .ok ()
  else
    let reason := status.reason?.getD "unknown status"
    let text := Text.trimmed text
    .error (.rejected status.code (if text.isEmpty then reason else reason ++ ": " ++ text))

/-- What a reply to a download means; its text is only read if it is a refusal. -/
def judgeDownload (status : Status) (text : String) : Except UploadError Unit :=
  if status.isSuccess then .ok ()
  else
    .error <| .transferFailed <| List.singleton <|
      if status.code = 401 then "download unauthorized: " ++ text
      else if status.code = 403 then "download forbidden: " ++ text
      else if status.code = 404 then "download not found: " ++ text
      else "download failed: " ++ status.toString ++ " " ++ text

end SlotUpload.Http
