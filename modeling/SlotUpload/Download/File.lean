import SlotUpload.Upload.Stream

/-!
# SlotUpload.Download.File

Downloading into a file.  The file is created, or emptied, only when the server
has answered with success; then every chunk is written, counted and reported.
-/

namespace SlotUpload.Download

/-- Writes chunks to the end of a file; `done` bytes went before.  Gives the
number of bytes in the file. -/
def write (path : String) (done : UInt64) : List (List UInt8) → Attempt UInt64
  | [] => return done
  | chunk :: chunks => do
    Attempt.query .wait
    match ← Attempt.query (.appendFile path chunk) with
    | .error e => throw (.transferFailed ["write " ++ path, e.message])
    | .ok () =>
      let size := UInt64.ofNat chunk.length
      Attempt.query (.countReceived size)
      Attempt.query (.progress (done + size) 0)
      write path (done + size) chunks

/-- Downloads what is at a URL into a file; gives the number of bytes. -/
def getToFile (url : Url) (path : String) : Attempt UInt64 := do
  let exchange ← ExceptT.lift (Http.perform { method := .get, url })
  match exchange.result with
  | .error text => Upload.failWith (.transferFailed [text]) text
  | .ok response =>
    match Http.judgeDownload response.status response.text with
    | .error e => Upload.failWith e e.message
    | .ok () =>
      match ← Attempt.query (.createFile path) with
      | .error e => throw (.transferFailed ["create " ++ path, e.message])
      | .ok () =>
        let size ← write path 0 response.chunks
        match response.fault with
        | none => return size
        | some text => Upload.failWith (.transferFailed [text]) text

end SlotUpload.Download
