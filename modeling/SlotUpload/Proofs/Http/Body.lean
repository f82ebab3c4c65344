import Mathlib.Data.List.Infix
import SlotUpload.Http.Message
import SlotUpload.Text.Numeral

/-!
# SlotUpload.Proofs.Http.Body

The body of a request on its way to a server.  A connection takes blocks of the body
in order and sends no more bytes than the request declares.  Of a connection that
minds the length (`MindsLength`) a reply means that the server has all that was
declared: the beginning of the body, of that length (`MindsLength.sent_eq_take`).
-/

namespace SlotUpload.Http

/-! ## the body of a request -/

namespace Request

variable (r : Request)

/-- The bytes of the body. -/
def body : List UInt8 := r.blocks.flatten

/-- Is the body sent in chunks, without its length? -/
def isChunked : Bool := (r.headers.get? "transfer-encoding").isSome

/-- The length that is declared for the body, if one is. -/
def declared? : Option Nat :=
  if r.isChunked then none
  else (r.headers.get? "content-length").bind fun value =>
    (Text.natural? value.toList).filter (· < UInt64.size)

/-- The bytes that are sent when this many blocks were taken. -/
def sent (taken : Nat) : List UInt8 :=
  let bytes := (r.blocks.take taken).flatten
  match r.declared? with
  | some n => bytes.take n
  | none => bytes

theorem flatten_take_prefix (taken : Nat) : (r.blocks.take taken).flatten <+: r.body :=
  ⟨(r.blocks.drop taken).flatten, by rw [← List.flatten_append, List.take_append_drop, body]⟩

/-- What goes out is a part of the body from its beginning. -/
theorem sent_prefix (taken : Nat) : r.sent taken <+: r.body := by
  unfold sent
  dsimp only
  split
  · exact (List.take_prefix _ _).trans (r.flatten_take_prefix taken)
  · exact r.flatten_take_prefix taken

end Request

/-- The connection minds the length of the body. -/
structure MindsLength (r : Request) (exchange : Exchange) : Prop where
  /-- A block is taken only while there are bytes to be sent. -/
  owed : ∀ n, r.declared? = some n → ∀ k < exchange.taken, (r.blocks.take k).flatten.length < n
  /-- If the body ends before its length, there is no reply. -/
  whole : ∀ n, r.declared? = some n → ∀ reply, exchange.result = .ok reply →
    n ≤ (r.blocks.take exchange.taken).flatten.length
  /-- A body in chunks is sent to its end. -/
  ended : r.isChunked → ∀ reply, exchange.result = .ok reply → r.blocks.length ≤ exchange.taken

namespace MindsLength

variable {r : Request} {exchange : Exchange} {reply : Response} {n : Nat}

/-- A reply means that the server has the beginning of the body that was declared. -/
theorem sent_eq_take (h : MindsLength r exchange) (hdeclared : r.declared? = some n)
    (hreply : exchange.result = .ok reply) :
    n ≤ r.body.length ∧ r.sent exchange.taken = r.body.take n := by
  have hprefix := r.flatten_take_prefix exchange.taken
  have hn := h.whole n hdeclared reply hreply
  constructor
  · exact hn.trans hprefix.length_le
  · unfold Request.sent
    rw [hdeclared]
    obtain ⟨rest, hbody⟩ := hprefix
    rw [← hbody, List.take_append_of_le_length hn]

/-- A reply to a request without a length means that the server has the body. -/
theorem sent_eq_body (h : MindsLength r exchange) (hchunked : r.isChunked)
    (hreply : exchange.result = .ok reply) : r.sent exchange.taken = r.body := by
  have hdeclared : r.declared? = none := if_pos hchunked
  unfold Request.sent
  rw [hdeclared]
  dsimp only
  rw [List.take_of_length_le (h.ended hchunked reply hreply), Request.body]

/-- Less than one block is taken beyond what is declared. -/
theorem length_flatten_take_lt (h : MindsLength r exchange) (hdeclared : r.declared? = some n)
    {size : Nat} (hsize : 0 < size) (hblocks : ∀ block ∈ r.blocks, block.length ≤ size) {k : Nat}
    (hk : k ≤ exchange.taken) : (r.blocks.take k).flatten.length < n + size := by
  cases k with
  | zero => simpa using Nat.lt_add_left n hsize
  | succ k =>
      have hbefore := h.owed n hdeclared k hk
      have hlast : r.blocks[k]?.toList.flatten.length ≤ size := by
        cases hblock : r.blocks[k]? with
        | none => simp
        | some block => simpa using hblocks block (List.mem_of_getElem? hblock)
      rw [List.take_add_one, List.flatten_append, List.length_append]
      omega

end MindsLength

end SlotUpload.Http
