import KeliNative.Lib.HexNumber
import KeliNative.Lib.TextLemmas
import KeliNative.Lib.Iteration
import KeliNative.Lib.Panic
import KeliNative.Net.Io
import KeliNative.Net.Route

/-!
# The response of a subscription server (`parse_subscription_fetch_response`)

Every addition of word size and every slice is an operation that may panic.
-/

namespace KeliNative.Http
open Panicking Route

def crlf : List UInt8 := [13, 10]

/-- Where a mark first stands in a list: `windows(mark.len()).position(..)`. -/
def findMark (mark : List UInt8) : List UInt8 → Option ℕ
  | [] => if mark = [] then some 0 else none
  | byte :: rest =>
    if mark <+: byte :: rest then some 0 else (findMark mark rest).map (· + 1)

theorem findMark_some {mark list : List UInt8} {index : ℕ} (h : findMark mark list = some index) :
    index + mark.length ≤ list.length ∧ mark <+: list.drop index := by
  induction list generalizing index with
  | nil =>
    rw [findMark] at h
    split_ifs at h with hmark
    cases h
    simp [hmark]
  | cons byte rest ih =>
    rw [findMark] at h
    split_ifs at h with hhead
    · cases h
      exact ⟨by simpa using hhead.length_le, hhead⟩
    · obtain ⟨index, hfound, rfl⟩ := Option.map_eq_some_iff.mp h
      obtain ⟨hlen, hmark⟩ := ih hfound
      refine ⟨?_, hmark⟩
      rw [List.length_cons]
      omega

/-- `String::from_utf8_lossy`: ASCII bytes are read as they are, whatever follows them. -/
structure LossyText where
  read : Bytes → String
  ascii : ∀ (text : List Char) (rest : Bytes), (∀ c ∈ text, c.toNat < 128) →
    (read (text.map (fun c => UInt8.ofNat c.toNat) ++ rest)).toList = text ++ (read rest).toList
  nil : read [] = ""

structure SubscriptionFetchSource where
  scheme : String
  host : String
  port : UInt16
  defaultPort : Bool
  pathPresent : Bool
  queryPresent : Bool
  deriving DecidableEq

inductive SubscriptionFetchErrorKind where
  | responseTooLarge
  | invalidResponse
  | httpStatus
  | utf8
  deriving DecidableEq

structure SubscriptionFetchError where
  kind : SubscriptionFetchErrorKind
  detail : String
  source : Option SubscriptionFetchSource
  deriving DecidableEq

structure SubscriptionFetchResponse where
  source : SubscriptionFetchSource
  statusCode : UInt16
  body : String
  bodyBytes : ℕ
  elapsed : Duration
  deriving DecidableEq

structure ResponseText where
  lossy : LossyText
  /-- `FromUtf8Error` as a text. -/
  utf8Error : Bytes → String

def sizeText (line : String) : String := Text.trim ((Text.split ';' line).headD "")

def findHttpHeaderEnd (response : Bytes) : Option ℕ := findMark [13, 10, 13, 10] response

def parseHttpStatusCode (statusLine : String) : Option UInt16 :=
  match Text.splitWhitespace statusLine with
  | version :: code :: _ => if Text.startsWith "HTTP/" version then Text.parseU16 code else none
  | _ => none

section

variable (checks : OverflowChecks) (text : ResponseText) (source : SubscriptionFetchSource)

def invalidResponse {α : Type} (detail : String) : Panicking SubscriptionFetchError α :=
  throw ⟨.invalidResponse, detail, some source⟩

structure ChunkState where
  offset : ℕ
  decoded : Bytes
  deriving DecidableEq

/-- A turn of the loop of `decode_chunked_subscription_body`: the body or the next state. -/
def subscriptionChunk (body : Bytes) (maxBytes : ℕ) (state : ChunkState) :
    Panicking SubscriptionFetchError (ChunkState ⊕ Bytes) := do
  let rest ← slice body state.offset body.length
  match findMark crlf rest with
  | none => invalidResponse source "chunked subscription response is missing a chunk length"
  | some index =>
    let lineEnd ← addUsize checks state.offset index
    let lengthLine ← slice body state.offset lineEnd
    match usizeFromHex (sizeText (text.lossy.read lengthLine)) with
    | .error _ => invalidResponse source "chunked subscription response has an invalid chunk length"
    | .ok length =>
      let offset ← addUsize checks lineEnd 2
      if length = 0 then return .inr state.decoded
      else if 2 ^ 64 ≤ offset + length then
        invalidResponse source "chunked subscription response length overflowed"
      else
        let chunkEnd := offset + length
        let delimiterEnd ← addUsize checks chunkEnd 2
        if body.length < delimiterEnd then
          invalidResponse source "chunked subscription response is truncated"
        else
          let delimiter ← slice body chunkEnd delimiterEnd
          if delimiter ≠ crlf then
            invalidResponse source "chunked subscription response is truncated"
          else if maxBytes < min (state.decoded.length + length) (2 ^ 64 - 1) then
            throw ⟨.responseTooLarge,
              "decoded subscription body exceeded max-bytes limit: " ++ toString maxBytes, some source⟩
          else
            let chunk ← slice body offset chunkEnd
            let offset ← addUsize checks chunkEnd 2
            return .inl ⟨offset, state.decoded ++ chunk⟩

def subscriptionChunkStep (body : Bytes) (maxBytes : ℕ) (state : ChunkState) :
    Iteration ChunkState (Except SubscriptionFetchError Bytes) :=
  match (subscriptionChunk checks text source body maxBytes state).run with
  | none => .panicked
  | some (.error error) => .returned (.error error)
  | some (.ok (.inl state)) => .next state
  | some (.ok (.inr decoded)) => .returned (.ok decoded)

def decodeChunkedSubscriptionBody (body : Bytes) (maxBytes : ℕ) :
    Iteration ChunkState (Except SubscriptionFetchError Bytes) :=
  Iteration.iterate (subscriptionChunkStep checks text source body maxBytes) (body.length + 1) ⟨0, []⟩

def transferEncoding (lines : List String) : Option (List Char) :=
  (lines.filterMap (Text.splitOnce ':')).findSome? fun (name, value) =>
    if asciiLowercase name = "transfer-encoding".toList then
      some (asciiLowercase (Text.trim value))
    else none

/-- The status, whether the body is chunked, and the body as it was received. -/
def subscriptionParts (response : Bytes) :
    Panicking SubscriptionFetchError (UInt16 × Bool × Bytes) := do
  match findHttpHeaderEnd response with
  | none => invalidResponse source "subscription fetch response is missing HTTP headers"
  | some headerEnd =>
    let headers ← slice response 0 headerEnd
    let lines := Text.lines (text.lossy.read headers)
    match parseHttpStatusCode (lines.headD "") with
    | none => invalidResponse source "subscription fetch response has an invalid HTTP status line"
    | some statusCode =>
      if ¬ (200 ≤ statusCode ∧ statusCode < 300) then
        throw ⟨.httpStatus, "subscription fetch returned HTTP status " ++ toString statusCode.toNat,
          some source⟩
      else
        let bodyStart ← addUsize checks headerEnd 4
        let body ← slice response bodyStart response.length
        let chunked := (transferEncoding (lines.drop 1)).any fun encoding =>
          decide ("chunked".toList <:+: encoding)
        return (statusCode, chunked, body)

def subscriptionText (statusCode : UInt16) (elapsed : Duration) (body : Bytes) :
    Except SubscriptionFetchError SubscriptionFetchResponse :=
  match Text.fromUtf8 body with
  | none => .error ⟨.utf8, "subscription body is not UTF-8: " ++ text.utf8Error body, some source⟩
  | some body' => .ok ⟨source, statusCode, body', body.length, elapsed⟩

def parseSubscriptionFetchResponse (response : Bytes) (elapsed : Duration) (maxBytes : ℕ) :
    Iteration ChunkState (Except SubscriptionFetchError SubscriptionFetchResponse) :=
  match (subscriptionParts checks text source response).run with
  | none => .panicked
  | some (.error error) => .returned (.error error)
  | some (.ok (statusCode, false, body)) =>
    .returned (subscriptionText text source statusCode elapsed body)
  | some (.ok (statusCode, true, body)) =>
    match decodeChunkedSubscriptionBody checks text source body maxBytes with
    | .next state => .next state
    | .panicked => .panicked
    | .returned (.error error) => .returned (.error error)
    | .returned (.ok body) => .returned (subscriptionText text source statusCode elapsed body)

end

end KeliNative.Http
