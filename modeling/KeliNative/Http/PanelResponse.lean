import KeliNative.Http.SubscriptionFetch

/-!
# The response of a panel (`parse_http_response`)

The panel client reads the same kind of response with its own functions.
-/

namespace KeliNative.Http
open Route

structure PanelApiError where
  kind : String
  message : String
  deriving DecidableEq

structure PanelApiResponse where
  status : UInt16
  body : String
  deriving DecidableEq

def headerValue (headers : String) (name : String) : Option String :=
  (Text.lines headers).findSome? fun line => do
    let (key, value) ← Text.splitOnce ':' line
    if asciiLowercase (Text.trim key) = asciiLowercase name then some (Text.trim value) else none

section

variable (text : ResponseText)

/-- A turn of the loop of `decode_chunked_body`: the body or the next state. -/
def panelChunk (bytes : Bytes) (state : ChunkState) : Except PanelApiError (ChunkState ⊕ Bytes) :=
  match findMark crlf (bytes.drop state.offset) with
  | none => .error ⟨"http", "chunk size is incomplete"⟩
  | some index =>
    let lineEnd := index + state.offset
    let sizeLine := (bytes.take lineEnd).drop state.offset
    match Text.fromUtf8 sizeLine with
    | none => .error ⟨"utf8", "chunk size UTF-8 failed: " ++ text.utf8Error sizeLine⟩
    | some sizeLine =>
      match usizeFromHex (sizeText sizeLine) with
      | .error error => .error ⟨"http", "chunk size invalid: " ++ error.display⟩
      | .ok size =>
        let cursor := lineEnd + 2
        if size = 0 then .ok (.inr state.decoded)
        else
          let chunkEnd := min (cursor + size) (2 ^ 64 - 1)
          if bytes.length < chunkEnd then .error ⟨"http", "chunk body is incomplete"⟩
          else
            let decoded := state.decoded ++ (bytes.take chunkEnd).drop cursor
            let cursor := min (chunkEnd + 2) (2 ^ 64 - 1)
            if bytes.length < cursor then .error ⟨"http", "chunk delimiter is incomplete"⟩
            else .ok (.inl ⟨cursor, decoded⟩)

def panelChunkStep (bytes : Bytes) (state : ChunkState) :
    Iteration ChunkState (Except PanelApiError Bytes) :=
  match panelChunk text bytes state with
  | .error error => .returned (.error error)
  | .ok (.inl state) => .next state
  | .ok (.inr decoded) => .returned (.ok decoded)

def decodeChunkedBody (bytes : Bytes) : Iteration ChunkState (Except PanelApiError Bytes) :=
  Iteration.iterate (panelChunkStep text bytes) (bytes.length + 1) ⟨0, []⟩

def panelStatus (headers : String) : Option UInt16 := do
  let line ← (Text.lines headers).head?
  let status ← (Text.splitWhitespace line)[1]?
  Text.parseU16 status

def panelChunked (headers : String) : Bool :=
  (headerValue headers "transfer-encoding").any fun value =>
    decide ("chunked".toList <:+: asciiLowercase value)

def contentLength (headers : String) : Option ℕ :=
  headerValue headers "content-length" >>= Text.parseBelow (2 ^ 64)

def panelText (status : UInt16) (body : Bytes) : Except PanelApiError PanelApiResponse :=
  match Text.fromUtf8 body with
  | none => .error ⟨"utf8", "response body UTF-8 failed: " ++ text.utf8Error body⟩
  | some body => .ok ⟨status, body⟩

def parseHttpResponse (bytes : Bytes) :
    Iteration ChunkState (Except PanelApiError PanelApiResponse) :=
  match findMark [13, 10, 13, 10] bytes with
  | none => .returned (.error ⟨"http", "response header is incomplete"⟩)
  | some headerEnd =>
    let headers := text.lossy.read (bytes.take headerEnd)
    match panelStatus headers with
    | none => .returned (.error ⟨"http", "response status is invalid"⟩)
    | some status =>
      let body := bytes.drop (headerEnd + 4)
      if panelChunked headers then
        match decodeChunkedBody text body with
        | .next state => .next state
        | .panicked => .panicked
        | .returned (.error error) => .returned (.error error)
        | .returned (.ok body) => .returned (panelText text status body)
      else match contentLength headers with
        | some contentLength =>
          .returned (panelText text status (body.take (min contentLength body.length)))
        | none => .returned (panelText text status body)

end

end KeliNative.Http
