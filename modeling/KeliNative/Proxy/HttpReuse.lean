import KeliNative.Proxy.HttpTarget
import KeliNative.Proxy.Script
import KeliNative.Relay.PumpRun

/-!
# Several requests on one proxy connection

A client may send further requests on the connection.
-/

namespace KeliNative.Proxy
open Route Outbound Relay Program Text List
open String (ofList toList_ofList ofList_toList)

/-! ### Requests -/

def LineBytes (line : Bytes) : Prop := line ≠ [] ∧ 13 ∉ line ∧ 10 ∉ line

def Visible (c : Char) : Prop := 33 ≤ c.toNat ∧ c.toNat ≤ 126

/-- A request with an absolute target, as it comes from the client. -/
structure AbsoluteRequest where
  method : List Char
  /-- `http`, in any letter case. -/
  scheme : List Char
  authority : Authority
  /-- The path and the query. -/
  rest : List Char
  fields : List Bytes
  body : Bytes
  method_ne_nil : method ≠ []
  scheme_http : asciiLowercase (String.ofList scheme) = "http".toList
  rest_start : rest.head? = none ∨ rest.head? = some '/' ∨ rest.head? = some '?'
  visible : ∀ c ∈ method ++ scheme ++ authority.text ++ rest, Visible c
  field_lines : ∀ field ∈ fields, LineBytes field

namespace AbsoluteRequest

def targetText (request : AbsoluteRequest) : List Char :=
  request.scheme ++ "://".toList ++ (request.authority.text ++ request.rest)

def line (request : AbsoluteRequest) : List Char :=
  request.method ++ ' ' :: (request.targetText ++ ' ' :: "HTTP/1.1".toList)

def lineBytes (request : AbsoluteRequest) : Bytes := utf8 (String.ofList request.line)

def headerOf (lines : List Bytes) : Bytes := lines.flatMap (· ++ [13, 10]) ++ [13, 10]

def header (request : AbsoluteRequest) : Bytes := headerOf (request.lineBytes :: request.fields)

def bytes (request : AbsoluteRequest) : Bytes := request.header ++ request.body

def target (request : AbsoluteRequest) : OutboundTarget :=
  ⟨String.ofList request.authority.host, request.authority.portNumber⟩

end AbsoluteRequest

/-! ### Where a header ends -/

theorem headerOf_cons (line : Bytes) (lines : List Bytes) :
    AbsoluteRequest.headerOf (line :: lines) =
      line ++ 13 :: 10 :: AbsoluteRequest.headerOf lines := by
  simp [AbsoluteRequest.headerOf]

theorem headerEnd_suffix_headerOf {lines : List Bytes} :
    headerEnd <:+ 13 :: 10 :: AbsoluteRequest.headerOf lines := by
  induction lines with
  | nil => exact suffix_rfl
  | cons line lines ih =>
    rw [headerOf_cons]
    exact ih.trans ⟨13 :: 10 :: line, by simp⟩

theorem headerEnd_suffix_of_line {line start : Bytes} (hline : LineBytes line)
    {rest : Bytes} (hstart : start <+: 13 :: 10 :: line ++ 13 :: 10 :: rest)
    (hend : headerEnd <:+ start) :
    ∃ start', start = 13 :: 10 :: line ++ start' ∧ start' <+: 13 :: 10 :: rest ∧
      headerEnd <:+ start' := by
  obtain ⟨hne, -, hfeed⟩ := hline
  have hfeeds : 2 ≤ start.count 10 := by
    have hle := hend.sublist.count_le 10
    exact le_trans (by decide) hle
  have hfront : (13 :: 10 :: line).count 10 = 1 := by simp [count_eq_zero.mpr hfeed]
  rcases prefix_or_prefix_of_prefix hstart (prefix_append (13 :: 10 :: line) _) with
    hshort | ⟨start', rfl⟩
  · have hle := hshort.sublist.count_le 10
    omega
  · have hstart' := (prefix_append_right_inj _).mp hstart
    refine ⟨start', rfl, hstart', ?_⟩
    obtain ⟨tail, htail⟩ := hstart'
    rw [count_append] at hfeeds
    match start', htail with
    | [], _ =>
      rw [hfront] at hfeeds
      exact absurd hfeeds (by decide)
    | [a], htail =>
      obtain rfl : a = 13 := (List.cons.inj htail).1
      rw [hfront] at hfeeds
      exact absurd hfeeds (by decide)
    | [a, b], htail =>
      obtain ⟨front, hfront'⟩ := hend
      have hsplit : (front ++ [13, 10]) ++ [13, 10] = (13 :: 10 :: line) ++ [a, b] := by
        simpa [headerEnd] using hfront'
      have hlast := congrArg List.getLast? (append_inj' hsplit rfl).1
      rw [List.getLast?_append_of_ne_nil _ (by simp)] at hlast
      have hmem : (10 : UInt8) ∈ line := by
        apply mem_of_getLast?
        rw [← List.getLast?_append_of_ne_nil [13, 10] hne]
        exact hlast.symm
      exact absurd hmem hfeed
    | [a, b, c], htail =>
      obtain ⟨front, hfront'⟩ := hend
      have hsplit : (front ++ [13, 10]) ++ [13, 10] = (13 :: 10 :: line ++ [a]) ++ [b, c] := by
        simpa [headerEnd] using hfront'
      have hb : 13 = b := (List.cons.inj (append_inj' hsplit rfl).2).1
      have hb' : b = 10 := (List.cons.inj (List.cons.inj htail).2).1
      rw [hb'] at hb
      contradiction
    | a :: b :: c :: d :: start', _ =>
      exact suffix_of_suffix_length_le hend (suffix_append _ _) (by simp [headerEnd])

theorem endsFirst_headerOf {lines : List Bytes} (hlines : ∀ line ∈ lines, LineBytes line) :
    EndsFirst headerEnd (13 :: 10 :: AbsoluteRequest.headerOf lines) := by
  refine ⟨headerEnd_suffix_headerOf, ?_⟩
  induction lines with
  | nil =>
    intro start hstart hend
    exact hstart.eq_of_length (Nat.le_antisymm hstart.length_le hend.length_le)
  | cons line lines ih =>
    intro start hstart hend
    rw [headerOf_cons] at hstart ⊢
    rw [← cons_append, ← cons_append] at hstart ⊢
    obtain ⟨start', rfl, hstart', hend'⟩ :=
      headerEnd_suffix_of_line (hlines line mem_cons_self) hstart hend
    rw [ih (fun other hother => hlines other (mem_cons_of_mem _ hother)) start' hstart' hend']

namespace AbsoluteRequest

variable (request : AbsoluteRequest)

theorem targetText_visible : ∀ c ∈ request.targetText, Visible c := by
  have hvisible := request.visible
  intro c hc
  unfold targetText at hc
  simp only [mem_append] at hc hvisible
  rcases hc with (hscheme | hmark) | hauthority | hrest
  · exact hvisible c (.inl (.inl (.inr hscheme)))
  · have hmark' : c = ':' ∨ c = '/' := by simpa using hmark
    rcases hmark' with rfl | rfl
    · exact ⟨by decide, by decide⟩
    · exact ⟨by decide, by decide⟩
  · exact hvisible c (.inl (.inr hauthority))
  · exact hvisible c (.inr hrest)

theorem version_visible : ∀ c ∈ "HTTP/1.1".toList, Visible c := by
  intro c hc
  have hcs : c ∈ ['H', 'T', 'T', 'P', '/', '1', '.', '1'] := hc
  simp only [mem_cons, not_mem_nil, or_false] at hcs
  rcases hcs with rfl | rfl | rfl | rfl | rfl | rfl | rfl | rfl
  all_goals exact ⟨by decide, by decide⟩

theorem bytes_eq : request.bytes = request.header ++ request.body := rfl

theorem line_visible : ∀ c ∈ request.line, c = ' ' ∨ Visible c := by
  have hvisible := request.visible
  intro c hc
  unfold line at hc
  simp only [mem_append, mem_cons] at hc hvisible
  rcases hc with hmethod | rfl | htarget | rfl | hver
  · exact .inr (hvisible c (.inl (.inl (.inl hmethod))))
  · exact .inl rfl
  · exact .inr (request.targetText_visible c htarget)
  · exact .inl rfl
  · exact .inr (version_visible c hver)

theorem line_ascii : ∀ c ∈ request.line, 32 ≤ c.toNat ∧ c.toNat < 128 := by
  intro c hc
  rcases request.line_visible c hc with rfl | hvisible
  · exact ⟨by decide, by decide⟩
  · unfold Visible at hvisible
    omega

theorem lineBytes_line : LineBytes request.lineBytes := by
  have hascii := request.line_ascii
  have hbytes : request.lineBytes = request.line.map fun c => UInt8.ofNat c.toNat :=
    utf8_ofList_ascii fun c hc => (hascii c hc).2
  have hbyte : ∀ byte : UInt8, byte.toNat < 32 → byte ∉ request.lineBytes := by
    intro byte hlow hmem
    rw [hbytes] at hmem
    obtain ⟨c, hc, rfl⟩ := mem_map.mp hmem
    have hrange := hascii c hc
    rw [UInt8.toNat_ofNat'] at hlow
    omega
  refine ⟨?_, hbyte 13 (by decide), hbyte 10 (by decide)⟩
  rw [hbytes]
  simp [line]

theorem endsFirst_header : EndsFirst headerEnd request.header := by
  have hlines : ∀ line ∈ request.lineBytes :: request.fields, LineBytes line := by
    intro line hline
    rcases mem_cons.mp hline with rfl | hfield
    · exact request.lineBytes_line
    · exact request.field_lines line hfield
  have hends : headerEnd <:+ request.header := by
    unfold header
    rw [headerOf_cons]
    exact headerEnd_suffix_headerOf.trans (suffix_append _ _)
  have hwhole : EndsFirst headerEnd ([13, 10] ++ request.header) := endsFirst_headerOf hlines
  exact hwhole.of_append hends

end AbsoluteRequest

/-! ### What the first header is read as -/

def targetRead (header : Bytes) : Option OutboundTarget :=
  (parseHttpProxyHeader header).toOption.map fun request => ⟨request.host, request.port⟩

theorem splitWhitespace_words {word : List Char} (hword : ∀ c ∈ word, isWhitespace c = false)
    (hne : word ≠ []) (rest : List Char) :
    splitWhitespace (ofList (word ++ ' ' :: rest)) =
      ofList word :: splitWhitespace (ofList rest) := by
  have hsplit := splitOnP_append_cons_of_forall_mem hword ' ' (by decide) rest
  unfold splitWhitespace
  rw [toList_ofList, toList_ofList, hsplit]
  simp [hne]

theorem splitWhitespace_word {word : List Char} (hword : ∀ c ∈ word, isWhitespace c = false)
    (hne : word ≠ []) : splitWhitespace (ofList word) = [ofList word] := by
  unfold splitWhitespace
  rw [toList_ofList, splitOnP_eq_singleton hword]
  simp [hne]

theorem visible_not_isWhitespace {c : Char} (h : Visible c) : isWhitespace c = false := by
  unfold Visible at h
  simp [isWhitespace]
  omega

namespace AbsoluteRequest

variable (request : AbsoluteRequest)

theorem words_line : splitWhitespace (ofList request.line) =
    [ofList request.method, ofList request.targetText, "HTTP/1.1"] := by
  have hmethod : ∀ c ∈ request.method, isWhitespace c = false := by
    intro c hc
    exact visible_not_isWhitespace (request.visible c (by simp [hc]))
  have htarget : ∀ c ∈ request.targetText, isWhitespace c = false := fun c hc =>
    visible_not_isWhitespace (request.targetText_visible c hc)
  have hver : ∀ c ∈ "HTTP/1.1".toList, isWhitespace c = false := fun c hc =>
    visible_not_isWhitespace (version_visible c hc)
  have htarget_ne : request.targetText ≠ [] := by simp [targetText]
  unfold line
  rw [splitWhitespace_words hmethod request.method_ne_nil, splitWhitespace_words htarget htarget_ne,
    splitWhitespace_word hver (by decide), ofList_toList]

theorem exists_text_headerOf {fields : List Bytes} (h : ∀ field ∈ fields, (fromUtf8 field).isSome) :
    ∃ text : List Char, utf8 (ofList text) = headerOf fields := by
  induction fields with
  | nil => exact ⟨['\r', '\n'], by decide +kernel⟩
  | cons field fields ih =>
    obtain ⟨rest, hrest⟩ := ih fun other hother => h other (mem_cons_of_mem _ hother)
    obtain ⟨text, htext⟩ := Option.isSome_iff_exists.mp (h field mem_cons_self)
    refine ⟨text.toList ++ '\r' :: '\n' :: rest, ?_⟩
    have hfield := fromUtf8_eq_some_iff.mp htext
    rw [headerOf_cons, ← hfield, ← hrest, utf8_crlf, ofList_toList]

theorem targetRead_header (hscheme : request.scheme = "http".toList)
    (hrest : request.rest.head? ≠ some '?')
    (hfields : ∀ field ∈ request.fields, (fromUtf8 field).isSome) :
    targetRead request.header = some request.target := by
  obtain ⟨rest, hrestBytes⟩ := exists_text_headerOf hfields
  have hslash : request.rest = [] ∨ request.rest.head? = some '/' := by
    rcases request.rest_start with hnone | hslash | hquery
    · exact .inl (List.head?_eq_none_iff.mp hnone)
    · exact .inr hslash
    · exact absurd hquery hrest
  have hline : '\n' ∉ request.line ++ ['\r'] := by
    intro hmem
    rcases mem_append.mp hmem with hmem | hmem
    · exact absurd (request.line_ascii '\n' hmem).1 (by decide)
    · simp at hmem
  have htext : fromUtf8 request.header =
      some (ofList ((request.line ++ ['\r']) ++ '\n' :: rest)) := by
    rw [fromUtf8_eq_some_iff]
    unfold header lineBytes
    rw [headerOf_cons, ← hrestBytes, append_assoc, singleton_append, utf8_crlf]
  have hhead : (lines (ofList ((request.line ++ ['\r']) ++ '\n' :: rest))).head? =
      some (ofList request.line) := by
    rw [lines_append hline]
    simp [withoutReturn]
  have htarget : (ofList request.targetText).toList =
      "http://".toList ++ (request.authority.text ++ request.rest) := by
    simp [targetText, hscheme]
  unfold targetRead
  rw [parseHttpProxyHeader_eq htext hhead request.words_line, parseTarget_slash htarget hslash]
  rfl

end AbsoluteRequest

/-! ### What a run of the handler did -/

section

variable {ω κ : Type}

/-- The header was refused, or its connection got the rewritten header and what the relay took. -/
inductive Dealt : List (HttpEvent κ) → Prop
  | unserved (read : Bytes) : Dealt (read.map fun byte => .received [byte])
  | served {header : Bytes} {request : HttpProxyRequest} {connection : κ}
    {relayed : List RelayEvent} (hend : EndsFirst headerEnd header)
    (hparse : parseHttpProxyHeader header = .ok request)
    (hfaithful : writtenTo .remote relayed <+: receivedFrom .client relayed) :
    Dealt (header.map (fun byte => .received [byte]) ++
      .opened ⟨request.host, request.port⟩ connection ::
        .sent connection request.rewrittenHeader :: relayed.flatMap (relayEvents connection))

variable (env : ProxyEnvironment ω κ) (runtime : MixedProxyRuntime)
  (streams : HttpProxyStreams ω κ)

theorem preserves_unobserved {ε α : Type} (fact : List (HttpEvent κ) → Prop)
    (prog : Program (Logged ω NetEvent) ε α) :
    Preserves (fun s : Logged (Logged ω NetEvent) (HttpEvent κ) => fact s.events)
      (quietly prog) := fun _ h => h

theorem relayStreams_events (remote : κ) (turns : ℕ)
    (s : Logged (Logged ω NetEvent) (HttpEvent κ)) :
    Ensures (relayStreams env runtime streams remote turns) s fun _ s' =>
      ∃ relayed, s'.events = s.events ++ relayed.flatMap (relayEvents remote) ∧
        writtenTo .remote relayed <+: receivedFrom .client relayed := by
  let ends : RelayEnvironment ω :=
    ⟨streams.client, streams.upstream remote, env.network.now, streams.sleep⟩
  have hstands := relay_stands ends runtime.relayOptions turns s.world.world
  have hfaithful := hstands.faithful _ (prefix_refl _)
  exact ⟨_, rfl, hfaithful.toRemote⟩

theorem relayWithReport_events (remote : κ) (report : ConnectionReport) (turns : ℕ)
    (s : Logged (Logged ω NetEvent) (HttpEvent κ)) :
    Ensures (relayWithReport env runtime streams remote report turns) s fun _ s' =>
      ∃ relayed, s'.events = s.events ++ relayed.flatMap (relayEvents remote) ∧
        writtenTo .remote relayed <+: receivedFrom .client relayed := by
  unfold relayWithReport
  refine ensures_attempt_bind (relayStreams_events env runtime streams remote turns s) ?_
  rintro out s' hrelayed
  match out with
  | .ok none => exact hrelayed
  | .ok (some stats) => exact hrelayed
  | .error error => exact hrelayed

theorem openByRoute_events (target : OutboundTarget)
    (s : Logged (Logged ω NetEvent) (HttpEvent κ)) :
    Ensures (openByRoute env runtime target : Http ω κ IoError (RouteConnect κ)) s fun out s' =>
      s'.events = s.events ++ match out with
        | .ok (.direct conn _ _) => [.opened target conn]
        | _ => [] := rfl

theorem handleHttpProxyConnection_dealt (turns : ℕ) (world : Logged ω NetEvent) :
    Dealt (handleHttpProxyConnection env runtime streams turns ⟨world, []⟩).2.events := by
  show Ensures (handleHttpProxyConnection env runtime streams turns) ⟨world, []⟩ fun _ s' =>
    Dealt s'.events
  unfold handleHttpProxyConnection
  refine ensures_attempt_bind (parseHttpProxyRequest_ensures streams _) ?_
  rintro out s ⟨header, hevs, hparsed⟩
  rw [nil_append] at hevs
  have hunserved : Dealt s.events := hevs ▸ .unserved header
  cases out with
  | error error =>
    exact preserves_bind (preserves_unobserved Dealt _) (fun _ => preserves_fail _) s hunserved
  | ok request =>
    obtain ⟨hend, -, hparse⟩ := hparsed request rfl
    refine ensures_attempt_bind
      (openByRoute_events env runtime ⟨request.host, request.port⟩ s) ?_
    intro out s' hopn
    match out with
    | .ok (.direct conn routeAction connectDuration) =>
      have hserved : ∀ relayed, writtenTo .remote relayed <+: receivedFrom .client relayed →
          Dealt (s'.events ++ [.sent conn request.rewrittenHeader] ++
            relayed.flatMap (relayEvents conn)) := by
        intro relayed hfaithful
        have hdealt := @Dealt.served κ header request conn relayed hend hparse hfaithful
        rw [hopn, hevs]
        simpa using hdealt
      have hunrelayed := hserved [] (prefix_refl _)
      rw [flatMap_nil, append_nil] at hunrelayed
      have hsent : Ensures (perform (.sent conn request.rewrittenHeader)
          (quietly (streams.writeAll conn request.rewrittenHeader)) : Http ω κ IoError Unit) s'
          fun _ s'' => s''.events = s'.events ++ [.sent conn request.rewrittenHeader] := rfl
      refine ensures_bind hsent ?_ ?_
      · intro _ s'' hevs''
        have hcloned : Ensures (silently streams.tryClone : Http ω κ IoError Unit) s''
            fun _ s₃ => s₃.events = s'.events ++ [.sent conn request.rewrittenHeader] :=
          hevs''
        refine ensures_bind hcloned ?_ ?_
        · intro _ s₃ hevs₃
          apply (relayWithReport_events env runtime streams conn _ turns s₃).mono
          rintro _ s₄ ⟨relayed, hevents₄, hfaithful⟩
          rw [hevents₄, hevs₃]
          exact hserved relayed hfaithful
        · intro _ s₃ hevs₃
          rw [hevs₃]
          exact hunrelayed
      · intro _ s'' hevs''
        rw [hevs'']
        exact hunrelayed
    | .ok (.blocked routeAction) =>
      have hdealt : Dealt s'.events := by rwa [hopn, append_nil]
      exact preserves_bind (preserves_unobserved Dealt _) (fun _ =>
        preserves_bind (preserves_unobserved Dealt _) fun _ => preserves_pure _) s' hdealt
    | .ok (.unsupportedOutbound tag routeAction) =>
      have hdealt : Dealt s'.events := by rwa [hopn, append_nil]
      exact preserves_bind (preserves_unobserved Dealt _) (fun _ =>
        preserves_bind (preserves_unobserved Dealt _) fun _ => preserves_fail _) s' hdealt
    | .error error =>
      have hdealt : Dealt s'.events := by rwa [hopn, append_nil]
      exact preserves_bind (preserves_unobserved Dealt _) (fun _ =>
        preserves_bind (preserves_unobserved Dealt _) fun _ => preserves_fail _) s' hdealt

end

/-! ### The streams of a history -/

section

variable {κ : Type} [DecidableEq κ]

def HttpEvent.bytesReceived : HttpEvent κ → Bytes
  | .received bytes => bytes
  | _ => []

def HttpEvent.bytesSent (connection : κ) : HttpEvent κ → Bytes
  | .sent conn' bytes => if conn' = connection then bytes else []
  | _ => []

def receivedBytes (history : List (HttpEvent κ)) : Bytes := history.flatMap HttpEvent.bytesReceived

def sentOn (connection : κ) (history : List (HttpEvent κ)) : Bytes :=
  history.flatMap (HttpEvent.bytesSent connection)

omit [DecidableEq κ] in
theorem receivedBytes_header (header : Bytes) :
    receivedBytes (header.map fun byte => (.received [byte] : HttpEvent κ)) = header := by
  induction header with
  | nil => rfl
  | cons byte header ih =>
    rw [map_cons, receivedBytes, flatMap_cons, ← receivedBytes, ih]
    rfl

theorem sentOn_header (conn : κ) (header : Bytes) :
    sentOn conn (header.map fun byte => .received [byte]) = [] := by
  induction header with
  | nil => rfl
  | cons byte header ih => exact ih

omit [DecidableEq κ] in
theorem receivedBytes_relayed (conn : κ) (relayed : List RelayEvent) :
    receivedBytes (relayed.flatMap (relayEvents conn)) = receivedFrom .client relayed := by
  have hev : ∀ ev, (relayEvents conn ev).flatMap HttpEvent.bytesReceived =
      ev.bytesReceived .client := by
    intro ev
    cases ev with
    | received side bytes =>
      cases side
      · simp [relayEvents, HttpEvent.bytesReceived, RelayEvent.bytesReceived]
      · rfl
    | wrote side bytes => cases side <;> rfl
    | endOfFile side => rfl
    | shutdownWrite side => rfl
    | shutdownBoth side => rfl
  unfold receivedBytes receivedFrom
  rw [flatMap_assoc]
  exact congrArg relayed.flatMap (funext hev)

theorem sentOn_relayed (conn : κ) (relayed : List RelayEvent) :
    sentOn conn (relayed.flatMap (relayEvents conn)) = writtenTo .remote relayed := by
  have hev : ∀ ev, (relayEvents conn ev).flatMap (HttpEvent.bytesSent conn) =
      ev.bytesWritten .remote := by
    intro ev
    cases ev with
    | wrote side bytes =>
      cases side
      · rfl
      · simp [relayEvents, HttpEvent.bytesSent, RelayEvent.bytesWritten]
    | received side bytes => cases side <;> rfl
    | endOfFile side => rfl
    | shutdownWrite side => rfl
    | shutdownBoth side => rfl
  unfold sentOn writtenTo
  rw [flatMap_assoc]
  exact congrArg relayed.flatMap (funext hev)

theorem sentOn_relayed_of_ne {conn conn' : κ} (hne : conn' ≠ conn)
    (relayed : List RelayEvent) : sentOn conn (relayed.flatMap (relayEvents conn')) = [] := by
  unfold sentOn
  rw [flatMap_eq_nil_iff]
  intro ev hev
  obtain ⟨relayEvent, -, hmem⟩ := mem_flatMap.mp hev
  cases relayEvent with
  | received side bytes => cases side <;> simp_all [relayEvents, HttpEvent.bytesSent]
  | wrote side bytes => cases side <;> simp_all [relayEvents, HttpEvent.bytesSent]
  | endOfFile side => simp [relayEvents] at hmem
  | shutdownWrite side => simp [relayEvents] at hmem
  | shutdownBoth side => simp [relayEvents] at hmem

omit [DecidableEq κ] in
theorem mem_opened_served {target target' : OutboundTarget} {conn conn' : κ}
    {header rewritten : Bytes} {relayed : List RelayEvent} :
    .opened target conn ∈ header.map (fun byte => (.received [byte] : HttpEvent κ)) ++
        .opened target' conn' :: .sent conn' rewritten ::
          relayed.flatMap (relayEvents conn') ↔
      target = target' ∧ conn = conn' := by
  have hrelayed : .opened target conn ∉ relayed.flatMap (relayEvents conn') := by
    intro hmem
    obtain ⟨ev, -, hev⟩ := mem_flatMap.mp hmem
    cases ev with
    | received side bytes => cases side <;> simp [relayEvents] at hev
    | wrote side bytes => cases side <;> simp [relayEvents] at hev
    | endOfFile side => simp [relayEvents] at hev
    | shutdownWrite side => simp [relayEvents] at hev
    | shutdownBoth side => simp [relayEvents] at hev
  simp [hrelayed]

end

/-! ### Delivered requests -/

def upToHeader (requests : List AbsoluteRequest) (number : ℕ) : Bytes :=
  (requests.take number).flatMap AbsoluteRequest.bytes ++
    requests[number]?.elim [] AbsoluteRequest.header

/-- A request has been delivered on a connection once everything up to the end of its header was
sent there, the first header rewritten. -/
def Delivered {κ : Type} [DecidableEq κ] (first : AbsoluteRequest) (later : List AbsoluteRequest)
    (number : ℕ) (connection : κ) (history : List (HttpEvent κ)) : Prop :=
  ∃ request, parseHttpProxyHeader first.header = .ok request ∧
    request.rewrittenHeader ++ (upToHeader (first :: later) number).drop first.header.length <+:
      sentOn connection history

section

variable {ω κ : Type} [DecidableEq κ]

theorem rewrittenHeader_ne_nil {header : Bytes} {request : HttpProxyRequest}
    (h : parseHttpProxyHeader header = .ok request) : request.rewrittenHeader ≠ [] := by
  obtain ⟨text, -, -, -, -, -, -, hrewritten⟩ := parseHttpProxyHeader_ok h
  intro hnil
  rw [hrewritten, rewriteHeader, utf8_eq] at hnil
  have hempty := flatMap_utf8EncodeChar_eq_nil hnil
  simp at hempty

theorem not_delivered_of_sentOn_nil {first : AbsoluteRequest} {later : List AbsoluteRequest}
    {number : ℕ} {conn : κ} {history : List (HttpEvent κ)}
    (h : sentOn conn history = []) : ¬ Delivered first later number conn history := by
  rintro ⟨request, hparse, hsent⟩
  rw [h, prefix_nil, append_eq_nil_iff] at hsent
  exact rewrittenHeader_ne_nil hparse hsent.1

theorem header_eq_first {first : AbsoluteRequest} {header rest rest' : Bytes}
    (hend : EndsFirst headerEnd header) (h : header ++ rest <+: first.header ++ rest') :
    header = first.header := by
  have hheader : header <+: first.header ++ rest' := (prefix_append _ _).trans h
  rcases prefix_or_prefix_of_prefix hheader (prefix_append first.header rest') with
    hle | hle
  · exact first.endsFirst_header.first header hle hend.ends
  · exact (hend.first first.header hle first.endsFirst_header.ends).symm

omit [DecidableEq κ] in
theorem receivedBytes_served (header : Bytes) (request : HttpProxyRequest) (conn : κ)
    (relayed : List RelayEvent) :
    receivedBytes (header.map (fun byte => .received [byte]) ++
      .opened ⟨request.host, request.port⟩ conn ::
        .sent conn request.rewrittenHeader :: relayed.flatMap (relayEvents conn)) =
      header ++ receivedFrom .client relayed := by
  rw [receivedBytes, flatMap_append, ← receivedBytes, receivedBytes_header,
    flatMap_cons, flatMap_cons, ← receivedBytes, receivedBytes_relayed]
  rfl

theorem sentOn_served (header : Bytes) (request : HttpProxyRequest) (conn conn' : κ)
    (relayed : List RelayEvent) :
    sentOn conn' (header.map (fun byte => .received [byte]) ++
      .opened ⟨request.host, request.port⟩ conn ::
        .sent conn request.rewrittenHeader :: relayed.flatMap (relayEvents conn)) =
      if conn = conn' then request.rewrittenHeader ++ writtenTo .remote relayed
      else [] := by
  rw [sentOn, flatMap_append, ← sentOn, sentOn_header, nil_append, flatMap_cons,
    flatMap_cons, ← sentOn]
  split_ifs with hsame
  · subst hsame
    rw [sentOn_relayed]
    simp [HttpEvent.bytesSent]
  · rw [sentOn_relayed_of_ne hsame]
    simp [HttpEvent.bytesSent, hsame]

variable {first : AbsoluteRequest} {later : List AbsoluteRequest} {history : List (HttpEvent κ)}

section

variable (hdealt : Dealt history)
  (hcli : receivedBytes history <+: (first :: later).flatMap AbsoluteRequest.bytes)

include hdealt hcli

/-- A delivered request went to its own target exactly if that is the one read from the first
header. -/
theorem opened_iff_of_delivered {request : AbsoluteRequest} {number : ℕ} {conn : κ}
    (hdel : Delivered first later number conn history) :
    .opened request.target conn ∈ history ↔
      targetRead first.header = some request.target := by
  cases hdealt with
  | unserved read =>
    exact absurd hdel (not_delivered_of_sentOn_nil (sentOn_header conn read))
  | @served header parsed conn' relayed hend hparse hfaithful =>
    rw [receivedBytes_served, flatMap_cons, AbsoluteRequest.bytes_eq, append_assoc]
      at hcli
    have hconn : conn = conn' := by
      by_contra hne
      apply not_delivered_of_sentOn_nil _ hdel
      rw [sentOn_served, if_neg (Ne.symm hne)]
    have hread : targetRead first.header = some ⟨parsed.host, parsed.port⟩ := by
      rw [targetRead, ← header_eq_first hend hcli, hparse]
      rfl
    rw [mem_opened_served, hread, Option.some_inj]
    constructor
    · exact fun h => h.1.symm
    · exact fun h => ⟨h.symm, hconn⟩

theorem sentOn_of_dealt (conn : κ) :
    sentOn conn history = [] ∨
      ∃ request, parseHttpProxyHeader first.header = .ok request ∧
        .opened ⟨request.host, request.port⟩ conn ∈ history ∧
        sentOn conn history <+: request.rewrittenHeader ++
          (first.body ++ later.flatMap AbsoluteRequest.bytes) := by
  cases hdealt with
  | unserved read => exact .inl (sentOn_header conn read)
  | @served header parsed conn' relayed hend hparse hfaithful =>
    rw [receivedBytes_served, flatMap_cons, AbsoluteRequest.bytes_eq, append_assoc]
      at hcli
    have hfirst := header_eq_first hend hcli
    rw [sentOn_served]
    split_ifs with hsame
    · refine .inr ⟨parsed, hfirst ▸ hparse, ?_, ?_⟩
      · rw [mem_opened_served]
        exact ⟨rfl, hsame.symm⟩
      · rw [hfirst, prefix_append_right_inj] at hcli
        rw [prefix_append_right_inj]
        exact hfaithful.trans hcli
    · exact .inl rfl

end

end

/-- Each delivered request went to a connection for its own target exactly if all of them name the
target read from the first header. -/
theorem delivered_to_own_target_iff {ω κ : Type} [DecidableEq κ] (env : ProxyEnvironment ω κ)
    (runtime : MixedProxyRuntime) (streams : HttpProxyStreams ω κ) (turns : ℕ)
    (world : Logged ω NetEvent) (first : AbsoluteRequest) (later : List AbsoluteRequest)
    (history : List (HttpEvent κ))
    (hrun : (handleHttpProxyConnection env runtime streams turns ⟨world, []⟩).2.events = history)
    (hcli : receivedBytes history <+: (first :: later).flatMap AbsoluteRequest.bytes) :
    ((∀ number request connection, (first :: later)[number]? = some request →
        Delivered first later number connection history →
          .opened request.target connection ∈ history) ↔
      ∀ number request connection, (first :: later)[number]? = some request →
        Delivered first later number connection history →
          targetRead first.header = some request.target) ∧
    (∀ connection, sentOn connection history = [] ∨
      ∃ request, parseHttpProxyHeader first.header = .ok request ∧
        .opened ⟨request.host, request.port⟩ connection ∈ history ∧
        sentOn connection history <+: request.rewrittenHeader ++
          (first.body ++ later.flatMap AbsoluteRequest.bytes)) ∧
    (first.scheme = "http".toList → first.rest.head? ≠ some '?' →
      (∀ field ∈ first.fields, (fromUtf8 field).isSome) →
        targetRead first.header = some first.target) := by
  have hdealt : Dealt history := hrun ▸ handleHttpProxyConnection_dealt env runtime streams turns world
  refine ⟨?_, sentOn_of_dealt hdealt hcli, first.targetRead_header⟩
  constructor
  · intro h number request connection hreq hdel
    exact (opened_iff_of_delivered hdealt hcli hdel).mp
      (h number request connection hreq hdel)
  · intro h number request connection hreq hdel
    exact (opened_iff_of_delivered hdealt hcli hdel).mpr
      (h number request connection hreq hdel)

/-! ### A second request -/

def refused {ω α : Type} : Io ω α := fail ⟨.connectionRefused, "refused"⟩

def openNetwork : Network Bytes Unit where
  now bytes := (0, bytes)
  toSocketAddrs _ port := Program.pure [⟨.v4 ⟨192, 0, 2, 1⟩, port⟩]
  connectTimeout _ _ := Program.pure ()
  setNodelay _ := Program.pure ()
  peerAddr _ := refused
  bindUdp _ := refused
  setReadTimeout _ _ := refused
  setWriteTimeout _ _ := refused
  sendTo _ _ _ := refused
  recvFrom _ _ := refused

def directProtocols : Protocols Bytes Unit where
  handshake _ _ _ _ := refused
  quicConnect _ _ _ _ _ := refused
  exchange _ _ _ _ _ := refused
  mieruExchange _ _ _ _ _ := refused
  buildRuntime := refused
  quicExchange _ _ _ _ _ _ := refused
  socks5UdpAssociate _ _ := refused
  encryptUdpPacket _ _ _ := refused
  decryptUdpPacket _ _ := refused

def openEnvironment : ProxyEnvironment Bytes Unit where
  network := openNetwork
  protocols := directProtocols
  ipText := decimalIpText
  emitReport _ bytes := bytes
  peek := Program.pure 1

def blockingRuntime : MixedProxyRuntime :=
  scriptRuntime ⟨[⟨"blocked", .domainExact "b", .block⟩], .direct⟩ ⟨.allowSystem, .dualStack, 0⟩

def shortRequest (name : Char) (h : isWhitespace name = false ∧ name ∉ ['/', '?', '#'] ∧
    name ∉ [':', '['] ∧ Visible name) : AbsoluteRequest where
  method := "GET".toList
  scheme := "http".toList
  authority :=
    { bracketed := false
      host := [name]
      port := none
      host_ne_nil := List.cons_ne_nil _ _
      host_plain := by simp [h.1]; simpa using h.2.1
      name_plain := by
        have hplain := h.2.2.1
        simp only [List.mem_cons, List.not_mem_nil, or_false, not_or] at hplain
        simp [hplain, Ne.symm hplain.1]
      literal_plain := nofun
      port_valid := port_valid_none }
  rest := ['/']
  fields := []
  body := []
  method_ne_nil := by decide
  scheme_http := by decide
  rest_start := .inr (.inl rfl)
  visible := by
    intro c hc
    have hcs : c ∈ ['G', 'E', 'T', 'h', 't', 't', 'p', name, '/'] := hc
    simp only [List.mem_cons, List.not_mem_nil, or_false] at hcs
    rcases hcs with rfl | rfl | rfl | rfl | rfl | rfl | rfl | rfl | rfl
    all_goals first | exact h.2.2.2 | exact ⟨by decide, by decide⟩
  field_lines := nofun

def requestToA : AbsoluteRequest :=
  shortRequest 'a' ⟨by decide, by decide, by decide, by decide, by decide⟩

def requestToB : AbsoluteRequest :=
  shortRequest 'b' ⟨by decide, by decide, by decide, by decide, by decide⟩

def twoRequests (first second : AbsoluteRequest) : List (HttpEvent Unit) :=
  (handleHttpProxyConnection openEnvironment blockingRuntime listedClient 1
    ⟨⟨first.bytes ++ second.bytes, []⟩, []⟩).2.events

theorem delivered_to_own_target_of_same_host :
    receivedBytes (twoRequests requestToA requestToA) <+:
      [requestToA, requestToA].flatMap AbsoluteRequest.bytes ∧
    ∀ number request connection, [requestToA, requestToA][number]? = some request →
      Delivered requestToA [requestToA] number connection (twoRequests requestToA requestToA) →
        .opened request.target connection ∈ twoRequests requestToA requestToA := by
  have hcli : receivedBytes (twoRequests requestToA requestToA) <+:
      [requestToA, requestToA].flatMap AbsoluteRequest.bytes := by decide +kernel
  refine ⟨hcli, (delivered_to_own_target_iff openEnvironment blockingRuntime listedClient 1 _ requestToA
    [requestToA] _ rfl hcli).1.mpr ?_⟩
  intro number request connection hreq _
  have hmem := List.mem_of_getElem? hreq
  have hsame : request = requestToA := by simpa using hmem
  rw [hsame]
  decide +kernel

/-- The second request names a host that the routes block, and goes to the connection that was
opened for the first. -/
theorem second_request_unrouted :
    routeAction openEnvironment blockingRuntime requestToB.target = .block ∧
      Delivered requestToA [requestToB] 1 () (twoRequests requestToA requestToB) ∧
      .opened requestToB.target () ∉ twoRequests requestToA requestToB := by
  refine ⟨by decide +kernel, ?_, by decide +kernel⟩
  exact ⟨⟨"GET", "a", 80, "/", "HTTP/1.1", utf8 "GET / HTTP/1.1\r\n\r\n"⟩, by decide +kernel,
    by decide +kernel⟩

end KeliNative.Proxy
