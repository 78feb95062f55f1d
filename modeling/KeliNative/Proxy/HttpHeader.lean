import KeliNative.Lib.TextLemmas
import KeliNative.Proxy.HttpProxy

/-!
# Reading and rewriting the header

The handler takes the client's bytes up to the first empty line.
-/

namespace KeliNative.Proxy
open Route Program Text List
open String (ofList)

section

variable {ω κ : Type} (streams : HttpProxyStreams ω κ)

variable (s : Logged (Logged ω NetEvent) (HttpEvent κ))

theorem readHeaderByte_ensures :
    Ensures (readHeaderByte streams) s fun out s' =>
      s'.events = s.events ++ match out with
        | .ok byte => [.received [byte]]
        | .error _ => [] := by
  unfold Ensures readHeaderByte mapError observed quietly
  rcases hread : streams.readByte s.world.world with ⟨byte | byte, world⟩
  · simp [Except.mapError]
  · simp [Except.mapError]

theorem readHeaderLoop_ensures (left : ℕ) (header : Bytes)
    (hnot : ∀ start, start <+: header → ¬ headerEnd <:+ start)
    (s : Logged (Logged ω NetEvent) (HttpEvent κ)) :
    Ensures (readHeaderLoop streams left header) s fun out s' =>
      ∃ more : Bytes, s'.events = s.events ++ more.map (fun byte => .received [byte]) ∧
        ∀ res, out = .ok res →
          res = header ++ more ∧ EndsFirst headerEnd res ∧ more.length ≤ left := by
  induction left generalizing header s with
  | zero =>
    apply ensures_fail
    exact ⟨[], by simp, nofun⟩
  | succ left ih =>
    apply ensures_bind (readHeaderByte_ensures streams s)
    · intro byte s' hevs
      dsimp only at hevs ⊢
      split_ifs with hend
      · apply ensures_pure
        refine ⟨[byte], hevs, ?_⟩
        rintro res ⟨⟩
        refine ⟨rfl, ⟨hend, fun start hstart hmark => ?_⟩, by simp⟩
        rcases prefix_concat_iff.mp hstart with heq | hbef
        · exact heq
        · exact absurd hmark (hnot start hbef)
      · have hnot' : ∀ start, start <+: header ++ [byte] → ¬ headerEnd <:+ start := by
          intro start hstart
          rcases prefix_concat_iff.mp hstart with rfl | hbef
          · exact hend
          · exact hnot start hbef
        apply (ih (header ++ [byte]) hnot' s').mono
        rintro out s'' ⟨more, hmore, hres⟩
        refine ⟨byte :: more, ?_, ?_⟩
        · rw [hmore, hevs]
          simp
        · intro res hok
          obtain ⟨rfl, hfirst, hlen⟩ := hres res hok
          exact ⟨by simp, hfirst, by simp; omega⟩
    · intro error s' hevs
      exact ⟨[], by simpa using hevs, nofun⟩

theorem readHeader_ensures :
    Ensures (readHeader streams) s fun out s' =>
      ∃ read : Bytes, s'.events = s.events ++ read.map (fun byte => .received [byte]) ∧
        ∀ header, out = .ok header →
          header = read ∧ EndsFirst headerEnd header ∧ header.length ≤ maxHttpProxyHeaderBytes := by
  have hnil : ∀ start, start <+: ([] : Bytes) → ¬ headerEnd <:+ start := by
    intro start hstart
    rw [prefix_nil.mp hstart]
    decide
  apply (readHeaderLoop_ensures streams maxHttpProxyHeaderBytes [] hnil s).mono
  rintro out s' ⟨more, hevs, hres⟩
  refine ⟨more, hevs, fun header hok => ?_⟩
  obtain ⟨rfl, hfirst, hlen⟩ := hres header hok
  exact ⟨rfl, hfirst, hlen⟩

theorem parseHttpProxyRequest_ensures :
    Ensures (parseHttpProxyRequest streams) s fun out s' =>
      ∃ header : Bytes, s'.events = s.events ++ header.map (fun byte => .received [byte]) ∧
        ∀ request, out = .ok request →
          EndsFirst headerEnd header ∧ header.length ≤ maxHttpProxyHeaderBytes ∧
            parseHttpProxyHeader header = .ok request := by
  apply ensures_bind (readHeader_ensures streams s)
  · rintro header s' ⟨read, hevs, hread⟩
    obtain ⟨rfl, hfirst, hlen⟩ := hread header rfl
    cases hparse : parseHttpProxyHeader header with
    | error error => exact ⟨header, hevs, nofun⟩
    | ok request =>
      refine ⟨header, hevs, ?_⟩
      rintro _ ⟨⟩
      exact ⟨hfirst, hlen, hparse⟩
  · rintro error s' ⟨read, hevs, -⟩
    exact ⟨read, hevs, nofun⟩

end

def blankLine : List Char := ['\r', '\n', '\r', '\n']

variable {text : String} {piece : List Char} {request : HttpProxyRequest} {rest : List Char}

theorem endsFirst_blankLine {header : Bytes} (h : EndsFirst headerEnd header)
    (htext : fromUtf8 header = some text) : EndsFirst blankLine text.toList := by
  have hbytes : headerEnd = blankLine.map fun c => UInt8.ofNat c.toNat := by decide
  rw [hbytes, ← fromUtf8_eq_some_iff.mp htext] at h
  exact endsFirst_chars (by simp [blankLine]) h

theorem endsFirst_after_piece (hpiece : ¬ ['\r', '\n'] <:+ piece)
    (h : EndsFirst blankLine (piece ++ '\r' :: '\n' :: rest)) :
    EndsFirst blankLine ('\r' :: '\n' :: rest) := by
  apply h.of_append
  have hrest : 2 ≤ rest.length := by
    obtain ⟨front, hfront⟩ := h.ends
    match rest, hfront with
    | [], hfront =>
      have hsplit : (front ++ ['\r', '\n']) ++ ['\r', '\n'] = piece ++ ['\r', '\n'] := by
        simpa [blankLine] using hfront
      exact absurd ⟨front, append_cancel_right hsplit⟩ hpiece
    | [c], hfront =>
      have hsplit : (front ++ ['\r', '\n']) ++ ['\r', '\n'] = (piece ++ ['\r']) ++ ['\n', c] := by
        simpa [blankLine] using hfront
      have hlast := (append_inj' hsplit rfl).2
      simp at hlast
    | _ :: _ :: rest, _ => simp
  exact suffix_of_suffix_length_le h.ends (suffix_append piece _)
    (by simp [blankLine]; omega)

theorem not_suffix_of_absent (hne : piece ≠ []) (h : ¬ ['\r', '\n'] <:+: piece) :
    ¬ ['\r', '\n'] <:+ '\r' :: '\n' :: piece := by
  rintro ⟨front, hfront⟩
  match piece, hne, h, hfront with
  | [c], _, _, hfront =>
    have hsplit : front ++ ['\r', '\n'] = ['\r'] ++ ['\n', c] := hfront
    have hlast := (append_inj' hsplit rfl).2
    simp at hlast
  | c :: d :: piece, _, h, hfront =>
    have hsuf : ['\r', '\n'] <:+ '\r' :: '\n' :: c :: d :: piece := ⟨front, hfront⟩
    have hends : ['\r', '\n'] <:+ c :: d :: piece :=
      suffix_of_suffix_length_le hsuf ⟨['\r', '\n'], rfl⟩ (by simp)
    exact h hends.isInfix

theorem rewrittenLines_splitCrlf (h : EndsFirst blankLine ('\r' :: '\n' :: rest)) :
    rewrittenLines (splitCrlf rest) = ofList rest := by
  induction hlen : rest.length using Nat.strong_induction_on generalizing rest with
  | _ length ih =>
    have hends : ['\r', '\n'] <:+ rest := by
      have hrest : 2 ≤ rest.length := by
        have hle := h.ends.length_le
        simp [blankLine] at hle
        omega
      have hhalf : ['\r', '\n'] <:+ blankLine := ⟨['\r', '\n'], rfl⟩
      exact suffix_of_suffix_length_le (hhalf.trans h.ends) ⟨['\r', '\n'], rfl⟩ hrest
    obtain ⟨piece, more, rfl, hpiece⟩ := exists_first_pair hends.isInfix
    rw [splitCrlf_append hpiece]
    cases hcases : piece with
    | nil =>
      subst hcases
      have hsame := h.first blankLine ⟨more, rfl⟩ suffix_rfl
      have hmore : more = [] := by simpa [blankLine] using hsame
      rw [hmore]
      rfl
    | cons c line =>
      have hne : piece ≠ [] := by simp [hcases]
      have hmore := endsFirst_after_piece (not_suffix_of_absent hne hpiece) h
      rw [rewrittenLines, ih more.length (by simp at hlen; omega) hmore rfl]
      · apply String.toList_injective
        simp
      · simp

theorem rewriteHeader_eq (htext : text.toList = piece ++ '\r' :: '\n' :: rest)
    (hpiece : ¬ ['\r', '\n'] <:+: piece) (h : EndsFirst blankLine text.toList)
    (method pathAndQuery version : String) :
    rewriteHeader text method pathAndQuery version =
      utf8 (method ++ " " ++ pathAndQuery ++ " " ++ version ++ "\r\n" ++
        ofList rest) := by
  rw [htext] at h
  have hrest := endsFirst_after_piece (fun hsuf => hpiece hsuf.isInfix) h
  rw [rewriteHeader, htext, splitCrlf_append hpiece, drop_one, tail_cons,
    rewrittenLines_splitCrlf hrest]

theorem parseHttpProxyHeader_ok {header : Bytes} (h : parseHttpProxyHeader header = .ok request) :
    ∃ text line target, fromUtf8 header = some text ∧
      (lines text).head? = some line ∧
      splitWhitespace line = [request.method, target, request.httpVersion] ∧
      parseTarget text target = .ok (request.host, request.port, request.pathAndQuery) ∧
      request.rewrittenHeader =
        rewriteHeader text request.method request.pathAndQuery request.httpVersion := by
  unfold parseHttpProxyHeader at h
  split at h
  · contradiction
  next text htext =>
    split at h
    · contradiction
    next line hline =>
      split at h
      next method target version hwords =>
        cases htarget : parseTarget text target with
        | error error =>
          rw [htarget] at h
          contradiction
        | ok parsed =>
          rw [htarget] at h
          cases h
          exact ⟨text, line, target, htext, hline, hwords, htarget, rfl⟩
      · contradiction

theorem mem_normalizeOriginPath {path : String} {c : Char}
    (h : c ∈ (normalizeOriginPath path).toList) : c = '/' ∨ c ∈ path.toList := by
  unfold normalizeOriginPath at h
  split_ifs at h
  · have hc : c = '/' := by simpa using h
    exact .inl hc
  · exact .inr h
  · simpa using h

theorem parseAbsoluteHttpTarget_eq (rest : String) :
    parseAbsoluteHttpTarget rest =
      (parseHostPort (ofList (rest.toList.takeWhile (· != '/'))) 80).map fun (host, port) =>
        (host, port, normalizeOriginPath (ofList (rest.toList.dropWhile (· != '/')))) := by
  unfold parseAbsoluteHttpTarget
  rw [span_eq_takeWhile_dropWhile]
  cases hpath : rest.toList.dropWhile (· != '/') with
  | nil =>
    have hall := takeWhile_append_dropWhile (p := (· != '/')) (l := rest.toList)
    rw [hpath, append_nil] at hall
    have hroot : normalizeOriginPath (ofList []) = normalizeOriginPath "/" := by decide
    rw [hall, String.ofList_toList, hroot]
    dsimp only
    generalize parseHostPort rest 80 = parsed
    cases parsed <;> rfl
  | cons c path =>
    dsimp only
    generalize parseHostPort (ofList (rest.toList.takeWhile (· != '/'))) 80 = parsed
    cases parsed <;> rfl

theorem mem_parseTarget {target host path : String} {port : UInt16} {c : Char}
    (h : parseTarget text target = .ok (host, port, path)) (hc : c ∈ path.toList) :
    c = '/' ∨ c ∈ target.toList := by
  unfold parseTarget at h
  split at h
  next rest hrest =>
    rw [parseAbsoluteHttpTarget_eq] at h
    cases hhost : parseHostPort (ofList (rest.toList.takeWhile (· != '/'))) 80 with
    | error error =>
      rw [hhost] at h
      contradiction
    | ok parsed =>
    rw [hhost] at h
    cases h
    apply (mem_normalizeOriginPath hc).imp_right
    intro hmem
    rw [stripped_eq_some_iff.mp hrest]
    rw [String.toList_ofList] at hmem
    exact mem_append_right _ ((dropWhile_sublist _).subset hmem)
  · split at h
    · contradiction
    · split at h
      · contradiction
      next value _ =>
        cases hhost : parseHostPort value 80 with
        | error error =>
          rw [hhost] at h
          contradiction
        | ok parsed =>
          rw [hhost] at h
          cases h
          exact mem_normalizeOriginPath hc

def HttpProxyRequest.requestLine (request : HttpProxyRequest) : String :=
  request.method ++ " " ++ request.pathAndQuery ++ " " ++ request.httpVersion

theorem newline_not_mem_requestLine {header : Bytes} (h : parseHttpProxyHeader header = .ok request)
    : '\n' ∉ request.requestLine.toList := by
  obtain ⟨text, requestLine, target, -, -, hwords, htarget, -⟩ := parseHttpProxyHeader_ok h
  have hword : ∀ word ∈ [request.method, target, request.httpVersion], '\n' ∉ word.toList := by
    intro word hword hmem
    rw [← hwords] at hword
    have hspace := not_isWhitespace_of_mem_splitWhitespace hword '\n' hmem
    simp [isWhitespace] at hspace
  have hpath : '\n' ∉ request.pathAndQuery.toList := by
    intro hmem
    rcases mem_parseTarget htarget hmem with hslash | hmem
    · contradiction
    · exact hword target (by simp) hmem
  have hmethod := hword request.method (by simp)
  have hver := hword request.httpVersion (by simp)
  simp [HttpProxyRequest.requestLine, hmethod, hpath, hver]

def EndsFirstLine (text : String) : Prop :=
  (text.toList.takeWhile (· != '\n')).getLast? = some '\r'

instance (text : String) : Decidable (EndsFirstLine text) :=
  inferInstanceAs (Decidable (_ = _))

theorem lines_rewritten (h : '\n' ∉ request.requestLine.toList) (rest : List Char) :
    lines (request.requestLine ++ "\r\n" ++ ofList rest) =
      request.requestLine :: lines (ofList rest) := by
  have htext : request.requestLine ++ "\r\n" ++ ofList rest =
      ofList ((request.requestLine.toList ++ ['\r']) ++ '\n' :: rest) := by
    apply String.toList_injective
    simp
  have hline : '\n' ∉ request.requestLine.toList ++ ['\r'] := by simp [h]
  rw [htext, lines_append hline]
  simp [withoutReturn]

theorem takeWhile_newline {line : List Char} (h : '\n' ∉ line) (rest : List Char) :
    (line ++ '\n' :: rest).takeWhile (· != '\n') = line := by
  have hspan := span_ne_append h rest
  rw [span_eq_takeWhile_dropWhile] at hspan
  exact congrArg Prod.fst hspan

theorem lines_after_crlf_iff (htext : text.toList = piece ++ '\r' :: '\n' :: rest)
    (hpiece : ¬ ['\r', '\n'] <:+: piece) :
    lines (ofList rest) = (lines text).drop 1 ↔ EndsFirstLine text := by
  have hcs : text = ofList (piece ++ '\r' :: '\n' :: rest) := by
    rw [← htext, String.ofList_toList]
  unfold EndsFirstLine
  rw [htext, hcs]
  by_cases hmem : '\n' ∈ piece
  · obtain ⟨line, more, rfl, hline⟩ := eq_append_cons_of_mem hmem
    have hbare : line.getLast? ≠ some '\r' := by
      intro hlast
      obtain ⟨start, rfl⟩ := List.getLast?_eq_some_iff.mp hlast
      exact hpiece ⟨start, more, by simp⟩
    have hdropped : lines (ofList rest) ≠
        lines (ofList ((more ++ ['\r']) ++ '\n' :: rest)) := by
      rw [lines_append_lines]
      intro hsame
      exact lines_newline_ne_nil _ (self_eq_append_left.mp hsame)
    have hmore : line ++ '\n' :: more ++ '\r' :: '\n' :: rest =
        line ++ '\n' :: ((more ++ ['\r']) ++ '\n' :: rest) := by simp
    rw [hmore, takeWhile_newline hline, lines_append hline, drop_one, tail_cons]
    exact iff_of_false hdropped hbare
  · have hline : '\n' ∉ piece ++ ['\r'] := by simp [hmem]
    have hfirst : piece ++ '\r' :: '\n' :: rest = (piece ++ ['\r']) ++ '\n' :: rest := by simp
    rw [hfirst, takeWhile_newline hline, lines_append hline, drop_one, tail_cons,
      List.getLast?_concat]
    exact iff_of_true rfl rfl

theorem exists_field_lines (h : EndsFirst blankLine text.toList) :
    ∃ fields, (lines text).drop 1 = fields ++ [""] := by
  obtain ⟨front, hfront⟩ := h.ends
  have hcs : text = ofList ((front ++ ['\r']) ++ '\n' :: ['\r', '\n']) := by
    apply String.toList_injective
    rw [← hfront]
    simp [blankLine]
  have hblank : lines (ofList ['\r', '\n']) = [""] := by decide
  rw [hcs, lines_append_lines, hblank]
  cases hstart : lines (ofList (front ++ ['\r'] ++ ['\n'])) with
  | nil => exact absurd hstart (lines_newline_ne_nil _)
  | cons line fields => exact ⟨fields, rfl⟩

theorem rewrittenHeader_lines {header : Bytes} (hend : EndsFirst headerEnd header)
    (h : parseHttpProxyHeader header = .ok request) :
    ∃ text fields rewritten, fromUtf8 header = some text ∧ (lines text).drop 1 = fields ++ [""] ∧
      fromUtf8 request.rewrittenHeader = some rewritten ∧
      (lines rewritten = request.requestLine :: (fields ++ [""]) ↔ EndsFirstLine text) := by
  have hnewline := newline_not_mem_requestLine h
  obtain ⟨text, -, -, htext, -, -, -, hrewritten⟩ := parseHttpProxyHeader_ok h
  have hblank := endsFirst_blankLine hend htext
  have hcrlf : ['\r', '\n'] <:+: text.toList := by
    have hhalf : ['\r', '\n'] <:+ blankLine := ⟨['\r', '\n'], rfl⟩
    exact (hhalf.trans hblank.ends).isInfix
  obtain ⟨piece, rest, hpieces, hpiece⟩ := exists_first_pair hcrlf
  obtain ⟨fields, hfields⟩ := exists_field_lines hblank
  refine ⟨text, fields, request.requestLine ++ "\r\n" ++ ofList rest, htext, hfields, ?_, ?_⟩
  · rw [hrewritten, rewriteHeader_eq hpieces hpiece hblank]
    exact fromUtf8_utf8 _
  · rw [lines_rewritten hnewline, ← hfields, cons_inj_right]
    exact lines_after_crlf_iff hpieces hpiece

/-- A client whose bytes are listed, and servers that take everything and answer nothing. -/
def listedClient : HttpProxyStreams Bytes Unit where
  client :=
    { setNonblockingMode := fun _ => Program.pure ()
      read := fun length bytes => (.ok (bytes.take length), bytes.drop length)
      write := fun bytes => Program.pure bytes.length
      flush := Program.pure ()
      shutdownWrite := Program.pure ()
      shutdownBoth := Program.pure () }
  readByte
    | [] => (.error ⟨.unexpectedEof, "failed to fill whole buffer"⟩, [])
    | byte :: rest => (.ok byte, rest)
  respond _ := Program.pure ()
  tryClone := Program.pure ()
  upstream _ :=
    { setNonblockingMode := fun _ => Program.pure ()
      read := fun _ => fail ⟨.wouldBlock, "nothing to read"⟩
      write := fun bytes => Program.pure bytes.length
      flush := Program.pure ()
      shutdownWrite := Program.pure ()
      shutdownBoth := Program.pure () }
  writeAll _ _ := Program.pure ()
  sleep _ bytes := bytes

/-- What is sent on has the lines the parser saw exactly if the request line did not end in a bare
line feed. -/
theorem rewritten_keeps_lines_iff {ω κ : Type} (streams : HttpProxyStreams ω κ)
    (s s' : Logged (Logged ω NetEvent) (HttpEvent κ)) (request : HttpProxyRequest)
    (hrun : parseHttpProxyRequest streams s = (.ok request, s')) :
    ∃ header text fields rewritten,
      s'.events = s.events ++ header.map (fun byte => .received [byte]) ∧
      EndsFirst headerEnd header ∧ header.length ≤ maxHttpProxyHeaderBytes ∧
      fromUtf8 header = some text ∧ (lines text).drop 1 = fields ++ [""] ∧
      fromUtf8 request.rewrittenHeader = some rewritten ∧
      (lines rewritten = request.requestLine :: (fields ++ [""]) ↔ EndsFirstLine text) := by
  have hensures := parseHttpProxyRequest_ensures streams s
  rw [Ensures, hrun] at hensures
  obtain ⟨header, hevs, hparsed⟩ := hensures
  obtain ⟨hend, hlen, hparse⟩ := hparsed request rfl
  obtain ⟨text, fields, rewritten, htext, hfields, hrewritten, hiff⟩ :=
    rewrittenHeader_lines hend hparse
  exact ⟨header, text, fields, rewritten, hevs, hend, hlen, htext, hfields, hrewritten, hiff⟩

def listedBytes (text : String) : Logged (Logged Bytes NetEvent) (HttpEvent Unit) :=
  ⟨⟨utf8 text, []⟩, []⟩

theorem rewritten_keeps_lines_of_crlf :
    (parseHttpProxyRequest listedClient (listedBytes "GET / HTTP/1.1\r\nHost: a\r\n\r\nbody")).1 =
        .ok ⟨"GET", "a", 80, "/", "HTTP/1.1", utf8 "GET / HTTP/1.1\r\nHost: a\r\n\r\n"⟩ ∧
      ∃ (header : Bytes) (text : String) (fields : List String) (rewritten : String),
        (parseHttpProxyRequest listedClient
          (listedBytes "GET / HTTP/1.1\r\nHost: a\r\n\r\nbody")).2.events =
            [] ++ header.map (fun byte => .received [byte]) ∧
        EndsFirst headerEnd header ∧ header.length ≤ maxHttpProxyHeaderBytes ∧
        fromUtf8 header = some text ∧ (lines text).drop 1 = fields ++ [""] ∧
        fromUtf8 (utf8 "GET / HTTP/1.1\r\nHost: a\r\n\r\n") = some rewritten ∧
        (lines rewritten = "GET / HTTP/1.1" :: (fields ++ [""]) ↔ EndsFirstLine text) := by
  have hok : (parseHttpProxyRequest listedClient
      (listedBytes "GET / HTTP/1.1\r\nHost: a\r\n\r\nbody")).1 =
        .ok ⟨"GET", "a", 80, "/", "HTTP/1.1", utf8 "GET / HTTP/1.1\r\nHost: a\r\n\r\n"⟩ := by
    decide +kernel
  exact ⟨hok, rewritten_keeps_lines_iff listedClient _ _ _ (Prod.ext hok rfl)⟩

/-- The host is read from a line that the upstream never receives. -/
theorem bare_line_feed_drops_host :
    (parseHttpProxyRequest listedClient (listedBytes "GET / HTTP/1.1\nHost: a\r\n\r\n")).1 =
        .ok ⟨"GET", "a", 80, "/", "HTTP/1.1", utf8 "GET / HTTP/1.1\r\n\r\n"⟩ ∧
      lines "GET / HTTP/1.1\nHost: a\r\n\r\n" = ["GET / HTTP/1.1", "Host: a", ""] ∧
      lines "GET / HTTP/1.1\r\n\r\n" = ["GET / HTTP/1.1", ""] := by
  decide +kernel

end KeliNative.Proxy
