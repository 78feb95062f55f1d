import KeliNative.Proxy.HttpHeader

/-!
# The target of a request line

The absolute and the origin form as a grammar over characters.
-/

namespace KeliNative.Proxy
open Route Program Text List
open String (ofList toList_ofList ofList_toList)

/-! ### Authorities -/

structure Authority where
  bracketed : Bool
  host : List Char
  port : Option (List Char)
  host_ne_nil : host ≠ []
  host_plain : ∀ c ∈ host, isWhitespace c = false ∧ c ∉ ['/', '?', '#']
  name_plain : bracketed = false → ':' ∉ host ∧ '[' ∉ host.head?
  literal_plain : bracketed = true → ']' ∉ host
  port_valid : ∀ digits ∈ port, digits ≠ [] ∧ digits.all Char.isDigit ∧
    Nat.ofDigitChars 10 digits 0 < 65536

theorem port_valid_none : ∀ digits ∈ (none : Option (List Char)), digits ≠ [] ∧
    digits.all Char.isDigit ∧ Nat.ofDigitChars 10 digits 0 < 65536 := nofun

namespace Authority

def hostText (authority : Authority) : List Char :=
  if authority.bracketed then '[' :: authority.host ++ [']'] else authority.host

def portText (authority : Authority) : List Char :=
  authority.port.elim [] (':' :: ·)

def text (authority : Authority) : List Char := authority.hostText ++ authority.portText

def portNumber (authority : Authority) : UInt16 :=
  authority.port.elim 80 fun digits => UInt16.ofNat (Nat.ofDigitChars 10 digits 0)

theorem digit_plain {c : Char} (h : c.isDigit = true) :
    isWhitespace c = false ∧ c ∉ ['/', '?', '#'] := by
  have hrange : 48 ≤ c.toNat ∧ c.toNat ≤ 57 := by
    simp only [Char.isDigit, Bool.and_eq_true, decide_eq_true_eq, UInt32.le_iff_toNat_le] at h
    exact h
  constructor
  · simp [isWhitespace]
    omega
  · intro hmem
    simp only [mem_cons, not_mem_nil, or_false] at hmem
    rcases hmem with rfl | rfl | rfl
    all_goals contradiction

theorem portText_plain (authority : Authority) :
    ∀ c ∈ authority.portText, isWhitespace c = false ∧ c ∉ ['/', '?', '#'] := by
  intro c hc
  unfold portText at hc
  cases hport : authority.port with
  | none =>
    rw [hport] at hc
    simp at hc
  | some digits =>
    rw [hport] at hc
    rcases mem_cons.mp hc with rfl | hdigit
    · decide
    · have hdigits := (authority.port_valid digits hport).2.1
      exact digit_plain (all_eq_true.mp hdigits c hdigit)

theorem text_plain (authority : Authority) :
    ∀ c ∈ authority.text, isWhitespace c = false ∧ c ∉ ['/', '?', '#'] := by
  intro c hc
  rcases mem_append.mp hc with hhost | hport
  · unfold hostText at hhost
    split_ifs at hhost
    · simp only [mem_append, mem_cons, not_mem_nil, or_false] at hhost
      rcases hhost with (rfl | hhost) | rfl
      · decide
      · exact authority.host_plain c hhost
      · decide
    · exact authority.host_plain c hhost
  · exact authority.portText_plain c hport

theorem text_ne_nil (authority : Authority) : authority.text ≠ [] := by
  have hhost := authority.host_ne_nil
  unfold text hostText
  split_ifs
  · simp
  · simp [hhost]

end Authority

/-! ### Ports -/

theorem parsePort_digits {digits : List Char} (h : digits ≠ []) (hdigits : digits.all Char.isDigit)
    (hbound : Nat.ofDigitChars 10 digits 0 < 65536) (port : UInt16) :
    parsePort (ofList digits) port =
      .ok (UInt16.ofNat (Nat.ofDigitChars 10 digits 0)) := by
  obtain ⟨c, rest, rfl⟩ := exists_cons_of_ne_nil h
  have hc : c.isDigit = true := all_eq_true.mp hdigits c mem_cons_self
  have hne : ofList (c :: rest) ≠ "" := by
    intro heq
    have hcs := congrArg String.toList heq
    simp at hcs
  unfold parsePort
  rw [if_neg hne, parseU16_eq (plus_ne_of_isDigit hc), if_pos ⟨hdigits, hbound⟩]

theorem parsePort_digits_append {digits extra : List Char} {d : Char} (h : digits ≠ [])
    (hdigits : digits.all Char.isDigit) (hd : d.isDigit = false) (port : UInt16) :
    parsePort (ofList (digits ++ d :: extra)) port =
      .error (.invalidPort (ofList (digits ++ d :: extra))) := by
  obtain ⟨c, rest, rfl⟩ := exists_cons_of_ne_nil h
  have hc : c.isDigit = true := all_eq_true.mp hdigits c mem_cons_self
  have hne : ofList (c :: rest ++ d :: extra) ≠ "" := by
    intro heq
    have hcs := congrArg String.toList heq
    simp at hcs
  have hnot : ¬ ((c :: (rest ++ d :: extra)).all Char.isDigit ∧
      Nat.ofDigitChars 10 (c :: (rest ++ d :: extra)) 0 < 65536) := by
    intro hall
    simp [hd] at hall
  unfold parsePort
  rw [if_neg hne, cons_append, parseU16_eq (plus_ne_of_isDigit hc), if_neg hnot]

/-! ### Hosts -/

theorem parseHostPort_eq {value : List Char} (hne : value ≠ [])
    (hplain : ∀ c ∈ value, isWhitespace c = false) (defaultPort : UInt16) :
    parseHostPort (ofList value) defaultPort =
      match splitHostPort (ofList value) defaultPort with
      | .error error => .error error
      | .ok (host, port) => if trim host = "" then .error .emptyHost else .ok (host, port) := by
  have hval : ofList value ≠ "" := by
    intro heq
    have hcs := congrArg String.toList heq
    simp [hne] at hcs
  have htrim : trim (ofList value) = ofList value :=
    trim_of_no_whitespace (by rwa [toList_ofList])
  unfold parseHostPort
  dsimp only
  rw [htrim, if_neg hval]
  generalize splitHostPort (ofList value) defaultPort = split
  rcases split with error | ⟨host, port⟩
  · rfl
  · show (if trim host = "" then _ else _) = if trim host = "" then _ else _
    split_ifs <;> rfl

theorem splitHostPort_bracketed {host : List Char} (hhost : ']' ∉ host) (rest : List Char)
    (defaultPort : UInt16) :
    splitHostPort (ofList ('[' :: host ++ ']' :: rest)) defaultPort =
      (parsePort ((stripped ":" (ofList rest)).getD "") defaultPort).map
        (ofList host, ·) := by
  have hopen : stripped "[" (ofList ('[' :: host ++ ']' :: rest)) =
      some (ofList (host ++ ']' :: rest)) := by
    rw [stripped_eq_some_iff]
    simp
  unfold splitHostPort
  rw [hopen]
  dsimp only
  rw [splitOnce_append hhost]
  dsimp only
  generalize parsePort ((stripped ":" (ofList rest)).getD "") defaultPort = port
  cases port <;> rfl

theorem splitHostPort_name {value : List Char} (h : '[' ∉ value.head?) (defaultPort : UInt16) :
    splitHostPort (ofList value) defaultPort =
      match rsplitOnce ':' (ofList value) with
      | none => .ok (ofList value, defaultPort)
      | some (host, port) =>
        if ':' ∈ host.toList then .ok (ofList value, defaultPort)
        else (parsePort port defaultPort).map (host, ·) := by
  have hopen : stripped "[" (ofList value) = none := stripped_of_head rfl h
  unfold splitHostPort
  rw [hopen]
  dsimp only
  rcases rsplitOnce ':' (ofList value) with _ | ⟨host, port⟩
  · rfl
  · dsimp only
    split_ifs
    · rfl
    · generalize parsePort port defaultPort = parsed
      cases parsed <;> rfl

namespace Authority

variable (authority : Authority)

theorem trim_host_ne : trim (ofList authority.host) ≠ "" := by
  have hplain : ∀ c ∈ (ofList authority.host).toList, isWhitespace c = false := by
    intro c hc
    rw [toList_ofList] at hc
    exact (authority.host_plain c hc).1
  rw [trim_of_no_whitespace hplain]
  intro heq
  have hcs := congrArg String.toList heq
  simp [authority.host_ne_nil] at hcs

variable {extra : List Char}

theorem parseHostPort_extra (hextra : ∀ c ∈ extra, isWhitespace c = false) (defaultPort : UInt16) :
    parseHostPort (ofList (authority.text ++ extra)) defaultPort =
      match splitHostPort (ofList (authority.text ++ extra)) defaultPort with
      | .error error => .error error
      | .ok (host, port) => if trim host = "" then .error .emptyHost else .ok (host, port) := by
  apply parseHostPort_eq
  · simp [authority.text_ne_nil]
  · intro c hc
    rcases mem_append.mp hc with htext | hextra'
    · exact (authority.text_plain c htext).1
    · exact hextra c hextra'

theorem parseHostPort_literal (hbr : authority.bracketed = true)
    (hport : authority.port = none) (hextra : ∀ c ∈ extra, isWhitespace c = false)
    (hcolon : ':' ∉ extra.head?) :
    parseHostPort (ofList (authority.text ++ extra)) 80 =
      .ok (ofList authority.host, 80) := by
  have htext : authority.text ++ extra = '[' :: authority.host ++ ']' :: extra := by
    simp [text, hostText, portText, hbr, hport]
  have hnone : stripped ":" (ofList extra) = none := stripped_of_head rfl hcolon
  have hdefault : parsePort "" 80 = .ok 80 := rfl
  rw [authority.parseHostPort_extra hextra, htext,
    splitHostPort_bracketed (authority.literal_plain hbr), hnone, Option.getD_none, hdefault]
  exact if_neg authority.trim_host_ne

theorem splitHostPort_literal_port (hbr : authority.bracketed = true) {digits : List Char}
    (hport : authority.port = some digits) (extra : List Char) :
    splitHostPort (ofList (authority.text ++ extra)) 80 =
      (parsePort (ofList (digits ++ extra)) 80).map (ofList authority.host, ·) := by
  have htext : authority.text ++ extra =
      '[' :: authority.host ++ ']' :: (':' :: (digits ++ extra)) := by
    simp [text, hostText, portText, hbr, hport]
  have hsome : stripped ":" (ofList (':' :: (digits ++ extra))) =
      some (ofList (digits ++ extra)) := by
    rw [stripped_eq_some_iff]
    simp
  rw [htext, splitHostPort_bracketed (authority.literal_plain hbr), hsome, Option.getD_some]

theorem parseHostPort_text :
    parseHostPort (ofList authority.text) 80 =
      .ok (ofList authority.host, authority.portNumber) := by
  have hnone : ∀ c ∈ ([] : List Char), isWhitespace c = false := by simp
  have hextra := authority.parseHostPort_extra hnone 80
  rw [append_nil] at hextra
  cases hport : authority.port with
  | none =>
    have hnum : authority.portNumber = 80 := by simp [portNumber, hport]
    cases hbr : authority.bracketed with
    | true =>
      have hliteral := authority.parseHostPort_literal hbr hport hnone (by simp)
      rw [append_nil] at hliteral
      rw [hliteral, hnum]
    | false =>
      have htext : authority.text = authority.host := by
        simp [text, hostText, portText, hbr, hport]
      obtain ⟨hcolon, hopen⟩ := authority.name_plain hbr
      rw [hextra, htext, splitHostPort_name hopen, rsplitOnce_of_not_mem (by simpa using hcolon),
        hnum]
      dsimp only
      rw [if_neg authority.trim_host_ne]
  | some digits =>
    obtain ⟨hne, hdigits, hbound⟩ := authority.port_valid digits hport
    have hnum : authority.portNumber = UInt16.ofNat (Nat.ofDigitChars 10 digits 0) := by
      simp [portNumber, hport]
    have hparsed := parsePort_digits hne hdigits hbound 80
    cases hbr : authority.bracketed with
    | true =>
      have hliteral := authority.splitHostPort_literal_port hbr hport []
      rw [append_nil, append_nil, hparsed] at hliteral
      rw [hextra, hliteral, hnum]
      exact if_neg authority.trim_host_ne
    | false =>
      have htext : authority.text = authority.host ++ ':' :: digits := by
        simp [text, hostText, portText, hbr, hport]
      obtain ⟨hcolon, hopen⟩ := authority.name_plain hbr
      have hopen' : '[' ∉ (authority.host ++ ':' :: digits).head? := by
        rwa [List.head?_append_of_ne_nil _ authority.host_ne_nil]
      have hafter : ':' ∉ digits := by
        intro hmem
        exact absurd (all_eq_true.mp hdigits ':' hmem) (by decide)
      rw [hextra, htext, splitHostPort_name hopen', rsplitOnce_append hafter]
      dsimp only
      rw [if_neg (by simpa using hcolon), hparsed, hnum]
      exact if_neg authority.trim_host_ne

theorem parseHostPort_literal_port (hbr : authority.bracketed = true) {digits : List Char}
    (hport : authority.port = some digits) {d : Char}
    (hextra : ∀ c ∈ d :: extra, isWhitespace c = false) (hd : d.isDigit = false) :
    parseHostPort (ofList (authority.text ++ d :: extra)) 80 =
      .error (.invalidPort (ofList (digits ++ d :: extra))) := by
  obtain ⟨hne, hdigits, -⟩ := authority.port_valid digits hport
  rw [authority.parseHostPort_extra hextra, authority.splitHostPort_literal_port hbr hport,
    parsePort_digits_append hne hdigits hd]
  rfl

theorem parseHostPort_name_ne (hname : authority.bracketed = false) {d : Char}
    (hextra : ∀ c ∈ d :: extra, isWhitespace c = false) (hd : d.isDigit = false) (hcolon : d ≠ ':')
    {host : String} {port : UInt16}
    (h : parseHostPort (ofList (authority.text ++ d :: extra)) 80 = .ok (host, port)) :
    host ≠ ofList authority.host := by
  have htext : authority.text = authority.host ++ authority.portText := by
    simp [text, hostText, hname]
  obtain ⟨hnoColon, hopen⟩ := authority.name_plain hname
  have hopen' : '[' ∉ (authority.text ++ d :: extra).head? := by
    rwa [htext, append_assoc, List.head?_append_of_ne_nil _ authority.host_ne_nil]
  have hlonger : ofList (authority.text ++ d :: extra) ≠ ofList authority.host := by
    intro heq
    have hcs := congrArg (fun text : String => text.toList.length) heq
    simp [htext] at hcs
  have hread : splitHostPort (ofList (authority.text ++ d :: extra)) 80 = .ok (host, port) := by
    rw [authority.parseHostPort_extra hextra] at h
    generalize splitHostPort (ofList (authority.text ++ d :: extra)) 80 = split at h
    rcases split with error | ⟨host', port'⟩
    · contradiction
    · dsimp only at h
      split_ifs at h
      exact h
  rw [splitHostPort_name hopen'] at hread
  split at hread
  · cases hread
    exact hlonger
  next before after hsplit =>
    split_ifs at hread
    · cases hread
      exact hlonger
    · cases hport : parsePort after 80 with
      | error error =>
        rw [hport] at hread
        cases hread
      | ok number =>
        rw [hport] at hread
        cases hread
        rintro rfl
        -- the colon would be the authority's own, with the other characters in the port
        have hcs := rsplitOnce_eq_some hsplit
        rw [toList_ofList, toList_ofList, htext, append_assoc,
          append_cancel_left_eq] at hcs
        cases hdigits : authority.port with
        | none =>
          simp only [portText, hdigits, Option.elim_none, nil_append] at hcs
          exact hcolon (List.cons.inj hcs).1
        | some digits =>
          simp only [portText, hdigits, Option.elim_some, cons_append] at hcs
          have hafter : after = ofList (digits ++ d :: extra) := by
            rw [(List.cons.inj hcs).2, ofList_toList]
          obtain ⟨hne, hall, -⟩ := authority.port_valid digits hdigits
          rw [hafter, parsePort_digits_append hne hall hd] at hport
          cases hport

end Authority

/-! ### Resources -/

/-- The path and the query a target asks for; its fragment is not part of either. -/
def resourceOf (target : List Char) : List Char × Option (List Char) :=
  let named := target.takeWhile (· != '#')
  let path := named.takeWhile (· != '?')
  (if path = [] then ['/'] else path, (named.dropWhile (· != '?')).tail?)

theorem normalizeOriginPath_slash {path : List Char} (h : path.head? = some '/') :
    normalizeOriginPath (ofList path) = ofList path := by
  obtain ⟨rest, rfl⟩ := List.head?_eq_some_iff.mp h
  have hne : ofList ('/' :: rest) ≠ "" := by
    intro heq
    have hcs := congrArg String.toList heq
    simp at hcs
  have hstart : startsWith "/" (ofList ('/' :: rest)) = true := by simp [startsWith]
  rw [normalizeOriginPath, if_neg hne, if_pos hstart]

theorem resourceOf_normalizeOriginPath {path : List Char} (h : path = [] ∨ path.head? = some '/') :
    (normalizeOriginPath (ofList path)).toList.head? = some '/' ∧
      resourceOf (normalizeOriginPath (ofList path)).toList = resourceOf path := by
  rcases h with rfl | hslash
  · exact ⟨by decide, by decide⟩
  · rw [normalizeOriginPath_slash hslash, toList_ofList]
    exact ⟨hslash, rfl⟩

theorem dropWhile_slash_cases (rest : List Char) :
    rest.dropWhile (· != '/') = [] ∨ (rest.dropWhile (· != '/')).head? = some '/' := by
  cases hdrop : rest.dropWhile (· != '/') with
  | nil => exact .inl rfl
  | cons c path =>
    have hnot := head_dropWhile_not (fun c => c != '/') (l := rest) (by simp [hdrop])
    simp only [hdrop, head_cons] at hnot
    have hc : c = '/' := by simpa using hnot
    exact .inr (by rw [hc]; rfl)

def TargetRest (rest : List Char) : Prop := ∀ c ∈ rest.head?, c ∈ ['/', '?', '#']

/-- The parser finds what the target means. -/
def ReadAsMeant (authority : Authority) (rest : List Char) : Prop :=
  (rest = [] ∨ rest.head? = some '/') ∨
    (authority.bracketed = true ∧ authority.port = none ∧
      resourceOf (rest.dropWhile (· != '/')) = resourceOf rest)

def NamesTarget (authority : Authority) (rest : List Char) (parsed : String × UInt16 × String) :
    Prop :=
  parsed.1 = String.ofList authority.host ∧ parsed.2.1 = authority.portNumber ∧
    parsed.2.2.toList.head? = some '/' ∧ resourceOf parsed.2.2.toList = resourceOf rest

variable {authority : Authority} {rest : List Char} {target : String}

theorem parseTarget_absolute
    (htarget : target.toList = "http://".toList ++ (authority.text ++ rest)) (text : String) :
    parseTarget text target =
      (parseHostPort (ofList (authority.text ++ rest.takeWhile (· != '/'))) 80).map
        fun (host, port) =>
          (host, port, normalizeOriginPath (ofList (rest.dropWhile (· != '/')))) := by
  have hrest : stripped "http://" target = some (ofList (authority.text ++ rest)) := by
    rw [stripped_eq_some_iff, htarget]
    simp
  have hplain : ∀ c ∈ authority.text, (c != '/') = true := by
    intro c hc
    have hslash := (authority.text_plain c hc).2
    simp only [mem_cons, not_or] at hslash
    simpa using hslash.1
  unfold parseTarget
  rw [hrest]
  dsimp only
  rw [parseAbsoluteHttpTarget_eq, toList_ofList, takeWhile_append_of_pos hplain,
    dropWhile_append_of_pos hplain]

theorem takeWhile_slash_eq_nil (h : rest = [] ∨ rest.head? = some '/') :
    rest.takeWhile (· != '/') = [] ∧ rest.dropWhile (· != '/') = rest := by
  rcases h with rfl | hslash
  · exact ⟨rfl, rfl⟩
  · obtain ⟨path, rfl⟩ := List.head?_eq_some_iff.mp hslash
    simp

theorem parseTarget_slash (htarget : target.toList = "http://".toList ++ (authority.text ++ rest))
    (hrest : rest = [] ∨ rest.head? = some '/') (text : String) :
    parseTarget text target = .ok (ofList authority.host, authority.portNumber,
      normalizeOriginPath (ofList rest)) := by
  obtain ⟨htake, hdrop⟩ := takeWhile_slash_eq_nil hrest
  rw [parseTarget_absolute htarget, htake, hdrop, append_nil, authority.parseHostPort_text]
  rfl

theorem parseHostPort_delimited {extra : List Char} {d : Char}
    (hextra : ∀ c ∈ d :: extra, isWhitespace c = false) (hd : d ∈ ['?', '#']) {port : UInt16}
    (hread : parseHostPort (ofList (authority.text ++ d :: extra)) 80 =
      .ok (ofList authority.host, port)) :
    authority.bracketed = true ∧ authority.port = none := by
  have hcolon : d ≠ ':' := by
    rintro rfl
    simp at hd
  have hdigit : d.isDigit = false := by
    simp only [mem_cons, not_mem_nil, or_false] at hd
    rcases hd with rfl | rfl <;> rfl
  cases hbr : authority.bracketed with
  | false => exact absurd rfl (authority.parseHostPort_name_ne hbr hextra hdigit hcolon hread)
  | true =>
    cases hport : authority.port with
    | none => exact ⟨rfl, rfl⟩
    | some digits =>
      rw [authority.parseHostPort_literal_port hbr hport hextra hdigit] at hread
      cases hread

theorem parseTarget_absolute_iff
    (htarget : target.toList = "http://".toList ++ (authority.text ++ rest))
    (hplain : ∀ c ∈ target.toList, isWhitespace c = false) (hrest : TargetRest rest) (text : String) :
    (∃ parsed, parseTarget text target = .ok parsed ∧ NamesTarget authority rest parsed) ↔
      ReadAsMeant authority rest := by
  by_cases hwhole : rest = [] ∨ rest.head? = some '/'
  · obtain ⟨hslash, hresource⟩ := resourceOf_normalizeOriginPath hwhole
    apply iff_of_true
    · exact ⟨_, parseTarget_slash htarget hwhole text, rfl, rfl, hslash, hresource⟩
    · exact .inl hwhole
  · obtain ⟨hslash, hresource⟩ := resourceOf_normalizeOriginPath (dropWhile_slash_cases rest)
    obtain ⟨d, more, rfl⟩ := exists_cons_of_ne_nil fun hnil => hwhole (.inl hnil)
    have hne : d ≠ '/' := by
      rintro rfl
      exact hwhole (.inr rfl)
    have hdelim : d ∈ ['?', '#'] := by
      have hmem := hrest d rfl
      simpa [hne] using hmem
    have htake : (d :: more).takeWhile (· != '/') = d :: more.takeWhile (· != '/') := by
      simp [hne]
    have hextra : ∀ c ∈ d :: more.takeWhile (· != '/'), isWhitespace c = false := by
      intro c hc
      apply hplain
      rw [← htake] at hc
      rw [htarget, mem_append, mem_append]
      exact .inr (.inr ((takeWhile_sublist _).subset hc))
    rw [parseTarget_absolute htarget, htake]
    constructor
    · rintro ⟨parsed, hparsed, hhost, -, -, hsame⟩
      rcases hread : parseHostPort
          (ofList (authority.text ++ d :: more.takeWhile (· != '/'))) 80 with
        error | ⟨host, port⟩
      · rw [hread] at hparsed
        cases hparsed
      · rw [hread] at hparsed
        cases hparsed
        dsimp only at hhost hsame
        rw [hhost] at hread
        obtain ⟨hbr, hport⟩ := parseHostPort_delimited hextra hdelim hread
        exact .inr ⟨hbr, hport, hresource.symm.trans hsame⟩
    · rintro (hslashed | ⟨hbr, hport, hsame⟩)
      · exact absurd hslashed hwhole
      · have hcolon : ':' ∉ (d :: more.takeWhile (· != '/')).head? := by
          rw [List.head?_cons, Option.mem_some_iff]
          rintro rfl
          simp at hdelim
        have hnum : authority.portNumber = 80 := by simp [Authority.portNumber, hport]
        rw [authority.parseHostPort_literal hbr hport hextra hcolon]
        exact ⟨_, rfl, rfl, hnum.symm, hslash, hresource.trans hsame⟩

/-! ### Origin form -/

def IsHostLine (line : String) (value : List Char) : Prop :=
  ∃ name, line.toList = name ++ ':' :: value ∧ asciiLowercase (String.ofList name) = "host".toList

def HasHost (text : String) (authority : Authority) : Prop :=
  ∃ before line after left right, (lines text).drop 1 = before ++ line :: after ∧
    (∀ other ∈ before, ∀ value, ¬ IsHostLine other value) ∧
    (∀ c ∈ left, isWhitespace c = true) ∧ (∀ c ∈ right, isWhitespace c = true) ∧
    IsHostLine line (left ++ authority.text ++ right)

theorem colon_not_mem_host {name : List Char}
    (h : asciiLowercase (ofList name) = "host".toList) : ':' ∉ name := by
  intro hmem
  have hlower : Char.toLower ':' ∈ asciiLowercase (ofList name) := by
    unfold asciiLowercase
    rw [toList_ofList]
    exact mem_map_of_mem hmem
  rw [h] at hlower
  simp at hlower

def hostOfLine (line : String) : Option String := do
  let (name, value) ← splitOnce ':' line
  if asciiLowercase name = "host".toList then some (trim value) else none

theorem hostOfLine_of_isHostLine {line : String} {value : List Char} (h : IsHostLine line value) :
    hostOfLine line = some (trim (ofList value)) := by
  obtain ⟨name, hline, hname⟩ := h
  have hsplit := splitOnce_append (colon_not_mem_host hname) value
  rw [← hline, ofList_toList] at hsplit
  unfold hostOfLine
  rw [hsplit]
  exact if_pos hname

theorem hostOfLine_eq_none {line : String} (h : ∀ value, ¬ IsHostLine line value) :
    hostOfLine line = none := by
  unfold hostOfLine
  by_cases hmem : ':' ∈ line.toList
  · obtain ⟨name, value, hline, hname⟩ := eq_append_cons_of_mem hmem
    have hsplit := splitOnce_append hname value
    rw [← hline, ofList_toList] at hsplit
    rw [hsplit]
    exact if_neg fun hhost => h value ⟨name, hline, hhost⟩
  · rw [splitOnce_of_not_mem hmem]
    rfl

theorem findHostHeader_of_hasHost {text : String} (h : HasHost text authority) :
    findHostHeader text = some (ofList authority.text) := by
  obtain ⟨before, line, after, left, right, hlines, hbef, hleft, hright, hline⟩ := h
  have hnone : before.findSome? hostOfLine = none := by
    rw [List.findSome?_eq_none_iff]
    exact fun other hother => hostOfLine_eq_none (hbef other hother)
  have htrim := trim_padded authority.text_ne_nil (fun c hc => (authority.text_plain c hc).1)
    hleft hright
  have hfound := hostOfLine_of_isHostLine hline
  rw [htrim] at hfound
  unfold findHostHeader
  rw [hlines]
  show (before ++ line :: after).findSome? hostOfLine = _
  rw [List.findSome?_append, hnone, Option.none_or, List.findSome?_cons_of_isSome]
  · exact hfound
  · rw [hfound]
    rfl

section

variable (hslash : target.toList.head? = some '/')

include hslash

theorem stripped_http_of_slash : stripped "http://" target = none := by
  rw [stripped_eq_none_iff]
  rintro ⟨rest, hrest⟩
  rw [← hrest] at hslash
  simp at hslash

theorem parseTarget_origin {text : String} (hhost : HasHost text authority)
    (hscheme : ¬ "://".toList <:+: target.toList) :
    parseTarget text target = .ok (ofList authority.host, authority.portNumber, target) := by
  have hpath := normalizeOriginPath_slash hslash
  rw [ofList_toList] at hpath
  unfold parseTarget
  rw [stripped_http_of_slash hslash,
    (splitOnceAt_eq_none_iff (by decide) target.toList).mpr hscheme]
  dsimp only
  rw [findHostHeader_of_hasHost hhost]
  dsimp only
  rw [authority.parseHostPort_text, hpath]
  rfl

theorem parseTarget_scheme (hscheme : "://".toList <:+: target.toList) (text : String) :
    ∃ scheme, parseTarget text target = .error (.unsupportedScheme scheme) := by
  have hfound : splitOnceAt "://".toList target.toList ≠ none := by
    rw [Ne, splitOnceAt_eq_none_iff (by decide)]
    exact fun hnot => hnot hscheme
  obtain ⟨⟨scheme, rest⟩, hsplit⟩ := Option.ne_none_iff_exists'.mp hfound
  unfold parseTarget
  rw [stripped_http_of_slash hslash, hsplit]
  exact ⟨_, rfl⟩

end

/-! ### Both forms -/

theorem parseHttpProxyHeader_eq {header : Bytes} {text line method version : String}
    (hutf8 : fromUtf8 header = some text) (hline : (lines text).head? = some line)
    (hwords : splitWhitespace line = [method, target, version]) :
    parseHttpProxyHeader header =
      (parseTarget text target).map fun (host, port, path) =>
        ⟨method, host, port, path, version, rewriteHeader text method path version⟩ := by
  unfold parseHttpProxyHeader
  rw [hutf8]
  dsimp only
  rw [hline]
  dsimp only
  rw [hwords]
  dsimp only
  generalize parseTarget text target = parsed
  cases parsed <;> rfl

/-- An absolute target is read as it is meant exactly if its authority ends at a slash or the end,
an origin target exactly if it contains no `"://"`. -/
theorem target_read_iff (header : Bytes) (text requestLine method target version : String)
    (hutf8 : fromUtf8 header = some text) (hline : (lines text).head? = some requestLine)
    (hwords : splitWhitespace requestLine = [method, target, version]) :
    (∀ (authority : Authority) (rest : List Char), TargetRest rest →
      target.toList = "http://".toList ++ (authority.text ++ rest) →
        ((∃ request, parseHttpProxyHeader header = .ok request ∧
            NamesTarget authority rest (request.host, request.port, request.pathAndQuery)) ↔
          ReadAsMeant authority rest)) ∧
      ∀ authority : Authority, target.toList.head? = some '/' → HasHost text authority →
        ((∃ request, parseHttpProxyHeader header = .ok request ∧
            request.host = String.ofList authority.host ∧ request.port = authority.portNumber ∧
            request.pathAndQuery = target) ↔
          ¬ "://".toList <:+: target.toList) := by
  have hplain : ∀ c ∈ target.toList, isWhitespace c = false := by
    have hword : target ∈ splitWhitespace requestLine := by
      rw [hwords]
      simp
    exact not_isWhitespace_of_mem_splitWhitespace hword
  rw [parseHttpProxyHeader_eq hutf8 hline hwords]
  constructor
  · intro authority rest hrest htarget
    rw [← parseTarget_absolute_iff htarget hplain hrest text]
    rcases parseTarget text target with error | ⟨host, port, path⟩
    · exact ⟨nofun, nofun⟩
    · constructor
      · rintro ⟨request, hok, hnames⟩
        cases hok
        exact ⟨_, rfl, hnames⟩
      · rintro ⟨parsed, hok, hnames⟩
        cases hok
        exact ⟨_, rfl, hnames⟩
  · intro authority hslash hhost
    constructor
    · rintro ⟨request, hok, -⟩ hscheme
      obtain ⟨scheme, herr⟩ := parseTarget_scheme hslash hscheme text
      rw [herr] at hok
      cases hok
    · intro hscheme
      rw [parseTarget_origin hslash hhost hscheme]
      exact ⟨_, rfl, rfl, rfl, rfl⟩

def shortAuthority : Authority where
  bracketed := false
  host := ['h']
  port := none
  host_ne_nil := by decide
  host_plain := by simp [isWhitespace]
  name_plain := by decide
  literal_plain := by decide
  port_valid := port_valid_none

theorem target_read_of_slash :
    ∃ request, parseHttpProxyHeader (utf8 "GET http://h/?a HTTP/1.1\r\n\r\n") = .ok request ∧
      NamesTarget shortAuthority "/?a".toList
        (request.host, request.port, request.pathAndQuery) :=
  ((target_read_iff _ "GET http://h/?a HTTP/1.1\r\n\r\n" "GET http://h/?a HTTP/1.1" "GET"
    "http://h/?a" "HTTP/1.1" (fromUtf8_utf8 _) (by decide +kernel) (by decide +kernel)).1
      shortAuthority "/?a".toList (by simp [TargetRest]) (by decide)).mpr (.inl (.inr rfl))

/-- A query right behind the host becomes part of the host, and a URL in the query of an origin
target makes it a target with a scheme. -/
theorem query_read_as_host :
    parseHttpProxyHeader (utf8 "GET http://h?a HTTP/1.1\r\n\r\n") =
        .ok ⟨"GET", "h?a", 80, "/", "HTTP/1.1", utf8 "GET / HTTP/1.1\r\n\r\n"⟩ ∧
      parseHttpProxyHeader (utf8 "GET /?u=a://b HTTP/1.1\r\nHost: h\r\n\r\n") =
        .error (.unsupportedScheme "/?u=a") := by
  decide +kernel

end KeliNative.Proxy
