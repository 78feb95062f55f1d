import KeliNative.Dns.Engine
import KeliNative.Lib.History

/-!
# Answers over time (`DnsEngine<R>`, `dns.rs`)

Each step of a run keeps the name the resolver was asked for.
-/

namespace KeliNative.Dns
open List

section

variable {σ : Type} (instantNow : Program σ DnsError Instant)
  (resolver : String → Program σ DnsError (List IpAddr)) (ipText : IpText)

def cachedIpsWith (host : String) (now : Instant) : Program (σ × DnsEngine) DnsError (List IpAddr) :=
  fun (s, engine) =>
    match engine.cache.get host now with
    | some ips => (.ok ips, s, engine)
    | none =>
      match resolver host s with
      | (.error error, s) => (.error error, s, engine)
      | (.ok [], s) => (.error (.noRecords host), s, engine)
      | (.ok (ip :: ips), s) =>
        (.ok (ip :: ips), s, { engine with cache := engine.cache.insert host (ip :: ips) now })

def resolveWith (host : String) (port : UInt16) :
    Program (σ × DnsEngine) DnsError (List ResolvedAddress) := fun state =>
  let host := normalizeHost host
  match localAnswer ipText state.2.policies host port with
  | some answer => (answer, state)
  | none =>
    Program.bind (Program.outside instantNow) (fun now =>
      Program.bind (cachedIpsWith resolver host now) fun ips => fun (s, engine) =>
        (familyFiltered host port engine.policies.addressFamily ips, s, engine)) state

end

theorem cachedIps_eq {ω κ : Type} (network : Network ω κ) (host : String) (now : Instant) :
    cachedIps network host now = cachedIpsWith (systemResolve network) host now := by
  funext ⟨s, engine⟩
  simp only [cachedIps, cachedIpsWith]
  cases engine.cache.get host now with
  | some ips => rfl
  | none =>
    cases systemResolve network host s with
    | mk out s' =>
      rcases out with error | _ | ⟨ip, ips⟩
      · rfl
      · rfl
      · rfl

theorem resolve_eq_resolveWith {ω κ : Type} (network : Network ω κ) (ipText : IpText)
    (host : String) (port : UInt16) :
    resolve network ipText host port =
      resolveWith network.instantNow (systemResolve network) ipText host port := by
  funext state
  cases hlocal : localAnswer ipText state.2.policies (normalizeHost host) port with
  | some answer => simp only [resolve, resolveWith, hlocal]
  | none => simp only [resolve, resolveWith, hlocal, cachedIps_eq]

/-- A call, the time it reads, and how the resolver answers while it lasts. -/
structure ResolveCall where
  host : String
  port : UInt16
  now : Instant
  resolver : String → Except DnsError (List IpAddr)

structure ResolveStep where
  call : ResolveCall
  asked : List String
  outcome : Except DnsError (List ResolvedAddress)

def ResolveStep.host (step : ResolveStep) : String := normalizeHost step.call.host

def ResolveCall.asking (call : ResolveCall) (host : String) :
    Program (List String) DnsError (List IpAddr) := fun asked => (call.resolver host, asked ++ [host])

variable (ipText : IpText)

def DnsEngine.resolveCall (engine : DnsEngine) (call : ResolveCall) : ResolveStep × DnsEngine :=
  let (outcome, asked, engine) :=
    resolveWith (.pure call.now) call.asking ipText call.host call.port ([], engine)
  (⟨call, asked, outcome⟩, engine)

def DnsEngine.resolveCalls : DnsEngine → List ResolveCall → List ResolveStep
  | _, [] => []
  | engine, call :: calls =>
    (engine.resolveCall ipText call).1 :: resolveCalls (engine.resolveCall ipText call).2 calls

def Recorded (past : List ResolveStep) (host : String) (ips : List IpAddr) (time : Instant) : Prop :=
  ∃ step ∈ past, step.call.now = time ∧ host ∈ step.asked ∧ step.call.resolver host = .ok ips ∧
    ips ≠ []

def HasFresh (ttl : Duration) (past : List ResolveStep) (host : String) (now : Instant) : Prop :=
  ∃ ips time, Recorded past host ips time ∧ now < time + ttl

variable {cache : DnsCache} {ips : List IpAddr}

theorem recorded_concat {past : List ResolveStep} {step : ResolveStep} {host : String}
    {time : Instant} :
    Recorded (past ++ [step]) host ips time ↔ Recorded past host ips time ∨
      (step.call.now = time ∧ host ∈ step.asked ∧ step.call.resolver host = .ok ips ∧ ips ≠ []) := by
  constructor
  · intro h
    obtain ⟨earlier, hmem, hrec⟩ := h
    rcases mem_append.mp hmem with hmem | hmem
    · exact .inl ⟨earlier, hmem, hrec⟩
    · rw [mem_singleton.mp hmem] at hrec
      exact .inr hrec
  · intro h
    rcases h with ⟨earlier, hmem, hrec⟩ | hrec
    · exact ⟨earlier, mem_append_left _ hmem, hrec⟩
    · exact ⟨step, mem_append_right _ (mem_singleton_self _), hrec⟩

theorem eq_dot_of_toLower {c : Char} (h : c.toLower = '.') : c = '.' := by
  unfold Char.toLower at h
  split at h
  next hupper =>
    have hval : (c.val + ('a'.val - 'A'.val)).toNat = 46 := congrArg (fun c : Char => c.val.toNat) h
    have hlow : 65 ≤ c.val.toNat := UInt32.le_iff_toNat_le.mp hupper.1
    have hhigh : c.val.toNat ≤ 90 := UInt32.le_iff_toNat_le.mp hupper.2
    have hshift : ('a'.val - 'A'.val).toNat = 32 := by decide
    rw [UInt32.toNat_add, hshift] at hval
    omega
  next => exact h

theorem normalizeHost_not_endsInDot (host : String) : ¬EndsInDot (normalizeHost host) := by
  intro h
  rw [EndsInDot, normalizeHost, String.toList_ofList, List.getLast?_map, Option.map_eq_some_iff] at h
  obtain ⟨c, hc, hlower⟩ := h
  have hne : host.toList.rdropWhile (· == '.') ≠ [] := by
    intro hnil
    rw [hnil] at hc
    cases hc
  have hlast := rdropWhile_last_not (· == '.') host.toList hne
  rw [List.getLast?_eq_some_getLast hne] at hc
  rw [Option.some.inj hc] at hlast
  apply hlast
  rw [eq_dot_of_toLower hlower]
  rfl

theorem normalizeHost_idem (host : String) :
    normalizeHost (normalizeHost host) = normalizeHost host := by
  rw [normalizeHost_of_not_endsInDot (normalizeHost_not_endsInDot host)]
  simp only [toAsciiLowercase, Route.asciiLowercase, normalizeHost, String.toList_ofList, map_map]
  congr 1
  exact map_congr_left fun c _ => Char.toLower_toLower_eq_toLower c

/-- Two spellings of a name: they differ in ASCII case and in dots at the end. -/
inductive Respelled : String → String → Prop
  | case {host host' : String} (h : toAsciiLowercase host = toAsciiLowercase host') :
      Respelled host host'
  | dot (host : String) : Respelled host (host.push '.')
  | symm {host host' : String} (h : Respelled host host') : Respelled host' host
  | trans {host host' host'' : String} (h : Respelled host host') (h' : Respelled host' host'') :
      Respelled host host''

theorem rdropWhile_map_toLower (chars : List Char) :
    (chars.map Char.toLower).rdropWhile (· == '.') =
      (chars.rdropWhile (· == '.')).map Char.toLower := by
  induction chars using List.reverseRecOn with
  | nil => rfl
  | append_singleton front c ih =>
    rw [map_append, map_singleton]
    by_cases hc : c = '.'
    · subst hc
      rw [rdropWhile_concat_pos _ _ _ (by decide), rdropWhile_concat_pos _ _ _ (by decide)]
      exact ih
    · have hlower : ¬(c.toLower == '.') = true := by
        intro heq
        exact hc (eq_dot_of_toLower (beq_iff_eq.mp heq))
      have hplain : ¬(c == '.') = true := fun heq => hc (beq_iff_eq.mp heq)
      rw [rdropWhile_concat_neg (· == '.') _ _ hlower,
        rdropWhile_concat_neg (· == '.') _ _ hplain, map_append, map_singleton]

theorem normalizeHost_eq_of_respelled {host host' : String} (h : Respelled host host') :
    normalizeHost host = normalizeHost host' := by
  induction h with
  | case h =>
    have hcs := congrArg String.toList h
    simp only [toAsciiLowercase, Route.asciiLowercase, String.toList_ofList] at hcs
    rw [normalizeHost, normalizeHost, ← rdropWhile_map_toLower, ← rdropWhile_map_toLower, hcs]
  | dot host =>
    rw [normalizeHost, normalizeHost, String.toList_push,
      rdropWhile_concat_pos _ _ _ (by decide)]
  | symm _ ih => exact ih.symm
  | trans _ _ ih ih' => exact ih.trans ih'

inductive CallCase (engine : DnsEngine) (call : ResolveCall) : ResolveStep × DnsEngine → Prop
  | local (answer : Except DnsError (List ResolvedAddress))
      (h : localAnswer ipText engine.policies (normalizeHost call.host) call.port = some answer) :
      CallCase engine call (⟨call, [], answer⟩, engine)
  | cached (ips : List IpAddr)
      (h : localAnswer ipText engine.policies (normalizeHost call.host) call.port = none)
      (hget : engine.cache.get (normalizeHost call.host) call.now = some ips) :
      CallCase engine call (⟨call, [], familyFiltered (normalizeHost call.host) call.port
        engine.policies.addressFamily ips⟩, engine)
  | failed (error : DnsError)
      (h : localAnswer ipText engine.policies (normalizeHost call.host) call.port = none)
      (hget : engine.cache.get (normalizeHost call.host) call.now = none)
      (hansw : ∀ ips, call.resolver (normalizeHost call.host) = .ok ips → ips = []) :
      CallCase engine call (⟨call, [normalizeHost call.host], .error error⟩, engine)
  | obtained (ips : List IpAddr)
      (h : localAnswer ipText engine.policies (normalizeHost call.host) call.port = none)
      (hget : engine.cache.get (normalizeHost call.host) call.now = none)
      (hansw : call.resolver (normalizeHost call.host) = .ok ips) (hne : ips ≠ []) :
      CallCase engine call
        (⟨call, [normalizeHost call.host], familyFiltered (normalizeHost call.host) call.port
            engine.policies.addressFamily ips⟩,
          { engine with cache := engine.cache.insert (normalizeHost call.host) ips call.now })

theorem resolveCall_cases (engine : DnsEngine) (call : ResolveCall) :
    CallCase ipText engine call (engine.resolveCall ipText call) := by
  simp only [DnsEngine.resolveCall, resolveWith]
  cases hlocal : localAnswer ipText engine.policies (normalizeHost call.host) call.port with
  | some answer => exact .local answer hlocal
  | none =>
    simp only [Program.bind, Program.outside, Program.pure, cachedIpsWith, ResolveCall.asking]
    cases hget : engine.cache.get (normalizeHost call.host) call.now with
    | some ips => exact .cached ips hlocal hget
    | none =>
      cases hansw : call.resolver (normalizeHost call.host) with
      | error error =>
        refine .failed error hlocal hget fun ips hips => ?_
        rw [hansw] at hips
        cases hips
      | ok ips =>
        cases ips with
        | nil =>
          refine .failed _ hlocal hget fun ips hips => ?_
          rw [hansw] at hips
          exact (Except.ok.inj hips).symm
        | cons ip ips => exact .obtained _ hlocal hget hansw (cons_ne_nil ip ips)

/-- Every entry is the latest answer recorded for its name, and every name with an answer has an
entry. -/
structure Mirrors (ttl : Duration) (past : List ResolveStep) (cache : DnsCache) : Prop where
  ttl_eq : cache.ttl = ttl
  entry : ∀ host entry, cache.entries.lookup host = some entry → ∃ time,
    Recorded past host entry.ips time ∧ entry.expiresAt = time + ttl ∧
      ∀ ips' time', Recorded past host ips' time' → time' ≤ time
  missing : ∀ host, cache.entries.lookup host = none →
    ∀ ips time, ¬Recorded past host ips time

variable {ttl : Duration} {past : List ResolveStep}

theorem get_normalized (cache : DnsCache) (host : String) (now : Instant) :
    cache.get (normalizeHost host) now =
      (cache.entries.lookup (normalizeHost host)).bind fun entry =>
        if now < entry.expiresAt then some entry.ips else none := by
  rw [DnsCache.get, normalizeHost_idem]

section

variable (h : Mirrors ttl past cache)

include h

theorem Mirrors.recorded_of_get {host : String} {now : Instant}
    (hget : cache.get (normalizeHost host) now = some ips) :
    ∃ time, Recorded past (normalizeHost host) ips time ∧ now < time + ttl := by
  rw [get_normalized] at hget
  obtain ⟨entry, hentry, hfresh⟩ := Option.bind_eq_some_iff.mp hget
  obtain ⟨time, hrec, hexpires, -⟩ := h.entry _ entry hentry
  split_ifs at hfresh with hlt
  rw [Option.some.inj hfresh] at hrec
  rw [hexpires] at hlt
  exact ⟨time, hrec, hlt⟩

theorem Mirrors.not_fresh_of_get {host : String} {now : Instant}
    (hget : cache.get (normalizeHost host) now = none) :
    ¬HasFresh ttl past (normalizeHost host) now := by
  intro hfresh
  obtain ⟨ips, time, hrec, hlt⟩ := hfresh
  rw [get_normalized] at hget
  cases hlook : cache.entries.lookup (normalizeHost host) with
  | none => exact h.missing _ hlook ips time hrec
  | some entry =>
    obtain ⟨latest, -, hexpires, hlatest⟩ := h.entry _ entry hlook
    have hlt' : now < latest + ttl :=
      Nat.lt_of_lt_of_le hlt (Nat.add_le_add_right (hlatest ips time hrec) ttl)
    rw [hlook, Option.bind_some, hexpires, if_pos hlt'] at hget
    cases hget

theorem Mirrors.same {step : ResolveStep}
    (hnothing : ∀ host ips, host ∈ step.asked → step.call.resolver host = .ok ips → ips = []) :
    Mirrors ttl (past ++ [step]) cache := by
  have hsame (host : String) (ips : List IpAddr) (time : Instant) :
      Recorded (past ++ [step]) host ips time ↔ Recorded past host ips time := by
    rw [recorded_concat]
    constructor
    · intro hrec
      rcases hrec with hrec | ⟨-, hasked, hansw, hne⟩
      · exact hrec
      · exact absurd (hnothing host ips hasked hansw) hne
    · exact .inl
  refine ⟨h.ttl_eq, fun host entry hentry => ?_, fun host hmiss ips time hrec => ?_⟩
  · obtain ⟨time, hrec, hexpires, hlatest⟩ := h.entry host entry hentry
    exact ⟨time, (hsame _ _ _).mpr hrec, hexpires,
      fun ips' time' hrec' => hlatest ips' time' ((hsame _ _ _).mp hrec')⟩
  · exact h.missing host hmiss ips time ((hsame _ _ _).mp hrec)

theorem Mirrors.obtained {call : ResolveCall}
    (hansw : call.resolver (normalizeHost call.host) = .ok ips) (hne : ips ≠ [])
    (out : Except DnsError (List ResolvedAddress))
    (hearlier : ∀ step ∈ past, step.call.now ≤ call.now) :
    Mirrors ttl (past ++ [⟨call, [normalizeHost call.host], out⟩])
      (cache.insert (normalizeHost call.host) ips call.now) := by
  have hkey : (cache.insert (normalizeHost call.host) ips call.now).entries =
      cache.entries.insert (normalizeHost call.host) ⟨ips, call.now + ttl⟩ := by
    rw [DnsCache.insert, normalizeHost_idem, h.ttl_eq]
  have hnew : Recorded (past ++ [⟨call, [normalizeHost call.host], out⟩])
      (normalizeHost call.host) ips call.now :=
    recorded_concat.mpr (.inr ⟨rfl, mem_singleton_self _, hansw, hne⟩)
  -- the step is about one name
  have hother (host : String) (hhost : host ≠ normalizeHost call.host) (ips' : List IpAddr)
      (time : Instant) :
      Recorded (past ++ [⟨call, [normalizeHost call.host], out⟩]) host ips' time ↔
        Recorded past host ips' time := by
    rw [recorded_concat]
    constructor
    · intro hrec
      rcases hrec with hrec | ⟨-, hasked, -⟩
      · exact hrec
      · exact absurd (mem_singleton.mp hasked) hhost
    · exact .inl
  refine ⟨h.ttl_eq, fun host entry hentry => ?_, fun host hmiss ips' time hrec => ?_⟩
  · rw [hkey] at hentry
    by_cases hhost : host = normalizeHost call.host
    · subst hhost
      rw [AList.lookup_insert] at hentry
      rw [← Option.some.inj hentry]
      refine ⟨call.now, hnew, rfl, fun ips' time' hrec => ?_⟩
      rcases recorded_concat.mp hrec with ⟨step, hmem, htime, -⟩ | ⟨htime, -⟩
      · exact htime ▸ hearlier step hmem
      · exact htime ▸ Nat.le_refl _
    · rw [AList.lookup_insert_ne hhost] at hentry
      obtain ⟨time, hrec, hexpires, hlatest⟩ := h.entry host entry hentry
      exact ⟨time, (hother host hhost _ _).mpr hrec, hexpires,
        fun ips' time' hrec' => hlatest ips' time' ((hother host hhost _ _).mp hrec')⟩
  · rw [hkey] at hmiss
    by_cases hhost : host = normalizeHost call.host
    · subst hhost
      rw [AList.lookup_insert] at hmiss
      cases hmiss
    · rw [AList.lookup_insert_ne hhost] at hmiss
      exact h.missing host hmiss ips' time ((hother host hhost _ _).mp hrec)

end

structure AnswersFresh (ttl : Duration) (policies : DnsPolicies) (past : List ResolveStep)
    (step : ResolveStep) : Prop where
  asked_host : step.asked = [] ∨ step.asked = [step.host]
  asked_iff : step.asked ≠ [] ↔ policies.localResolution = .allowSystem ∧
    ipText.parse step.host = none ∧ ¬HasFresh ttl past step.host step.call.now
  port : ∀ addresses, step.outcome = .ok addresses →
    ∀ address ∈ addresses, address.port = step.call.port
  fresh : ∀ addresses, step.outcome = .ok addresses → ipText.parse step.host = none →
    ¬(policies.localResolution = .preventPublicLeak ∧ step.host = "localhost") →
    ∃ ips time, Recorded (past ++ [step]) step.host ips time ∧
      (time = step.call.now ∨ step.call.now < time + ttl) ∧
      addresses = (ips.filter (addressFamilyMatches · policies.addressFamily)).map
        (⟨·, step.call.port⟩)
  loopback : ipText.parse step.host = none → policies.localResolution = .preventPublicLeak →
    step.host = "localhost" →
    step.outcome = .ok ((localhostIps policies.addressFamily).map (⟨·, step.call.port⟩))

variable {policies : DnsPolicies}

theorem familyFiltered_eq_ok {host : String} {port : UInt16} {policy : DnsAddressFamilyPolicy}
    {addrs : List ResolvedAddress} (h : familyFiltered host port policy ips = .ok addrs) :
    addrs = (ips.filter (addressFamilyMatches · policy)).map (⟨·, port⟩) := by
  unfold familyFiltered at h
  split at h
  · cases h
  next ip rest hfilter =>
    rw [hfilter]
    exact (Except.ok.inj h).symm

theorem mem_map_port {port : UInt16} {addr : ResolvedAddress}
    (h : addr ∈ ips.map fun ip => (⟨ip, port⟩ : ResolvedAddress)) : addr.port = port := by
  obtain ⟨ip, -, rfl⟩ := mem_map.mp h
  rfl

theorem localAnswer_eq_none_iff {host : String} {port : UInt16} :
    localAnswer ipText policies host port = none ↔
      policies.localResolution = .allowSystem ∧ ipText.parse host = none := by
  unfold localAnswer
  cases ipText.parse host with
  | some ip => by_cases hfamily : addressFamilyMatches ip policies.addressFamily <;> simp [hfamily]
  | none =>
    cases policies.localResolution with
    | allowSystem => simp
    | preventPublicLeak => by_cases hhost : host = "localhost" <;> simp [hhost]

theorem ne_leak_of_localAnswer {host : String} {port : UInt16}
    (h : localAnswer ipText policies host port = none) :
    policies.localResolution ≠ .preventPublicLeak := by
  rw [((localAnswer_eq_none_iff ipText).mp h).1]
  decide

theorem localAnswer_eq_some_ok {host : String} {port : UInt16} {addrs : List ResolvedAddress}
    (h : localAnswer ipText policies host port = some (.ok addrs)) :
    (∀ addr ∈ addrs, addr.port = port) ∧
      (ipText.parse host = none →
        policies.localResolution = .preventPublicLeak ∧ host = "localhost") := by
  unfold localAnswer at h
  cases hparse : ipText.parse host with
  | some ip =>
    rw [hparse] at h
    dsimp only at h
    split_ifs at h
    · rw [← Except.ok.inj (Option.some.inj h)]
      refine ⟨fun addr hmem => ?_, fun hnone => ?_⟩
      · rw [mem_singleton.mp hmem]
      · cases hnone
    · cases Option.some.inj h
  | none =>
    rw [hparse] at h
    dsimp only at h
    split_ifs at h with hleak hhost
    · rw [← Except.ok.inj (Option.some.inj h)]
      exact ⟨fun addr hmem => mem_map_port hmem, fun _ => ⟨hleak, hhost⟩⟩
    · cases Option.some.inj h

theorem resolveCall_step {engine : DnsEngine} (hpols : engine.policies = policies)
    (h : Mirrors ttl past engine.cache) (call : ResolveCall)
    (hearlier : ∀ step ∈ past, step.call.now ≤ call.now) :
    AnswersFresh ipText ttl policies past (engine.resolveCall ipText call).1 ∧
      Mirrors ttl (past ++ [(engine.resolveCall ipText call).1])
        (engine.resolveCall ipText call).2.cache ∧
      (engine.resolveCall ipText call).2.policies = policies ∧
      (engine.resolveCall ipText call).1.call = call := by
  have hcase := resolveCall_cases ipText engine call
  generalize engine.resolveCall ipText call = result at hcase ⊢
  rw [← hpols]
  cases hcase with
  | «local» answer hlocal =>
    have hsome : ¬localAnswer ipText engine.policies (normalizeHost call.host) call.port = none := by
      rw [hlocal]
      exact Option.some_ne_none answer
    rw [localAnswer_eq_none_iff] at hsome
    refine ⟨⟨.inl rfl, ?_, ?_, ?_, ?_⟩,
      h.same fun host ips hmem => absurd hmem not_mem_nil, rfl, rfl⟩
    · exact ⟨fun hne => absurd rfl hne, fun hasks => absurd ⟨hasks.1, hasks.2.1⟩ hsome⟩
    · intro addrs hok
      dsimp only at hok
      subst hok
      exact (localAnswer_eq_some_ok ipText hlocal).1
    · intro addrs hok hparse hnot
      dsimp only at hok
      subst hok
      exact absurd ((localAnswer_eq_some_ok ipText hlocal).2 hparse) hnot
    · intro hparse hleak hhost
      rw [localAnswer, show ipText.parse (normalizeHost call.host) = none from hparse] at hlocal
      dsimp only at hlocal
      rw [if_pos hleak, if_pos (show normalizeHost call.host = "localhost" from hhost)] at hlocal
      exact (Option.some.inj hlocal).symm
  | cached ips hlocal hget =>
    obtain ⟨time, hrec, hfresh⟩ := h.recorded_of_get hget
    refine ⟨⟨.inl rfl, ?_, ?_, ?_, ?_⟩,
      h.same fun host ips hmem => absurd hmem not_mem_nil, rfl, rfl⟩
    · exact ⟨fun hne => absurd rfl hne,
        fun hasks => absurd ⟨ips, time, hrec, hfresh⟩ hasks.2.2⟩
    · intro addrs hok addr hmem
      rw [familyFiltered_eq_ok hok] at hmem
      exact mem_map_port hmem
    · intro addrs hok _ _
      exact ⟨ips, time, recorded_concat.mpr (.inl hrec), .inr hfresh, familyFiltered_eq_ok hok⟩
    · exact fun _ hleak => absurd hleak (ne_leak_of_localAnswer ipText hlocal)
  | failed error hlocal hget hansw =>
    obtain ⟨hsystem, hparse⟩ := (localAnswer_eq_none_iff ipText).mp hlocal
    refine ⟨⟨.inr rfl, ?_, ?_, ?_, ?_⟩,
      h.same fun host ips hmem hips => ?_, rfl, rfl⟩
    · exact ⟨fun _ => ⟨hsystem, hparse, h.not_fresh_of_get hget⟩, fun _ => cons_ne_nil _ _⟩
    · intro addrs hok
      cases hok
    · intro addrs hok
      cases hok
    · exact fun _ hleak => absurd hleak (ne_leak_of_localAnswer ipText hlocal)
    · rw [mem_singleton.mp hmem] at hips
      exact hansw ips hips
  | obtained ips hlocal hget hansw hne =>
    obtain ⟨hsystem, hparse⟩ := (localAnswer_eq_none_iff ipText).mp hlocal
    refine ⟨⟨.inr rfl, ?_, ?_, ?_, ?_⟩,
      h.obtained hansw hne _ hearlier, rfl, rfl⟩
    · exact ⟨fun _ => ⟨hsystem, hparse, h.not_fresh_of_get hget⟩, fun _ => cons_ne_nil _ _⟩
    · intro addrs hok addr hmem
      rw [familyFiltered_eq_ok hok] at hmem
      exact mem_map_port hmem
    · intro addrs hok _ _
      exact ⟨ips, call.now,
        recorded_concat.mpr (.inr ⟨rfl, mem_singleton_self _, hansw, hne⟩), .inl rfl,
        familyFiltered_eq_ok hok⟩
    · exact fun _ hleak => absurd hleak (ne_leak_of_localAnswer ipText hlocal)

theorem resolveCalls_fresh (calls : List ResolveCall) :
    ∀ {past : List ResolveStep} {engine : DnsEngine}, engine.policies = policies →
      Mirrors ttl past engine.cache → (calls.map (·.now)).Pairwise (· ≤ ·) →
      (∀ step ∈ past, ∀ call ∈ calls, step.call.now ≤ call.now) →
      AtEach (AnswersFresh ipText ttl policies) past →
      AtEach (AnswersFresh ipText ttl policies) (past ++ engine.resolveCalls ipText calls) := by
  induction calls with
  | nil =>
    intro past engine _ _ _ _ hpast
    rw [DnsEngine.resolveCalls, append_nil]
    exact hpast
  | cons call calls ih =>
    intro past engine hpols hmirrors hordered hearlier hpast
    rw [map_cons, pairwise_cons] at hordered
    obtain ⟨hfresh, hmirrors', hpols', hcall⟩ := resolveCall_step ipText hpols hmirrors call
      fun step hmem => hearlier step hmem call mem_cons_self
    rw [DnsEngine.resolveCalls, append_cons]
    refine ih hpols' hmirrors' hordered.2 ?_ (atEach_concat.mpr ⟨hpast, hfresh⟩)
    intro step hmem later hlater
    rcases mem_append.mp hmem with hmem | hmem
    · exact hearlier step hmem later (mem_cons_of_mem _ hlater)
    · rw [mem_singleton.mp hmem, hcall]
      exact hordered.1 _ (mem_map_of_mem hlater)

theorem mirrors_new (ttl : Duration) : Mirrors ttl [] (DnsCache.new ttl) := by
  refine ⟨rfl, fun host entry hentry => ?_, fun host _ ips time hrec => ?_⟩
  · exact absurd hentry (by simp [DnsCache.new])
  · obtain ⟨step, hmem, -⟩ := hrec
    exact absurd hmem not_mem_nil

/-- Every answer for a name is one of the resolver's that is not older than `ttl`, and the resolver
is asked exactly if there is none. -/
theorem dns_answers_fresh (ttl : Duration) (policies : DnsPolicies) (calls : List ResolveCall)
    (hordered : (calls.map (·.now)).Pairwise (· ≤ ·)) :
    AtEach (AnswersFresh ipText ttl policies)
        ((⟨.new ttl, policies⟩ : DnsEngine).resolveCalls ipText calls) ∧
      ∀ host host', Respelled host host' → normalizeHost host = normalizeHost host' := by
  refine ⟨?_, fun host host' h => normalizeHost_eq_of_respelled h⟩
  have h := resolveCalls_fresh ipText calls (rfl : (⟨.new ttl, policies⟩ : DnsEngine).policies = policies)
    (mirrors_new ttl) hordered (fun step hmem => absurd hmem List.not_mem_nil) atEach_nil
  rw [List.nil_append] at h
  exact h

def askedTwice : List ResolveCall :=
  [⟨"Example.com", 443, 0, fun _ => .ok [.v4 .localhost]⟩,
    ⟨"example.com.", 443, 30, fun host => .error (.noRecords host)⟩]

theorem dns_answers_fresh_askedTwice :
    (askedTwice.map (·.now)).Pairwise (· ≤ ·) ∧
      AtEach (AnswersFresh decimalIpText 60 ⟨.allowSystem, .dualStack⟩)
        ((⟨.new 60, .allowSystem, .dualStack⟩ : DnsEngine).resolveCalls decimalIpText askedTwice) := by
  have hordered : (askedTwice.map (·.now)).Pairwise (· ≤ ·) := by
    simp [askedTwice]
  exact ⟨hordered,
    (dns_answers_fresh decimalIpText 60 ⟨.allowSystem, .dualStack⟩ askedTwice hordered).1⟩

/-- Where names may not be looked up, `localhost` has its addresses without an answer of the
resolver. -/
theorem localhost_answered_without_resolver :
    ∃ step, (⟨.new 60, .preventPublicLeak, .dualStack⟩ : DnsEngine).resolveCalls decimalIpText
        [⟨"localhost", 80, 0, fun host => .error (.noRecords host)⟩] = [step] ∧
      decimalIpText.parse step.host = none ∧
      step.outcome = .ok [⟨.v4 .localhost, 80⟩, ⟨.v6 .localhost, 80⟩] ∧
      ∀ ips time, ¬Recorded [step] step.host ips time := by
  refine ⟨_, rfl, by decide +kernel, by decide +kernel, fun ips time hrec => ?_⟩
  obtain ⟨step, hmem, -, -, hansw, -⟩ := hrec
  rw [List.mem_singleton.mp hmem] at hansw
  have hcall : (DnsEngine.resolveCall decimalIpText
      (⟨.new 60, .preventPublicLeak, .dualStack⟩ : DnsEngine)
      ⟨"localhost", 80, 0, fun host => .error (.noRecords host)⟩).1.call.resolver =
        fun host => .error (.noRecords host) := rfl
  rw [hcall] at hansw
  cases hansw

end KeliNative.Dns
