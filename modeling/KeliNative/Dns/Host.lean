import KeliNative.Net.IpText

/-!
# Host names (`normalize_host`, `dns.rs`)

Trailing dots are stripped and the case is lowered before an address is looked for.
-/

namespace KeliNative.Dns
open Route OutboundTarget

def normalizeHost (host : String) : String :=
  String.ofList ((host.toList.rdropWhile (· == '.')).map Char.toLower)

theorem rdropWhile_of_not_endsInDot {host : String} (h : ¬EndsInDot host) :
    host.toList.rdropWhile (· == '.') = host.toList := by
  rw [List.rdropWhile_eq_self_iff]
  intro hne hlast
  apply h
  rw [EndsInDot, List.getLast?_eq_some_getLast hne, beq_iff_eq.mp hlast]

theorem normalizeHost_of_not_endsInDot {host : String} (h : ¬EndsInDot host) :
    normalizeHost host = toAsciiLowercase host := by
  rw [normalizeHost, rdropWhile_of_not_endsInDot h]
  rfl

theorem normalizeHost_length_lt {host : String} (h : EndsInDot host) :
    (normalizeHost host).toList.length < host.toList.length := by
  obtain ⟨front, hfront⟩ : ∃ front, host.toList = front ++ ['.'] := by
    exact List.getLast?_eq_some_iff.mp h
  have hshort := (List.rdropWhile_prefix (· == '.') (l := front)).length_le
  rw [normalizeHost, String.toList_ofList, List.length_map, hfront,
    List.rdropWhile_concat_pos _ _ _ (by decide), List.length_append, List.length_singleton]
  omega

theorem accepts_domain_congr (matcher : RouteMatcher) {host host' : String} (port : UInt16)
    (h : asciiLowercase host = asciiLowercase host') :
    matcher.accepts ⟨.domain host, port⟩ = matcher.accepts ⟨.domain host', port⟩ := by
  cases matcher <;> simp only [RouteMatcher.accepts, h]

theorem decideDestination_congr (routes : RouteEngine) {dest destination' : RouteDestination}
    (h : ∀ matcher : RouteMatcher, matcher.accepts dest = matcher.accepts destination') :
    routes.decideDestination dest = routes.decideDestination destination' := by
  unfold RouteEngine.decideDestination
  simp only [h]

def blockOnly (matcher : RouteMatcher) : RouteEngine := ⟨[⟨"block", matcher, .block⟩], .direct⟩

theorem decideDestination_blockOnly (matcher : RouteMatcher) (dest : RouteDestination) :
    (blockOnly matcher).decideDestination dest =
      if matcher.accepts dest then ⟨.block, some "block"⟩ else ⟨.direct, none⟩ := by
  unfold RouteEngine.decideDestination blockOnly
  cases h : matcher.accepts dest <;> simp only [List.find?_singleton, h] <;> rfl

def RoutedAlike (ipText : IpText) (host host' : String) : Prop :=
  ∀ (routes : RouteEngine) (port : UInt16),
    routes.decideDestination ((OutboundTarget.mk host port).routeDestination ipText) =
      routes.decideDestination ((OutboundTarget.mk host' port).routeDestination ipText)

section

variable {ipText : IpText} {host : String}

theorem routedAlike_of_not_endsInDot (h : ¬EndsInDot host) :
    RoutedAlike ipText host (normalizeHost host) := by
  intro routes port
  apply decideDestination_congr
  intro matcher
  rw [normalizeHost_of_not_endsInDot h]
  simp only [routeDestination, routeTarget, ipText.parse_lowercase]
  cases ipText.parse host with
  | some ip => rfl
  | none => exact accepts_domain_congr matcher port (asciiLowercase_toAsciiLowercase host).symm

theorem not_routedAlike (matcher : RouteMatcher) {host' : String}
    (h : matcher.accepts ((mk host 0).routeDestination ipText) = false)
    (h' : matcher.accepts ((mk host' 0).routeDestination ipText) = true) :
    ¬RoutedAlike ipText host host' := by
  intro halike
  have hdecisions := halike (blockOnly matcher) 0
  rw [decideDestination_blockOnly, decideDestination_blockOnly, h, h'] at hdecisions
  cases hdecisions

theorem not_routedAlike_of_endsInDot (h : EndsInDot host) :
    ¬RoutedAlike ipText host (normalizeHost host) := by
  have hname : (mk host 0).routeDestination ipText = ⟨.domain host, 0⟩ := by
    simp only [routeDestination, routeTarget,
      ipText.parse_endsInDot host h]
  cases hparse : ipText.parse (normalizeHost host) with
  | some ip =>
    -- the address behind the dot escapes a rule for that address
    refine not_routedAlike (.ipExact ip) ?_ ?_
    · rw [hname]
      rfl
    · simp only [routeDestination, routeTarget, hparse,
        RouteMatcher.accepts, BEq.rfl]
  | none =>
    -- the name with the dot escapes a rule for the name without it
    refine not_routedAlike (.domainExact (normalizeHost host)) ?_ ?_
    · rw [hname]
      simp only [RouteMatcher.accepts, beq_eq_false_iff_ne]
      intro heq
      have hlen := congrArg List.length heq
      simp only [asciiLowercase, List.length_map] at hlen
      have hshort := normalizeHost_length_lt h
      omega
    · simp only [routeDestination, routeTarget, hparse,
        RouteMatcher.accepts, BEq.rfl]

end

/-- Every engine routes a host as it routes the host the resolver reads exactly when the host
has no trailing dot. -/
theorem routed_as_resolved_iff (ipText : IpText) (host : String) :
    (∀ (routes : RouteEngine) (port : UInt16),
      routes.decideDestination ((OutboundTarget.mk host port).routeDestination ipText) =
        routes.decideDestination
          ((OutboundTarget.mk (normalizeHost host) port).routeDestination ipText)) ↔
      ¬EndsInDot host := by
  constructor
  · exact fun h hdot => not_routedAlike_of_endsInDot hdot h
  · exact routedAlike_of_not_endsInDot

/-- A name with a trailing dot and an address with one both escape the rule that blocks them. -/
theorem trailing_dot_escapes :
    ((blockOnly (.domainExact "blocked.example")).decideDestination
        ((OutboundTarget.mk "blocked.example." 443).routeDestination decimalIpText)).action = .direct ∧
      ((blockOnly (.domainExact "blocked.example")).decideDestination
        ((OutboundTarget.mk (normalizeHost "blocked.example.") 443).routeDestination
          decimalIpText)).action = .block ∧
      ((blockOnly (.ipExact (.v4 ⟨192, 0, 2, 1⟩))).decideDestination
        ((OutboundTarget.mk "192.0.2.1." 443).routeDestination decimalIpText)).action = .direct ∧
      ((blockOnly (.ipExact (.v4 ⟨192, 0, 2, 1⟩))).decideDestination
        ((OutboundTarget.mk (normalizeHost "192.0.2.1.") 443).routeDestination
          decimalIpText)).action = .block := by
  decide +kernel

end KeliNative.Dns
