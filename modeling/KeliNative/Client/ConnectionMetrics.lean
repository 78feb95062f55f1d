import KeliNative.Client.Runtime
import KeliNative.Lib.Tally
import KeliNative.Proxy.HttpProxy

/-!
# Connection metrics (`ConnectionMetrics`, `keli-cli/src/lib.rs`)

Every report is counted under its inbound, its route action and its error.
-/

namespace KeliNative.Client
open Proxy Relay Route Tally List

/-- `u64::saturating_add`. -/
@[simp]
def addU64 (a b : ℕ) : ℕ := min (a + b) (2 ^ 64 - 1)

/-- `u128::saturating_add`. -/
@[simp]
def addU128 (a b : ℕ) : ℕ := min (a + b) (2 ^ 128 - 1)

structure ConnectionMetricsState where
  totalConnectionCount : ℕ := 0
  successCount : ℕ := 0
  failureCount : ℕ := 0
  connectionLimitRejectionCount : ℕ := 0
  errorKindCounts : List (ConnectionErrorKind × ℕ) := []
  routeActionCounts : List (RouteAction × ℕ) := []
  inboundCounts : List (String × ℕ) := []
  totalUploadBytes : ℕ := 0
  totalDownloadBytes : ℕ := 0
  totalConnectMs : ℕ := 0
  timedConnectCount : ℕ := 0
  totalFirstByteMs : ℕ := 0
  timedFirstByteCount : ℕ := 0
  lastConnectionAt : Option SystemTime := none
  lastSuccessAt : Option SystemTime := none
  lastFailureAt : Option SystemTime := none
  recentConnections : List ConnectionReport := []

structure ConnectionMetricsSnapshot extends ConnectionMetricsState where
  retainedConnectionCount : ℕ
  connectionHistoryLimit : ℕ

structure ConnectionMetrics where
  inner : ConnectionMetricsState
  historyLimit : ℕ

def routeActionSortKey : RouteAction → String
  | .direct => "0:direct"
  | .block => "1:block"
  | .hijackDns => "2:hijack-dns"
  | .outbound tag => "3:outbound:" ++ tag

def sortByKey {κ : Type} (text : κ → String) (entries : List (κ × ℕ)) : List (κ × ℕ) :=
  entries.mergeSort fun left right => decide (text left.1 ≤ text right.1)

namespace ConnectionMetrics

def new (historyLimit : ℕ) : ConnectionMetrics := ⟨{}, max historyLimit 1⟩

def record (metrics : ConnectionMetrics) (recordedAt : SystemTime) (report : ConnectionReport) :
    ConnectionMetrics :=
  let state := metrics.inner
  let failed := report.errorKind
  let recent := state.recentConnections ++ [report]
  { metrics with inner :=
    { lastConnectionAt := some recordedAt
      totalConnectionCount := addU64 state.totalConnectionCount 1
      inboundCounts := bump (2 ^ 64 - 1) report.inbound state.inboundCounts
      routeActionCounts := bump (2 ^ 64 - 1) report.routeAction state.routeActionCounts
      totalUploadBytes := addU64 state.totalUploadBytes report.uploadBytes
      totalDownloadBytes := addU64 state.totalDownloadBytes report.downloadBytes
      totalConnectMs := report.connectMs.elim state.totalConnectMs (addU128 state.totalConnectMs)
      timedConnectCount := report.connectMs.elim state.timedConnectCount fun _ =>
        addU64 state.timedConnectCount 1
      totalFirstByteMs := report.firstByteMs.elim state.totalFirstByteMs
        (addU128 state.totalFirstByteMs)
      timedFirstByteCount := report.firstByteMs.elim state.timedFirstByteCount fun _ =>
        addU64 state.timedFirstByteCount 1
      failureCount := failed.elim state.failureCount fun _ => addU64 state.failureCount 1
      lastFailureAt := failed.elim state.lastFailureAt fun _ => some recordedAt
      errorKindCounts := failed.elim state.errorKindCounts fun errorKind =>
        bump (2 ^ 64 - 1) errorKind state.errorKindCounts
      connectionLimitRejectionCount :=
        if failed = some .connectionLimitReached then addU64 state.connectionLimitRejectionCount 1
        else state.connectionLimitRejectionCount
      successCount := failed.elim (addU64 state.successCount 1) fun _ => state.successCount
      lastSuccessAt := failed.elim (some recordedAt) fun _ => state.lastSuccessAt
      recentConnections := if metrics.historyLimit < recent.length
        then recent.drop (recent.length - metrics.historyLimit) else recent } }

def snapshot (metrics : ConnectionMetrics) : ConnectionMetricsSnapshot :=
  let state := metrics.inner
  { state with
    errorKindCounts := sortByKey ConnectionErrorKind.asStr state.errorKindCounts
    routeActionCounts := sortByKey routeActionSortKey state.routeActionCounts
    inboundCounts := sortByKey id state.inboundCounts
    recentConnections := state.recentConnections.reverse
    retainedConnectionCount := state.recentConnections.length
    connectionHistoryLimit := metrics.historyLimit }

def recordAll (historyLimit : ℕ) (recorded : List (SystemTime × ConnectionReport)) :
    ConnectionMetrics :=
  recorded.foldl (fun metrics event => metrics.record event.1 event.2) (new historyLimit)

end ConnectionMetrics

variable {reports : List ConnectionReport} {report : ConnectionReport} {metrics : ConnectionMetrics}

/-- No counter and no sum reaches its limit. -/
structure Fits (reports : List ConnectionReport) : Prop where
  count : reports.length < 2 ^ 64
  upload : (reports.map (·.uploadBytes)).sum < 2 ^ 64
  download : (reports.map (·.downloadBytes)).sum < 2 ^ 64
  connect : (reports.filterMap (·.connectMs)).sum < 2 ^ 128
  firstByte : (reports.filterMap (·.firstByteMs)).sum < 2 ^ 128

/-- What the counters and the sums say about the reports. -/
structure Consistent (reports : List ConnectionReport) (state : ConnectionMetricsState) :
    Prop where
  total : state.totalConnectionCount = reports.length
  failure : state.failureCount = (reports.filterMap (·.errorKind)).length
  success : state.successCount + state.failureCount = reports.length
  limit : state.connectionLimitRejectionCount =
    (reports.filterMap (·.errorKind)).count .connectionLimitReached
  upload : state.totalUploadBytes = (reports.map (·.uploadBytes)).sum
  download : state.totalDownloadBytes = (reports.map (·.downloadBytes)).sum
  connectMs : state.totalConnectMs = (reports.filterMap (·.connectMs)).sum
  timedConnect : state.timedConnectCount = (reports.filterMap (·.connectMs)).length
  firstByteMs : state.totalFirstByteMs = (reports.filterMap (·.firstByteMs)).sum
  timedFirstByte : state.timedFirstByteCount = (reports.filterMap (·.firstByteMs)).length

theorem Fits.init (h : Fits (reports ++ [report])) : Fits reports := by
  obtain ⟨hcnt, hupload, hdownload, hconnect, hfirst⟩ := h
  simp only [length_append, map_append, filterMap_append, sum_append] at *
  constructor <;> omega

theorem elim_succ {α : Type} {count : ℕ} {values : List α} (value : Option α)
    (h : count = values.length) (hcap : values.length + 1 < 2 ^ 64) :
    (value.elim count fun _ => addU64 count 1) = (values ++ value.toList).length := by
  cases value <;> simp [h]
  omega

theorem elim_add {total : ℕ} {values : List ℕ} (value : Option ℕ) (h : total = values.sum)
    (hcap : (values ++ value.toList).sum < 2 ^ 128) :
    (value.elim total fun ms => addU128 total ms) = (values ++ value.toList).sum := by
  cases value <;> simp [h] at hcap ⊢
  omega

theorem Consistent.record (h : Consistent reports metrics.inner) (recordedAt : SystemTime)
    (hfits : Fits (reports ++ [report])) :
    Consistent (reports ++ [report]) (metrics.record recordedAt report).inner := by
  have happend : ∀ {α : Type} (f : ConnectionReport → Option α),
      (reports ++ [report]).filterMap f = reports.filterMap f ++ (f report).toList := by
    intro α f
    cases hf : f report <;> simp [hf]
  have hsize : ∀ {α : Type} (f : ConnectionReport → Option α),
      (reports.filterMap f).length + 1 < 2 ^ 64 := by
    intro α f
    have hle := length_filterMap_le f reports
    have hcnt := hfits.count
    rw [length_append, length_singleton] at hcnt
    omega
  obtain ⟨hcnt, hupload, hdownload, hconnect, hfirst⟩ := hfits
  simp only [happend] at hconnect hfirst
  constructor <;> simp only [happend, ConnectionMetrics.record]
  case failure => exact elim_succ _ h.failure (hsize _)
  case connectMs => exact elim_add _ h.connectMs hconnect
  case timedConnect => exact elim_succ _ h.timedConnect (hsize _)
  case firstByteMs => exact elim_add _ h.firstByteMs hfirst
  case timedFirstByte => exact elim_succ _ h.timedFirstByte (hsize _)
  case limit =>
    have hle := (reports.filterMap (·.errorKind)).count_le_length (a := .connectionLimitReached)
    have := hsize (·.errorKind)
    rw [h.limit, count_append]
    cases report.errorKind with
    | none => simp
    | some kind =>
      by_cases hkind : kind = .connectionLimitReached <;> simp [hkind]
      omega
  case total =>
    simp [h.total] at hcnt ⊢
    omega
  case success =>
    have hsuccess := h.success
    simp only [length_append, length_singleton] at hcnt ⊢
    cases report.errorKind <;> simp <;> omega
  case upload =>
    simp [h.upload] at hupload ⊢
    omega
  case download =>
    simp [h.download] at hdownload ⊢
    omega

structure Tallied (reports : List ConnectionReport) (state : ConnectionMetricsState) : Prop where
  inbounds : state.inboundCounts = tally (reports.map (·.inbound))
  routeActions : state.routeActionCounts = tally (reports.map (·.routeAction))
  errorKinds : state.errorKindCounts = tally (reports.filterMap (·.errorKind))

theorem Tallied.record (h : Tallied reports metrics.inner) (recordedAt : SystemTime)
    (hcnt : reports.length < 2 ^ 64 - 1) :
    Tallied (reports ++ [report]) (metrics.record recordedAt report).inner := by
  have hkinds := length_filterMap_le (·.errorKind) reports
  constructor
  · simp only [ConnectionMetrics.record, h.inbounds, map_append]
    exact bump_tally _ _ (by rwa [length_map])
  · simp only [ConnectionMetrics.record, h.routeActions, map_append]
    exact bump_tally _ _ (by rwa [length_map])
  · simp only [ConnectionMetrics.record, h.errorKinds, filterMap_append]
    cases hkind : report.errorKind with
    | none => simp [hkind]
    | some kind =>
      simp only [Option.elim_some, filterMap_cons_some hkind]
      exact bump_tally _ _ (by omega)

theorem record_recent {limit : ℕ} (recordedAt : SystemTime) (hlim : metrics.historyLimit = limit)
    (h : metrics.inner.recentConnections = reports.drop (reports.length - limit)) :
    (metrics.record recordedAt report).inner.recentConnections =
      (reports ++ [report]).drop ((reports ++ [report]).length - limit) := by
  have hdrop : ∀ recent : List ConnectionReport,
      (if limit < recent.length then recent.drop (recent.length - limit) else recent) =
        recent.drop (recent.length - limit) := by
    intro recent
    split
    · rfl
    · rw [Nat.sub_eq_zero_of_le (by omega), drop_zero]
  simp only [ConnectionMetrics.record, hlim, h, hdrop]
  rw [← drop_append_of_le_length (Nat.sub_le _ _), drop_drop]
  simp only [length_drop, length_append, length_singleton]
  congr 1
  omega

theorem recordAll_spec (historyLimit : ℕ) (recorded : List (SystemTime × ConnectionReport))
    (hfits : Fits (recorded.map Prod.snd)) :
    let reports := recorded.map Prod.snd
    let metrics := ConnectionMetrics.recordAll historyLimit recorded
    metrics.historyLimit = max historyLimit 1 ∧ Consistent reports metrics.inner ∧
      Tallied reports metrics.inner ∧ metrics.inner.recentConnections =
        reports.drop (reports.length - max historyLimit 1) := by
  induction recorded using List.reverseRecOn with
  | nil => exact ⟨rfl, by constructor <;> rfl, by constructor <;> rfl, by simp; rfl⟩
  | append_singleton recorded ev ih =>
    rw [map_append] at hfits
    obtain ⟨hlim, hconsistent, htallied, hrecent⟩ := ih hfits.init
    have hcnt := hfits.count
    rw [length_append, map_singleton, length_singleton] at hcnt
    simp only [ConnectionMetrics.recordAll, foldl_append, foldl_cons, foldl_nil,
      map_append]
    exact ⟨hlim, hconsistent.record _ hfits, htallied.record _ (by omega),
      record_recent _ hlim hrecent⟩

/-- The snapshot after any reports says how many there were of each kind, and shows the latest. -/
theorem connection_metrics_consistent (historyLimit : ℕ)
    (recorded : List (SystemTime × ConnectionReport)) (hfits : Fits (recorded.map Prod.snd)) :
    let reports := recorded.map Prod.snd
    let snapshot := (ConnectionMetrics.recordAll historyLimit recorded).snapshot
    Consistent reports snapshot.toConnectionMetricsState ∧
      Tallies snapshot.inboundCounts (reports.map (·.inbound)) ∧
      Tallies snapshot.routeActionCounts (reports.map (·.routeAction)) ∧
      Tallies snapshot.errorKindCounts (reports.filterMap (·.errorKind)) ∧
      snapshot.recentConnections = reports.reverse.take (max historyLimit 1) := by
  obtain ⟨-, hconsistent, htallied, hrecent⟩ := recordAll_spec historyLimit recorded hfits
  have hsorted : ∀ {κ : Type} [DecidableEq κ] (text : κ → String) {entries : List (κ × ℕ)}
      {keys : List κ}, entries = tally keys → Tallies (sortByKey text entries) keys :=
    fun text _ _ h => tallies (h ▸ List.mergeSort_perm _ _)
  refine ⟨{ hconsistent with }, hsorted _ htallied.inbounds, hsorted _ htallied.routeActions,
    hsorted _ htallied.errorKinds, ?_⟩
  rw [List.take_reverse, ← hrecent]
  rfl

/-- Two connections, of which the latest is kept. -/
theorem connection_metrics_consistent_two :
    let report := ConnectionReport.new "socks5" ⟨"a", 1⟩ .direct
    let recorded := [(⟨1⟩, report.recordError .relayIo), (⟨2⟩, report)]
    (ConnectionMetrics.recordAll 0 recorded).snapshot.recentConnections = [report] := by
  intro report recorded
  have hfits : Fits (recorded.map Prod.snd) := by
    constructor <;> decide
  exact (connection_metrics_consistent 0 recorded hfits).2.2.2.2

end KeliNative.Client
