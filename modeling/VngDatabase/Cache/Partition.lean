import VngDatabase.Bytes
import VngDatabase.Json
import VngDatabase.OrderedMap

/-!
# The cache and its snapshot

`crates/voltnuerongrid-opt/src/lib.rs` keeps values under keys, in partitions. An entry is valid for
some time, and a full partition makes room for a new one. Times are milliseconds in 64 bits.
-/

namespace VngDatabase.Cache

open List Option OrderedMap

abbrev Ms := Fin (2 ^ 64)

/-! ### Entries -/

structure CacheEntry where
  value : Json
  createdAtMs : Ms
  lastAccessedMs : Ms
  ttlMs : Option Ms

namespace CacheEntry

variable (e : CacheEntry)

def isExpired (nowMs : Ms) : Bool :=
  match e.ttlMs with
  | some ttl => ttl.val < nowMs.val - e.createdAtMs.val
  | none => false

def touch (nowMs : Ms) : CacheEntry := { e with lastAccessedMs := nowMs }

def expiresAt : Option Ms := e.ttlMs.map fun ttl => e.createdAtMs + ttl

def reload (nowMs : Ms) (e : CacheEntry) : Option CacheEntry :=
  match e.expiresAt with
  | some expires => if expires ≤ nowMs then none else some ⟨e.value, nowMs, nowMs, expires - nowMs⟩
  | none => some ⟨e.value, nowMs, nowMs, none⟩

end CacheEntry

structure CacheResiliencePolicy where
  defaultTtlMs : Option Ms
  maxEntriesPerPartition : ℕ

/-! ### Partitions -/

structure CachePartition (policy : CacheResiliencePolicy) where
  entries : OrderedMap String CacheEntry
  ttls : ∀ e ∈ entries.entries, e.2.ttlMs = none → policy.defaultTtlMs = none

variable {policy : CacheResiliencePolicy} {nowMs : Ms} {l : List (String × CacheEntry)}

namespace CachePartition

variable (p : CachePartition policy) (key : String) (nowMs : Ms)

def new : CachePartition policy := ⟨∅, nofun⟩

def putEntry (e : CacheEntry)
    (h : e.ttlMs = none → policy.defaultTtlMs = none) : CachePartition policy where
  entries := p.entries.put key e
  ttls := by
    intro e' he'
    rcases mem_put.mp he' with rfl | ⟨hmem, -⟩
    · exact h
    · exact p.ttls e' hmem

def remove : CachePartition policy :=
  ⟨p.entries.delete key, fun e he => p.ttls e (mem_delete.mp he).1⟩

theorem ttl_of_get? {p : CachePartition policy} {key : String} {e : CacheEntry}
    (h : p.entries.get? key = some e) (hnone : e.ttlMs = none) : policy.defaultTtlMs = none :=
  p.ttls (key, e) (get?_eq_some_iff.mp h) hnone

def get : CachePartition policy × Option Json :=
  match h : p.entries.get? key with
  | none => (p, none)
  | some e =>
    if e.isExpired nowMs then (p.remove key, none)
    else (p.putEntry key (e.touch nowMs) (ttl_of_get? (e := e) h), some e.value)

def evictExpired : CachePartition policy where
  entries := ⟨p.entries.entries.filter fun e => !e.2.isExpired nowMs, p.entries.sorted.filter _⟩
  ttls e he := p.ttls e (List.mem_filter.mp he).1

def evictLruIfFull : CachePartition policy :=
  if p.entries.entries.length < policy.maxEntriesPerPartition then p
  else
    let p := p.evictExpired nowMs
    if p.entries.entries.length < policy.maxEntriesPerPartition then p
    else match p.entries.entries.argmin fun e => e.2.lastAccessedMs with
      | some (key, _) => p.remove key
      | none => p

def set (value : Json) (ttlMs : Option Ms) (nowMs : Ms) : CachePartition policy :=
  (p.evictLruIfFull nowMs).putEntry key ⟨value, nowMs, nowMs, ttlMs.or policy.defaultTtlMs⟩
    fun h => (Option.or_eq_none_iff.mp h).2

def invalidate : CachePartition policy × Bool :=
  (p.remove key, (p.entries.get? key).isSome)

def invalidateAll : CachePartition policy × ℕ :=
  (new, p.entries.entries.length)

def expire (ttlMs : Ms) (nowMs : Ms) : CachePartition policy × Bool :=
  match p.entries.get? key with
  | none => (p.remove key, false)
  | some e =>
    if e.isExpired nowMs then (p.remove key, false)
    else (p.putEntry key { e with ttlMs := some ttlMs, createdAtMs := nowMs } nofun, true)

def snapshotEntries : List (String × Json × Option Ms) :=
  p.entries.entries.map fun e => (e.1, e.2.value, e.2.expiresAt)

end CachePartition

/-! ### All partitions -/

inductive CacheError
  | partitionNotFound (partitionId : String)

def CacheError.toString : CacheError → String
  | .partitionNotFound partitionId => "Partition '" ++ partitionId ++ "' not found"

structure DistributedCacheManager (policy : CacheResiliencePolicy) where
  partitions : OrderedMap String (CachePartition policy)

def entryJson (e : String × Json × Option Ms) : String × Json :=
  (e.1, .object (match e.2.2 with
    | some expires => [("expires_at_ms", .number (.posInt expires)), ("value", e.2.1)]
    | none => [("value", e.2.1)]))

namespace DistributedCacheManager

variable (m : DistributedCacheManager policy) (partitionId : String) (key : String)

def new : DistributedCacheManager policy := ⟨∅⟩

def ensurePartition : CachePartition policy :=
  (m.partitions.get? partitionId).getD .new

def putPartition (p : CachePartition policy) : DistributedCacheManager policy :=
  ⟨m.partitions.put partitionId p⟩

def onPartition {α : Type} (f : CachePartition policy → CachePartition policy × α) :
    DistributedCacheManager policy × Except CacheError α :=
  match m.partitions.get? partitionId with
  | some p => (m.putPartition partitionId (f p).1, .ok (f p).2)
  | none => (m, .error (.partitionNotFound partitionId))

def get (nowMs : Ms) :
    DistributedCacheManager policy × Except CacheError (Option Json) :=
  m.onPartition partitionId fun p => p.get key nowMs

def set (value : Json)
    (ttlMs : Option Ms) (nowMs : Ms) : DistributedCacheManager policy :=
  m.putPartition partitionId ((m.ensurePartition partitionId).set key value ttlMs nowMs)

def invalidate : DistributedCacheManager policy × Except CacheError Bool :=
  m.onPartition partitionId fun p => p.invalidate key

def invalidatePartition : DistributedCacheManager policy × Except CacheError ℕ :=
  m.onPartition partitionId CachePartition.invalidateAll

def expireKey (ttlMs : Ms)
    (nowMs : Ms) : DistributedCacheManager policy × Except CacheError Bool :=
  m.onPartition partitionId fun p => p.expire key ttlMs nowMs

def snapshotToJson : Json :=
  .object (m.partitions.entries.map fun e =>
    (e.1, .object (e.2.snapshotEntries.map entryJson)))

def restoreEntry (nowMs : Ms) (m : DistributedCacheManager policy)
    (entry : String × Json) : DistributedCacheManager policy :=
  let value := (entry.2.get? "value").getD .null
  match (entry.2.get? "expires_at_ms").bind Json.asU64 with
  | some expires =>
    if expires ≤ nowMs then m else m.set partitionId entry.1 value (some (expires - nowMs)) nowMs
  | none => m.set partitionId entry.1 value none nowMs

def restorePartition (nowMs : Ms) (m : DistributedCacheManager policy) (entry : String × Json) :
    DistributedCacheManager policy :=
  match entry.2 with
  | .object entries => entries.foldl (restoreEntry entry.1 nowMs) m
  | _ => m

def restoreFromJson (data : Json) (nowMs : Ms) : DistributedCacheManager policy :=
  match data with
  | .object partitions => partitions.foldl (restorePartition nowMs) m
  | _ => m

end DistributedCacheManager

/-! ### What is restored -/

def reloadEntries (nowMs : Ms) (l : List (String × CacheEntry)) : List (String × CacheEntry) :=
  l.filterMap fun e => (e.2.reload nowMs).map fun e' => (e.1, e')

def CachePartition.reload (nowMs : Ms) (p : CachePartition policy) :
    Option (OrderedMap String CacheEntry) :=
  if reloadEntries nowMs p.entries.entries = [] then none
  else some (putAll (reloadEntries nowMs p.entries.entries))

theorem sorted_reloadEntries (h : l.Pairwise fun e e' => e.1 < e'.1) :
    (reloadEntries nowMs l).Pairwise fun e e' => e.1 < e'.1 := by
  refine pairwise_filterMap.mpr (h.imp fun {e e'} hlt r hr r' hr' => ?_)
  obtain ⟨_, -, rfl⟩ := map_eq_some_iff.mp hr
  obtain ⟨_, -, rfl⟩ := map_eq_some_iff.mp hr'
  exact hlt

theorem CacheEntry.eq_of_reload {e e' : CacheEntry} (h : e.reload nowMs = some e')
    (httl : e.ttlMs = none → policy.defaultTtlMs = none) :
    ⟨e'.value, nowMs, nowMs, e'.ttlMs.or policy.defaultTtlMs⟩ = e' := by
  rw [reload, expiresAt] at h
  cases hcase : e.ttlMs with
  | none =>
    rw [hcase] at h
    obtain rfl := some.inj h
    rw [httl hcase]
    rfl
  | some ttl =>
    rw [hcase, map_some] at h
    dsimp only at h
    split_ifs at h
    obtain rfl := some.inj h
    rfl

namespace DistributedCacheManager

variable (m : DistributedCacheManager policy) (pid : String)

def entriesOf (partitionId : String) : Option (OrderedMap String CacheEntry) :=
  (m.partitions.get? partitionId).map CachePartition.entries

theorem entriesOf_putPartition (pid' : String) (p : CachePartition policy) :
    (m.putPartition pid p).entriesOf pid' =
      if pid' = pid then some p.entries else m.entriesOf pid' := by
  rw [entriesOf, putPartition, get?_put]
  split_ifs <;> rfl

theorem entries_ensurePartition : (m.ensurePartition pid).entries = (m.entriesOf pid).getD ∅ := by
  rw [ensurePartition, entriesOf]
  cases m.partitions.get? pid <;> rfl

theorem entriesOf_set {m : DistributedCacheManager policy} {pid : String}
    (hroom : ((m.entriesOf pid).getD ∅).entries.length < policy.maxEntriesPerPartition)
    (pid' key : String) (value : Json) (ttlMs : Option Ms) (now : Ms) :
    (m.set pid key value ttlMs now).entriesOf pid' =
      if pid' = pid then
        some (((m.entriesOf pid).getD ∅).put key ⟨value, now, now, ttlMs.or policy.defaultTtlMs⟩)
      else m.entriesOf pid' := by
  rw [← entries_ensurePartition] at hroom ⊢
  rw [set, entriesOf_putPartition, CachePartition.set, CachePartition.evictLruIfFull, if_pos hroom]
  rfl

theorem restoreEntry_entryJson (now : Ms) (m : DistributedCacheManager policy)
    (key : String) (e : CacheEntry) :
    restoreEntry pid now m (entryJson (key, e.value, e.expiresAt)) =
      match e.reload now with
      | some e' => m.set pid key e'.value e'.ttlMs now
      | none => m := by
  rw [restoreEntry, entryJson, CacheEntry.reload]
  cases e.expiresAt with
  | none => rfl
  | some expires =>
    change (if expires ≤ now then m else _) = _
    dsimp only
    split_ifs <;> rfl

theorem entriesOf_foldl_restoreEntry {m : DistributedCacheManager policy} {pid : String}
    (hpid : m.entriesOf pid = none)
    (hsrt : l.Pairwise fun e e' => e.1 < e'.1)
    (httl : ∀ e ∈ l, e.2.ttlMs = none → policy.defaultTtlMs = none)
    (hroom : l.length ≤ policy.maxEntriesPerPartition) (pid' : String) :
    ((l.map fun e => entryJson (e.1, e.2.value, e.2.expiresAt)).foldl
        (restoreEntry pid nowMs) m).entriesOf pid' =
      if pid' = pid then
        if reloadEntries nowMs l = [] then none
        else some (putAll (reloadEntries nowMs l))
      else m.entriesOf pid' := by
  -- the entries are taken from the end, since each is put to those before it
  induction l using reverseRecOn generalizing pid' with
  | nil =>
    rw [if_pos (show reloadEntries nowMs [] = [] from rfl)]
    split_ifs with h
    · rw [h]
      exact hpid
    · rfl
  | append_singleton l e ih =>
    rw [length_append, length_singleton] at hroom
    have hsrt' := (pairwise_append.mp hsrt).1
    have ih := ih hsrt' (fun e' he' => httl e' (mem_append_left _ he')) (by omega)
    rw [map_append, map_singleton, foldl_append, foldl_cons, foldl_nil, restoreEntry_entryJson]
    have hents : reloadEntries nowMs (l ++ [e]) = reloadEntries nowMs l ++
        ((e.2.reload nowMs).map fun e' => (e.1, e')).toList := by
      rw [reloadEntries, filterMap_append, ← reloadEntries]
      cases hrel : e.2.reload nowMs <;> simp [hrel]
    cases hrel : e.2.reload nowMs with
    | none =>
      rw [hents, hrel, map_none, toList_none, append_nil]
      exact ih pid'
    | some e' =>
      have hold := ih pid
      rw [if_pos rfl] at hold
      have hgetD : ((((l.map fun e => entryJson (e.1, e.2.value, e.2.expiresAt)).foldl
          (restoreEntry pid nowMs) m).entriesOf pid).getD ∅) =
            putAll (reloadEntries nowMs l) := by
        rw [hold]
        split_ifs with hnil
        · rw [hnil]
          rfl
        · rfl
      have hlen : (putAll (reloadEntries nowMs l)).entries.length <
          policy.maxEntriesPerPartition := by
        rw [entries_putAll (sorted_reloadEntries hsrt')]
        have := length_filterMap_le (fun e : String × CacheEntry =>
          (e.2.reload nowMs).map fun e' => (e.1, e')) l
        rw [reloadEntries]
        omega
      dsimp only
      rw [entriesOf_set (by rw [hgetD]; exact hlen), hgetD, ih pid',
        CacheEntry.eq_of_reload hrel (httl e (by simp)), hents, hrel, map_some,
        toList_some, if_neg (append_ne_nil_of_right_ne_nil _ (by simp)),
        putAll, putAll, foldl_append]
      split_ifs <;> rfl

theorem entriesOf_foldl_restorePartition {l : List (String × CachePartition policy)}
    (hsrt : l.Pairwise fun e e' => e.1 < e'.1)
    (hroom : ∀ e ∈ l, e.2.entries.entries.length ≤ policy.maxEntriesPerPartition) (pid : String) :
    ((l.map fun e => (e.1, Json.object (e.2.snapshotEntries.map entryJson))).foldl
        (restorePartition nowMs) (new : DistributedCacheManager policy)).entriesOf pid =
      ((l.find? fun e => e.1 = pid).map Prod.snd).bind (CachePartition.reload nowMs) := by
  induction l using reverseRecOn generalizing pid with
  | nil => rfl
  | append_singleton l e ih =>
    obtain ⟨hsrt', -, hlt⟩ := pairwise_append.mp hsrt
    have ih := ih hsrt' fun e' he' => hroom e' (mem_append_left _ he')
    have habs : (l.find? fun e' => e'.1 = e.1) = none :=
      find?_eq_none.mpr fun e' he' heq =>
        (hlt e' he' e (mem_singleton_self e)).ne (of_decide_eq_true heq)
    have hnone := ih e.1
    rw [habs, map_none, bind_none] at hnone
    rw [map_append, map_singleton, foldl_append, foldl_cons, foldl_nil,
      restorePartition, CachePartition.snapshotEntries, List.map_map]
    refine (entriesOf_foldl_restoreEntry hnone e.2.entries.sorted e.2.ttls
      (hroom e (by simp)) pid).trans ?_
    rw [find?_append, ih pid]
    split_ifs with hpid hnil
    · rw [hpid, habs, none_or, find?_cons_of_pos (by simp), map_some,
        bind_some, CachePartition.reload, if_pos hnil]
    · rw [hpid, habs, none_or, find?_cons_of_pos (by simp), map_some,
        bind_some, CachePartition.reload, if_neg hnil]
    · rw [find?_cons_of_neg (by simpa using Ne.symm hpid), find?_nil, or_none]

theorem entriesOf_restoreFromJson (now : Ms) (hroom : ∀ e ∈ m.partitions.entries,
      e.2.entries.entries.length ≤ policy.maxEntriesPerPartition) (pid : String) :
    (new.restoreFromJson m.snapshotToJson now : DistributedCacheManager policy).entriesOf pid =
      (m.partitions.get? pid).bind (CachePartition.reload now) :=
  entriesOf_foldl_restorePartition m.partitions.sorted hroom pid

end DistributedCacheManager

end VngDatabase.Cache
